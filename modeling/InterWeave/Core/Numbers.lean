import InterWeave.Core.Idempotency
import Mathlib.Tactic.NormNum

/-! # Texts and comparisons of JavaScript numbers

`<` and `<=` are false as soon as one side is `NaN`, so that neither is the
negation of the other.
-/

namespace InterWeave
namespace JsNumber

/-- `left < right`. -/
def lt : JsNumber → JsNumber → Bool
  | .finite left, .finite right => left < right
  | .finite _, .infinity => true
  | .negativeInfinity, .finite _ => true
  | .negativeInfinity, .infinity => true
  | _, _ => false

/-- `left <= right`. -/
def le : JsNumber → JsNumber → Bool
  | .finite left, .finite right => left ≤ right
  | .finite _, .infinity => true
  | .infinity, .infinity => true
  | .negativeInfinity, .finite _ => true
  | .negativeInfinity, .infinity => true
  | .negativeInfinity, .negativeInfinity => true
  | _, _ => false

def ofNat (value : Nat) : JsNumber := .finite value

/-- `${value}` of a number. -/
def text (platform : Platform) : JsNumber → JsString
  | .finite value => platform.numberText value
  | .nan => js "NaN"
  | .infinity => js "Infinity"
  | .negativeInfinity => js "-Infinity"

/-- `Number.isSafeInteger(value)`. -/
def isSafeInteger : JsNumber → Bool
  | .finite value => value.den = 1 && value.num.natAbs ≤ 2 ^ 53 - 1
  | _ => false

/-- The value of a safe integer. -/
def toInt : JsNumber → Int
  | .finite value => value.num
  | _ => 0

attribute [local simp] lt le ofNat isSafeInteger toInt

/-- A safe integer from one on is a positive natural number. -/
theorem eq_ofNat_of_isSafeInteger {value : JsNumber} (safe : value.isSafeInteger = true)
    (positive : value.lt (.ofNat 1) = false) : ∃ count : Nat, value = .ofNat count ∧ 1 ≤ count := by
  cases value with
  | finite value =>
      simp only [isSafeInteger, Bool.and_eq_true, decide_eq_true_eq] at safe
      simp only [lt, ofNat, decide_eq_false_iff_not, not_lt, Nat.cast_one] at positive
      have whole : (value.num : Rat) = value := by
        rw [Rat.den_eq_one_iff] at safe
        exact safe.1
      have least : (1 : Int) ≤ value.num := by
        rw [← whole] at positive
        exact_mod_cast positive
      refine ⟨value.num.toNat, ?_, by omega⟩
      have same : ((value.num.toNat : Int) : Rat) = value := by
        rw [Int.toNat_of_nonneg (by omega), whole]
      rw [ofNat, ← same]
      norm_cast
  | nan => cases safe
  | infinity => cases safe
  | negativeInfinity => cases safe

@[simp] theorem le_ofNat {left right : Nat} :
    (ofNat left).le (.ofNat right) = decide (left ≤ right) := by
  simp only [le, ofNat, Nat.cast_le]

@[simp] theorem lt_ofNat {left right : Nat} :
    (ofNat left).lt (.ofNat right) = decide (left < right) := by
  simp only [lt, ofNat, Nat.cast_lt]

/-- More reaches whatever less reaches. -/
theorem le_ofNat_mono {value : JsNumber} {fewer more : Nat}
    (reached : value.le (.ofNat fewer) = true) (grows : fewer ≤ more) :
    value.le (.ofNat more) = true := by
  cases value with
  | finite value =>
      simp only [le, ofNat, decide_eq_true_eq] at reached ⊢
      exact reached.trans (Nat.cast_le.mpr grows)
  | nan => cases reached
  | infinity => cases reached
  | negativeInfinity => rfl

/-- A number that some count reaches is reached from a least count on. -/
theorem exists_quorum {value : JsNumber} {count : Nat}
    (reached : value.le (.ofNat count) = true) :
    ∃ quorum : Nat, ∀ other : Nat, value.le (.ofNat other) = true ↔ quorum ≤ other := by
  classical
  have some_ : ∃ quorum : Nat, value.le (.ofNat quorum) = true := ⟨count, reached⟩
  refine ⟨Nat.find some_, fun other => ⟨Nat.find_min' some_, fun above => ?_⟩⟩
  exact le_ofNat_mono (Nat.find_spec some_) above

/-- A count that is not below a number reaches it. -/
theorem le_of_not_lt {value : JsNumber} {count : Nat} (number : value ≠ .nan)
    (below : (ofNat count).lt value = false) : value.le (.ofNat count) = true := by
  cases value with
  | finite value =>
      simp only [lt, le, ofNat, decide_eq_false_iff_not, not_lt, decide_eq_true_eq] at below ⊢
      exact below
  | nan => exact absurd rfl number
  | infinity => cases below
  | negativeInfinity => rfl

/-- A number that a count does not reach is above it. -/
theorem lt_of_not_le {value : JsNumber} {count : Nat} (number : value ≠ .nan)
    (above : value.le (.ofNat count) = false) : (ofNat count).lt value = true := by
  cases value with
  | finite value =>
      simp only [lt, le, ofNat, decide_eq_false_iff_not, not_le, decide_eq_true_eq] at above ⊢
      exact above
  | nan => exact absurd rfl number
  | infinity => rfl
  | negativeInfinity => cases above

theorem not_lt_of_le {value : JsNumber} {count : Nat} (reaches : (ofNat count).le value = true) :
    value.lt (.ofNat count) = false := by
  cases value with
  | finite value =>
      simp only [lt, le, ofNat, decide_eq_true_eq, decide_eq_false_iff_not, not_lt] at reaches ⊢
      exact reaches
  | nan => rfl
  | infinity => rfl
  | negativeInfinity => cases reaches

theorem not_le_zero {value : JsNumber} (positive : value.lt (.ofNat 1) = false) :
    value.le (.ofNat 0) = false := by
  cases value with
  | finite value =>
      simp only [lt, le, ofNat, decide_eq_false_iff_not, not_lt, not_le, Nat.cast_one,
        Nat.cast_zero] at positive ⊢
      exact lt_of_lt_of_le one_pos positive
  | nan => rfl
  | infinity => rfl
  | negativeInfinity => cases positive

example : (JsNumber.nan.lt (.ofNat 1), JsNumber.nan.le (.ofNat 1)) = (false, false) := by decide

end JsNumber
end InterWeave
