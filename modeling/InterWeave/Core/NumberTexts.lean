import InterWeave.Core.Numbers
import InterWeave.Numeric.Binary64
import Mathlib.Data.List.TakeWhile

/-! # Numbers of texts

`Number(value)` takes many texts for one number: white space, a sign, a fraction, an exponent or a
radix are allowed, and the empty text is zero. On texts of digits it is their decimal value, as long
as that is a safe integer.
-/

namespace InterWeave
namespace JsNumber

def isDecimal (unit : UInt16) : Bool := 48 ≤ unit && unit ≤ 57

/-- The double of a value. -/
def ofRat (value : Rat) : JsNumber :=
  if 2 ^ 1024 ≤ Binary64.nearest value then .infinity
  else if Binary64.nearest value ≤ -2 ^ 1024 then .negativeInfinity
  else .finite (Binary64.nearest value)

def negated : JsNumber → JsNumber
  | .finite value => .finite (-value)
  | .nan => .nan
  | .infinity => .negativeInfinity
  | .negativeInfinity => .infinity

/-- The value of a digit, or 36. -/
def digitValue (unit : UInt16) : Nat :=
  if isDecimal unit then unit.toNat - 48
  else if 65 ≤ unit && unit ≤ 90 then unit.toNat - 55
  else if 97 ≤ unit && unit ≤ 122 then unit.toNat - 87
  else 36

/-- The radix of a literal that starts with `0` and a mark. -/
def radixOf (mark : UInt16) : Option Nat :=
  if mark == 120 || mark == 88 then some 16
  else if mark == 111 || mark == 79 then some 8
  else if mark == 98 || mark == 66 then some 2
  else none

def radixLiteral (radix : Nat) (digits : JsString) : JsNumber :=
  if digits.isEmpty || digits.any fun unit => radix ≤ digitValue unit then .nan
  else ofRat (digits.foldl (fun total unit => radix * total + digitValue unit) 0 : Nat)

/-- The value of the digits of an exponent. -/
def exponentDigits (digits : JsString) : Option Int :=
  if JsString.isDigits digits then some (decimalValue digits) else none

/-- What stands behind the digits of a literal: nothing, or an exponent. -/
def exponentPart : JsString → Option Int
  | [] => some 0
  | mark :: rest =>
      if mark == 101 || mark == 69 then
        if rest.head? = some 43 then exponentDigits rest.tail
        else if rest.head? = some 45 then (exponentDigits rest.tail).map (- ·)
        else exponentDigits rest
      else none

/-- The digits behind the point, and the rest. -/
def fractionPart (text : JsString) : JsString × JsString :=
  if text.head? = some 46 then (text.tail.takeWhile isDecimal, text.tail.dropWhile isDecimal)
  else ([], text)

/-- A literal without a sign. -/
def decimalLiteral (text : JsString) : JsNumber :=
  let whole := text.takeWhile isDecimal
  let (fraction, rest) := fractionPart (text.dropWhile isDecimal)
  if text = js "Infinity" then .infinity
  else if whole.isEmpty && fraction.isEmpty then .nan
  else
    match exponentPart rest with
    | some exponent =>
        ofRat (decimalValue (whole ++ fraction) * 10 ^ (exponent - fraction.length))
    | none => .nan

/-- A literal without white space around it. -/
def literal : JsString → JsNumber
  | [] => .finite 0
  | first :: rest =>
      if first == 43 then decimalLiteral rest
      else if first == 45 then (decimalLiteral rest).negated
      else
        match (if first == 48 then rest.head?.bind radixOf else none) with
        | some radix => radixLiteral radix rest.tail
        | none => decimalLiteral (first :: rest)

/-- `Number(value)` of a string. -/
def ofText (value : JsString) : JsNumber := literal (trim value)

/-! ## Texts of digits -/

theorem isDecimal_bounds {unit : UInt16} (decimal : isDecimal unit = true) :
    48 ≤ unit.toNat ∧ unit.toNat ≤ 57 := by
  rw [isDecimal, Bool.and_eq_true, decide_eq_true_eq, decide_eq_true_eq, UInt16.le_iff_toNat_le,
    UInt16.le_iff_toNat_le] at decimal
  exact decimal

theorem not_isWhitespace {unit : UInt16} (decimal : isDecimal unit = true) :
    JsString.isWhitespace unit = false := by
  obtain ⟨least, most⟩ := isDecimal_bounds decimal
  simp only [JsString.isWhitespace, Bool.or_eq_false_iff, Bool.and_eq_false_iff,
    decide_eq_false_iff_not, UInt16.le_iff_toNat_le, beq_eq_false_iff_ne, Ne, ← UInt16.toNat_inj,
    UInt16.reduceToNat]
  omega

/-- Digits have no white space around them. -/
theorem trim_digits {text : JsString} (digits : ∀ unit ∈ text, isDecimal unit = true) :
    trim text = text := by
  have kept : ∀ {text : JsString}, (∀ unit ∈ text, isDecimal unit = true) →
      text.dropWhile JsString.isWhitespace = text := by
    intro text digits
    cases text with
    | nil => rfl
    | cons unit rest =>
        exact List.dropWhile_cons_of_neg (by simp [not_isWhitespace (digits unit (.head _))])
  have backwards : ∀ unit ∈ text.reverse, isDecimal unit = true :=
    fun unit member => digits unit (List.mem_reverse.mp member)
  rw [trim, kept digits, kept backwards, List.reverse_reverse]

theorem ofRat_natCast {count : Nat} (small : count < 2 ^ 53) :
    ofRat (count : Rat) = .ofNat count := by
  have whole : Binary64.nearest (count : Rat) = count := by
    have kept := @Binary64.nearest_intCast (count : ℤ) (by simpa using small)
    exact_mod_cast kept
  have bounded : (count : Rat) < 2 ^ 1024 := by
    have below : (count : Rat) < 2 ^ 53 := by exact_mod_cast small
    exact below.trans (pow_lt_pow_right₀ (by norm_num) (by norm_num))
  have positive : -(2 : Rat) ^ 1024 < count :=
    lt_of_lt_of_le (by norm_num) (Nat.cast_nonneg count)
  rw [ofRat, whole, if_neg (not_le.mpr bounded), if_neg (not_le.mpr positive)]
  rfl

theorem ofRat_ne_nan (value : Rat) : ofRat value ≠ .nan := by
  rw [ofRat]
  split
  · exact JsNumber.noConfusion
  split
  · exact JsNumber.noConfusion
  · exact JsNumber.noConfusion

/-- Two numbers of which none is `NaN` are comparable. -/
theorem not_lt_eq_le {left right : JsNumber} (number : left ≠ .nan) (other : right ≠ .nan) :
    (!right.lt left) = left.le right := by
  cases left with
  | nan => exact (number rfl).elim
  | finite left =>
      cases right with
      | nan => exact (other rfl).elim
      | finite right =>
          simp only [lt, le, ← decide_not, not_lt]
      | infinity => rfl
      | negativeInfinity => rfl
  | infinity =>
      cases right with
      | nan => exact (other rfl).elim
      | _ => rfl
  | negativeInfinity =>
      cases right with
      | nan => exact (other rfl).elim
      | _ => rfl

/-- A large number is no safe integer. -/
theorem ofRat_unsafe {value : Rat} (large : 2 ^ 53 ≤ value) :
    (ofRat value).isSafeInteger = false := by
  have near := Binary64.le_nearest large
  rw [ofRat]
  split
  · rfl
  split
  · rfl
  rw [isSafeInteger, Bool.and_eq_false_iff, decide_eq_false_iff_not, decide_eq_false_iff_not]
  by_cases whole : (Binary64.nearest value).den = 1
  · right
    rw [Rat.den_eq_one_iff] at whole
    rw [← whole] at near
    have bound : (2 : Int) ^ 53 ≤ (Binary64.nearest value).num := by exact_mod_cast near
    omega
  · exact .inl whole

theorem decimalLiteral_digits {text : JsString} (digits : JsString.isDigits text = true) :
    decimalLiteral text = ofRat (decimalValue text) := by
  rw [JsString.isDigits, Bool.and_eq_true, Bool.not_eq_true', List.all_eq_true] at digits
  obtain ⟨some_, decimal⟩ := digits
  have all : ∀ unit ∈ text, isDecimal unit = true := decimal
  have whole : text.takeWhile isDecimal = text := List.takeWhile_eq_self_iff.mpr all
  have nothing : text.dropWhile isDecimal = [] := List.dropWhile_eq_nil_iff.mpr all
  have other : text ≠ js "Infinity" := by
    rintro rfl
    exact absurd (all _ List.mem_cons_self) (by decide)
  simp [decimalLiteral, whole, nothing, fractionPart, exponentPart, other, some_]

/-- **Digits are read as their decimal value**, rounded to a double. -/
theorem ofText_digits {text : JsString} (digits : JsString.isDigits text = true) :
    ofText text = ofRat (decimalValue text) := by
  have plain := decimalLiteral_digits digits
  rw [JsString.isDigits, Bool.and_eq_true, List.all_eq_true] at digits
  have all : ∀ unit ∈ text, isDecimal unit = true := digits.2
  rw [ofText, trim_digits all]
  cases text with
  | nil => cases digits.1
  | cons first rest =>
      obtain ⟨least, most⟩ := isDecimal_bounds (all first (.head _))
      have unsigned : ∀ sign : UInt16, sign.toNat < 48 → (first == sign) = false := by
        intro sign below
        rw [beq_eq_false_iff_ne]
        rintro rfl
        omega
      have decimalOnly : (if first == 48 then rest.head?.bind radixOf else none) = none := by
        split
        · cases rest with
          | nil => rfl
          | cons mark rest =>
              obtain ⟨low, high⟩ := isDecimal_bounds (all mark (.tail _ (.head _)))
              have apart : ∀ letter : UInt16, 57 < letter.toNat → (mark == letter) = false := by
                intro letter above
                rw [beq_eq_false_iff_ne]
                rintro rfl
                omega
              simp [radixOf, apart]
        · rfl
      rw [literal, unsigned 43 (by decide), unsigned 45 (by decide), if_neg Bool.false_ne_true,
        if_neg Bool.false_ne_true, decimalOnly]
      exact plain

end JsNumber
end InterWeave
