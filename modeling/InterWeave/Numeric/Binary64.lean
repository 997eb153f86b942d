import Mathlib.Algebra.Order.Field.Power
import Mathlib.Data.Int.Log
import Mathlib.Data.Rat.Floor
import Mathlib.Tactic.Linarith
import Mathlib.Tactic.Positivity

/-! # Rounding to doubles

A rational number rounds to the nearest number of 53 binary digits, of which the last has a place
of at least `2 ^ -1074`; a tie rounds to an even last digit. Whole numbers below `2 ^ 53` are kept.
-/

namespace Binary64

/-- The nearest whole number, the even one of two. -/
def roundHalfEven (value : ℚ) : ℤ :=
  if 2 * (value - ⌊value⌋) < 1 ∨ (2 * (value - ⌊value⌋) = 1 ∧ ⌊value⌋ % 2 = 0) then ⌊value⌋
  else ⌊value⌋ + 1

/-- The place of the last digit of a number. -/
def lastPlace (value : ℚ) : ℤ := max (Int.log 2 |value| - 52) (-1074)

/-- The nearest double, if its exponent had no upper bound. -/
def nearest (value : ℚ) : ℚ :=
  roundHalfEven (value / 2 ^ lastPlace value) * 2 ^ lastPlace value

theorem roundHalfEven_intCast (whole : ℤ) : roundHalfEven whole = whole := by
  rw [roundHalfEven, Int.floor_intCast, sub_self, mul_zero, if_pos (.inl one_pos)]

/-- Rounding does not pass a whole number. -/
theorem le_roundHalfEven {whole : ℤ} {value : ℚ} (above : (whole : ℚ) ≤ value) :
    whole ≤ roundHalfEven value := by
  have floor : whole ≤ ⌊value⌋ := Int.le_floor.mpr above
  rw [roundHalfEven]
  split
  · exact floor
  · exact floor.trans (Int.le_add_one le_rfl)

/-- Whole numbers below `2 ^ 53` are doubles. -/
theorem nearest_intCast {whole : ℤ} (small : whole.natAbs < 2 ^ 53) : nearest whole = whole := by
  -- the last place is at most that of the units
  have magnitude : |(whole : ℚ)| = (whole.natAbs : ℚ) := by
    rw [Nat.cast_natAbs, Int.cast_abs]
  have log : Int.log 2 |(whole : ℚ)| = Nat.log 2 whole.natAbs := by
    rw [magnitude, Int.log_natCast]
  have below : Nat.log 2 whole.natAbs < 53 := Nat.log_lt_of_lt_pow' (by decide) small
  obtain ⟨places, place⟩ : ∃ places : ℕ, lastPlace (whole : ℚ) = -places := by
    refine ⟨52 - Nat.log 2 whole.natAbs, ?_⟩
    rw [lastPlace, log]
    omega
  have shifted : (whole : ℚ) / 2 ^ (-(places : ℤ)) = ((whole * 2 ^ places : ℤ) : ℚ) := by
    rw [zpow_neg, zpow_natCast, div_inv_eq_mul]
    push_cast
    rfl
  rw [nearest, place, shifted, roundHalfEven_intCast, ← shifted]
  exact div_mul_cancel₀ _ (by positivity)

/-- From `2 ^ 53` on no double is below `2 ^ 53`. -/
theorem le_nearest {value : ℚ} (large : 2 ^ 53 ≤ value) : 2 ^ 53 ≤ nearest value := by
  have positive : 0 < value := lt_of_lt_of_le (by positivity) large
  have log : (53 : ℤ) ≤ Int.log 2 |value| := by
    rw [abs_of_pos positive]
    refine (Int.zpow_le_iff_le_log (by decide) positive).mp ?_
    exact_mod_cast large
  have place : lastPlace value = Int.log 2 |value| - 52 := max_eq_left (by omega)
  have digits : ((2 ^ 52 : ℤ) : ℚ) ≤ value / 2 ^ lastPlace value := by
    rw [le_div_iff₀ (by positivity), place]
    have leading := Int.zpow_log_le_self (b := 2) (by decide) positive
    rw [abs_of_pos positive]
    refine le_trans (le_of_eq ?_) leading
    have split : Int.log 2 value = 52 + (Int.log 2 value - 52) := by omega
    rw [split, Nat.cast_ofNat, zpow_add₀ two_ne_zero]
    norm_num
  have rounded : ((2 ^ 52 : ℤ) : ℚ) ≤ roundHalfEven (value / 2 ^ lastPlace value) :=
    Int.cast_le.mpr (le_roundHalfEven digits)
  have least : (2 : ℚ) ^ (1 : ℤ) ≤ 2 ^ lastPlace value :=
    zpow_le_zpow_right₀ (by decide) (by omega)
  calc (2 : ℚ) ^ 53 = ((2 ^ 52 : ℤ) : ℚ) * 2 ^ (1 : ℤ) := by norm_num
    _ ≤ roundHalfEven (value / 2 ^ lastPlace value) * 2 ^ lastPlace value :=
        mul_le_mul rounded least (by positivity) (le_trans (by positivity) rounded)

end Binary64
