import InterWeave.Core.JsString
import InterWeave.Text.Readings

/-! # Texts and their UTF-8 bytes

A text is a string whose surrogates come in pairs and that has no NUL. The encoder
replaces a lone surrogate, so strings in general cannot be read back from their bytes; texts
can, and also behind a NUL that follows an arbitrary string.
-/

namespace InterWeave
namespace JsString

/-- A Unicode scalar value other than NUL. -/
structure IsScalar (point : Nat) : Prop where
  positive : 0 < point
  below : point < 0x110000
  notSurrogate : point < 0xD800 ∨ 0xE000 ≤ point

/-- The UTF-16 code units of a code point. -/
def units (point : Nat) : JsString :=
  if point < 0x10000 then [point.toUInt16]
  else [(0xD800 + (point - 0x10000) / 0x400).toUInt16,
    (0xDC00 + (point - 0x10000) % 0x400).toUInt16]

def IsText (value : JsString) : Prop :=
  ∃ scalars : List Nat, (∀ scalar ∈ scalars, IsScalar scalar) ∧ value = scalars.flatMap units

theorem IsText.append {first second : JsString} (start : first.IsText) (more : second.IsText) :
    IsText (first ++ second) := by
  obtain ⟨scalars, valid, rfl⟩ := start
  obtain ⟨others, further, rfl⟩ := more
  refine ⟨scalars ++ others, fun scalar member => ?_, List.flatMap_append.symm⟩
  exact (List.mem_append.mp member).elim (valid scalar) (further scalar)

theorem IsText.nil : IsText [] := ⟨[], fun _ member => (List.not_mem_nil member).elim, rfl⟩

/-- Units between 1 and 127. The check computes, where the bounded quantifier would range over
all units. -/
theorem ascii_of_all {value : JsString}
    (ascii : (value.all fun unit => 0 < unit && unit < 0x80) = true) :
    ∀ unit ∈ value, 0 < unit ∧ unit < 0x80 := by
  intro unit member
  have bounds := List.all_eq_true.mp ascii unit member
  rw [Bool.and_eq_true, decide_eq_true_eq, decide_eq_true_eq] at bounds
  exact bounds

/-- Units between 1 and 127 are texts. -/
theorem isText_of_ascii {value : JsString} (ascii : ∀ unit ∈ value, 0 < unit ∧ unit < 0x80) :
    value.IsText := by
  induction value with
  | nil => exact .nil
  | cons unit rest ih =>
      obtain ⟨⟨positive, below⟩, others⟩ := List.forall_mem_cons.mp ascii
      have bound : unit.toNat < 0x80 := below
      have one : IsText [unit] := by
        refine ⟨[unit.toNat], ?_, ?_⟩
        · rw [List.forall_mem_singleton]
          exact ⟨positive, by omega, .inl (by omega)⟩
        · have small : unit.toNat < 0x10000 := by omega
          simp [units, small]
      exact one.append (ih others)

/-! ## UTF-8 -/

theorem utf8_unmistakable {point : Nat} (below : point < 0x110000) :
    Text.Unmistakable (Text.codes (· < 0x110000) utf8) (fun _ => True) point (utf8 point) := by
  rintro other _ rest remainder ⟨small, rfl⟩ _ _ same
  have byte : ∀ value : Nat, value.toUInt8.toNat = value % 256 := fun value => by simp
  -- the first byte tells how many there are
  unfold utf8 at same
  split_ifs at same
  all_goals simp only [List.cons_append, List.nil_append, List.cons.injEq, ← UInt8.toNat_inj, byte]
    at same
  all_goals first
    | exact ⟨by omega, by tauto⟩
    | exfalso; omega

theorem zero_not_mem_utf8 {point : Nat} (positive : 0 < point) (below : point < 0x110000) :
    0 ∉ utf8 point := by
  have byte : ∀ value : Nat, value.toUInt8.toNat = value % 256 := fun value => by simp
  have zero : (0 : UInt8).toNat = 0 := rfl
  unfold utf8
  split_ifs
  all_goals
    simp only [List.mem_cons, List.not_mem_nil, or_false, ← UInt8.toNat_inj, byte, zero]
    omega

theorem isHighSurrogate_iff {unit : UInt16} :
    isHighSurrogate unit = true ↔ 0xD800 ≤ unit.toNat ∧ unit.toNat < 0xDC00 := by
  rw [isHighSurrogate, Bool.and_eq_true, decide_eq_true_eq, decide_eq_true_eq]
  exact Iff.rfl

theorem isLowSurrogate_iff {unit : UInt16} :
    isLowSurrogate unit = true ↔ 0xDC00 ≤ unit.toNat ∧ unit.toNat < 0xE000 := by
  rw [isLowSurrogate, Bool.and_eq_true, decide_eq_true_eq, decide_eq_true_eq]
  exact Iff.rfl

theorem toNat_unit {value : Nat} (small : value < 0x10000) : value.toUInt16.toNat = value := by
  simp [Nat.mod_eq_of_lt small]

/-- A unit that is no surrogate is encoded on its own. -/
theorem encode_cons {unit : UInt16} (high : ¬ isHighSurrogate unit = true)
    (low : ¬ isLowSurrogate unit = true) (rest : JsString) :
    encode (unit :: rest) = utf8 unit.toNat ++ encode rest := by
  cases rest with
  | nil =>
      have lone : ¬ (isHighSurrogate unit || isLowSurrogate unit) = true := by
        simp only [high, low, Bool.or_self, Bool.false_eq_true, not_false_eq_true]
      rw [encode, encode, if_neg lone, List.append_nil]
  | cons next rest => rw [encode, if_neg high, if_neg low]

theorem encode_units {scalar : Nat} (valid : IsScalar scalar) (rest : JsString) :
    encode (units scalar ++ rest) = utf8 scalar ++ encode rest := by
  obtain ⟨_, below, notSurrogate⟩ := valid
  unfold units
  split_ifs with single
  · rw [List.singleton_append, encode_cons, toNat_unit single]
    · rw [isHighSurrogate_iff, toNat_unit single]
      omega
    · rw [isLowSurrogate_iff, toNat_unit single]
      omega
  · have high : isHighSurrogate (0xD800 + (scalar - 0x10000) / 0x400).toUInt16 = true := by
      rw [isHighSurrogate_iff, toNat_unit (by omega)]
      omega
    have low : isLowSurrogate (0xDC00 + (scalar - 0x10000) % 0x400).toUInt16 = true := by
      rw [isLowSurrogate_iff, toNat_unit (by omega)]
      omega
    have same : 0x10000 + (0xD800 + (scalar - 0x10000) / 0x400 - 0xD800) * 0x400 +
        (0xDC00 + (scalar - 0x10000) % 0x400 - 0xDC00) = scalar := by
      omega
    rw [List.cons_append, List.singleton_append, encode, if_pos high, if_pos low,
      toNat_unit (by omega), toNat_unit (by omega), same]

theorem encode_flatMap_units {scalars : List Nat} (valid : ∀ scalar ∈ scalars, IsScalar scalar) :
    encode (scalars.flatMap units) = scalars.flatMap utf8 := by
  induction scalars with
  | nil => rfl
  | cons scalar scalars ih =>
      obtain ⟨first, others⟩ := List.forall_mem_cons.mp valid
      rw [List.flatMap_cons, encode_units first, ih others, List.flatMap_cons]

/-- Texts can be read back from their bytes. -/
theorem IsText.eq_of_encode {first second : JsString} (text : first.IsText) (other : second.IsText)
    (same : first.encode = second.encode) : first = second := by
  obtain ⟨scalars, valid, rfl⟩ := text
  obtain ⟨others, further, rfl⟩ := other
  rw [encode_flatMap_units valid, encode_flatMap_units further] at same
  have bounded : ∀ {scalars : List Nat}, (∀ scalar ∈ scalars, IsScalar scalar) →
      ∀ scalar ∈ scalars, scalar < 0x110000 :=
    fun valid scalar member => (valid scalar member).below
  have nonempty : ∀ (scalar : Nat) (more : List UInt8), scalar < 0x110000 →
      [] ≠ utf8 scalar ++ more := by
    intro scalar more _ empty
    unfold utf8 at empty
    split_ifs at empty <;> cases empty
  obtain ⟨rfl, _⟩ := Text.eq_of_flatMap (fun _ below => utf8_unmistakable below) (bounded valid)
    (bounded further) nonempty nonempty (congrArg (· ++ []) same)
  rfl

/-- An arbitrary string and an ASCII unit before another string. -/
theorem encode_separated {separator : UInt16} (ascii : separator.toNat < 0x80)
    (value rest : JsString) : encode (value ++ separator :: rest) =
      encode value ++ separator.toNat.toUInt8 :: encode rest := by
  have notHigh : ¬ isHighSurrogate separator = true := by
    rw [isHighSurrogate_iff]
    omega
  have notLow : ¬ isLowSurrogate separator = true := by
    rw [isLowSurrogate_iff]
    omega
  have single : ∀ rest : JsString,
      encode (separator :: rest) = separator.toNat.toUInt8 :: encode rest := fun rest => by
    rw [encode_cons notHigh notLow, utf8, if_pos ascii]
    rfl
  fun_induction encode value with
  | case1 => exact single rest
  | case2 unit lone =>
      rw [List.singleton_append, encode]
      by_cases high : isHighSurrogate unit = true
      · rw [if_pos high, if_neg notLow, single]
      · have low : isLowSurrogate unit = true := by
          simpa only [high, Bool.false_or] using lone
        rw [if_neg high, if_pos low, single]
  | case3 unit neither =>
      rw [Bool.or_eq_true, not_or] at neither
      rw [List.singleton_append, encode_cons neither.1 neither.2, single]
  | case4 unit next more high low ih =>
      rw [List.cons_append, List.cons_append, encode, if_pos high, if_pos low, ih, List.append_assoc]
  | case5 unit next more high lone ih =>
      rw [List.cons_append, List.cons_append, encode, if_pos high, if_neg lone]
      rw [List.cons_append] at ih
      rw [ih, List.append_assoc]
  | case6 unit next more notHigh low ih =>
      rw [List.cons_append, List.cons_append, encode, if_neg notHigh, if_pos low]
      rw [List.cons_append] at ih
      rw [ih, List.append_assoc]
  | case7 unit next more notHigh notLow ih =>
      rw [List.cons_append, encode_cons notHigh notLow, ih, List.append_assoc]

/-- An arbitrary string and a NUL before another string. -/
theorem encode_nul (value rest : JsString) :
    encode (value ++ 0 :: rest) = encode value ++ 0 :: encode rest :=
  encode_separated (by decide) value rest

/-- Units below 128 are their own bytes. -/
theorem encode_ascii {value : JsString} (ascii : ∀ unit ∈ value, unit.toNat < 0x80)
    (rest : JsString) :
    encode (value ++ rest) = (value.map fun unit => unit.toNat.toUInt8) ++ encode rest := by
  induction value with
  | nil => rfl
  | cons unit value ih =>
      obtain ⟨first, others⟩ := List.forall_mem_cons.mp ascii
      have one := encode_separated first [] (value ++ rest)
      rw [List.nil_append] at one
      rw [List.cons_append, one, ih others]
      rfl

/-- Only ASCII units are encoded with a first byte below 128. -/
theorem encode_start (unit : UInt16) (rest : JsString) :
    (unit.toNat < 0x80 ∧ encode (unit :: rest) = unit.toNat.toUInt8 :: encode rest) ∨
      ∃ byte bytes, encode (unit :: rest) = byte :: bytes ∧ 0x80 ≤ byte.toNat := by
  have start : ∀ point, 0x80 ≤ point → point < 0x110000 → ∀ more : List UInt8,
      ∃ byte bytes, utf8 point ++ more = byte :: bytes ∧ 0x80 ≤ byte.toNat := by
    intro point least most more
    have byte : ∀ value : Nat, value.toUInt8.toNat = value % 256 := fun value => by simp
    unfold utf8
    split_ifs
    · omega
    all_goals exact ⟨_, _, rfl, by rw [byte]; omega⟩
  by_cases ascii : unit.toNat < 0x80
  · exact .inl ⟨ascii, encode_separated ascii [] rest⟩
  · right
    have below := unit.toNat_lt
    cases rest with
    | nil =>
        rw [encode]
        split
        · exact start 0xFFFD (by decide) (by decide) []
        · simpa only [List.append_nil] using start unit.toNat (by omega) (by omega) []
    | cons next rest =>
        rw [encode]
        split
        · rename_i high
          rw [isHighSurrogate_iff] at high
          split
          · rename_i low
            rw [isLowSurrogate_iff] at low
            exact start _ (by omega) (by omega) _
          · exact start 0xFFFD (by decide) (by decide) _
        split
        · exact start 0xFFFD (by decide) (by decide) _
        · exact start unit.toNat (by omega) (by omega) _

/-- ASCII texts can be told from all strings by their bytes. -/
theorem eq_of_encode_ascii {value other : JsString} (ascii : ∀ unit ∈ value, unit.toNat < 0x80)
    (same : value.encode = other.encode) : value = other := by
  induction value generalizing other with
  | nil =>
      cases other with
      | nil => rfl
      | cons unit rest =>
          rcases encode_start unit rest with ⟨_, start⟩ | ⟨byte, bytes, start, _⟩
          · exact (List.cons_ne_nil _ _ (start.symm.trans same.symm)).elim
          · exact (List.cons_ne_nil _ _ (start.symm.trans same.symm)).elim
  | cons unit rest ih =>
      obtain ⟨small, others⟩ := List.forall_mem_cons.mp ascii
      have byte : unit.toNat.toUInt8.toNat = unit.toNat := Nat.mod_eq_of_lt (by omega)
      have own : encode (unit :: rest) = unit.toNat.toUInt8 :: encode rest :=
        encode_separated small [] rest
      rw [own] at same
      cases other with
      | nil => exact (List.cons_ne_nil _ _ same).elim
      | cons another more =>
          rcases encode_start another more with ⟨below, start⟩ | ⟨first, bytes, start, large⟩
          · rw [start, List.cons.injEq, ← UInt8.toNat_inj, byte] at same
            have value : another.toNat.toUInt8.toNat = another.toNat :=
              Nat.mod_eq_of_lt (by omega)
            rw [value, UInt16.toNat_inj] at same
            rw [same.1, ih others same.2]
          · rw [start, List.cons.injEq] at same
            rw [← same.1, byte] at large
            omega

/-- The bytes of a text contain no NUL. -/
theorem IsText.zero_not_mem_encode {value : JsString} (text : value.IsText) : 0 ∉ value.encode := by
  obtain ⟨scalars, valid, rfl⟩ := text
  rw [encode_flatMap_units valid, List.mem_flatMap]
  rintro ⟨scalar, member, zero⟩
  exact zero_not_mem_utf8 (valid scalar member).positive (valid scalar member).below zero

/-- **A text behind a NUL.** Whatever stands before the NUL, the text can be read back. -/
theorem IsText.eq_of_encode_nul {first second : JsString} (text : first.IsText)
    (other : second.IsText) {before after : JsString}
    (same : encode (before ++ 0 :: first) = encode (after ++ 0 :: second)) : first = second := by
  rw [encode_nul, encode_nul] at same
  -- both payloads start behind the last zero byte
  have reversed := congrArg (fun bytes => bytes.reverse.takeWhile (· ≠ 0)) same
  have payload : ∀ {value : JsString}, value.IsText → ∀ front : List UInt8,
      (front ++ 0 :: encode value).reverse.takeWhile (· ≠ 0) = (encode value).reverse := by
    intro value text front
    rw [List.reverse_append, List.reverse_cons, List.append_assoc, List.takeWhile_append_of_pos]
    · simp
    · intro byte member
      have nonzero := fun zero : byte = 0 =>
        text.zero_not_mem_encode (zero ▸ List.mem_reverse.mp member)
      simpa using nonzero
  rw [payload text, payload other] at reversed
  exact text.eq_of_encode other (List.reverse_injective reversed)

end JsString
end InterWeave
