import InterWeave.Core.CanonicalText
import InterWeave.Core.IsoDate

/-! # What a request fingerprint says

A fingerprint is a hash of a canonical text. Where the hash has no collision among the
values at hand, values with one fingerprint differ in the order of properties only.
-/

namespace InterWeave

variable {platform : Platform} {numbers : Rat → Prop} {values : JsValue → Prop}

/-- The hash has no collision among the canonical texts of some values. -/
def Platform.CollisionFree (platform : Platform) (values : JsValue → Prop) : Prop :=
  ∀ first second text other, values first → values second →
    canonicalJson platform first = .ok text → canonicalJson platform second = .ok other →
    platform.sha256Hex text.encode = platform.sha256Hex other.encode → text.encode = other.encode

theorem Platform.CollisionFree.mono {further : JsValue → Prop}
    (free : platform.CollisionFree further) (among : ∀ value, values value → further value) :
    platform.CollisionFree values :=
  fun first second text other chosen chooses =>
    free first second text other (among first chosen) (among second chooses)

theorem requestFingerprint_inv {value : JsValue} {hash : JsString}
    (fingerprint : requestFingerprint platform value = .ok hash) :
    ∃ text, canonicalJson platform value = .ok text ∧
      hash = js "sha256:" ++ platform.sha256Hex text.encode := by
  rw [requestFingerprint] at fingerprint
  cases rendered : canonicalJson platform value with
  | error error =>
      rw [rendered] at fingerprint
      cases fingerprint
  | ok text =>
      rw [rendered] at fingerprint
      exact ⟨text, rfl, (Except.ok.inj fingerprint).symm⟩

/-- **Fingerprints tell values apart.** -/
theorem sorted_eq_of_requestFingerprint (formats : platform.Formats numbers)
    (free : platform.CollisionFree values) {first second : JsValue} {hash : JsString}
    (chosen : values first) (chooses : values second) (within : first.Over numbers)
    (further : second.Over numbers) (fingerprint : requestFingerprint platform first = .ok hash)
    (other : requestFingerprint platform second = .ok hash) : first.sorted = second.sorted := by
  obtain ⟨text, rendered, same⟩ := requestFingerprint_inv fingerprint
  obtain ⟨reading, renders, equal⟩ := requestFingerprint_inv other
  have hashes := List.append_cancel_left (same.symm.trans equal)
  have bytes := free first second text reading chosen chooses rendered renders hashes
  have isText := isText_canonicalJson formats first text within rendered
  have isReading := isText_canonicalJson formats second reading further renders
  obtain rfl := isText.eq_of_encode isReading bytes
  exact sorted_eq_of_canonicalJson formats within further rendered renders

/-- A byte is rendered by two digits that tell it. -/
theorem hexDigits_injective {first second : UInt8}
    (high : JsString.hexDigit (first.toNat / 16) = JsString.hexDigit (second.toNat / 16))
    (low : JsString.hexDigit (first.toNat % 16) = JsString.hexDigit (second.toNat % 16)) :
    first = second := by
  have digits : ∀ one other : Fin 16,
      JsString.hexDigit one.val = JsString.hexDigit other.val → one.val = other.val := by
    decide
  have highs := digits ⟨first.toNat / 16, by have := first.toNat_lt; omega⟩
    ⟨second.toNat / 16, by have := second.toNat_lt; omega⟩ high
  have lows := digits ⟨first.toNat % 16, by omega⟩ ⟨second.toNat % 16, by omega⟩ low
  simp only at highs lows
  exact UInt8.toNat_inj.mp (by omega)

/-- Rendering the bytes themselves has no collision. -/
theorem isoPlatform_sha256Hex_injective : Function.Injective isoPlatform.sha256Hex := by
  intro bytes others same
  change List.flatMap _ bytes = List.flatMap _ others at same
  induction bytes generalizing others with
  | nil =>
      cases others with
      | nil => rfl
      | cons byte rest => cases same
  | cons byte rest ih =>
      cases others with
      | nil => cases same
      | cons another more =>
          simp only [List.flatMap_cons, List.cons_append, List.nil_append, List.cons.injEq] at same
          obtain ⟨high, low, same⟩ := same
          rw [hexDigits_injective high low, ih same]

theorem isoPlatform_collisionFree (values : JsValue → Prop) : isoPlatform.CollisionFree values :=
  fun _ _ _ _ _ _ _ _ same => isoPlatform_sha256Hex_injective same

/-! ## Decimal texts -/

theorem utf16_digit {digit : Char} (isDigit : digit.isDigit = true) :
    utf16 digit = [digit.toNat.toUInt16] ∧ 48 ≤ digit.toNat ∧ digit.toNat ≤ 57 := by
  rw [Char.isDigit, Bool.and_eq_true, decide_eq_true_eq, decide_eq_true_eq] at isDigit
  have least : 48 ≤ digit.toNat := UInt32.le_iff_toNat_le.mp isDigit.1
  have most : digit.toNat ≤ 57 := UInt32.le_iff_toNat_le.mp isDigit.2
  exact ⟨if_pos (by omega), least, most⟩

/-- Digits are told by their code units. -/
theorem eq_of_flatMap_utf16 {first second : List Char}
    (digits : ∀ digit ∈ first, digit.isDigit = true)
    (others : ∀ digit ∈ second, digit.isDigit = true)
    (same : first.flatMap utf16 = second.flatMap utf16) : first = second := by
  induction first generalizing second with
  | nil =>
      cases second with
      | nil => rfl
      | cons digit rest =>
          rw [List.flatMap_cons, (utf16_digit (others digit List.mem_cons_self)).1] at same
          cases same
  | cons digit rest ih =>
      obtain ⟨unit, least, most⟩ := utf16_digit (digits digit List.mem_cons_self)
      cases second with
      | nil =>
          rw [List.flatMap_cons, unit] at same
          cases same
      | cons other more =>
          obtain ⟨another, low, high⟩ := utf16_digit (others other List.mem_cons_self)
          rw [List.flatMap_cons, List.flatMap_cons, unit, another, List.singleton_append,
            List.singleton_append, List.cons.injEq] at same
          have value : digit.toNat = other.toNat := by
            have equal := congrArg UInt16.toNat same.1
            rwa [JsString.toNat_unit (by omega), JsString.toNat_unit (by omega)] at equal
          rw [Char.toNat_inj.mp value, ih (fun digit member => digits digit (.tail _ member))
            (fun digit member => others digit (.tail _ member)) same.2]

theorem isDigit_of_mem_decimal {number : Nat} {digit : Char}
    (member : digit ∈ Nat.toDigits 10 number) : digit.isDigit = true :=
  Nat.isDigit_of_mem_toDigits (by decide) (by decide) member

theorem decimal_units {number : Nat} {unit : UInt16}
    (member : unit ∈ (Nat.toDigits 10 number).flatMap utf16) :
    48 ≤ unit.toNat ∧ unit.toNat ≤ 57 := by
  obtain ⟨digit, among, own⟩ := List.mem_flatMap.mp member
  obtain ⟨single, least, most⟩ := utf16_digit (isDigit_of_mem_decimal among)
  rw [single, List.mem_singleton] at own
  rw [own, JsString.toNat_unit (by omega)]
  exact ⟨least, most⟩

theorem decimal_injective {number other : Nat}
    (same : (Nat.toDigits 10 number).flatMap utf16 = (Nat.toDigits 10 other).flatMap utf16) :
    number = other := by
  have digits := eq_of_flatMap_utf16 (fun _ => isDigit_of_mem_decimal)
    (fun _ => isDigit_of_mem_decimal) same
  have value := congrArg (fun digits => Nat.ofDigitChars 10 digits 0) digits
  rwa [Nat.ofDigitChars_ten_toDigits, Nat.ofDigitChars_ten_toDigits] at value

/-- A decimal text has digits, behind a sign where the number is negative. -/
theorem bigintText_units {value : Int} {unit : UInt16} (member : unit ∈ bigintText value) :
    unit = 45 ∨ (48 ≤ unit.toNat ∧ unit.toNat ≤ 57) := by
  cases value with
  | ofNat number => exact .inr (decimal_units member)
  | negSucc number =>
      rcases List.mem_append.mp member with sign | digits
      · have minus : js "-" = [45] := by decide
        rw [minus, List.mem_singleton] at sign
        exact .inl sign
      · exact .inr (decimal_units digits)

theorem bigintText_injective : Function.Injective bigintText := by
  have unsigned : ∀ {number other : Nat},
      (Nat.toDigits 10 number).flatMap utf16 ≠ js "-" ++ (Nat.toDigits 10 other).flatMap utf16 := by
    intro number other same
    have sign : (45 : UInt16) ∈ (Nat.toDigits 10 number).flatMap utf16 := by
      rw [same]
      exact List.mem_append_left _ (by decide)
    have least := (decimal_units sign).1
    simp only [UInt16.reduceToNat, Nat.reduceLeDiff] at least
  intro value other same
  cases value with
  | ofNat number =>
      cases other with
      | ofNat another => rw [decimal_injective same]
      | negSucc another => exact (unsigned same).elim
  | negSucc number =>
      cases other with
      | ofNat another => exact (unsigned same.symm).elim
      | negSucc another =>
          have next := decimal_injective (List.append_cancel_left same)
          rw [Nat.succ.inj next]

/-- The test platform formats natural numbers. -/
theorem isoPlatform_formats : isoPlatform.Formats fun value => ∃ number : Nat, value = number := by
  constructor
  · rintro _ ⟨number, rfl⟩
    change (Nat.toDigits 10 number).flatMap utf16 ≠ [] ∧
      ∀ unit ∈ (Nat.toDigits 10 number).flatMap utf16, isNumeric unit = true
    constructor
    · have nonempty : Nat.toDigits 10 number ≠ [] := Nat.toDigits_ne_nil
      obtain ⟨digit, rest, same⟩ := List.exists_cons_of_ne_nil nonempty
      have first := isDigit_of_mem_decimal (same ▸ List.mem_cons_self)
      rw [same, List.flatMap_cons, (utf16_digit first).1]
      exact List.cons_ne_nil _ _
    · intro unit member
      obtain ⟨least, most⟩ := decimal_units member
      have low : (48 : UInt16) ≤ unit := UInt16.le_iff_toNat_le.mpr least
      have high : unit ≤ 57 := UInt16.le_iff_toNat_le.mpr most
      simp only [isNumeric, low, high, decide_true, Bool.and_self, Bool.true_or]
  · rintro _ _ ⟨number, rfl⟩ ⟨other, rfl⟩ same
    rw [decimal_injective same]

/-! ## Objects -/

theorem JsValue.values_eq_of_names {first second : List (JsString × JsValue)}
    (same : (JsValue.object first).sorted = (JsValue.object second).sorted) (names : List JsString)
    (distinct : names.Nodup) (named : first.map Prod.fst = names)
    (alike : second.map Prod.fst = names) :
    first.map (fun property => property.2.sorted) =
      second.map fun property => property.2.sorted := by
  subst named
  exact values_eq_of_sorted distinct alike.symm same

/-- The value may be a property of an object that renders. -/
def JsValue.Renders (platform : Platform) (value : JsValue) : Prop :=
  value.isUndefined = false ∧ ∃ text, canonicalJson platform value = .ok text

theorem JsValue.renders_string (value : JsString) : (JsValue.string value).Renders platform :=
  ⟨rfl, _, rfl⟩

theorem fingerprint_ok {properties : List (JsString × JsValue)}
    (render : ∀ property ∈ properties, property.2.Renders platform) :
    ∃ hash, requestFingerprint platform (.object properties) = .ok hash := by
  obtain ⟨text, rendered⟩ := canonicalJson_object_ok render
  refine ⟨js "sha256:" ++ platform.sha256Hex text.encode, ?_⟩
  rw [requestFingerprint, rendered]
  rfl

end InterWeave
