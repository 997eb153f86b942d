import InterWeave.Core.Unicode

/-! # Percent-encoded path segments

Both client libraries escape identifiers before they put them into a path, each by the encoder
of its language, and the router unescapes what it captures. The encoders leave different
characters alone; what either writes is read back the same.
-/

namespace InterWeave

/-! ## The encoders -/

/-- The upper-case hexadecimal digit of a value below 16. -/
def upperHexDigit (value : Nat) : UInt16 :=
  if value < 10 then (48 + value).toUInt16 else (55 + value).toUInt16

/-- `%XX` of one byte. -/
def escapeByte (byte : UInt8) : JsString :=
  [0x25, upperHexDigit (byte.toNat / 16), upperHexDigit (byte.toNat % 16)]

def escapeScalar (scalar : Nat) : JsString := (JsString.utf8 scalar).flatMap escapeByte

def isAlphanumericCode (code : Nat) : Bool :=
  (48 ≤ code && code ≤ 57) || (65 ≤ code && code ≤ 90) || (97 ≤ code && code ≤ 122)

/-- The characters `-_.!~*'()`, letters and digits, which `encodeURIComponent` leaves alone. -/
def isUriUnescaped (code : Nat) : Bool :=
  isAlphanumericCode code || code == 45 || code == 95 || code == 46 || code == 33 || code == 126 ||
    code == 42 || code == 39 || code == 40 || code == 41

/-- The code point of a pair of surrogates. -/
def pairScalar (high low : UInt16) : Nat :=
  0x10000 + (high.toNat - 0xD800) * 0x400 + (low.toNat - 0xDC00)

/-- `encodeURIComponent(value)`, which throws where a surrogate has no partner. -/
def encodeURIComponent : JsString → Option JsString
  | [] => some []
  | [unit] =>
      if isUriUnescaped unit.toNat then some [unit]
      else if JsString.isLowSurrogate unit || JsString.isHighSurrogate unit then none
      else some (escapeScalar unit.toNat)
  | unit :: next :: rest =>
      if isUriUnescaped unit.toNat then (unit :: ·) <$> encodeURIComponent (next :: rest)
      else if JsString.isLowSurrogate unit then none
      else if JsString.isHighSurrogate unit then
        if JsString.isLowSurrogate next then
          (escapeScalar (pairScalar unit next) ++ ·) <$> encodeURIComponent rest
        else none
      else (escapeScalar unit.toNat ++ ·) <$> encodeURIComponent (next :: rest)

/-- Letters, digits and `_.-~`, which `urllib.parse.quote` always leaves alone. -/
def isAlwaysSafe (code : Nat) : Bool :=
  isAlphanumericCode code || code == 95 || code == 46 || code == 45 || code == 126

/-- `quote(string, safe)` of a string without surrogates, byte by byte. -/
def quote (safe : List Nat) (string : List Char) : List Char :=
  (string.flatMap fun char => JsString.utf8 char.toNat).flatMap fun byte =>
    if isAlwaysSafe byte.toNat || safe.contains byte.toNat then [Char.ofNat byte.toNat]
    else (escapeByte byte).map fun unit => Char.ofNat unit.toNat

/-! ## The decoder -/

def hexValue (unit : UInt16) : Option Nat :=
  if 48 ≤ unit && unit ≤ 57 then some (unit.toNat - 48)
  else if 65 ≤ unit && unit ≤ 70 then some (unit.toNat - 55)
  else if 97 ≤ unit && unit ≤ 102 then some (unit.toNat - 87)
  else none

/-- What the decoder reads at one place: a unit that stands for itself, or an escaped byte. -/
inductive UriPiece where
  | unit (unit : UInt16)
  | octet (byte : UInt8)

def uriPieces : JsString → Option (List UriPiece)
  | [] => some []
  | unit :: rest =>
      if unit == 0x25 then
        match rest with
        | high :: low :: more => do
            let upper ← hexValue high
            let lower ← hexValue low
            (.octet (upper * 16 + lower).toUInt8 :: ·) <$> uriPieces more
        | _ => none
      else (.unit unit :: ·) <$> uriPieces rest

/-- The code point of which some bytes are the encoding. -/
def scalarOf (candidate : Nat) (bytes : List UInt8) : Option Nat :=
  if candidate < 0x110000 && (candidate < 0xD800 || 0xE000 ≤ candidate) &&
    JsString.utf8 candidate == bytes then some candidate
  else none

/-- How many bytes an encoding has that starts with this one; 0 where none does. -/
def encodingLength (byte : UInt8) : Nat :=
  if byte < 0x80 then 1
  else if byte < 0xC0 then 0
  else if byte < 0xE0 then 2
  else if byte < 0xF0 then 3
  else if byte < 0xF8 then 4
  else 0

def readPieces : List UriPiece → Option JsString
  | [] => some []
  | .unit unit :: rest => (unit :: ·) <$> readPieces rest
  | .octet first :: rest =>
      match encodingLength first, rest with
      | 1, rest => (first.toNat.toUInt16 :: ·) <$> readPieces rest
      | 2, .octet second :: more => do
          let scalar ← scalarOf (first.toNat % 0x20 * 0x40 + second.toNat % 0x40) [first, second]
          (JsString.units scalar ++ ·) <$> readPieces more
      | 3, .octet second :: .octet third :: more => do
          let scalar ← scalarOf (first.toNat % 0x10 * 0x1000 + second.toNat % 0x40 * 0x40 +
            third.toNat % 0x40) [first, second, third]
          (JsString.units scalar ++ ·) <$> readPieces more
      | 4, .octet second :: .octet third :: .octet fourth :: more => do
          let scalar ← scalarOf (first.toNat % 8 * 0x40000 + second.toNat % 0x40 * 0x1000 +
            third.toNat % 0x40 * 0x40 + fourth.toNat % 0x40) [first, second, third, fourth]
          (JsString.units scalar ++ ·) <$> readPieces more
      | _, _ => none

/-- `decodeURIComponent(value)`, which throws where an escape is not one of UTF-8. -/
def decodeURIComponent (value : JsString) : Option JsString :=
  (uriPieces value).bind readPieces

/-! ## What is written is read back -/

/-- A character on its own where it is safe, and the escapes of its bytes elsewhere. -/
def percentEncodeChar (safe : Nat → Bool) (char : Char) : JsString :=
  if safe char.toNat then utf16 char else escapeScalar char.toNat

def percentEncode (safe : Nat → Bool) (text : List Char) : JsString :=
  text.flatMap (percentEncodeChar safe)

theorem hexValue_upperHexDigit {value : Nat} (small : value < 16) :
    hexValue (upperHexDigit value) = some value := by
  have all : ∀ value : Fin 16, hexValue (upperHexDigit value) = some value.val := by decide
  exact all ⟨value, small⟩

/-- A unit that starts no escape stands for itself. -/
theorem uriPieces_unit {unit : UInt16} (apart : ¬ (unit == 0x25) = true) (rest : JsString) :
    uriPieces (unit :: rest) = (.unit unit :: ·) <$> uriPieces rest := by
  rcases rest with _ | ⟨high, _ | ⟨low, rest⟩⟩ <;> simp only [uriPieces, if_neg apart]

theorem uriPieces_escapeByte (byte : UInt8) (rest : JsString) :
    uriPieces (escapeByte byte ++ rest) = (.octet byte :: ·) <$> uriPieces rest := by
  have bound : byte.toNat < 256 := byte.toNat_lt
  have same : (byte.toNat / 16 * 16 + byte.toNat % 16).toUInt8 = byte := by
    rw [Nat.div_add_mod']
    exact UInt8.ofNat_toNat
  rw [escapeByte, List.cons_append, List.cons_append, List.cons_append, List.nil_append, uriPieces,
    if_pos (by decide)]
  simp only [hexValue_upperHexDigit (show byte.toNat / 16 < 16 by omega),
    hexValue_upperHexDigit (show byte.toNat % 16 < 16 by omega)]
  change (UriPiece.octet (byte.toNat / 16 * 16 + byte.toNat % 16).toUInt8 :: ·) <$> uriPieces rest = _
  rw [same]

theorem uriPieces_escape (bytes : List UInt8) (rest : JsString) :
    uriPieces (bytes.flatMap escapeByte ++ rest) = (bytes.map .octet ++ ·) <$> uriPieces rest := by
  induction bytes with
  | nil => exact (id_map _).symm
  | cons byte bytes ih =>
      rw [List.flatMap_cons, List.append_assoc, uriPieces_escapeByte, ih]
      cases uriPieces rest <;> rfl

theorem scalarOf_utf8 {scalar : Nat} (below : scalar < 0x110000)
    (notSurrogate : scalar < 0xD800 ∨ 0xE000 ≤ scalar) :
    scalarOf scalar (JsString.utf8 scalar) = some scalar := by
  refine if_pos ?_
  simpa using ⟨below, notSurrogate⟩

/-- The length of an encoding is read off its first byte. -/
theorem encodingLength_of_toNat {byte : UInt8} {value length : Nat} (same : byte.toNat = value)
    (one : value < 0x80 → length = 1) (two : 0xC0 ≤ value → value < 0xE0 → length = 2)
    (three : 0xE0 ≤ value → value < 0xF0 → length = 3)
    (four : 0xF0 ≤ value → value < 0xF8 → length = 4)
    (starts : value < 0x80 ∨ 0xC0 ≤ value) (small : value < 0xF8) :
    encodingLength byte = length := by
  subst same
  simp only [encodingLength, UInt8.lt_iff_toNat_lt]
  split_ifs <;> simp at * <;> omega

theorem readPieces_utf8 {scalar : Nat} (below : scalar < 0x110000)
    (notSurrogate : scalar < 0xD800 ∨ 0xE000 ≤ scalar) (rest : List UriPiece) :
    readPieces ((JsString.utf8 scalar).map .octet ++ rest) =
      (JsString.units scalar ++ ·) <$> readPieces rest := by
  have byte : ∀ value : Nat, value.toUInt8.toNat = value % 256 := fun value => by simp
  have read := scalarOf_utf8 below notSurrogate
  unfold JsString.utf8 at read ⊢
  split_ifs at read ⊢ with one two three
  · have length : encodingLength scalar.toUInt8 = 1 := by
      apply encodingLength_of_toNat ((byte _).trans (Nat.mod_eq_of_lt (by omega))) <;> omega
    have same : scalar.toUInt8.toNat.toUInt16 = scalar.toUInt16 := by
      rw [byte, Nat.mod_eq_of_lt (by omega)]
    simp only [List.map_cons, List.map_nil, List.cons_append, List.nil_append, readPieces, length,
      same, JsString.units, if_pos (show scalar < 0x10000 by omega)]
  · have length : encodingLength (0xC0 + scalar / 0x40).toUInt8 = 2 := by
      apply encodingLength_of_toNat ((byte _).trans (Nat.mod_eq_of_lt (by omega))) <;> omega
    have same : (0xC0 + scalar / 0x40).toUInt8.toNat % 0x20 * 0x40 +
        (0x80 + scalar % 0x40).toUInt8.toNat % 0x40 = scalar := by
      rw [byte, byte]
      omega
    simp only [List.map_cons, List.map_nil, List.cons_append, List.nil_append, readPieces, length,
      same, read]
    rfl
  · have length : encodingLength (0xE0 + scalar / 0x1000).toUInt8 = 3 := by
      apply encodingLength_of_toNat ((byte _).trans (Nat.mod_eq_of_lt (by omega))) <;> omega
    have same : (0xE0 + scalar / 0x1000).toUInt8.toNat % 0x10 * 0x1000 +
        (0x80 + scalar / 0x40 % 0x40).toUInt8.toNat % 0x40 * 0x40 +
        (0x80 + scalar % 0x40).toUInt8.toNat % 0x40 = scalar := by
      rw [byte, byte, byte]
      omega
    simp only [List.map_cons, List.map_nil, List.cons_append, List.nil_append, readPieces, length,
      same, read]
    rfl
  · have length : encodingLength (0xF0 + scalar / 0x40000).toUInt8 = 4 := by
      apply encodingLength_of_toNat ((byte _).trans (Nat.mod_eq_of_lt (by omega))) <;> omega
    have same : (0xF0 + scalar / 0x40000).toUInt8.toNat % 8 * 0x40000 +
        (0x80 + scalar / 0x1000 % 0x40).toUInt8.toNat % 0x40 * 0x1000 +
        (0x80 + scalar / 0x40 % 0x40).toUInt8.toNat % 0x40 * 0x40 +
        (0x80 + scalar % 0x40).toUInt8.toNat % 0x40 = scalar := by
      rw [byte, byte, byte, byte]
      omega
    simp only [List.map_cons, List.map_nil, List.cons_append, List.nil_append, readPieces, length,
      same, read]
    rfl

theorem scalar_of_char (char : Char) : char.toNat < 0x110000 ∧
    (char.toNat < 0xD800 ∨ 0xE000 ≤ char.toNat) := by
  rcases char.valid with low | high
  · exact ⟨Nat.lt_trans low (by decide), .inl low⟩
  · exact ⟨high.2, .inr high.1⟩

/-- What a safe character must be: one unit that starts no escape. -/
def StandsAlone (safe : Nat → Bool) : Prop :=
  ∀ code, safe code = true → code < 0x80 ∧ code ≠ 0x25

/-- What the decoder reads where a character was written. -/
def percentPieces (safe : Nat → Bool) (char : Char) : List UriPiece :=
  if safe char.toNat then [.unit char.toNat.toUInt16]
  else (JsString.utf8 char.toNat).map .octet

section Decoding

variable {safe : Nat → Bool}

theorem utf16_of_small {char : Char} (small : char.toNat < 0x80) :
    utf16 char = [char.toNat.toUInt16] :=
  if_pos (Nat.lt_trans small (by decide))

theorem uriPieces_percentEncodeChar (alone : StandsAlone safe) (char : Char) (rest : JsString) :
    uriPieces (percentEncodeChar safe char ++ rest) =
      (percentPieces safe char ++ ·) <$> uriPieces rest := by
  cases holds : safe char.toNat with
  | false =>
      rw [percentEncodeChar, percentPieces, holds, if_neg Bool.false_ne_true,
        if_neg Bool.false_ne_true]
      exact uriPieces_escape _ rest
  | true =>
      obtain ⟨small, noEscape⟩ := alone _ holds
      have apart : ¬ (char.toNat.toUInt16 == 0x25) = true := by
        rw [beq_iff_eq, ← UInt16.toNat_inj, JsString.toNat_unit (by omega)]
        exact noEscape
      rw [percentEncodeChar, percentPieces, holds, if_pos rfl, if_pos rfl, utf16_of_small small,
        List.singleton_append, uriPieces_unit apart]
      rfl

theorem readPieces_percentPieces (char : Char) (rest : List UriPiece) (alone : StandsAlone safe) :
    readPieces (percentPieces safe char ++ rest) = (utf16 char ++ ·) <$> readPieces rest := by
  cases holds : safe char.toNat with
  | false =>
      rw [percentPieces, holds, if_neg Bool.false_ne_true]
      exact readPieces_utf8 (scalar_of_char char).1 (scalar_of_char char).2 rest
  | true =>
      rw [percentPieces, holds, if_pos rfl, utf16_of_small (alone _ holds).1]
      rfl

/-- **Percent-encoded text is read back.** Whichever characters the encoder leaves alone. -/
theorem decodeURIComponent_percentEncode (alone : StandsAlone safe) (text : List Char) :
    decodeURIComponent (percentEncode safe text) = some (text.flatMap utf16) := by
  have pieces : uriPieces (percentEncode safe text) = some (text.flatMap (percentPieces safe)) := by
    induction text with
    | nil => rfl
    | cons char text ih =>
        rw [percentEncode, List.flatMap_cons, uriPieces_percentEncodeChar alone]
        exact congrArg _ ih
  have reads : readPieces (text.flatMap (percentPieces safe)) = some (text.flatMap utf16) := by
    clear pieces
    induction text with
    | nil => rfl
    | cons char text ih =>
        rw [List.flatMap_cons, readPieces_percentPieces char _ alone, ih]
        rfl
  rw [decodeURIComponent, pieces]
  exact reads

end Decoding

/-! ## The two encoders -/

theorem standsAlone_isUriUnescaped : StandsAlone isUriUnescaped := by
  intro code safe
  simp only [isUriUnescaped, isAlphanumericCode, Bool.or_eq_true, Bool.and_eq_true, decide_eq_true_eq,
    beq_iff_eq] at safe
  omega

theorem standsAlone_isAlwaysSafe : StandsAlone isAlwaysSafe := by
  intro code safe
  simp only [isAlwaysSafe, isAlphanumericCode, Bool.or_eq_true, Bool.and_eq_true, decide_eq_true_eq,
    beq_iff_eq] at safe
  omega

theorem encodeURIComponent_single {unit : UInt16} (high : ¬ JsString.isHighSurrogate unit = true)
    (low : ¬ JsString.isLowSurrogate unit = true) (rest : JsString) :
    encodeURIComponent (unit :: rest) =
      ((if isUriUnescaped unit.toNat then [unit] else escapeScalar unit.toNat) ++ ·) <$>
        encodeURIComponent rest := by
  cases rest with
  | nil =>
      rw [encodeURIComponent, encodeURIComponent]
      split_ifs with safe surrogate
      · rfl
      · simp only [low, high, Bool.or_self, Bool.false_eq_true] at surrogate
      · exact congrArg some (List.append_nil _).symm
  | cons next rest =>
      rw [encodeURIComponent, if_neg low, if_neg high]
      split_ifs <;> rfl

theorem encodeURIComponent_pair {unit next : UInt16} (high : JsString.isHighSurrogate unit = true)
    (low : JsString.isLowSurrogate next = true) (rest : JsString) :
    encodeURIComponent (unit :: next :: rest) =
      (escapeScalar (pairScalar unit next) ++ ·) <$> encodeURIComponent rest := by
  have bounds := JsString.isHighSurrogate_iff.mp high
  have escaped : ¬ isUriUnescaped unit.toNat = true := by
    intro safe
    have small := (standsAlone_isUriUnescaped _ safe).1
    omega
  have notLow : ¬ JsString.isLowSurrogate unit = true := by
    rw [JsString.isLowSurrogate_iff]
    omega
  rw [encodeURIComponent, if_neg escaped, if_neg notLow, if_pos high, if_pos low]

theorem encodeURIComponent_units {scalar : Nat} (below : scalar < 0x110000)
    (notSurrogate : scalar < 0xD800 ∨ 0xE000 ≤ scalar) (rest : JsString) :
    encodeURIComponent (JsString.units scalar ++ rest) =
      ((if isUriUnescaped scalar then JsString.units scalar else escapeScalar scalar) ++ ·) <$>
        encodeURIComponent rest := by
  unfold JsString.units
  split_ifs with single safe escaped
  · rw [List.singleton_append, encodeURIComponent_single, JsString.toNat_unit single, if_pos safe]
    · rw [JsString.isHighSurrogate_iff, JsString.toNat_unit single]
      omega
    · rw [JsString.isLowSurrogate_iff, JsString.toNat_unit single]
      omega
  · rw [List.singleton_append, encodeURIComponent_single, JsString.toNat_unit single, if_neg safe]
    · rw [JsString.isHighSurrogate_iff, JsString.toNat_unit single]
      omega
    · rw [JsString.isLowSurrogate_iff, JsString.toNat_unit single]
      omega
  · have small := (standsAlone_isUriUnescaped _ escaped).1
    omega
  · generalize first : (0xD800 + (scalar - 0x10000) / 0x400).toUInt16 = unit
    generalize second : (0xDC00 + (scalar - 0x10000) % 0x400).toUInt16 = next
    have highUnit : unit.toNat = 0xD800 + (scalar - 0x10000) / 0x400 := by
      rw [← first, JsString.toNat_unit (by omega)]
    have lowUnit : next.toNat = 0xDC00 + (scalar - 0x10000) % 0x400 := by
      rw [← second, JsString.toNat_unit (by omega)]
    have high : JsString.isHighSurrogate unit = true := by
      rw [JsString.isHighSurrogate_iff]
      omega
    have low : JsString.isLowSurrogate next = true := by
      rw [JsString.isLowSurrogate_iff]
      omega
    have same : pairScalar unit next = scalar := by
      unfold pairScalar
      omega
    rw [List.cons_append, List.singleton_append, encodeURIComponent_pair high low, same]

/-- `encodeURIComponent` of a string without lone surrogates. -/
theorem encodeURIComponent_flatMap_utf16 (text : List Char) :
    encodeURIComponent (text.flatMap utf16) = some (percentEncode isUriUnescaped text) := by
  induction text with
  | nil => rfl
  | cons char text ih =>
      obtain ⟨below, notSurrogate⟩ := scalar_of_char char
      have first := encodeURIComponent_units below notSurrogate (text.flatMap utf16)
      rw [ih] at first
      exact first

/-- The bytes of a character beyond ASCII are beyond ASCII. -/
theorem utf8_beyond {scalar : Nat} (below : scalar < 0x110000) (beyond : 0x80 ≤ scalar) :
    ∀ byte ∈ JsString.utf8 scalar, 0x80 ≤ byte.toNat := by
  have byte : ∀ value : Nat, value.toUInt8.toNat = value % 256 := fun value => by simp
  unfold JsString.utf8
  split_ifs
  all_goals
    simp only [List.mem_cons, List.not_mem_nil, or_false, forall_eq_or_imp, forall_eq, byte]
    omega

theorem utf16_ofNat {code : Nat} (small : code < 0xD800) :
    utf16 (Char.ofNat code) = [code.toUInt16] := by
  have same : (Char.ofNat code).toNat = code := by
    rw [Char.ofNat, dif_pos (.inl small)]
    rfl
  rw [utf16, same, if_pos (by omega)]

theorem flatMap_utf16_ofNat {units : JsString} (small : ∀ unit ∈ units, unit.toNat < 0xD800) :
    (units.map fun unit => Char.ofNat unit.toNat).flatMap utf16 = units := by
  induction units with
  | nil => rfl
  | cons unit units ih =>
      obtain ⟨first, others⟩ := List.forall_mem_cons.mp small
      have same : unit.toNat.toUInt16 = unit := UInt16.ofNat_toNat
      rw [List.map_cons, List.flatMap_cons, utf16_ofNat first, same, ih others]
      rfl

theorem upperHexDigit_small {value : Nat} (small : value < 16) :
    (upperHexDigit value).toNat < 0x80 := by
  have all : ∀ value : Fin 16, (upperHexDigit value).toNat < 0x80 := by decide
  exact all ⟨value, small⟩

/-- Escapes are written with ASCII characters. -/
theorem escapeByte_small (byte : UInt8) : ∀ unit ∈ escapeByte byte, unit.toNat < 0x80 := by
  have bound : byte.toNat < 256 := byte.toNat_lt
  simp only [escapeByte, List.mem_cons, List.not_mem_nil, or_false, forall_eq_or_imp, forall_eq]
  exact ⟨by decide, upperHexDigit_small (by omega), upperHexDigit_small (by omega)⟩

/-- How `quote` writes one byte. -/
theorem flatMap_utf16_quoteByte (byte : UInt8) :
    (if isAlwaysSafe byte.toNat || ([] : List Nat).contains byte.toNat then [Char.ofNat byte.toNat]
      else (escapeByte byte).map fun unit => Char.ofNat unit.toNat).flatMap utf16 =
    if isAlwaysSafe byte.toNat then [byte.toNat.toUInt16] else escapeByte byte := by
  cases holds : isAlwaysSafe byte.toNat with
  | true =>
      have small := (standsAlone_isAlwaysSafe _ holds).1
      exact (List.append_nil _).trans (utf16_ofNat (by omega))
  | false =>
      exact flatMap_utf16_ofNat fun unit member =>
        Nat.lt_trans (escapeByte_small byte unit member) (by decide)

/-- `quote` writes the same as the other encoder, but for the characters it leaves alone. -/
theorem flatMap_utf16_quote (text : List Char) :
    (quote [] text).flatMap utf16 = percentEncode isAlwaysSafe text := by
  rw [quote, percentEncode, List.flatMap_assoc, List.flatMap_assoc]
  refine List.flatMap_congr fun char _ => ?_
  simp only [flatMap_utf16_quoteByte]
  by_cases small : char.toNat < 0x80
  · have same : char.toNat.toUInt8.toNat = char.toNat := by
      simp [Nat.mod_eq_of_lt (show char.toNat < 256 by omega)]
    rw [JsString.utf8, if_pos small, percentEncodeChar, escapeScalar, JsString.utf8, if_pos small,
      List.flatMap_singleton, List.flatMap_singleton, same, utf16_of_small small]
  · have escaped : ¬ isAlwaysSafe char.toNat = true := fun safe =>
      small (standsAlone_isAlwaysSafe _ safe).1
    rw [percentEncodeChar, if_neg escaped, escapeScalar]
    refine List.flatMap_congr fun byte member => if_neg fun safe => ?_
    have beyond := utf8_beyond (scalar_of_char char).1 (Nat.le_of_not_lt small) byte member
    exact absurd (standsAlone_isAlwaysSafe _ safe).1 (Nat.not_lt.mpr beyond)

end InterWeave
