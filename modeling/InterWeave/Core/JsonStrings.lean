import InterWeave.Core.Unicode

/-! # JSON string literals

`JSON.stringify` renders a string code point by code point, a lone surrogate being a
code point of its own. Each rendering can be read back, none starts with a quotation
mark, and all are texts, so a literal is a text that tells its string and its end.
-/

namespace InterWeave
namespace JsString

/-- The code points of a string. A lone surrogate is one. -/
def points : JsString → List Nat
  | [] => []
  | [unit] => [unit.toNat]
  | unit :: next :: rest =>
      if isHighSurrogate unit && isLowSurrogate next then
        (0x10000 + (unit.toNat - 0xD800) * 0x400 + (next.toNat - 0xDC00)) :: points rest
      else unit.toNat :: points (next :: rest)

/-- How a code point is rendered. -/
def quotePoint (point : Nat) : JsString :=
  if 0x10000 ≤ point then units point
  else if 0xD800 ≤ point ∧ point < 0xE000 then unicodeEscape point.toUInt16
  else quoteUnit point.toUInt16

theorem ofNat_toNat_unit (unit : UInt16) : unit.toNat.toUInt16 = unit := by
  rw [← UInt16.toNat_inj, toNat_unit unit.toNat_lt]

theorem quotePoint_unit (unit : UInt16) :
    quotePoint unit.toNat =
      if isHighSurrogate unit || isLowSurrogate unit then unicodeEscape unit else quoteUnit unit := by
  have bound := unit.toNat_lt
  have surrogate : (isHighSurrogate unit || isLowSurrogate unit) = true ↔
      0xD800 ≤ unit.toNat ∧ unit.toNat < 0xE000 := by
    rw [Bool.or_eq_true, isHighSurrogate_iff, isLowSurrogate_iff]
    omega
  rw [quotePoint, if_neg (by omega), ofNat_toNat_unit]
  simp only [surrogate]

theorem quotePoint_pair {unit next : UInt16} (high : isHighSurrogate unit = true)
    (low : isLowSurrogate next = true) :
    quotePoint (0x10000 + (unit.toNat - 0xD800) * 0x400 + (next.toNat - 0xDC00)) =
      [unit, next] := by
  rw [isHighSurrogate_iff] at high
  rw [isLowSurrogate_iff] at low
  rw [quotePoint, if_pos (by omega), units, if_neg (by omega)]
  have first : 0xD800 + (0x10000 + (unit.toNat - 0xD800) * 0x400 + (next.toNat - 0xDC00) -
      0x10000) / 0x400 = unit.toNat := by
    omega
  have second : 0xDC00 + (0x10000 + (unit.toNat - 0xD800) * 0x400 + (next.toNat - 0xDC00) -
      0x10000) % 0x400 = next.toNat := by
    omega
  rw [first, second, ofNat_toNat_unit, ofNat_toNat_unit]

theorem quoteUnits_eq (value : JsString) : quoteUnits value = (points value).flatMap quotePoint := by
  fun_induction points value with
  | case1 => rfl
  | case2 unit =>
      rw [List.flatMap_cons, List.flatMap_nil, List.append_nil, quotePoint_unit, quoteUnits]
  | case3 unit next rest pair ih =>
      rw [Bool.and_eq_true] at pair
      rw [List.flatMap_cons, quotePoint_pair pair.1 pair.2, ← ih, quoteUnits, if_pos pair.1,
        if_pos pair.2]
      rfl
  | case4 unit next rest single ih =>
      rw [List.flatMap_cons, quotePoint_unit, ← ih, quoteUnits]
      by_cases high : isHighSurrogate unit = true
      · have lone : ¬ isLowSurrogate next = true := fun low => single (by rw [high, low]; rfl)
        rw [if_pos high, if_neg lone, if_pos (by rw [high]; rfl)]
      · by_cases low : isLowSurrogate unit = true
        · rw [if_neg high, if_pos low, if_pos (by rw [low, Bool.or_true])]
        · rw [if_neg high, if_neg low, if_neg (by rw [Bool.or_eq_true]; tauto)]

/-- No string is lost in its code points. -/
theorem flatMap_units_points (value : JsString) : (points value).flatMap units = value := by
  fun_induction points value with
  | case1 => rfl
  | case2 unit =>
      rw [List.flatMap_cons, List.flatMap_nil, List.append_nil, units, if_pos unit.toNat_lt,
        ofNat_toNat_unit]
  | case3 unit next rest pair ih =>
      rw [Bool.and_eq_true] at pair
      have rendered := quotePoint_pair pair.1 pair.2
      rw [quotePoint, if_pos (by omega)] at rendered
      rw [List.flatMap_cons, rendered, ih]
      rfl
  | case4 unit next rest single ih =>
      rw [List.flatMap_cons, units, if_pos unit.toNat_lt, ofNat_toNat_unit, ih]
      rfl

theorem points_lt {value : JsString} : ∀ point ∈ points value, point < 0x110000 := by
  have unitBound : ∀ unit : UInt16, unit.toNat < 0x110000 := fun unit => by
    have bound := unit.toNat_lt
    omega
  fun_induction points value with
  | case1 => exact fun _ member => (List.not_mem_nil member).elim
  | case2 unit => exact List.forall_mem_singleton.mpr (unitBound unit)
  | case3 unit next rest pair ih =>
      rw [Bool.and_eq_true, isHighSurrogate_iff, isLowSurrogate_iff] at pair
      exact List.forall_mem_cons.mpr ⟨by omega, ih⟩
  | case4 unit next rest single ih => exact List.forall_mem_cons.mpr ⟨unitBound unit, ih⟩

/-! ## Reading code points back -/

/-- The value of a lower-case hexadecimal digit. -/
def hexValue (unit : UInt16) : Nat :=
  if unit.toNat < 58 then unit.toNat - 48 else unit.toNat - 87

/-- The character that a short escape stands for. -/
def unescape (unit : UInt16) : Nat :=
  if unit = 0x62 then 8
  else if unit = 0x74 then 9
  else if unit = 0x6E then 10
  else if unit = 0x66 then 12
  else if unit = 0x72 then 13
  else unit.toNat

/-- The first code point of a rendering, and what comes after it. -/
def readPoint : JsString → Option (Nat × JsString)
  | [] => none
  | unit :: rest =>
      if unit = 0x5C then
        match rest with
        | [] => none
        | escape :: more =>
            if escape = 0x75 then
              match more with
              | first :: second :: third :: fourth :: after =>
                  some (hexValue first * 0x1000 + hexValue second * 0x100 +
                    hexValue third * 0x10 + hexValue fourth, after)
              | _ => none
            else some (unescape escape, more)
      else if isHighSurrogate unit then
        match rest with
        | [] => none
        | next :: more =>
            some (0x10000 + (unit.toNat - 0xD800) * 0x400 + (next.toNat - 0xDC00), more)
      else some (unit.toNat, rest)

theorem readPoint_of_ne {unit : UInt16} (plain : unit ≠ 0x5C) (single : ¬ isHighSurrogate unit = true)
    (rest : JsString) : readPoint (unit :: rest) = some (unit.toNat, rest) := by
  unfold readPoint
  dsimp only
  rw [if_neg plain, if_neg single]

theorem hexValue_hexDigit : ∀ value < 16, hexValue (hexDigit value) = value := by
  decide

theorem readPoint_unicodeEscape (unit : UInt16) (rest : JsString) :
    readPoint (unicodeEscape unit ++ rest) = some (unit.toNat, rest) := by
  have bound := unit.toNat_lt
  have value : hexValue (hexDigit (unit.toNat / 0x1000)) * 0x1000 +
      hexValue (hexDigit (unit.toNat / 0x100 % 0x10)) * 0x100 +
      hexValue (hexDigit (unit.toNat / 0x10 % 0x10)) * 0x10 +
      hexValue (hexDigit (unit.toNat % 0x10)) = unit.toNat := by
    rw [hexValue_hexDigit _ (by omega), hexValue_hexDigit _ (by omega),
      hexValue_hexDigit _ (by omega), hexValue_hexDigit _ (by omega)]
    omega
  have escaped : unicodeEscape unit ++ rest = 0x5C :: 0x75 ::
      hexDigit (unit.toNat / 0x1000) :: hexDigit (unit.toNat / 0x100 % 0x10) ::
      hexDigit (unit.toNat / 0x10 % 0x10) :: hexDigit (unit.toNat % 0x10) :: rest := rfl
  rw [escaped, readPoint, if_pos rfl]
  simp only [↓reduceIte, value]

/-- What a code point is rendered as, case by case. -/
theorem quoteUnit_cases (unit : UInt16) (holds : UInt16 → JsString → Prop)
    (quotation : holds 0x22 (js "\\\"")) (backslash : holds 0x5C (js "\\\\"))
    (backspace : holds 8 (js "\\b")) (tab : holds 9 (js "\\t")) (newline : holds 10 (js "\\n"))
    (formFeed : holds 12 (js "\\f")) (carriageReturn : holds 13 (js "\\r"))
    (control : ∀ unit : UInt16, unit < 0x20 → holds unit (unicodeEscape unit))
    (plain : ∀ unit : UInt16, unit ≠ 0x22 → unit ≠ 0x5C → ¬ unit < 0x20 → holds unit [unit]) :
    holds unit (quoteUnit unit) := by
  unfold quoteUnit
  simp only [beq_iff_eq]
  split_ifs with isQuotation isBackslash isBackspace isTab isNewline isFormFeed isReturn isControl
  · rwa [isQuotation]
  · rwa [isBackslash]
  · rwa [isBackspace]
  · rwa [isTab]
  · rwa [isNewline]
  · rwa [isFormFeed]
  · rwa [isReturn]
  · exact control unit isControl
  · exact plain unit isQuotation isBackslash isControl

theorem readPoint_quoteUnit {unit : UInt16} (single : isHighSurrogate unit = false)
    (rest : JsString) : readPoint (quoteUnit unit ++ rest) = some (unit.toNat, rest) := by
  revert single
  refine quoteUnit_cases unit (fun unit text => isHighSurrogate unit = false →
    readPoint (text ++ rest) = some (unit.toNat, rest)) ?_ ?_ ?_ ?_ ?_ ?_ ?_ ?_ ?_
  all_goals try exact fun _ => rfl
  · exact fun unit _ _ => readPoint_unicodeEscape unit rest
  · intro unit _ notBackslash _ single
    exact readPoint_of_ne notBackslash (Bool.eq_false_iff.mp single) rest

/-- The code point can be read back from its rendering. -/
theorem readPoint_quotePoint {point : Nat} (below : point < 0x110000) (rest : JsString) :
    readPoint (quotePoint point ++ rest) = some (point, rest) := by
  unfold quotePoint
  split_ifs with pair surrogate
  · have high : isHighSurrogate (0xD800 + (point - 0x10000) / 0x400).toUInt16 = true := by
      rw [isHighSurrogate_iff, toNat_unit (by omega)]
      omega
    have plain : (0xD800 + (point - 0x10000) / 0x400).toUInt16 ≠ 0x5C := by
      intro same
      rw [same] at high
      cases high
    have value : 0x10000 + (0xD800 + (point - 0x10000) / 0x400 - 0xD800) * 0x400 +
        (0xDC00 + (point - 0x10000) % 0x400 - 0xDC00) = point := by
      omega
    rw [units, if_neg (by omega), List.cons_append, List.singleton_append]
    unfold readPoint
    dsimp only
    rw [if_neg plain, if_pos high]
    rw [toNat_unit (by omega), toNat_unit (by omega), value]
  · rw [readPoint_unicodeEscape, toNat_unit (by omega)]
  · rw [readPoint_quoteUnit, toNat_unit (by omega)]
    rw [Bool.eq_false_iff, Ne, isHighSurrogate_iff, toNat_unit (by omega)]
    omega

/-- No rendering starts with a quotation mark. -/
theorem quotePoint_ne_quotation {point : Nat} (below : point < 0x110000) (more rest : JsString) :
    0x22 :: rest ≠ quotePoint point ++ more := by
  intro same
  have read := readPoint_quotePoint below more
  rw [← same, readPoint_of_ne (by decide) (by decide), Option.some.injEq, Prod.mk.injEq] at read
  obtain ⟨rfl, rfl⟩ := read
  exact absurd same (by simp [quotePoint, quoteUnit, js, utf16])

/-- **String literals.** A literal tells its string and where it ends. -/
theorem quote_unmistakable (value : JsString) :
    Text.Unmistakable (Text.codes (fun _ => True) quote) (fun _ => True) value (quote value) := by
  rintro other _ rest remainder ⟨_, rfl⟩ _ _ same
  have body : ∀ value rest : JsString, quote value ++ rest =
      0x22 :: ((points value).flatMap quotePoint ++ 0x22 :: rest) := by
    intro value rest
    rw [quote, quoteUnits_eq, List.append_assoc, List.append_assoc]
    rfl
  rw [body, body, List.cons.injEq] at same
  have unmistakable : ∀ point, point < 0x110000 →
      Text.Unmistakable (Text.codes (· < 0x110000) quotePoint) (fun _ => True) point
        (quotePoint point) := by
    rintro point below there _ rest remainder ⟨bound, rfl⟩ _ _ equal
    have read := readPoint_quotePoint below rest
    rw [equal, readPoint_quotePoint bound, Option.some.injEq, Prod.mk.injEq] at read
    exact ⟨read.1.symm, read.2.symm⟩
  obtain ⟨points, left⟩ := Text.eq_of_flatMap unmistakable points_lt points_lt
    (fun _ _ below => quotePoint_ne_quotation below _ _)
    (fun _ _ below => quotePoint_ne_quotation below _ _) same.2
  refine ⟨?_, (List.cons.inj left).2⟩
  rw [← flatMap_units_points value, points, flatMap_units_points]

/-! ## Literals are texts -/

theorem isText_unicodeEscape (unit : UInt16) : IsText (unicodeEscape unit) := by
  have digit : ∀ value < 16, 0 < hexDigit value ∧ hexDigit value < 0x80 := by decide
  have bound := unit.toNat_lt
  refine isText_of_ascii fun other member => ?_
  rw [unicodeEscape, List.mem_append] at member
  rcases member with start | digits
  · exact ascii_of_all (by decide) other start
  · simp only [List.mem_cons, List.not_mem_nil, or_false] at digits
    rcases digits with rfl | rfl | rfl | rfl <;> exact digit _ (by omega)

theorem isText_quotePoint {point : Nat} (below : point < 0x110000) :
    IsText (quotePoint point) := by
  unfold quotePoint
  split_ifs with pair surrogate
  · refine ⟨[point], List.forall_mem_singleton.mpr ⟨by omega, below, .inr (by omega)⟩, ?_⟩
    rw [List.flatMap_cons, List.flatMap_nil, List.append_nil]
  · exact isText_unicodeEscape _
  · have bound : point.toUInt16.toNat = point := toNat_unit (by omega)
    have unit : ∀ unit : UInt16, unit.toNat < 0xD800 ∨ 0xE000 ≤ unit.toNat →
        IsText (quoteUnit unit) := by
      intro unit
      refine quoteUnit_cases unit (fun unit text => unit.toNat < 0xD800 ∨ 0xE000 ≤ unit.toNat →
        IsText text) ?_ ?_ ?_ ?_ ?_ ?_ ?_ ?_ ?_
      all_goals try exact fun _ => isText_of_ascii (ascii_of_all (by decide))
      · exact fun unit _ _ => isText_unicodeEscape unit
      · intro unit _ _ printable single
        have least : 0x20 ≤ unit.toNat := Nat.not_lt.mp printable
        have most := unit.toNat_lt
        refine ⟨[unit.toNat], List.forall_mem_singleton.mpr ⟨by omega, by omega, single⟩, ?_⟩
        rw [List.flatMap_cons, List.flatMap_nil, List.append_nil, units, if_pos most,
          ofNat_toNat_unit]
    exact unit _ (by omega)

theorem isText_quote (value : JsString) : IsText (quote value) := by
  have body : ∀ points : List Nat, (∀ point ∈ points, point < 0x110000) →
      IsText (points.flatMap quotePoint) := by
    intro points
    induction points with
    | nil => exact fun _ => .nil
    | cons point points ih =>
        intro bounded
        obtain ⟨first, others⟩ := List.forall_mem_cons.mp bounded
        rw [List.flatMap_cons]
        exact (isText_quotePoint first).append (ih others)
  have mark : IsText (js "\"") := isText_of_ascii (ascii_of_all (by decide))
  rw [quote, quoteUnits_eq]
  exact (mark.append (body _ points_lt)).append mark

end JsString
end InterWeave
