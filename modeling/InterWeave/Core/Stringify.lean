import InterWeave.Core.CanonicalText

/-! # Values and their JSON

What a program holds may be more than its JSON. `canonicalJson` reads a value by
`Array.isArray` and `Object.keys`; `JSON.stringify` asks it for `toJSON` first, unwraps
boxed primitives and fills the holes of arrays. The two agree on values without any of
these.
-/

namespace InterWeave

/-- What `new Boolean`, `new Number`, `new String` and `Object(bigint)` hold. -/
inductive BoxedPrimitive where
  | boolean (value : Bool)
  | number (value : JsNumber)
  | string (value : JsString)
  | bigint
  deriving DecidableEq

/-- A value that a program may hold. Objects list their own enumerable properties in
order. -/
inductive JsonSource where
  | null
  | undefined
  | boolean (value : Bool)
  | number (value : JsNumber)
  | string (value : JsString)
  /-- An array; `none` is a hole. -/
  | array (items : List (Option JsonSource))
  | object (properties : List (JsString × JsonSource))
  /-- A value with a `toJSON` method, which returns `json`. -/
  | custom (value json : JsonSource)
  | boxed (value : BoxedPrimitive)
  | unsupported (type : JsString)

namespace BoxedPrimitive

/-- The own enumerable properties: a boxed string has its code units. -/
def properties : BoxedPrimitive → List (JsString × JsValue)
  | .string value => value.mapIdx fun index unit => (bigintText index, .string [unit])
  | _ => []

end BoxedPrimitive

/-- `JSON.stringify` refuses a bigint. -/
def bigintRefused : Thrown := .error (js "Do not know how to serialize a BigInt")

namespace JsonSource

def isUndefined : JsonSource → Bool
  | .undefined => true
  | _ => false

/-- A `Date`: an object without properties of its own that holds an instant or is invalid. -/
def date (platform : Platform) (time : Option Int) : JsonSource :=
  .custom (.object []) (time.elim .null fun instant => .string (platform.toISOString instant))

mutual

/-- The value as `typeof`, `Array.isArray` and `Object.keys` show it. A hole reads as
`undefined`. -/
def seen : JsonSource → JsValue
  | .null => .null
  | .undefined => .undefined
  | .boolean value => .boolean value
  | .number value => .number value
  | .string value => .string value
  | .array items => .array (seenItems items)
  | .object properties => .object (seenProperties properties)
  | .custom value _ => value.seen
  | .boxed value => .object value.properties
  | .unsupported type => .unsupported type

def seenItems : List (Option JsonSource) → List JsValue
  | [] => []
  | none :: rest => .undefined :: seenItems rest
  | some item :: rest => item.seen :: seenItems rest

def seenProperties : List (JsString × JsonSource) → List (JsString × JsValue)
  | [] => []
  | (key, value) :: rest => (key, value.seen) :: seenProperties rest

end

mutual

/-- `canonicalJson(value)`. `map` keeps the holes of an array, and `join` writes nothing
for them. -/
def canonical (platform : Platform) : JsonSource → Except Thrown JsString
  | .array items => do
      let rendered ← canonicalSlots platform items
      return js "[" ++ JsString.join (js ",") rendered ++ js "]"
  | .object properties => do
      if properties.any fun property => property.2.isUndefined then
        throw (.registryError .invalidArgument (js "idempotency payload contains undefined"))
      let rendered ← ((canonicalEntries platform properties).insertionSort entryLe).mapM renderEntry
      return js "\x7b" ++ JsString.join (js ",") rendered ++ js "\x7d"
  | .custom value _ => value.canonical platform
  | .boxed value => canonicalJson platform (.object value.properties)
  | .null => canonicalJson platform .null
  | .undefined => canonicalJson platform .undefined
  | .boolean value => canonicalJson platform (.boolean value)
  | .number value => canonicalJson platform (.number value)
  | .string value => canonicalJson platform (.string value)
  | .unsupported type => canonicalJson platform (.unsupported type)

def canonicalSlots (platform : Platform) :
    List (Option JsonSource) → Except Thrown (List JsString)
  | [] => .ok []
  | none :: rest => do
      let others ← canonicalSlots platform rest
      return [] :: others
  | some item :: rest => do
      let rendered ← item.canonical platform
      let others ← canonicalSlots platform rest
      return rendered :: others

def canonicalEntries (platform : Platform) :
    List (JsString × JsonSource) → List (JsString × Except Thrown JsString)
  | [] => []
  | (key, value) :: rest => (key, value.canonical platform) :: canonicalEntries platform rest

end

mutual

/-- What `JSON.stringify(value)` writes, if anything. `asked` says that the value is what
a `toJSON` method has returned: it is not asked again. -/
def stringify (asked : Bool) : JsonSource → Except Thrown (Option JsValue)
  | .null => .ok (some .null)
  | .undefined => .ok none
  | .boolean value => .ok (some (.boolean value))
  | .number (.finite value) => .ok (some (.number (.finite value)))
  | .number _ => .ok (some .null)
  | .string value => .ok (some (.string value))
  | .array items => do return some (.array (← stringifyItems items))
  | .object properties => do return some (.object (← stringifyProperties properties))
  | .custom value json => if asked then value.stringify true else json.stringify true
  | .boxed (.boolean value) => .ok (some (.boolean value))
  | .boxed (.number (.finite value)) => .ok (some (.number (.finite value)))
  | .boxed (.number _) => .ok (some .null)
  | .boxed (.string value) => .ok (some (.string value))
  | .boxed .bigint => .error bigintRefused
  | .unsupported type => if type = js "bigint" then .error bigintRefused else .ok none

def stringifyItems : List (Option JsonSource) → Except Thrown (List JsValue)
  | [] => .ok []
  | none :: rest => do
      let others ← stringifyItems rest
      return .null :: others
  | some item :: rest => do
      let written ← item.stringify false
      let others ← stringifyItems rest
      return written.getD .null :: others

def stringifyProperties :
    List (JsString × JsonSource) → Except Thrown (List (JsString × JsValue))
  | [] => .ok []
  | (key, value) :: rest => do
      let written ← value.stringify false
      let others ← stringifyProperties rest
      return (written.map fun value => (key, value)).toList ++ others

end

/-- `JSON.stringify(value)`. -/
abbrev json (source : JsonSource) : Except Thrown (Option JsValue) := source.stringify false

mutual

/-- The value is built from scalars, arrays without holes and objects without `toJSON`. -/
def plain : JsonSource → Bool
  | .array items => plainItems items
  | .object properties => plainProperties properties
  | .custom _ _ => false
  | .boxed _ => false
  | _ => true

def plainItems : List (Option JsonSource) → Bool
  | [] => true
  | none :: _ => false
  | some item :: rest => item.plain && plainItems rest

def plainProperties : List (JsString × JsonSource) → Bool
  | [] => true
  | (_, value) :: rest => value.plain && plainProperties rest

end

/-! ## Values without hidden parts -/

/-- Values are built from items, properties and what `toJSON` returns. -/
@[elab_as_elim]
theorem induction {motive : JsonSource → Prop} (null : motive .null)
    (undefined : motive .undefined) (boolean : ∀ value, motive (.boolean value))
    (number : ∀ value, motive (.number value)) (string : ∀ value, motive (.string value))
    (array : ∀ items, (∀ item, some item ∈ items → motive item) → motive (.array items))
    (object : ∀ properties, (∀ property ∈ properties, motive property.2) →
      motive (.object properties))
    (custom : ∀ value json, motive value → motive json → motive (.custom value json))
    (boxed : ∀ value, motive (.boxed value)) (unsupported : ∀ type, motive (.unsupported type))
    (source : JsonSource) : motive source := by
  refine @JsonSource.rec motive (fun items => ∀ item, some item ∈ items → motive item)
    (fun properties => ∀ property ∈ properties, motive property.2)
    (fun slot => ∀ item, slot = some item → motive item) (fun property => motive property.2) null
    undefined boolean number string array object custom boxed unsupported ?_ ?_ ?_ ?_ ?_ ?_ ?_
    source
  · exact fun _ member => (List.not_mem_nil member).elim
  · intro slot rest first others item member
    rcases List.mem_cons.mp member with same | later
    · exact first item same.symm
    · exact others item later
  · exact fun _ member => (List.not_mem_nil member).elim
  · exact fun _ _ first others => List.forall_mem_cons.mpr ⟨first, others⟩
  · exact fun _ none => nomatch none
  · intro item holds other same
    cases same
    exact holds
  · exact fun _ _ holds => holds

variable {platform : Platform}

theorem isUndefined_seen {source : JsonSource} (plain : source.plain = true) :
    source.seen.isUndefined = source.isUndefined := by
  cases source <;> first | rfl | cases plain

/-- **What `canonicalJson` reads of a plain value.** -/
theorem canonical_eq_seen (source : JsonSource) (plain : source.plain = true) :
    source.canonical platform = canonicalJson platform source.seen := by
  induction source using JsonSource.induction with
  | array items ih =>
      have slots : canonicalSlots platform items = canonicalItems platform (seenItems items) := by
        rw [JsonSource.plain] at plain
        induction items with
        | nil => rfl
        | cons slot rest more =>
            cases slot with
            | none => cases plain
            | some item =>
                rw [plainItems, Bool.and_eq_true] at plain
                rw [canonicalSlots, seenItems, canonicalItems,
                  ih item List.mem_cons_self plain.1,
                  more (fun other member => ih other (List.mem_cons_of_mem _ member)) plain.2]
      rw [canonical, seen, canonicalJson, slots]
  | object properties ih =>
      rw [JsonSource.plain] at plain
      have entries : canonicalEntries platform properties =
            canonicalProperties platform (seenProperties properties) ∧
          (seenProperties properties).any (fun property => property.2.isUndefined) =
            properties.any (fun property => property.2.isUndefined) := by
        induction properties with
        | nil => exact ⟨rfl, rfl⟩
        | cons property rest more =>
            obtain ⟨key, value⟩ := property
            rw [plainProperties, Bool.and_eq_true] at plain
            obtain ⟨first, others⟩ := List.forall_mem_cons.mp ih
            obtain ⟨same, undefined⟩ := more others plain.2
            refine ⟨?_, ?_⟩
            · rw [canonicalEntries, seenProperties, canonicalProperties, first plain.1, same]
            · rw [seenProperties, List.any_cons, List.any_cons, undefined,
                isUndefined_seen plain.1]
      rw [canonical, seen, canonicalJson, entries.1, entries.2]
      rfl
  | custom value json _ _ => cases plain
  | boxed value => cases plain
  | null | undefined | boolean | number | string | unsupported => rfl

theorem stringifyItems_of_rendered {items : List (Option JsonSource)} {texts : List JsString}
    (each : ∀ item, some item ∈ items → item.plain = true → ∀ text,
      canonicalJson platform item.seen = .ok text → item.json = .ok (some item.seen))
    (plain : plainItems items = true)
    (rendered : List.Forall₂ (fun item text => canonicalJson platform item = .ok text)
      (seenItems items) texts) :
    stringifyItems items = .ok (seenItems items) := by
  induction items generalizing texts with
  | nil => rfl
  | cons slot rest ih =>
      cases slot with
      | none => cases plain
      | some item =>
          rw [plainItems, Bool.and_eq_true] at plain
          rw [seenItems] at rendered
          cases rendered with
          | cons renders more =>
              have written : item.stringify false = .ok (some item.seen) :=
                each item List.mem_cons_self plain.1 _ renders
              have others : stringifyItems rest = .ok (seenItems rest) :=
                ih (fun other member => each other (List.mem_cons_of_mem _ member)) plain.2 more
              rw [stringifyItems, written, others]
              rfl

theorem stringifyProperties_of_rendered {properties : List (JsString × JsonSource)}
    (each : ∀ property ∈ properties, property.2.plain = true → ∀ text,
      canonicalJson platform property.2.seen = .ok text →
      property.2.json = .ok (some property.2.seen))
    (plain : plainProperties properties = true)
    (rendered : ∀ property ∈ seenProperties properties,
      ∃ text, canonicalJson platform property.2 = .ok text) :
    stringifyProperties properties = .ok (seenProperties properties) := by
  induction properties with
  | nil => rfl
  | cons property rest ih =>
      obtain ⟨key, value⟩ := property
      rw [plainProperties, Bool.and_eq_true] at plain
      obtain ⟨first, others⟩ := List.forall_mem_cons.mp each
      rw [seenProperties] at rendered
      obtain ⟨⟨text, renders⟩, more⟩ := List.forall_mem_cons.mp rendered
      have written : value.stringify false = .ok (some value.seen) :=
        first plain.1 text renders
      rw [stringifyProperties, written, ih others plain.2 more]
      rfl

/-- **What `canonicalJson` accepts of a plain value is written as it is read.** -/
theorem json_eq_seen (source : JsonSource) (plain : source.plain = true) (text : JsString)
    (rendered : canonicalJson platform source.seen = .ok text) :
    source.json = .ok (some source.seen) := by
  induction source using JsonSource.induction generalizing text with
  | null | boolean | string => rfl
  | undefined => cases rendered
  | number value =>
      cases value with
      | finite value => rfl
      | _ => cases rendered
  | array items ih =>
      rw [seen] at rendered ⊢
      obtain ⟨texts, each, _⟩ := canonicalJson_array_inv rendered
      rw [JsonSource.plain] at plain
      rw [json, stringify, stringifyItems_of_rendered (fun item member own text =>
        ih item member own text) plain each]
      rfl
  | object properties ih =>
      rw [seen] at rendered ⊢
      obtain ⟨texts, each, _⟩ := canonicalJson_object_inv rendered
      rw [JsonSource.plain] at plain
      have renders : ∀ property ∈ seenProperties properties,
          ∃ text, canonicalJson platform property.2 = .ok text := by
        intro property member
        have listed := (List.perm_insertionSort entryLe _).mem_iff.mpr member
        apply forall_mem_of_forall₂ each.flip _ property listed
        intro text _ other shows
        obtain ⟨value, rendered, _⟩ := shows
        exact ⟨value, rendered⟩
      rw [json, stringify, stringifyProperties_of_rendered (fun property member own text =>
        ih property member own text) plain renders]
      rfl
  | custom value json _ _ => cases plain
  | boxed value => cases plain
  | unsupported type => cases rendered

end JsonSource
end InterWeave
