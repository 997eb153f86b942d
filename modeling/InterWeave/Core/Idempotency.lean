import InterWeave.Core.Platform
import Mathlib.Data.List.Sort

/-! # Canonical JSON and request fingerprints -/

namespace InterWeave

/-- A JavaScript number: a finite value or one of the non-finite ones. -/
inductive JsNumber where
  | finite (value : Rat)
  | nan
  | infinity
  | negativeInfinity
  deriving DecidableEq

/-- A value that a request may contain. Objects list their own enumerable
properties in order. -/
inductive JsValue where
  | null
  | undefined
  | boolean (value : Bool)
  | number (value : JsNumber)
  | string (value : JsString)
  | array (items : List JsValue)
  | object (properties : List (JsString × JsValue))
  | unsupported (type : JsString)

namespace JsValue

def isUndefined : JsValue → Bool
  | .undefined => true
  | _ => false

end JsValue

/-- The order `Array.prototype.sort` gives property names, on entries. -/
def entryLe {α : Type} (left right : JsString × α) : Prop := left.1 ≤ right.1

instance {α : Type} : DecidableRel (entryLe (α := α)) :=
  fun left right => inferInstanceAs (Decidable (left.1 ≤ right.1))

mutual

/-- `canonicalJson(value)`. -/
def canonicalJson (platform : Platform) : JsValue → Except Thrown JsString
  | .null => .ok (js "null")
  | .string value => .ok value.quote
  | .boolean value => .ok (if value then js "true" else js "false")
  | .number (.finite value) => .ok (platform.numberText value)
  | .number _ => .error (.registryError .invalidArgument
      (js "idempotency payload contains a non-finite number"))
  | .array items => do
      let rendered ← canonicalItems platform items
      return js "[" ++ JsString.join (js ",") rendered ++ js "]"
  | .object properties => do
      if properties.any fun property => property.2.isUndefined then
        throw (.registryError .invalidArgument (js "idempotency payload contains undefined"))
      let entries := (canonicalProperties platform properties).insertionSort entryLe
      let rendered ← entries.mapM fun entry => do
        let value ← entry.2
        return entry.1.quote ++ js ":" ++ value
      return js "\x7b" ++ JsString.join (js ",") rendered ++ js "\x7d"
  | .undefined => .error (.registryError .invalidArgument
      (js "idempotency payload contains unsupported type: undefined"))
  | .unsupported type => .error (.registryError .invalidArgument
      (js "idempotency payload contains unsupported type: " ++ type))

/-- `value.map(canonicalJson)`. -/
def canonicalItems (platform : Platform) : List JsValue → Except Thrown (List JsString)
  | [] => .ok []
  | item :: rest => do
      let rendered ← canonicalJson platform item
      let others ← canonicalItems platform rest
      return rendered :: others

/-- The rendering of every property, in the object's own order. -/
def canonicalProperties (platform : Platform) :
    List (JsString × JsValue) → List (JsString × Except Thrown JsString)
  | [] => []
  | (key, value) :: rest =>
      (key, canonicalJson platform value) :: canonicalProperties platform rest

end

/-- `requestFingerprint(request)`. -/
def requestFingerprint (platform : Platform) (request : JsValue) : Except Thrown JsString := do
  let text ← canonicalJson platform request
  return js "sha256:" ++ platform.sha256Hex text.encode

/-! ## What renders -/

theorem canonicalProperties_eq_map (platform : Platform) (properties : List (JsString × JsValue)) :
    canonicalProperties platform properties =
      properties.map fun property => (property.1, canonicalJson platform property.2) := by
  induction properties with
  | nil => rw [canonicalProperties, List.map_nil]
  | cons property rest ih => rw [canonicalProperties, ih, List.map_cons]

theorem renderEntries_ok {entries : List (JsString × Except Thrown JsString)}
    (render : ∀ entry ∈ entries, ∃ text, entry.2 = .ok text) :
    ∃ texts, (entries.mapM fun entry => do
      let value ← entry.2
      return entry.1.quote ++ js ":" ++ value) = .ok texts := by
  induction entries with
  | nil => exact ⟨[], rfl⟩
  | cons entry rest ih =>
      obtain ⟨text, rendered⟩ := render entry List.mem_cons_self
      obtain ⟨texts, others⟩ := ih fun other member => render other (List.mem_cons_of_mem _ member)
      refine ⟨(entry.1.quote ++ js ":" ++ text) :: texts, ?_⟩
      rw [List.mapM_cons, rendered, others]
      rfl

/-- An object renders where all its properties do. -/
theorem canonicalJson_object_ok {platform : Platform} {properties : List (JsString × JsValue)}
    (render : ∀ property ∈ properties, property.2.isUndefined = false ∧
      ∃ text, canonicalJson platform property.2 = .ok text) :
    ∃ text, canonicalJson platform (.object properties) = .ok text := by
  have defined : properties.any (fun property => property.2.isUndefined) = false := by
    rw [List.any_eq_false]
    exact fun property member => by simp [(render property member).1]
  have renderEach : ∀ entry ∈ (canonicalProperties platform properties).insertionSort entryLe,
      ∃ text, entry.2 = .ok text := by
    intro entry member
    rw [canonicalProperties_eq_map] at member
    obtain ⟨property, listed, rfl⟩ := List.mem_map.mp
      ((List.perm_insertionSort _ _).mem_iff.mp member)
    exact (render property listed).2
  obtain ⟨texts, rendered⟩ := renderEntries_ok renderEach
  refine ⟨js "\x7b" ++ JsString.join (js ",") texts ++ js "\x7d", ?_⟩
  rw [canonicalJson]
  simp only [defined, Bool.false_eq_true, if_false, rendered]
  rfl

end InterWeave
