import InterWeave.Core.Idempotency
import InterWeave.Core.JsonStrings

/-! # What a canonical text says

Two values with the same canonical text differ in the order of properties only. This
rests on the number formatter for the numbers that occur, and on nothing else of the
platform. Canonical texts can also be read back from their UTF-8 bytes.
-/

namespace InterWeave

open Text

/-- Digits, signs, the decimal point and the exponent mark. -/
def isNumeric (unit : UInt16) : Bool :=
  (48 ≤ unit && unit ≤ 57) || unit == 43 || unit == 45 || unit == 46 || unit == 101

/-- What is relied on of the number formatter, for some numbers. -/
structure Platform.Formats (platform : Platform) (numbers : Rat → Prop) : Prop where
  numeric : ∀ value, numbers value → platform.numberText value ≠ [] ∧
    ∀ unit ∈ platform.numberText value, isNumeric unit = true
  distinct : ∀ value other, numbers value → numbers other →
    platform.numberText value = platform.numberText other → value = other

theorem Platform.formats_none (platform : Platform) : platform.Formats fun _ => False :=
  ⟨fun _ none => none.elim, fun _ _ none => none.elim⟩

namespace JsValue

/-- Values are built from items and properties. -/
@[elab_as_elim]
theorem induction {motive : JsValue → Prop} (null : motive .null) (undefined : motive .undefined)
    (boolean : ∀ value, motive (.boolean value)) (number : ∀ value, motive (.number value))
    (string : ∀ value, motive (.string value))
    (array : ∀ items, (∀ item ∈ items, motive item) → motive (.array items))
    (object : ∀ properties, (∀ property ∈ properties, motive property.2) →
      motive (.object properties))
    (unsupported : ∀ type, motive (.unsupported type)) (value : JsValue) : motive value := by
  refine @JsValue.rec motive (fun items => ∀ item ∈ items, motive item)
    (fun properties => ∀ property ∈ properties, motive property.2)
    (fun property => motive property.2) null undefined boolean number string array object
    unsupported ?_ ?_ ?_ ?_ ?_ value
  · exact fun _ member => (List.not_mem_nil member).elim
  · exact fun _ _ first others => List.forall_mem_cons.mpr ⟨first, others⟩
  · exact fun _ member => (List.not_mem_nil member).elim
  · exact fun _ _ first others => List.forall_mem_cons.mpr ⟨first, others⟩
  · exact fun _ _ holds => holds

mutual

/-- The value with the properties of every object in the order of their names. -/
def sorted : JsValue → JsValue
  | .null => .null
  | .undefined => .undefined
  | .boolean value => .boolean value
  | .number value => .number value
  | .string value => .string value
  | .array items => .array (sortedItems items)
  | .object properties => .object ((sortedProperties properties).insertionSort entryLe)
  | .unsupported type => .unsupported type

def sortedItems : List JsValue → List JsValue
  | [] => []
  | item :: rest => item.sorted :: sortedItems rest

def sortedProperties : List (JsString × JsValue) → List (JsString × JsValue)
  | [] => []
  | (key, value) :: rest => (key, value.sorted) :: sortedProperties rest

end

mutual

/-- Only some numbers occur in the value. -/
def Over (numbers : Rat → Prop) : JsValue → Prop
  | .number (.finite value) => numbers value
  | .array items => itemsOver numbers items
  | .object properties => propertiesOver numbers properties
  | _ => True

def itemsOver (numbers : Rat → Prop) : List JsValue → Prop
  | [] => True
  | item :: rest => item.Over numbers ∧ itemsOver numbers rest

def propertiesOver (numbers : Rat → Prop) : List (JsString × JsValue) → Prop
  | [] => True
  | (_, value) :: rest => value.Over numbers ∧ propertiesOver numbers rest

end

theorem sortedItems_eq_map (items : List JsValue) : sortedItems items = items.map sorted := by
  induction items with
  | nil => rw [sortedItems, List.map_nil]
  | cons item rest ih => rw [sortedItems, ih, List.map_cons]

theorem sortedProperties_eq_map (properties : List (JsString × JsValue)) :
    sortedProperties properties = properties.map fun property => (property.1, property.2.sorted) := by
  induction properties with
  | nil => rw [sortedProperties, List.map_nil]
  | cons property rest ih => rw [sortedProperties, ih, List.map_cons]

theorem itemsOver_iff {numbers : Rat → Prop} {items : List JsValue} :
    itemsOver numbers items ↔ ∀ item ∈ items, item.Over numbers := by
  induction items with
  | nil => simp only [itemsOver, List.not_mem_nil, false_implies, implies_true]
  | cons item rest ih => rw [itemsOver, ih, List.forall_mem_cons]

theorem propertiesOver_iff {numbers : Rat → Prop} {properties : List (JsString × JsValue)} :
    propertiesOver numbers properties ↔ ∀ property ∈ properties, property.2.Over numbers := by
  induction properties with
  | nil => simp only [propertiesOver, List.not_mem_nil, false_implies, implies_true]
  | cons property rest ih => rw [propertiesOver, ih, List.forall_mem_cons]

end JsValue

/-! ## Renderings -/

section Renderings

variable {platform : Platform} {numbers : Rat → Prop}

theorem join_eq_joined (separator : UInt16) (texts : List JsString) :
    JsString.join [separator] texts = joined separator texts := by
  induction texts with
  | nil => rfl
  | cons first rest ih =>
      cases rest with
      | nil => rw [JsString.join, joined, separated, List.flatMap_nil, List.append_nil]
      | cons second more =>
          rw [JsString.join, ih, joined, joined, separated, separated, List.flatMap_cons,
            List.append_assoc]
          · rfl
          · exact fun same => by cases same

theorem canonicalItems_ok {items : List JsValue} {texts : List JsString}
    (rendered : canonicalItems platform items = .ok texts) :
    List.Forall₂ (fun item text => canonicalJson platform item = .ok text) items texts := by
  induction items generalizing texts with
  | nil =>
      cases rendered
      exact .nil
  | cons item rest ih =>
      rw [canonicalItems] at rendered
      cases first : canonicalJson platform item with
      | error error =>
          rw [first] at rendered
          cases rendered
      | ok text =>
          cases more : canonicalItems platform rest with
          | error error =>
              rw [first, more] at rendered
              cases rendered
          | ok others =>
              rw [first, more] at rendered
              cases rendered
              exact .cons first (ih more)

/-- A property as an object shows it. -/
def RendersProperty (platform : Platform) (property : JsString × JsValue) (text : JsString) : Prop :=
  ∃ value, canonicalJson platform property.2 = .ok value ∧
    text = property.1.quote ++ 0x3A :: value

/-- The body of the loop over the entries of an object. -/
def renderEntry (entry : JsString × Except Thrown JsString) : Except Thrown JsString := do
  let value ← entry.2
  return entry.1.quote ++ js ":" ++ value

theorem renderEntries_inv {properties : List (JsString × JsValue)} {texts : List JsString}
    (rendered : ((properties.map fun property =>
        (property.1, canonicalJson platform property.2)).mapM renderEntry) = Except.ok texts) :
    List.Forall₂ (RendersProperty platform) properties texts := by
  induction properties generalizing texts with
  | nil =>
      cases rendered
      exact .nil
  | cons property rest ih =>
      rw [List.map_cons, List.mapM_cons, renderEntry] at rendered
      cases first : canonicalJson platform property.2 with
      | error error =>
          rw [first] at rendered
          cases rendered
      | ok value =>
          cases more : (rest.map fun property =>
              (property.1, canonicalJson platform property.2)).mapM renderEntry with
          | error error =>
              rw [first, more] at rendered
              cases rendered
          | ok others =>
              rw [first, more] at rendered
              cases rendered
              refine .cons ⟨value, first, ?_⟩ (ih more)
              rw [List.append_assoc]
              rfl

theorem canonicalJson_array_inv {items : List JsValue} {text : JsString}
    (rendered : canonicalJson platform (.array items) = .ok text) :
    ∃ texts, List.Forall₂ (fun item text => canonicalJson platform item = .ok text) items texts ∧
      text = 0x5B :: (joined 0x2C texts ++ [0x5D]) := by
  rw [canonicalJson] at rendered
  cases each : canonicalItems platform items with
  | error error =>
      rw [each] at rendered
      cases rendered
  | ok texts =>
      rw [each] at rendered
      cases rendered
      refine ⟨texts, canonicalItems_ok each, ?_⟩
      rw [← join_eq_joined]
      rfl

theorem canonicalJson_object_inv {properties : List (JsString × JsValue)} {text : JsString}
    (rendered : canonicalJson platform (.object properties) = .ok text) :
    ∃ texts, List.Forall₂ (RendersProperty platform) (properties.insertionSort entryLe) texts ∧
      text = 0x7B :: (joined 0x2C texts ++ [0x7D]) := by
  have sorts : (canonicalProperties platform properties).insertionSort entryLe =
      (properties.insertionSort entryLe).map fun property =>
        (property.1, canonicalJson platform property.2) := by
    rw [canonicalProperties_eq_map]
    exact (List.map_insertionSort entryLe entryLe
      (fun property : JsString × JsValue => (property.1, canonicalJson platform property.2))
      properties fun _ _ _ _ => Iff.rfl).symm
  rw [canonicalJson] at rendered
  split at rendered
  · cases rendered
  · simp only [sorts, bind, Except.bind, pure, Except.pure] at rendered
    split at rendered
    · cases rendered
    · rename_i texts each
      cases rendered
      refine ⟨texts, renderEntries_inv each, ?_⟩
      rw [← join_eq_joined]
      rfl

/-! ## Reading a canonical text -/

/-- What the first unit of a canonical text tells. -/
inductive Opening where
  | null
  | boolean (value : Bool)
  | number
  | string
  | array
  | object

def openingOf (unit : UInt16) : Option Opening :=
  if isNumeric unit then some .number
  else if unit = 0x6E then some .null
  else if unit = 0x74 then some (.boolean true)
  else if unit = 0x66 then some (.boolean false)
  else if unit = 0x22 then some .string
  else if unit = 0x5B then some .array
  else if unit = 0x7B then some .object
  else none

/-- The kind of a value that has a text. -/
def JsValue.opening : JsValue → Option Opening
  | .null => some .null
  | .boolean value => some (.boolean value)
  | .number _ => some .number
  | .string _ => some .string
  | .array _ => some .array
  | .object _ => some .object
  | .undefined => none
  | .unsupported _ => none

theorem canonicalJson_opening (formats : platform.Formats numbers) {value : JsValue}
    {text : JsString} (within : value.Over numbers) (rendered : canonicalJson platform value = .ok text) :
    ∃ unit more opening, text = unit :: more ∧ openingOf unit = some opening ∧
      value.opening = some opening := by
  cases value with
  | null =>
      cases rendered
      exact ⟨_, _, _, rfl, rfl, rfl⟩
  | undefined => cases rendered
  | boolean value =>
      cases value <;> cases rendered <;> exact ⟨_, _, _, rfl, rfl, rfl⟩
  | number value =>
      cases value with
      | finite value =>
          obtain ⟨nonempty, numeric⟩ := formats.numeric value within
          cases rendered
          obtain ⟨unit, more, same⟩ := List.exists_cons_of_ne_nil nonempty
          refine ⟨unit, more, _, same, ?_, rfl⟩
          rw [openingOf, numeric unit (same ▸ List.mem_cons_self), if_pos rfl]
      | nan => cases rendered
      | infinity => cases rendered
      | negativeInfinity => cases rendered
  | string value =>
      cases rendered
      exact ⟨_, _, _, rfl, rfl, rfl⟩
  | array items =>
      obtain ⟨_, _, rfl⟩ := canonicalJson_array_inv rendered
      exact ⟨_, _, _, rfl, rfl, rfl⟩
  | object properties =>
      obtain ⟨_, _, rfl⟩ := canonicalJson_object_inv rendered
      exact ⟨_, _, _, rfl, rfl, rfl⟩
  | unsupported type => cases rendered

/-- The canonical texts, and what they say. -/
def Reads (platform : Platform) (numbers : Rat → Prop) (meaning : JsValue) (text : JsString) : Prop :=
  ∃ value : JsValue, value.Over numbers ∧ canonicalJson platform value = .ok text ∧
    value.sorted = meaning

/-- The same for an entry of an object. -/
def ReadsEntry (platform : Platform) (numbers : Rat → Prop) (meaning : JsString × JsValue)
    (text : JsString) : Prop :=
  ∃ value, Reads platform numbers meaning.2 value ∧ text = meaning.1.quote ++ 0x3A :: value

/-- What may follow a number. -/
def EndsNumber (rest : JsString) : Prop := ∀ unit more, rest = unit :: more → isNumeric unit = false

theorem endsNumber_cons {unit : UInt16} (other : isNumeric unit = false) (more : JsString) :
    EndsNumber (unit :: more) := by
  intro first rest same
  cases same
  exact other

theorem takeWhile_isNumeric {text rest : JsString} (numeric : ∀ unit ∈ text, isNumeric unit = true)
    (ends : EndsNumber rest) : (text ++ rest).takeWhile isNumeric = text := by
  have stops : rest.takeWhile isNumeric = [] := by
    cases rest with
    | nil => rfl
    | cons unit more => rw [List.takeWhile_cons_of_neg (by rw [ends unit more rfl]; exact Bool.false_ne_true)]
  rw [List.takeWhile_append_of_pos numeric, stops, List.append_nil]

theorem entry_unmistakable {key : JsString} {meaning : JsValue} {value : JsString}
    (alone : Unmistakable (Reads platform numbers) EndsNumber meaning value) :
    Unmistakable (ReadsEntry platform numbers) EndsNumber (key, meaning)
      (key.quote ++ 0x3A :: value) := by
  rintro ⟨other, second⟩ _ rest remainder ⟨reading, denotes, rfl⟩ ends finishes same
  rw [List.append_assoc, List.append_assoc] at same
  obtain ⟨rfl, left⟩ := JsString.quote_unmistakable key other _ _ _ ⟨trivial, rfl⟩ trivial trivial
    same
  obtain ⟨rfl, ending⟩ := alone second reading rest remainder denotes ends finishes
    (List.cons.inj left).2
  exact ⟨rfl, ending⟩

theorem opening_eq (formats : platform.Formats numbers) {value other : JsValue}
    {text reading rest remainder : JsString} (within : value.Over numbers)
    (rendered : canonicalJson platform value = .ok text) (further : other.Over numbers)
    (renders : canonicalJson platform other = .ok reading)
    (same : text ++ rest = reading ++ remainder) : value.opening = other.opening := by
  obtain ⟨unit, more, _, rfl, opens, kind⟩ := canonicalJson_opening formats within rendered
  obtain ⟨first, others, _, rfl, starts, other⟩ := canonicalJson_opening formats further renders
  rw [kind, other, ← opens, ← starts, (List.cons.inj same).1]

/-- No canonical text starts with a closing mark. -/
theorem reads_ne_close (formats : platform.Formats numbers) {close : UInt16}
    (closes : openingOf close = none) (meaning : JsValue) (text : JsString)
    (reads : Reads platform numbers meaning text) (more after : JsString) :
    text ++ more ≠ close :: after := by
  intro same
  obtain ⟨value, within, rendered, _⟩ := reads
  obtain ⟨unit, others, _, rfl, opens, _⟩ := canonicalJson_opening formats within rendered
  cases (List.cons.inj same).1
  rw [closes] at opens
  cases opens

/-! ### Items and properties -/

/-- The text of a value can be read in one way. -/
def ReadsOnly (platform : Platform) (numbers : Rat → Prop) (value : JsValue) : Prop :=
  ∀ text, value.Over numbers → canonicalJson platform value = .ok text →
    Unmistakable (Reads platform numbers) EndsNumber value.sorted text

theorem reads_items {items : List JsValue} {texts : List JsString}
    (within : ∀ item ∈ items, item.Over numbers)
    (each : List.Forall₂ (fun item text => canonicalJson platform item = .ok text) items texts) :
    List.Forall₂ (Reads platform numbers) (items.map JsValue.sorted) texts := by
  rw [List.forall₂_map_left_iff]
  refine ((List.forall₂_and_left _ _).mpr ⟨within, each⟩).imp ?_
  rintro item text ⟨within, rendered⟩
  exact ⟨item, within, rendered, rfl⟩

theorem unmistakable_items {items : List JsValue} {texts : List JsString}
    (only : ∀ item ∈ items, ReadsOnly platform numbers item)
    (within : ∀ item ∈ items, item.Over numbers)
    (each : List.Forall₂ (fun item text => canonicalJson platform item = .ok text) items texts) :
    List.Forall₂ (Unmistakable (Reads platform numbers) EndsNumber) (items.map JsValue.sorted)
      texts := by
  rw [List.forall₂_map_left_iff]
  refine ((List.forall₂_and_left _ _).mpr ⟨only, (List.forall₂_and_left _ _).mpr
    ⟨within, each⟩⟩).imp ?_
  rintro item text ⟨only, within, rendered⟩
  exact only text within rendered

section Properties

variable {properties : List (JsString × JsValue)} {texts : List JsString}

theorem sorted_object (properties : List (JsString × JsValue)) :
    (JsValue.object properties).sorted = .object ((properties.insertionSort entryLe).map
      fun property => (property.1, property.2.sorted)) := by
  rw [JsValue.sorted, JsValue.sortedProperties_eq_map, List.map_insertionSort entryLe entryLe
    (fun property : JsString × JsValue => (property.1, property.2.sorted)) properties
    fun _ _ _ _ => Iff.rfl]

theorem reads_properties (within : ∀ property ∈ properties, property.2.Over numbers)
    (each : List.Forall₂ (RendersProperty platform) properties texts) :
    List.Forall₂ (ReadsEntry platform numbers)
      (properties.map fun property => (property.1, property.2.sorted)) texts := by
  rw [List.forall₂_map_left_iff]
  refine ((List.forall₂_and_left _ _).mpr ⟨within, each⟩).imp ?_
  rintro property text ⟨within, value, rendered, rfl⟩
  exact ⟨value, ⟨property.2, within, rendered, rfl⟩, rfl⟩

theorem unmistakable_properties
    (only : ∀ property ∈ properties, ReadsOnly platform numbers property.2)
    (within : ∀ property ∈ properties, property.2.Over numbers)
    (each : List.Forall₂ (RendersProperty platform) properties texts) :
    List.Forall₂ (Unmistakable (ReadsEntry platform numbers) EndsNumber)
      (properties.map fun property => (property.1, property.2.sorted)) texts := by
  rw [List.forall₂_map_left_iff]
  refine ((List.forall₂_and_left _ _).mpr ⟨only, (List.forall₂_and_left _ _).mpr
    ⟨within, each⟩⟩).imp ?_
  rintro property text ⟨only, within, value, rendered, rfl⟩
  exact entry_unmistakable (only value within rendered)

theorem readsEntry_ne_close (meaning : JsString × JsValue) (text : JsString)
    (reads : ReadsEntry platform numbers meaning text) (more after : JsString) :
    text ++ more ≠ 0x7D :: after := by
  intro same
  obtain ⟨value, _, rfl⟩ := reads
  cases (List.cons.inj same).1

end Properties

/-- **Canonical texts.** A canonical text tells the value, up to the order of properties,
and where it ends. -/
theorem canonicalJson_unmistakable (formats : platform.Formats numbers) (value : JsValue) :
    ReadsOnly platform numbers value := by
  have comma : ∀ more, EndsNumber (0x2C :: more) := endsNumber_cons rfl
  induction value using JsValue.induction with
  | null =>
      rintro text within rendered _ reading rest remainder ⟨other, further, renders, rfl⟩ _ _ same
      have opens := opening_eq formats within rendered further renders same
      cases other with
      | null =>
          cases rendered
          cases renders
          exact ⟨rfl, List.append_cancel_left same⟩
      | _ => cases opens
  | undefined => exact fun _ _ rendered => by cases rendered
  | boolean value =>
      rintro text within rendered _ reading rest remainder ⟨other, further, renders, rfl⟩ _ _ same
      have opens := opening_eq formats within rendered further renders same
      cases other with
      | boolean other =>
          cases opens
          cases rendered
          cases renders
          exact ⟨rfl, List.append_cancel_left same⟩
      | _ => cases opens
  | number value =>
      rintro text within rendered _ reading rest remainder ⟨other, further, renders, rfl⟩ ends finishes
        same
      have opens := opening_eq formats within rendered further renders same
      cases other with
      | number other =>
          cases value with
          | finite value =>
              cases other with
              | finite other =>
                  cases rendered
                  cases renders
                  -- a number ends where the numeric units end
                  have texts := congrArg (List.takeWhile isNumeric) same
                  rw [takeWhile_isNumeric (formats.numeric value within).2 ends,
                    takeWhile_isNumeric (formats.numeric other further).2 finishes] at texts
                  rw [texts] at same
                  cases formats.distinct value other within further texts
                  exact ⟨rfl, List.append_cancel_left same⟩
              | _ => cases renders
          | _ => cases rendered
      | _ => cases opens
  | string value =>
      rintro text within rendered _ reading rest remainder ⟨other, further, renders, rfl⟩ _ _ same
      have opens := opening_eq formats within rendered further renders same
      cases other with
      | string other =>
          cases rendered
          cases renders
          obtain ⟨rfl, left⟩ := JsString.quote_unmistakable value other _ _ _ ⟨trivial, rfl⟩ trivial
            trivial same
          exact ⟨rfl, left⟩
      | _ => cases opens
  | array items ih =>
      rintro text within rendered _ reading rest remainder ⟨other, further, renders, rfl⟩ _ _ same
      have opens := opening_eq formats within rendered further renders same
      cases other with
      | array others =>
          obtain ⟨texts, each, rfl⟩ := canonicalJson_array_inv rendered
          obtain ⟨readings, every, rfl⟩ := canonicalJson_array_inv renders
          rw [JsValue.Over, JsValue.itemsOver_iff] at within further
          rw [List.cons_append, List.cons_append, List.append_assoc, List.append_assoc] at same
          obtain ⟨items, left⟩ := eq_of_joined (by decide) comma (endsNumber_cons rfl)
            (reads_ne_close formats rfl) (unmistakable_items ih within each) (reads_items within each)
            (reads_items further every) (List.cons.inj same).2
          rw [JsValue.sorted, JsValue.sorted, JsValue.sortedItems_eq_map,
            JsValue.sortedItems_eq_map, items]
          exact ⟨rfl, left⟩
      | _ => cases opens
  | object properties ih =>
      rintro text within rendered _ reading rest remainder ⟨other, further, renders, rfl⟩ _ _ same
      have opens := opening_eq formats within rendered further renders same
      cases other with
      | object others =>
          obtain ⟨texts, each, rfl⟩ := canonicalJson_object_inv rendered
          obtain ⟨readings, every, rfl⟩ := canonicalJson_object_inv renders
          rw [JsValue.Over, JsValue.propertiesOver_iff] at within further
          have inOrder : ∀ {properties : List (JsString × JsValue)} {holds : JsValue → Prop},
              (∀ property ∈ properties, holds property.2) →
              ∀ property ∈ properties.insertionSort entryLe, holds property.2 :=
            fun each property member => each property ((List.mem_insertionSort entryLe).mp member)
          rw [List.cons_append, List.cons_append, List.append_assoc, List.append_assoc] at same
          obtain ⟨properties, left⟩ := eq_of_joined (by decide) comma (endsNumber_cons rfl)
            readsEntry_ne_close (unmistakable_properties (inOrder ih) (inOrder within) each)
            (reads_properties (inOrder within) each) (reads_properties (inOrder further) every)
            (List.cons.inj same).2
          rw [sorted_object, sorted_object, properties]
          exact ⟨rfl, left⟩
      | _ => cases opens
  | unsupported type => exact fun _ _ rendered => by cases rendered

theorem sorted_eq_of_canonicalJson (formats : platform.Formats numbers) {first second : JsValue}
    {text : JsString} (within : first.Over numbers) (further : second.Over numbers)
    (rendered : canonicalJson platform first = .ok text)
    (renders : canonicalJson platform second = .ok text) : first.sorted = second.sorted := by
  have none : EndsNumber [] := fun _ _ same => by cases same
  exact (canonicalJson_unmistakable formats first text within rendered second.sorted text [] []
    ⟨second, further, renders, rfl⟩ none none rfl).1

/-! ## Canonical texts as bytes -/

theorem isText_joined {texts : List JsString} (each : ∀ text ∈ texts, text.IsText) :
    JsString.IsText (joined 0x2C texts) := by
  have comma : JsString.IsText [0x2C] := JsString.isText_of_ascii (JsString.ascii_of_all (by decide))
  cases texts with
  | nil => exact .nil
  | cons first rest =>
      obtain ⟨here, others⟩ := List.forall_mem_cons.mp each
      refine here.append ?_
      induction rest with
      | nil => exact .nil
      | cons second rest ih =>
          obtain ⟨next, more⟩ := List.forall_mem_cons.mp others
          rw [separated, List.flatMap_cons]
          exact (comma.append next).append (ih (List.forall_mem_cons.mpr ⟨here, more⟩) more)

theorem forall_mem_of_forall₂ {α β : Type} {relates : α → β → Prop} {holds : β → Prop}
    {items : List α} {texts : List β} (each : List.Forall₂ relates items texts)
    (all : ∀ item ∈ items, ∀ text, relates item text → holds text) : ∀ text ∈ texts, holds text := by
  induction each with
  | nil => exact fun _ member => (List.not_mem_nil member).elim
  | cons related _ ih =>
      obtain ⟨first, others⟩ := List.forall_mem_cons.mp all
      exact List.forall_mem_cons.mpr ⟨first _ related, ih others⟩

theorem isText_canonicalJson (formats : platform.Formats numbers) (value : JsValue) :
    ∀ text, value.Over numbers → canonicalJson platform value = .ok text → text.IsText := by
  have ascii : ∀ {text : JsString}, (∀ unit ∈ text, 0 < unit ∧ unit < 0x80) → text.IsText :=
    JsString.isText_of_ascii
  induction value using JsValue.induction with
  | null =>
      intro text _ rendered
      cases rendered
      exact ascii (JsString.ascii_of_all (by decide))
  | undefined => exact fun _ _ rendered => by cases rendered
  | boolean value =>
      intro text _ rendered
      cases rendered
      cases value <;> exact ascii (JsString.ascii_of_all (by decide))
  | number value =>
      intro text within rendered
      cases value with
      | finite value =>
          cases rendered
          refine ascii fun unit member => ?_
          have numeric := (formats.numeric value within).2 unit member
          simp only [isNumeric, Bool.or_eq_true, Bool.and_eq_true, decide_eq_true_eq, beq_iff_eq]
            at numeric
          have positive : (0 : UInt16) < unit ↔ 0 < unit.toNat := Iff.rfl
          have below : unit < 0x80 ↔ unit.toNat < 0x80 := Iff.rfl
          rw [positive, below]
          rcases numeric with (((⟨least, most⟩ | rfl) | rfl) | rfl) | rfl
          · have least : 48 ≤ unit.toNat := least
            have most : unit.toNat ≤ 57 := most
            omega
          all_goals decide
      | _ => cases rendered
  | string value =>
      intro text _ rendered
      cases rendered
      exact JsString.isText_quote value
  | array items ih =>
      intro text within rendered
      obtain ⟨texts, each, rfl⟩ := canonicalJson_array_inv rendered
      rw [JsValue.Over, JsValue.itemsOver_iff] at within
      have texts := forall_mem_of_forall₂ each fun item member text rendered =>
        ih item member text (within item member) rendered
      have opens : JsString.IsText [0x5B] := ascii (JsString.ascii_of_all (by decide))
      have closes : JsString.IsText [0x5D] := ascii (JsString.ascii_of_all (by decide))
      exact opens.append ((isText_joined texts).append closes)
  | object properties ih =>
      intro text within rendered
      obtain ⟨texts, each, rfl⟩ := canonicalJson_object_inv rendered
      rw [JsValue.Over, JsValue.propertiesOver_iff] at within
      have texts : ∀ text ∈ texts, JsString.IsText text := by
        refine forall_mem_of_forall₂ each ?_
        rintro property member _ ⟨value, rendered, rfl⟩
        have listed := (List.mem_insertionSort entryLe).mp member
        have colon : JsString.IsText [0x3A] := ascii (JsString.ascii_of_all (by decide))
        exact (JsString.isText_quote property.1).append
          (colon.append (ih property listed value (within property listed) rendered))
      have opens : JsString.IsText [0x7B] := ascii (JsString.ascii_of_all (by decide))
      have closes : JsString.IsText [0x7D] := ascii (JsString.ascii_of_all (by decide))
      exact opens.append ((isText_joined texts).append closes)
  | unsupported type => exact fun _ _ rendered => by cases rendered

/-! ## The order of properties -/

theorem JsValue.isUndefined_sorted (value : JsValue) :
    value.sorted.isUndefined = value.isUndefined := by
  cases value <;> rw [JsValue.sorted] <;> rfl

instance {α : Type} : Std.Total (entryLe (α := α)) :=
  ⟨fun left right => List.le_total left.1 right.1⟩

instance {α : Type} : IsTrans (JsString × α) entryLe :=
  ⟨fun _ _ _ first second => List.le_trans first second⟩

/-- The order of properties does not show in a canonical text. -/
theorem canonicalJson_sorted (value : JsValue) :
    canonicalJson platform value.sorted = canonicalJson platform value := by
  induction value using JsValue.induction with
  | array items ih =>
      have each : canonicalItems platform (items.map JsValue.sorted) =
          canonicalItems platform items := by
        induction items with
        | nil => rfl
        | cons item rest more =>
            obtain ⟨first, others⟩ := List.forall_mem_cons.mp ih
            rw [List.map_cons, canonicalItems, canonicalItems, first, more others]
      rw [JsValue.sorted, JsValue.sortedItems_eq_map, canonicalJson, canonicalJson, each]
  | object properties ih =>
      have undefined : ((properties.map fun property =>
          (property.1, property.2.sorted)).insertionSort entryLe).any
            (fun property => property.2.isUndefined) =
          properties.any fun property => property.2.isUndefined := by
        rw [(List.perm_insertionSort entryLe _).any_eq, List.any_map]
        congr 1
        funext property
        exact JsValue.isUndefined_sorted property.2
      have entries : (properties.map fun property => (property.1, property.2.sorted)).map
          (fun property => (property.1, canonicalJson platform property.2)) =
          properties.map fun property => (property.1, canonicalJson platform property.2) := by
        rw [List.map_map]
        apply List.map_congr_left
        intro property member
        exact congrArg (Prod.mk property.1) (ih property member)
      have sorts : (canonicalProperties platform ((properties.map fun property =>
          (property.1, property.2.sorted)).insertionSort entryLe)).insertionSort entryLe =
          (canonicalProperties platform properties).insertionSort entryLe := by
        rw [canonicalProperties_eq_map, canonicalProperties_eq_map,
          List.map_insertionSort entryLe entryLe (fun property : JsString × JsValue =>
            (property.1, canonicalJson platform property.2)) _ fun _ _ _ _ => Iff.rfl, entries]
        exact List.Pairwise.insertionSort_eq (List.pairwise_insertionSort entryLe _)
      rw [JsValue.sorted, JsValue.sortedProperties_eq_map, canonicalJson, canonicalJson, undefined,
        sorts]
  | _ => rw [JsValue.sorted]

end Renderings

/-! ## Objects with the same names -/

theorem eq_of_perm_of_keys {α : Type} {first second : List (JsString × α)}
    (distinct : (first.map Prod.fst).Nodup) (names : first.map Prod.fst = second.map Prod.fst)
    (permuted : first.Perm second) : first = second := by
  induction first generalizing second with
  | nil => exact (List.nil_perm.mp permuted).symm
  | cons property rest ih =>
      cases second with
      | nil => cases names
      | cons other others =>
          rw [List.map_cons, List.map_cons, List.cons.injEq] at names
          obtain ⟨name, names⟩ := names
          obtain ⟨fresh, distinct⟩ := List.nodup_cons.mp distinct
          rcases List.mem_cons.mp (permuted.mem_iff.mp List.mem_cons_self) with rfl | later
          · rw [ih distinct names (List.Perm.cons_inv permuted)]
          · exact (fresh (names ▸ List.mem_map_of_mem later)).elim

/-- Objects with the same distinct names have the same values if they are the same in
the order of their names. -/
theorem JsValue.values_eq_of_sorted {first second : List (JsString × JsValue)}
    (distinct : (first.map Prod.fst).Nodup) (names : first.map Prod.fst = second.map Prod.fst)
    (same : (JsValue.object first).sorted = (JsValue.object second).sorted) :
    first.map (fun property => property.2.sorted) =
      second.map fun property => property.2.sorted := by
  rw [sorted, sorted, sortedProperties_eq_map, sortedProperties_eq_map, object.injEq] at same
  have permuted := ((List.perm_insertionSort entryLe _).symm.trans
    (List.Perm.of_eq same)).trans (List.perm_insertionSort entryLe _)
  have equal := eq_of_perm_of_keys (by rwa [List.map_map]) (by rwa [List.map_map, List.map_map])
    permuted
  have values := congrArg (List.map Prod.snd) equal
  rwa [List.map_map, List.map_map] at values

end InterWeave
