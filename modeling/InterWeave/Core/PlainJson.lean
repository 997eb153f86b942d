import InterWeave.Core.Fingerprints

/-! # Requests that are the same JSON

Plain JSON values have a canonical text, and two of them have the same one exactly when they are the
same up to the order of the properties of each object in them. The order is taken out by sorting,
and the text tells what is left. Where the hash has no collision, fingerprints say the same.
-/

namespace InterWeave

namespace JsValue

variable {numbers : Rat → Prop}

mutual

/-- A plain JSON value over some numbers, whose objects have distinct names. -/
def Plain (numbers : Rat → Prop) : JsValue → Prop
  | .null | .boolean _ | .string _ => True
  | .number (.finite value) => numbers value
  | .array items => plainItems numbers items
  | .object properties => (properties.map Prod.fst).Nodup ∧ plainProperties numbers properties
  | _ => False

def plainItems (numbers : Rat → Prop) : List JsValue → Prop
  | [] => True
  | item :: rest => item.Plain numbers ∧ plainItems numbers rest

def plainProperties (numbers : Rat → Prop) : List (JsString × JsValue) → Prop
  | [] => True
  | (_, value) :: rest => value.Plain numbers ∧ plainProperties numbers rest

end

mutual

/-- The same JSON: arrays item by item, and objects of the same names value by value. -/
def Same : JsValue → JsValue → Prop
  | .null, other => other = .null
  | .boolean value, other => other = .boolean value
  | .number value, other => other = .number value
  | .string value, other => other = .string value
  | .array items, other => ∃ others, other = .array others ∧ sameItems items others
  | .object properties, other => ∃ others, other = .object others ∧
      sameProperties properties others ∧
      ∀ property ∈ others, property.1 ∈ properties.map Prod.fst
  | .undefined, _ => False
  | .unsupported _, _ => False

def sameItems : List JsValue → List JsValue → Prop
  | [], others => others = []
  | item :: rest, others => ∃ other more, others = other :: more ∧ item.Same other ∧
      sameItems rest more

/-- Each property has one of the same name and value among others. -/
def sameProperties : List (JsString × JsValue) → List (JsString × JsValue) → Prop
  | [], _ => True
  | (key, value) :: rest, others => (∃ other, (key, other) ∈ others ∧ value.Same other) ∧
      sameProperties rest others

end

theorem plainItems_iff {items : List JsValue} :
    plainItems numbers items ↔ ∀ item ∈ items, item.Plain numbers := by
  induction items with
  | nil => simp only [plainItems, List.not_mem_nil, false_implies, implies_true]
  | cons item rest ih => rw [plainItems, ih, List.forall_mem_cons]

theorem plainProperties_iff {properties : List (JsString × JsValue)} :
    plainProperties numbers properties ↔ ∀ property ∈ properties, property.2.Plain numbers := by
  induction properties with
  | nil => simp only [plainProperties, List.not_mem_nil, false_implies, implies_true]
  | cons property rest ih => rw [plainProperties, ih, List.forall_mem_cons]

theorem sameItems_iff {items others : List JsValue} :
    sameItems items others ↔ List.Forall₂ Same items others := by
  induction items generalizing others with
  | nil => rw [sameItems, List.forall₂_nil_left_iff]
  | cons item rest ih =>
      rw [sameItems, List.forall₂_cons_left_iff]
      constructor
      · rintro ⟨other, more, rfl, same, further⟩
        exact ⟨other, more, same, ih.mp further, rfl⟩
      · rintro ⟨other, more, same, further, rfl⟩
        exact ⟨other, more, rfl, same, ih.mpr further⟩

theorem sameProperties_iff {properties others : List (JsString × JsValue)} :
    sameProperties properties others ↔
      ∀ property ∈ properties, ∃ other, (property.1, other) ∈ others ∧ property.2.Same other := by
  induction properties with
  | nil => simp only [sameProperties, List.not_mem_nil, false_implies, implies_true]
  | cons property rest ih => rw [sameProperties, ih, List.forall_mem_cons]

/-- Plain values are over their numbers. -/
theorem Plain.over {value : JsValue} : value.Plain numbers → value.Over numbers := by
  induction value using JsValue.induction with
  | number value =>
      cases value with
      | finite value => exact id
      | _ => exact False.elim
  | array items ih =>
      rw [Plain, Over, plainItems_iff, itemsOver_iff]
      exact fun plain item member => ih item member (plain item member)
  | object properties ih =>
      rw [Plain, Over, plainProperties_iff, propertiesOver_iff]
      exact fun plain property member => ih property member (plain.2 property member)
  | _ => exact fun _ => trivial

theorem Plain.isUndefined {value : JsValue} (plain : value.Plain numbers) :
    value.isUndefined = false := by
  cases value with
  | undefined => exact plain.elim
  | _ => rfl

/-! ## Sorted values -/

/-- Objects of distinct names with the same properties are the same once they are sorted. -/
theorem insertionSort_eq_of_mem {properties others : List (JsString × JsValue)}
    (distinct : (properties.map Prod.fst).Nodup) (apart : (others.map Prod.fst).Nodup)
    (same : ∀ property, property ∈ properties ↔ property ∈ others) :
    properties.insertionSort entryLe = others.insertionSort entryLe := by
  have permuted : properties.Perm others :=
    (List.perm_ext_iff_of_nodup distinct.of_map apart.of_map).mpr same
  apply List.Perm.eq_of_pairwise _ (List.pairwise_insertionSort entryLe properties)
    (List.pairwise_insertionSort entryLe others)
  · exact ((List.perm_insertionSort entryLe _).trans permuted).trans
      (List.perm_insertionSort entryLe _).symm
  · intro first second among member before after
    rw [List.mem_insertionSort, same] at among
    rw [List.mem_insertionSort] at member
    exact List.inj_on_of_nodup_map apart among member (List.le_antisymm before after)

theorem map_sorted_fst (properties : List (JsString × JsValue)) :
    (properties.map fun property => (property.1, property.2.sorted)).map Prod.fst =
      properties.map Prod.fst := by
  rw [List.map_map]
  rfl

theorem map_sorted_eq_iff {items others : List JsValue}
    (each : ∀ item ∈ items, ∀ other : JsValue, other.Plain numbers →
      (item.sorted = other.sorted ↔ item.Same other))
    (further : ∀ other ∈ others, other.Plain numbers) :
    items.map sorted = others.map sorted ↔ List.Forall₂ Same items others := by
  induction items generalizing others with
  | nil => rw [List.map_nil, List.nil_eq, List.map_eq_nil_iff, List.forall₂_nil_left_iff]
  | cons item rest ih =>
      cases others with
      | nil => simp
      | cons other more =>
          obtain ⟨here, later⟩ := List.forall_mem_cons.mp each
          obtain ⟨first, second⟩ := List.forall_mem_cons.mp further
          rw [List.map_cons, List.map_cons, List.cons.injEq, here other first, ih later second,
            List.forall₂_cons]

/-- An object has the properties of another, up to sorting, if it is the same. -/
theorem mem_map_sorted_iff {properties others : List (JsString × JsValue)}
    (each : ∀ property ∈ properties, ∀ other : JsValue, other.Plain numbers →
      (property.2.sorted = other.sorted ↔ property.2.Same other))
    (apart : (others.map Prod.fst).Nodup)
    (further : ∀ property ∈ others, property.2.Plain numbers)
    (same : sameProperties properties others)
    (named : ∀ property ∈ others, property.1 ∈ properties.map Prod.fst)
    (entry : JsString × JsValue) :
    entry ∈ properties.map (fun property => (property.1, property.2.sorted)) ↔
      entry ∈ others.map fun property => (property.1, property.2.sorted) := by
  rw [sameProperties_iff] at same
  rw [List.mem_map, List.mem_map]
  constructor
  · rintro ⟨property, member, rfl⟩
    obtain ⟨other, among, equal⟩ := same property member
    refine ⟨(property.1, other), among, Prod.ext rfl ?_⟩
    exact ((each property member other (further _ among)).mpr equal).symm
  · rintro ⟨property, member, rfl⟩
    obtain ⟨own, among, name⟩ := List.mem_map.mp (named property member)
    obtain ⟨other, there, equal⟩ := same own among
    have found : (own.1, other) = property := List.inj_on_of_nodup_map apart there member name
    refine ⟨own, among, Prod.ext name ?_⟩
    rw [← found]
    exact (each own among other (further _ there)).mpr equal

/-- **The order of properties is all that sorting loses.** -/
theorem sorted_eq_iff {value other : JsValue} (plain : value.Plain numbers)
    (further : other.Plain numbers) : value.sorted = other.sorted ↔ value.Same other := by
  induction value using JsValue.induction generalizing other with
  | undefined => exact plain.elim
  | unsupported type => exact plain.elim
  | array items ih =>
      cases other with
      | array others =>
          rw [Plain, plainItems_iff] at plain further
          have each := map_sorted_eq_iff
            (fun item member other => ih item member (plain item member)) further
          rw [sorted, sorted, sortedItems_eq_map, sortedItems_eq_map, array.injEq, each, Same,
            ← sameItems_iff]
          simp only [array.injEq, exists_eq_left']
      | _ => simp [sorted, Same]
  | object properties ih =>
      cases other with
      | object others =>
          rw [Plain, plainProperties_iff] at plain further
          obtain ⟨distinct, plain⟩ := plain
          obtain ⟨apart, further⟩ := further
          have each : ∀ property ∈ properties, ∀ other : JsValue, other.Plain numbers →
              (property.2.sorted = other.sorted ↔ property.2.Same other) :=
            fun property member other => ih property member (plain property member)
          rw [sorted, sorted, sortedProperties_eq_map, sortedProperties_eq_map, object.injEq, Same]
          constructor
          · intro equal
            have permuted := ((List.perm_insertionSort entryLe _).symm.trans
              (List.Perm.of_eq equal)).trans (List.perm_insertionSort entryLe _)
            refine ⟨others, rfl, sameProperties_iff.mpr fun property member => ?_,
              fun property member => ?_⟩
            · have shown := permuted.mem_iff.mp (List.mem_map_of_mem member)
              obtain ⟨other, among, same⟩ := List.mem_map.mp shown
              rw [Prod.mk.injEq] at same
              rw [← same.1]
              exact ⟨other.2, among, (each property member _ (further other among)).mp same.2.symm⟩
            · have names := (permuted.map Prod.fst).mem_iff.mpr
                (List.mem_map_of_mem (List.mem_map_of_mem member))
              rwa [map_sorted_fst] at names
          · rintro ⟨_, known, same, named⟩
            cases known
            apply insertionSort_eq_of_mem
            · rwa [map_sorted_fst]
            · rwa [map_sorted_fst]
            · exact mem_map_sorted_iff each apart further same named
      | _ => simp [sorted, Same]
  | _ => cases other <;> simp [sorted, Same, eq_comm]

end JsValue

/-! ## Canonical texts -/

section Texts

variable {platform : Platform} {numbers : Rat → Prop} {first second : JsValue}

/-- Plain values are accepted. -/
theorem JsValue.Plain.canonicalJson_ok {value : JsValue} (plain : value.Plain numbers) :
    ∃ text, canonicalJson platform value = .ok text := by
  induction value using JsValue.induction with
  | null => exact ⟨_, rfl⟩
  | boolean value => exact ⟨_, rfl⟩
  | string value => exact ⟨_, rfl⟩
  | undefined => exact plain.elim
  | unsupported type => exact plain.elim
  | number value =>
      cases value with
      | finite value => exact ⟨_, rfl⟩
      | _ => exact plain.elim
  | array items ih =>
      rw [JsValue.Plain, JsValue.plainItems_iff] at plain
      have renders : ∃ texts, canonicalItems platform items = .ok texts := by
        induction items with
        | nil => exact ⟨[], rfl⟩
        | cons item rest more =>
            obtain ⟨here, later⟩ := List.forall_mem_cons.mp ih
            obtain ⟨own, others⟩ := List.forall_mem_cons.mp plain
            obtain ⟨text, rendered⟩ := here own
            obtain ⟨texts, remaining⟩ := more later others
            refine ⟨text :: texts, ?_⟩
            rw [canonicalItems, rendered, remaining]
            rfl
      obtain ⟨texts, rendered⟩ := renders
      rw [canonicalJson, rendered]
      exact ⟨_, rfl⟩
  | object properties ih =>
      rw [JsValue.Plain, JsValue.plainProperties_iff] at plain
      exact canonicalJson_object_ok fun property member =>
        ⟨(plain.2 property member).isUndefined, ih property member (plain.2 property member)⟩

/-- **The same text for the same JSON.** Of plain JSON values, nested to any depth, both are
accepted, and their canonical texts are equal if and only if the values are the same up to the order
of the properties of each object. Where the hash has no collision among these texts, the same holds
of the fingerprints of requests. -/
theorem canonicalJson_eq_iff (formats : platform.Formats numbers) (plain : first.Plain numbers)
    (further : second.Plain numbers) :
    ((∃ text, canonicalJson platform first = .ok text) ∧
      ∃ text, canonicalJson platform second = .ok text) ∧
    (canonicalJson platform first = canonicalJson platform second ↔ first.Same second) ∧
    (platform.CollisionFree (JsValue.Plain numbers) →
      (requestFingerprint platform first = requestFingerprint platform second ↔
        first.Same second)) := by
  obtain ⟨text, rendered⟩ : ∃ text, canonicalJson platform first = .ok text :=
    plain.canonicalJson_ok
  have renders : ∃ text, canonicalJson platform second = .ok text := further.canonicalJson_ok
  have texts : first.Same second →
      canonicalJson platform first = canonicalJson platform second := by
    intro same
    rw [← canonicalJson_sorted first, ← canonicalJson_sorted second,
      (JsValue.sorted_eq_iff plain further).mpr same]
  refine ⟨⟨⟨text, rendered⟩, renders⟩, ⟨fun equal => ?_, texts⟩,
    fun free => ⟨fun equal => ?_, fun same => ?_⟩⟩
  · rw [← JsValue.sorted_eq_iff plain further]
    exact sorted_eq_of_canonicalJson formats plain.over further.over rendered (equal ▸ rendered)
  · rw [← JsValue.sorted_eq_iff plain further]
    have hash : requestFingerprint platform first =
        .ok (js "sha256:" ++ platform.sha256Hex text.encode) := by
      rw [requestFingerprint, rendered]
      rfl
    exact sorted_eq_of_requestFingerprint formats free plain further plain.over further.over hash
      (equal ▸ hash)
  · rw [requestFingerprint, requestFingerprint, texts same]

end Texts

/-! ## Two requests -/

namespace PlainJsonExample

def amount : JsString × JsValue := (js "amount", .number (.finite 7))

def route : JsString × JsValue :=
  (js "route", .array [.string (js "canton"), .object [(js "to", .string (js "evm"))]])

theorem amount_plain : (JsValue.object [amount, route]).Plain fun value =>
    ∃ number : Nat, value = number :=
  ⟨by decide, ⟨7, rfl⟩, ⟨trivial, ⟨by decide, trivial, trivial⟩, trivial⟩, trivial⟩

theorem route_plain : (JsValue.object [route, amount]).Plain fun value =>
    ∃ number : Nat, value = number :=
  ⟨by decide, ⟨trivial, ⟨by decide, trivial, trivial⟩, trivial⟩, ⟨7, rfl⟩, trivial⟩

theorem amount_same : (JsValue.object [amount, route]).Same (.object [route, amount]) := by
  refine ⟨_, rfl, ⟨⟨amount.2, by simp [amount], rfl⟩, ⟨route.2, by simp [route], ?_⟩, trivial⟩, ?_⟩
  · refine ⟨_, rfl, _, _, rfl, rfl, _, _, rfl, ?_, rfl⟩
    exact ⟨_, rfl, ⟨⟨_, List.mem_cons_self, rfl⟩, trivial⟩, by simp⟩
  · simp [amount, route]

/-- The order of the two properties does not show in the fingerprint. -/
theorem amount_first : requestFingerprint isoPlatform (.object [amount, route]) =
    requestFingerprint isoPlatform (.object [route, amount]) :=
  ((canonicalJson_eq_iff isoPlatform_formats amount_plain route_plain).2.2
    (isoPlatform_collisionFree _)).mpr amount_same

end PlainJsonExample

end InterWeave
