import Mathlib.Data.List.Nodup

/-! # Maps in the order of insertion

A map keeps its entries in the order in which their keys were first set. Setting a key that is
present replaces its value in place; so does an update of all values. No two entries have one
key, so that looking a key up and finding an entry are the same.
-/

/-- A map, with its entries in order. -/
structure OrderedMap (Key Value : Type) where
  entries : List (Key × Value)
  nodup : (entries.map Prod.fst).Nodup

namespace OrderedMap

variable {Key Value : Type}

def empty : OrderedMap Key Value := ⟨[], List.nodup_nil⟩

/-- The values, in order. -/
def values (map : OrderedMap Key Value) : List Value := map.entries.map Prod.snd

/-- Change every value. -/
def mapValues (map : OrderedMap Key Value) (change : Value → Value) : OrderedMap Key Value where
  entries := map.entries.map fun entry => (entry.1, change entry.2)
  nodup := by
    rw [List.map_map]
    exact map.nodup

variable [DecidableEq Key]

def find? (map : OrderedMap Key Value) (key : Key) : Option Value := map.entries.lookup key

/-- Set a key: in place where it is present, at the end where it is not. -/
def set (map : OrderedMap Key Value) (key : Key) (value : Value) : OrderedMap Key Value where
  entries :=
    if key ∈ map.entries.map Prod.fst then
      map.entries.map fun entry => if entry.1 = key then (entry.1, value) else entry
    else map.entries ++ [(key, value)]
  nodup := by
    split
    · have keys : (map.entries.map fun entry => if entry.1 = key then (entry.1, value) else entry).map
          Prod.fst = map.entries.map Prod.fst := by
        rw [List.map_map]
        refine List.map_congr_left fun entry _ => ?_
        rw [Function.comp_apply]
        split <;> rfl
      rw [keys]
      exact map.nodup
    · rename_i absent
      rw [List.map_append]
      exact List.nodup_append.mpr ⟨map.nodup, List.nodup_singleton _, by
        rintro first member second last rfl
        rw [List.map_singleton, List.mem_singleton] at last
        obtain rfl : first = key := last
        exact absent member⟩

variable {map : OrderedMap Key Value} {key other : Key} {value : Value}

theorem lookup_of_mem {entries : List (Key × Value)} (nodup : (entries.map Prod.fst).Nodup)
    (member : (key, value) ∈ entries) : entries.lookup key = some value := by
  induction entries with
  | nil => exact (List.not_mem_nil member).elim
  | cons entry entries ih =>
      obtain ⟨absent, nodup⟩ := List.nodup_cons.mp nodup
      rw [List.lookup_cons]
      rcases List.mem_cons.mp member with rfl | later
      · rw [beq_self_eq_true]
      · have different : (key == entry.1) = false := by
          rw [beq_eq_false_iff_ne]
          rintro rfl
          exact absent (List.mem_map.mpr ⟨_, later, rfl⟩)
        rw [different]
        exact ih nodup later

theorem mem_of_lookup {entries : List (Key × Value)} (found : entries.lookup key = some value) :
    (key, value) ∈ entries := by
  induction entries with
  | nil => cases found
  | cons entry entries ih =>
      rw [List.lookup_cons] at found
      cases same : key == entry.1 with
      | true =>
          rw [same] at found
          cases Option.some.inj found
          rw [show key = entry.1 from beq_iff_eq.mp same]
          exact List.mem_cons_self
      | false =>
          rw [same] at found
          exact List.mem_cons_of_mem _ (ih found)

/-- What is found under a key is its entry. -/
theorem mem_entries_iff : (key, value) ∈ map.entries ↔ map.find? key = some value :=
  ⟨lookup_of_mem map.nodup, mem_of_lookup⟩

theorem mem_values_iff : value ∈ map.values ↔ ∃ key, map.find? key = some value := by
  rw [values, List.mem_map]
  constructor
  · rintro ⟨⟨key, value⟩, member, rfl⟩
    exact ⟨key, mem_entries_iff.mp member⟩
  · rintro ⟨key, found⟩
    exact ⟨(key, value), mem_entries_iff.mpr found, rfl⟩

@[simp] theorem find?_empty : (empty : OrderedMap Key Value).find? key = none := rfl

@[simp] theorem find?_set_self : (map.set key value).find? key = some value := by
  rw [← mem_entries_iff, set]
  dsimp only
  split
  · rename_i present
    obtain ⟨entry, member, rfl⟩ := List.mem_map.mp present
    exact List.mem_map.mpr ⟨entry, member, if_pos rfl⟩
  · exact List.mem_append_right _ (List.mem_singleton_self _)

theorem find?_set_of_ne (different : other ≠ key) :
    (map.set key value).find? other = map.find? other := by
  refine Option.ext fun found => ?_
  rw [← mem_entries_iff, ← mem_entries_iff, set]
  dsimp only
  split
  · rw [List.mem_map]
    constructor
    · rintro ⟨entry, member, same⟩
      split at same
      · rename_i here
        cases same
        exact absurd here different
      · exact same ▸ member
    · exact fun member => ⟨(other, found), member, if_neg different⟩
  · rw [List.mem_append, List.mem_singleton, Prod.mk.injEq, or_iff_left]
    exact fun same => different same.1

theorem find?_mapValues (change : Value → Value) :
    (map.mapValues change).find? key = (map.find? key).map change := by
  refine Option.ext fun found => ?_
  rw [← mem_entries_iff, mapValues, List.mem_map, Option.map_eq_some_iff]
  constructor
  · rintro ⟨⟨_, value⟩, member, same⟩
    cases same
    exact ⟨value, mem_entries_iff.mp member, rfl⟩
  · rintro ⟨value, member, rfl⟩
    exact ⟨(key, value), mem_entries_iff.mpr member, rfl⟩

end OrderedMap
