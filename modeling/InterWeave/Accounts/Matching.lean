import Mathlib.Algebra.GroupWithZero.Nat
import Mathlib.Algebra.Order.BigOperators.Group.List

/-! # Matched amounts

Each item of a list is matched by an entry of a book that has its key. Where the keys of the
items are distinct, no entry is taken twice, so the book amounts to at least as much.
-/

namespace Accounts

variable {Item Entry Key : Type} (worth : Entry → Nat)

/-- An entry may be taken from a book. -/
theorem sum_of_mem {book : List Entry} {entry : Entry} (member : entry ∈ book) :
    ∃ rest : List Entry, (book.map worth).sum = worth entry + (rest.map worth).sum ∧
      ∀ other ∈ book, other = entry ∨ other ∈ rest := by
  obtain ⟨before, after, rfl⟩ := List.append_of_mem member
  refine ⟨before ++ after, ?_, fun other among => ?_⟩
  · simp only [List.map_append, List.map_cons, List.sum_append, List.sum_cons]
    omega
  · rcases List.mem_append.mp among with earlier | later
    · exact .inr (List.mem_append_left _ earlier)
    · rcases List.mem_cons.mp later with same | later
      · exact .inl same
      · exact .inr (List.mem_append_right _ later)

/-- **Matched amounts.** Items of distinct keys that entries of a book match amount to no more
than the book. -/
theorem sum_le_of_matched (amount : Item → Nat) {key : Item → Key} {label : Entry → Key}
    {items : List Item} {book : List Entry} (distinct : (items.map key).Nodup)
    (matched : ∀ item ∈ items, ∃ entry ∈ book, label entry = key item ∧
      amount item ≤ worth entry) :
    (items.map amount).sum ≤ (book.map worth).sum := by
  induction items generalizing book with
  | nil => exact Nat.zero_le _
  | cons item items ih =>
      obtain ⟨fresh, distinct⟩ := List.nodup_cons.mp distinct
      obtain ⟨entry, member, same, covered⟩ := matched item List.mem_cons_self
      obtain ⟨rest, total, left⟩ := sum_of_mem worth member
      -- The entry of this item has its key, so that the others are matched by what is left.
      have remaining : ∀ other ∈ items, ∃ entry ∈ rest, label entry = key other ∧
          amount other ≤ worth entry := by
        intro other among
        obtain ⟨match_, further, labelled, enough⟩ := matched other (List.mem_cons_of_mem _ among)
        rcases left match_ further with rfl | kept
        · exact absurd (List.mem_map.mpr ⟨other, among, labelled.symm.trans same⟩) fresh
        · exact ⟨match_, kept, labelled, enough⟩
      have below := ih distinct remaining
      rw [List.map_cons, List.sum_cons, total]
      omega

end Accounts
