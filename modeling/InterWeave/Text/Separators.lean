import Mathlib.Data.List.Basic

/-! # Texts joined by a separator

Two texts joined by a separator can be told apart where one of them is known not to contain
it: the first one up to the first separator, the last one behind the last. Where only the text in
the middle of three is known not to contain it, the same joined text arises in other ways too.
-/

namespace Text

variable {Symbol : Type} {separator : Symbol} {first second front back : List Symbol}

/-- The text behind the last separator, and the text before it. -/
theorem split_last (absent : separator ∉ front) (missing : separator ∉ back)
    (same : first ++ separator :: front = second ++ separator :: back) :
    first = second ∧ front = back := by
  rcases List.append_eq_append_iff.mp same with ⟨middle, rfl, split⟩ | ⟨middle, rfl, split⟩
  · cases middle with
    | nil => exact ⟨(List.append_nil _).symm, (List.cons.inj split).2⟩
    | cons head rest =>
        have tail := (List.cons.inj split).2
        exact (absent (tail ▸ List.mem_append_right rest (List.mem_cons_self ..))).elim
  · cases middle with
    | nil => exact ⟨List.append_nil _, (List.cons.inj split).2.symm⟩
    | cons head rest =>
        have tail := (List.cons.inj split).2
        exact (missing (tail ▸ List.mem_append_right rest (List.mem_cons_self ..))).elim

/-- The text before the first separator, and the text behind it. -/
theorem split_first (absent : separator ∉ first) (missing : separator ∉ second)
    (same : first ++ separator :: front = second ++ separator :: back) :
    first = second ∧ front = back := by
  rcases List.append_eq_append_iff.mp same with ⟨middle, rfl, split⟩ | ⟨middle, rfl, split⟩
  · cases middle with
    | nil => exact ⟨(List.append_nil _).symm, (List.cons.inj split).2⟩
    | cons head rest =>
        obtain rfl := (List.cons.inj split).1
        exact (missing (List.mem_append_right first List.mem_cons_self)).elim
  · cases middle with
    | nil => exact ⟨List.append_nil _, (List.cons.inj split).2.symm⟩
    | cons head rest =>
        obtain rfl := (List.cons.inj split).1
        exact (absent (List.mem_append_right second List.mem_cons_self)).elim

/-- The second of two first texts goes on with a separator, into the text behind the first one. -/
def Continues (separator : Symbol) (first front second back : List Symbol) : Prop :=
  ∃ rest, second = first ++ separator :: rest ∧ front = rest ++ separator :: back

theorem Continues.mem (continues : Continues separator first front second back) :
    separator ∈ second := by
  obtain ⟨rest, rfl, _⟩ := continues
  exact List.mem_append_right _ List.mem_cons_self

theorem Continues.ne (continues : Continues separator first front second back) :
    first ≠ second := by
  obtain ⟨rest, longer, _⟩ := continues
  intro same
  have length := congrArg List.length longer
  rw [same, List.length_append, List.length_cons] at length
  omega

/-- The ways in which two texts are joined alike. -/
theorem joined_eq_iff : first ++ separator :: front = second ++ separator :: back ↔
    (first = second ∧ front = back) ∨ Continues separator first front second back ∨
      Continues separator second back first front := by
  constructor
  · intro same
    rcases List.append_eq_append_iff.mp same with ⟨rest, rfl, split⟩ | ⟨rest, rfl, split⟩
    · cases rest with
      | nil => exact .inl ⟨(List.append_nil _).symm, (List.cons.inj split).2⟩
      | cons head rest =>
          obtain ⟨rfl, tail⟩ := List.cons.inj split
          exact .inr (.inl ⟨rest, rfl, tail⟩)
    · cases rest with
      | nil => exact .inl ⟨List.append_nil _, (List.cons.inj split).2.symm⟩
      | cons head rest =>
          obtain ⟨rfl, tail⟩ := List.cons.inj split
          exact .inr (.inr ⟨rest, rfl, tail⟩)
  · rintro (⟨rfl, rfl⟩ | ⟨rest, rfl, rfl⟩ | ⟨rest, rfl, rfl⟩)
    · rfl
    · rw [List.append_assoc, List.cons_append]
    · rw [List.append_assoc, List.cons_append]

/-- Some way of joining three texts reads more into the first one than another way does: the middle
text, or the middle text with a part of the last. -/
def ReadsOn (separator : Symbol) (first middle last other between final : List Symbol) : Prop :=
  (other = first ++ separator :: middle ∧ last = between ++ separator :: final) ∨
    ∃ inner, other = first ++ separator :: (middle ++ separator :: inner) ∧
      last = inner ++ separator :: (between ++ separator :: final)

variable {middle last other between final : List Symbol}

theorem ReadsOn.joined (reads : ReadsOn separator first middle last other between final) :
    first ++ separator :: (middle ++ separator :: last) =
      other ++ separator :: (between ++ separator :: final) := by
  rcases reads with ⟨rfl, rfl⟩ | ⟨inner, rfl, rfl⟩ <;> simp only [List.append_assoc, List.cons_append]

theorem ReadsOn.exists_rest (reads : ReadsOn separator first middle last other between final) :
    ∃ rest, other = first ++ separator :: rest := by
  rcases reads with ⟨longer, _⟩ | ⟨inner, longer, _⟩
  · exact ⟨_, longer⟩
  · exact ⟨_, longer⟩

theorem ReadsOn.ne (reads : ReadsOn separator first middle last other between final) :
    first ≠ other := by
  obtain ⟨rest, longer⟩ := reads.exists_rest
  intro same
  have length := congrArg List.length longer
  rw [same, List.length_append, List.length_cons] at length
  omega

/-- The texts before and behind the one in the middle, where that has no separator. -/
theorem split_middle (absent : separator ∉ middle) (missing : separator ∉ between)
    (same : first ++ separator :: (middle ++ separator :: last) =
      other ++ separator :: (between ++ separator :: final)) :
    (first = other ∧ middle = between ∧ last = final) ∨
      ReadsOn separator first middle last other between final ∨
      ReadsOn separator other between final first middle last := by
  have reads : ∀ {start middle last other between final : List Symbol}, separator ∉ middle →
      Continues separator start (middle ++ separator :: last) other
        (between ++ separator :: final) →
      ReadsOn separator start middle last other between final := by
    rintro start middle last other between final absent ⟨rest, rfl, split⟩
    rcases joined_eq_iff.mp split with ⟨rfl, rfl⟩ | ⟨inner, rfl, rfl⟩ | ⟨inner, rfl, _⟩
    · exact .inl ⟨rfl, rfl⟩
    · exact .inr ⟨inner, rfl, rfl⟩
    · exact (absent (List.mem_append_right _ List.mem_cons_self)).elim
  rcases joined_eq_iff.mp same with ⟨rfl, inner⟩ | continues | continues
  · exact .inl ⟨rfl, split_first absent missing inner⟩
  · exact .inr (.inl (reads absent continues))
  · exact .inr (.inr (reads missing continues))

/-- The second of two ways of joining three texts reads more into the first text than the other, or
into the middle one behind the same first. -/
def Rereads (separator : Symbol) (first middle last other between final : List Symbol) : Prop :=
  (first = other ∧ Continues separator middle last between final) ∨
    Continues separator first (middle ++ separator :: last) other (between ++ separator :: final)

theorem Rereads.ne (rereads : Rereads separator first middle last other between final) :
    (first, middle, last) ≠ (other, between, final) := by
  rw [Ne, Prod.mk.injEq, Prod.mk.injEq]
  rintro ⟨start, inner, _⟩
  rcases rereads with ⟨_, continues⟩ | continues
  · exact continues.ne inner
  · exact continues.ne start

/-- The ways in which three texts are joined alike. -/
theorem joined_three_iff : first ++ separator :: (middle ++ separator :: last) =
      other ++ separator :: (between ++ separator :: final) ↔
    (first, middle, last) = (other, between, final) ∨
      Rereads separator first middle last other between final ∨
      Rereads separator other between final first middle last := by
  rw [joined_eq_iff, joined_eq_iff, Prod.mk.injEq, Prod.mk.injEq]
  constructor
  · rintro (⟨rfl, alike | continues | continues⟩ | continues | continues)
    · exact .inl ⟨rfl, alike⟩
    · exact .inr (.inl (.inl ⟨rfl, continues⟩))
    · exact .inr (.inr (.inl ⟨rfl, continues⟩))
    · exact .inr (.inl (.inr continues))
    · exact .inr (.inr (.inr continues))
  · rintro (⟨rfl, alike⟩ | (⟨rfl, continues⟩ | continues) | (⟨rfl, continues⟩ | continues))
    · exact .inl ⟨rfl, .inl alike⟩
    · exact .inl ⟨rfl, .inr (.inl continues)⟩
    · exact .inr (.inl continues)
    · exact .inl ⟨rfl, .inr (.inr continues)⟩
    · exact .inr (.inr continues)

end Text
