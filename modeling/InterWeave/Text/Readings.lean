import Mathlib.Data.List.Basic

/-! # Texts that can be read in one way

A notation relates meanings to texts. A text is unmistakable if every text that goes
on in the same way, up to what may follow, has the same meaning and ends in the same
place. Texts that follow each other, or are separated and closed by symbols that none
of them could be taken to start with, are unmistakable together.
-/

namespace Text

variable {Symbol Meaning : Type}

/-- Before what may follow, no text with another meaning reads the same, and none ends
elsewhere. -/
def Unmistakable (denotes : Meaning → List Symbol → Prop) (follow : List Symbol → Prop)
    (meaning : Meaning) (text : List Symbol) : Prop :=
  ∀ other reading rest remainder, denotes other reading → follow rest → follow remainder →
    text ++ rest = reading ++ remainder → meaning = other ∧ rest = remainder

/-- The texts that a code gives to the meanings it allows. -/
def codes (allowed : Meaning → Prop) (code : Meaning → List Symbol) (meaning : Meaning)
    (text : List Symbol) : Prop :=
  allowed meaning ∧ text = code meaning

variable {denotes : Meaning → List Symbol → Prop} {follow : List Symbol → Prop}
  {meanings others : List Meaning} {texts readings : List (List Symbol)}
  {rest remainder : List Symbol}

/-- **Texts in a row.** They are read one by one until none can follow. -/
theorem eq_of_flatMap {allowed : Meaning → Prop} {code : Meaning → List Symbol}
    (unmistakable : ∀ meaning, allowed meaning →
      Unmistakable (codes allowed code) (fun _ => True) meaning (code meaning))
    (valid : ∀ meaning ∈ meanings, allowed meaning) (further : ∀ meaning ∈ others, allowed meaning)
    (ends : ∀ meaning more, allowed meaning → rest ≠ code meaning ++ more)
    (finishes : ∀ meaning more, allowed meaning → remainder ≠ code meaning ++ more)
    (reads : meanings.flatMap code ++ rest = others.flatMap code ++ remainder) :
    meanings = others ∧ rest = remainder := by
  induction meanings generalizing others with
  | nil =>
      cases others with
      | nil => exact ⟨rfl, reads⟩
      | cons first others =>
          rw [List.flatMap_cons, List.append_assoc] at reads
          exact (ends first _ (further first List.mem_cons_self) reads).elim
  | cons meaning meanings ih =>
      obtain ⟨here, later⟩ := List.forall_mem_cons.mp valid
      rw [List.flatMap_cons, List.append_assoc] at reads
      cases others with
      | nil => exact (finishes meaning _ here reads.symm).elim
      | cons first others =>
          obtain ⟨there, more⟩ := List.forall_mem_cons.mp further
          rw [List.flatMap_cons, List.append_assoc] at reads
          obtain ⟨rfl, left⟩ := unmistakable meaning here first _ _ _ ⟨there, rfl⟩ trivial trivial
            reads
          obtain ⟨rfl, same⟩ := ih later more left
          exact ⟨rfl, same⟩

/-- Texts that each follow a separator. -/
def separated (separator : Symbol) (texts : List (List Symbol)) : List Symbol :=
  texts.flatMap (separator :: ·)

/-- Texts with a separator between one and the next. -/
def joined (separator : Symbol) : List (List Symbol) → List Symbol
  | [] => []
  | first :: rest => first ++ separated separator rest

section Joined

variable {separator close : Symbol}

theorem separated_cons (text : List Symbol) (texts : List (List Symbol)) (more : List Symbol) :
    separated separator (text :: texts) ++ more =
      separator :: (text ++ (separated separator texts ++ more)) := by
  rw [separated, separated, List.flatMap_cons, List.append_assoc, List.cons_append]

/-- What follows a text in a list is a separator or the end of the list. -/
theorem follow_separated (separates : ∀ more, follow (separator :: more))
    (closes : ∀ more, follow (close :: more)) (texts : List (List Symbol)) (more : List Symbol) :
    follow (separated separator texts ++ close :: more) := by
  cases texts with
  | nil => exact closes more
  | cons text texts =>
      rw [separated_cons]
      exact separates _

theorem eq_of_separated (apart : separator ≠ close)
    (separates : ∀ more, follow (separator :: more)) (closes : ∀ more, follow (close :: more))
    (unmistakable : List.Forall₂ (Unmistakable denotes follow) meanings texts)
    (other : List.Forall₂ denotes others readings)
    (reads : separated separator texts ++ close :: rest =
      separated separator readings ++ close :: remainder) :
    meanings = others ∧ rest = remainder := by
  induction unmistakable generalizing others readings with
  | nil =>
      cases other with
      | nil => exact ⟨rfl, (List.cons.inj reads).2⟩
      | cons first more =>
          rw [separated_cons] at reads
          exact (apart (List.cons.inj reads).1.symm).elim
  | cons alone _ ih =>
      rw [separated_cons] at reads
      cases other with
      | nil => exact (apart (List.cons.inj reads).1).elim
      | cons first more =>
          rw [separated_cons] at reads
          obtain ⟨rfl, further⟩ := alone _ _ _ _ first (follow_separated separates closes _ _)
            (follow_separated separates closes _ _) (List.cons.inj reads).2
          obtain ⟨rfl, left⟩ := ih more further
          exact ⟨rfl, left⟩

/-- **Separated texts.** The closing symbol tells where the last one ends, if none starts
with it. -/
theorem eq_of_joined (apart : separator ≠ close)
    (separates : ∀ more, follow (separator :: more)) (closes : ∀ more, follow (close :: more))
    (opens : ∀ meaning text, denotes meaning text → ∀ more after, text ++ more ≠ close :: after)
    (unmistakable : List.Forall₂ (Unmistakable denotes follow) meanings texts)
    (same : List.Forall₂ denotes meanings texts) (other : List.Forall₂ denotes others readings)
    (reads : joined separator texts ++ close :: rest =
      joined separator readings ++ close :: remainder) :
    meanings = others ∧ rest = remainder := by
  cases unmistakable with
  | nil =>
      cases other with
      | nil => exact ⟨rfl, (List.cons.inj reads).2⟩
      | cons first more =>
          rw [joined, joined, List.append_assoc] at reads
          exact (opens _ _ first _ _ reads.symm).elim
  | cons alone later =>
      obtain ⟨here, _⟩ := List.forall₂_cons.mp same
      rw [joined, List.append_assoc] at reads
      cases other with
      | nil => exact (opens _ _ here _ _ reads).elim
      | cons first more =>
          rw [joined, List.append_assoc] at reads
          obtain ⟨rfl, further⟩ := alone _ _ _ _ first (follow_separated separates closes _ _)
            (follow_separated separates closes _ _) reads
          obtain ⟨rfl, left⟩ := eq_of_separated apart separates closes later more further
          exact ⟨rfl, left⟩

end Joined
end Text
