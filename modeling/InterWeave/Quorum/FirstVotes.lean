import Mathlib.Data.List.Nodup
import Mathlib.Data.Finset.Card
import Mathlib.Data.Finset.Basic
import Mathlib.Order.Interval.Finset.Nat
import Mathlib.Tactic.Ring

/-! # Votes counted once per label

A counting loop remembers the labels that it has seen and skips every later vote
under one of them. Labels are what a vote says about itself; who stands behind
it is a second function of the vote. The two agree only where no two labels
share a voter.
-/

namespace InterWeave

section FirstVotes

variable {Vote Label : Type} [DecidableEq Label] (label : Vote → Label)

/-- The votes whose label is neither among the labels already seen nor that of
an earlier vote. -/
def firstVotes : List Label → List Vote → List Vote
  | _, [] => []
  | seen, vote :: rest =>
      if label vote ∈ seen then firstVotes seen rest
      else vote :: firstVotes (label vote :: seen) rest

variable {label}

attribute [local simp] firstVotes

theorem firstVotes_sublist (seen : List Label) (votes : List Vote) :
    (firstVotes label seen votes).Sublist votes := by
  induction votes generalizing seen with
  | nil => exact List.Sublist.refl _
  | cons vote rest ih =>
      rw [firstVotes]
      split
      · exact (ih seen).cons vote
      · exact (ih _).cons_cons vote

theorem label_not_mem_seen {seen : List Label} {votes : List Vote} {vote : Vote}
    (member : vote ∈ firstVotes label seen votes) : label vote ∉ seen := by
  induction votes generalizing seen with
  | nil => cases member
  | cons first rest ih =>
      rw [firstVotes] at member
      split at member
      · exact ih member
      · rename_i fresh
        rcases List.mem_cons.mp member with rfl | later
        · exact fresh
        · exact fun earlier => ih later (List.mem_cons_of_mem _ earlier)

/-- No label is counted twice. -/
theorem firstVotes_labels_nodup (seen : List Label) (votes : List Vote) :
    ((firstVotes label seen votes).map label).Nodup := by
  induction votes generalizing seen with
  | nil => exact List.nodup_nil
  | cons vote rest ih =>
      rw [firstVotes]
      split
      · exact ih seen
      · rw [List.map_cons, List.nodup_cons]
        refine ⟨fun repeated => ?_, ih _⟩
        obtain ⟨other, member, same⟩ := List.mem_map.mp repeated
        exact label_not_mem_seen member (same ▸ List.mem_cons_self)

/-- Nothing is skipped exactly when no label repeats and none was seen before. -/
theorem firstVotes_eq_self_iff {seen : List Label} {votes : List Vote} :
    firstVotes label seen votes = votes ↔
      (votes.map label).Nodup ∧ ∀ vote ∈ votes, label vote ∉ seen := by
  constructor
  · intro all
    refine ⟨?_, fun vote member => ?_⟩
    · rw [← all]
      exact firstVotes_labels_nodup seen votes
    · rw [← all] at member
      exact label_not_mem_seen member
  · rintro ⟨distinct, fresh⟩
    induction votes generalizing seen with
    | nil => rfl
    | cons vote rest ih =>
        rw [List.map_cons, List.nodup_cons] at distinct
        rw [firstVotes, if_neg (fresh vote List.mem_cons_self), ih distinct.2]
        intro other member earlier
        rcases List.mem_cons.mp earlier with same | earlier
        · exact distinct.1 (same ▸ List.mem_map_of_mem member)
        · exact fresh other (List.mem_cons_of_mem _ member) earlier

end FirstVotes

/-! ## Voters behind votes -/

section Voters

variable {Vote Voter : Type} [DecidableEq Voter] (voter : Vote → Voter)

/-- The votes behind which one of some voters stands. -/
def votesOf (voters : Finset Voter) (votes : List Vote) : Nat :=
  votes.countP fun vote => voter vote ∈ voters

variable {voter}

/-- Those who stand behind some of the votes have at least these. -/
theorem length_le_votesOf_of_sublist {part votes : List Vote} (sublist : part.Sublist votes) :
    part.length ≤ votesOf voter (part.map voter).toFinset votes := by
  have all : part.countP (fun vote => voter vote ∈ (part.map voter).toFinset) = part.length :=
    List.countP_eq_length.mpr fun vote member => by
      simpa using ⟨vote, member, rfl⟩
  rw [← all]
  exact sublist.countP_le

theorem votesOf_lt_of_not_mem {votes : List Vote} {voters : Finset Voter} {vote : Vote}
    (member : vote ∈ votes) (outside : voter vote ∉ voters) :
    votesOf voter voters votes < votesOf voter (insert (voter vote) voters) votes := by
  induction votes with
  | nil => cases member
  | cons first rest ih =>
      have monotone : votesOf voter voters rest ≤
          votesOf voter (insert (voter vote) voters) rest :=
        List.countP_mono_left fun other _ inside => by
          simp only [decide_eq_true_eq, Finset.mem_insert] at inside ⊢
          exact Or.inr inside
      simp only [votesOf, List.countP_cons, Finset.mem_insert, decide_eq_true_eq] at ih monotone ⊢
      rcases List.mem_cons.mp member with rfl | later
      · simp only [outside, if_false, true_or, if_true]
        omega
      · have more := ih later
        split <;> split <;> first | omega | simp_all

/-- Fewer voters than votes can reach a quorum as soon as one of them has two
votes: give the shared voter its votes and add voters one at a time. -/
theorem exists_few_voters {votes : List Vote} (shared : ¬ (votes.map voter).Nodup) {quorum : Nat}
    (atLeastTwo : 2 ≤ quorum) (enough : quorum ≤ votes.length) :
    ∃ voters : Finset Voter, voters.card < quorum ∧ quorum ≤ votesOf voter voters votes := by
  induction quorum, atLeastTwo using Nat.le_induction with
  | base =>
      obtain ⟨twice, duplicate⟩ := List.exists_duplicate_iff_not_nodup.mpr shared
      refine ⟨{twice}, by rw [Finset.card_singleton]; omega, ?_⟩
      have count := List.duplicate_iff_two_le_count.mp duplicate
      rw [List.count, List.countP_map] at count
      refine count.trans (List.countP_mono_left fun vote _ same => ?_)
      simpa using same
  | succ quorum _ ih =>
      obtain ⟨voters, few, reach⟩ := ih (by omega)
      by_cases more : quorum + 1 ≤ votesOf voter voters votes
      · exact ⟨voters, by omega, more⟩
      · obtain ⟨vote, member, outside⟩ : ∃ vote ∈ votes, voter vote ∉ voters := by
          by_contra covered
          push Not at covered
          have all : votesOf voter voters votes = votes.length :=
            List.countP_eq_length.mpr fun vote member => decide_eq_true (covered vote member)
          omega
        have grown := votesOf_lt_of_not_mem member outside
        have size := Finset.card_insert_le (voter vote) voters
        exact ⟨insert (voter vote) voters, by omega, by omega⟩

end Voters
end InterWeave
