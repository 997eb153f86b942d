import InterWeave.Daml.Ledger

/-! # Lineages of contracts

A consuming choice archives its contract and leaves one in its place. What descends from a
contract through such choices is a chain, since a contract is consumed once, and only the end of
the chain is active. The chain goes no further where its signatories archive the end of it.
-/

namespace Daml

variable {Party Payload Choice : Type}

/-- The contract results from another one through choices. -/
inductive Descends (ledger : Ledger Party Payload Choice) (ancestor : ContractId) :
    ContractId → Prop where
  | refl : Descends ledger ancestor ancestor
  | choice {exercised : Exercised Party Choice} :
      Descends ledger ancestor exercised.contract → exercised ∈ ledger.exercised →
      Descends ledger ancestor exercised.result

/-- No choice was exercised on the contract. -/
def Unexercised (ledger : Ledger Party Payload Choice) (contract : ContractId) : Prop :=
  ∀ exercised ∈ ledger.exercised, exercised.contract ≠ contract

/-- Choices are consuming: a contract is archived by the one choice that was exercised on it, or
by its signatories. -/
structure Consuming (ledger : Ledger Party Payload Choice) : Prop where
  archives : ∀ contract, contract ∈ ledger.archived ↔
    (∃ exercised ∈ ledger.exercised, exercised.contract = contract) ∨
      ∃ archival ∈ ledger.archivals, archival.contract = contract
  once : ∀ first ∈ ledger.exercised, ∀ second ∈ ledger.exercised,
    first.contract = second.contract → first = second
  final : ∀ archival ∈ ledger.archivals, Unexercised ledger archival.contract

/-- An active contract has not been consumed. -/
theorem Consuming.unexercised {ledger : Ledger Party Payload Choice} {contract : ContractId}
    {payload : Payload} (consuming : Consuming ledger)
    (active : ledger.active contract = some payload) : Unexercised ledger contract := by
  intro exercised member consumed
  exact Ledger.unarchived_of_active active
    ((consuming.archives contract).mpr (.inl ⟨exercised, member, consumed⟩))

namespace Descends

variable {ledger next : Ledger Party Payload Choice} {ancestor first second : ContractId}

theorem of_mem {exercised : Exercised Party Choice} (member : exercised ∈ ledger.exercised) :
    Descends ledger exercised.contract exercised.result :=
  .choice .refl member

theorem mono (descends : Descends ledger ancestor first)
    (kept : ∀ exercised ∈ ledger.exercised, exercised ∈ next.exercised) :
    Descends next ancestor first := by
  induction descends with
  | refl => exact .refl
  | choice _ member ih => exact .choice ih (kept _ member)

theorem trans (upper : Descends ledger ancestor first) (lower : Descends ledger first second) :
    Descends ledger ancestor second := by
  induction lower with
  | refl => exact upper
  | choice _ member ih => exact .choice ih member

/-- A descendant is the contract itself, or descends from what a choice left of it. -/
theorem head (descends : Descends ledger ancestor first) : first = ancestor ∨
    ∃ exercised ∈ ledger.exercised, exercised.contract = ancestor ∧
      Descends ledger exercised.result first := by
  induction descends with
  | refl => exact .inl rfl
  | @choice exercised _ member ih =>
      rcases ih with same | ⟨top, recorded, consumed, below⟩
      · exact .inr ⟨exercised, member, same, .refl⟩
      · exact .inr ⟨top, recorded, consumed, .choice below member⟩

/-- Of two descendants of a contract, one descends from the other. -/
theorem linear (consuming : Consuming ledger) (here : Descends ledger ancestor first)
    (there : Descends ledger ancestor second) :
    Descends ledger first second ∨ Descends ledger second first := by
  induction here with
  | refl => exact .inl there
  | @choice exercised _ member ih =>
      rcases ih with below | above
      · rcases below.head with same | ⟨top, recorded, consumed, below⟩
        · exact .inr (same ▸ .choice .refl member)
        · have same := consuming.once top recorded exercised member consumed
          exact .inl (same ▸ below)
      · exact .inr (.choice above member)

/-- Nothing else descends from a contract that was not consumed. -/
theorem eq_of_unexercised (unexercised : Unexercised ledger ancestor)
    (descends : Descends ledger ancestor first) : first = ancestor := by
  rcases descends.head with same | ⟨exercised, member, consumed, _⟩
  · exact same
  · exact absurd consumed (unexercised exercised member)

/-- **A lineage has one end at most.** -/
theorem unique (consuming : Consuming ledger) (here : Descends ledger ancestor first)
    (there : Descends ledger ancestor second) (ends : Unexercised ledger first)
    (stops : Unexercised ledger second) : first = second := by
  rcases linear consuming here there with below | above
  · exact (below.eq_of_unexercised ends).symm
  · exact above.eq_of_unexercised stops

end Descends

namespace Consuming

theorem empty : Consuming (Ledger.empty : Ledger Party Payload Choice) where
  archives contract := by
    constructor
    · intro member
      cases member
    · rintro (⟨_, member, _⟩ | ⟨_, member, _⟩) <;> cases member
  once first member := by cases member
  final archival member := by cases member

variable {ledger : Ledger Party Payload Choice}

theorem append (consuming : Consuming ledger) (created : Created Party Payload) :
    Consuming (ledger.append created) :=
  ⟨consuming.archives, consuming.once, consuming.final⟩

/-- A choice on a contract that is not archived consumes it. -/
theorem exercise (consuming : Consuming ledger) (exercised : Exercised Party Choice)
    (created : Created Party Payload) (unarchived : exercised.contract ∉ ledger.archived) :
    Consuming (((ledger.archive exercised.contract).append created).record exercised) where
  archives contract := by
    constructor
    · intro member
      rcases List.mem_cons.mp member with rfl | earlier
      · exact .inl ⟨exercised, List.mem_cons_self, rfl⟩
      · rcases (consuming.archives contract).mp earlier with ⟨before, recorded, same⟩ | archival
        · exact .inl ⟨before, List.mem_cons_of_mem _ recorded, same⟩
        · exact .inr archival
    · rintro (⟨other, member, rfl⟩ | archival)
      · rcases List.mem_cons.mp member with rfl | earlier
        · exact List.mem_cons_self
        · exact List.mem_cons_of_mem _ ((consuming.archives _).mpr (.inl ⟨other, earlier, rfl⟩))
      · exact List.mem_cons_of_mem _ ((consuming.archives _).mpr (.inr archival))
  once first here second there same := by
    rcases List.mem_cons.mp here with rfl | before
    · rcases List.mem_cons.mp there with rfl | earlier
      · rfl
      · exact absurd ((consuming.archives _).mpr (.inl ⟨second, earlier, same.symm⟩)) unarchived
    · rcases List.mem_cons.mp there with rfl | earlier
      · exact absurd ((consuming.archives _).mpr (.inl ⟨first, before, same⟩)) unarchived
      · exact consuming.once first before second earlier same
  final archival among other member consumed := by
    rcases List.mem_cons.mp member with rfl | earlier
    · exact unarchived ((consuming.archives _).mpr (.inr ⟨archival, among, consumed.symm⟩))
    · exact consuming.final archival among other earlier consumed

/-- A contract that is not archived can be archived by its signatories. -/
theorem withdraw (consuming : Consuming ledger) (archival : Archival Party)
    (unarchived : archival.contract ∉ ledger.archived) :
    Consuming (ledger.withdraw archival) where
  archives contract := by
    constructor
    · intro member
      rcases List.mem_cons.mp member with rfl | earlier
      · exact .inr ⟨archival, List.mem_cons_self, rfl⟩
      · rcases (consuming.archives contract).mp earlier with exercised | ⟨before, among, same⟩
        · exact .inl exercised
        · exact .inr ⟨before, List.mem_cons_of_mem _ among, same⟩
    · rintro (exercised | ⟨other, among, rfl⟩)
      · exact List.mem_cons_of_mem _ ((consuming.archives _).mpr (.inl exercised))
      · rcases List.mem_cons.mp among with rfl | earlier
        · exact List.mem_cons_self
        · exact List.mem_cons_of_mem _ ((consuming.archives _).mpr (.inr ⟨other, earlier, rfl⟩))
  once := consuming.once
  final other among exercised member consumed := by
    rcases List.mem_cons.mp among with rfl | earlier
    · exact unarchived ((consuming.archives _).mpr (.inl ⟨exercised, member, consumed⟩))
    · exact consuming.final other earlier exercised member consumed

end Consuming
end Daml
