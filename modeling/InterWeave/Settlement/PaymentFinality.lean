import InterWeave.Async.UnderWay
import InterWeave.Settlement.SagaRuns

/-! # Cancellation and payment finality

Finality of the payment is known once a worker has received valid evidence of it
or the record has reached PAYMENT_FINALIZED. Nothing in the code keeps one worker
from cancelling while another holds the evidence. Where the evidence reaches a
worker with the current version while no other one under way has a copy that it
could cancel, and the record is read by others only after the evidence has been
written, nobody cancels once finality is known. The store itself does not fail.
-/

namespace InterWeave

open Async

section Finality

variable (platform : Platform) (request : CrossNetworkSettlementRequest) {Worker : Type}

/-- Some `verifyPaymentFinality` call has returned valid evidence. -/
def finalityReturned (history : List (Event settlementInterface Worker Nat)) : Bool :=
  history.any fun event =>
    match event with
    | .answered _ (.act .verifyPaymentFinality _) (.ok result) => result.verifiable platform
    | _ => false

/-- The stored record has reached PAYMENT_FINALIZED or a later state. -/
def finalityRecorded (world : SettlementWorld) : Bool :=
  (world.settlements request.id).any fun record =>
    record.transitions.any fun transition => transition.state.paymentFinal

def finalityKnown (view : SagaView Worker) : Bool :=
  finalityReturned platform view.history || finalityRecorded request view.state

/-- Valid evidence of payment finality has been returned and is not written yet. -/
def SagaLocal.finality (here : SagaLocal) : Bool :=
  match here.returned with
  | some (.verifyPaymentFinality, result) => result.verifiable platform
  | _ => false

variable [DecidableEq Worker]

/-- The worker holds the current version of the record. -/
def currentCopy (worker : Worker) (view : SagaView Worker) : Bool :=
  match copyOf platform request worker view, view.state.settlements request.id with
  | some record, some stored => record.version == stored.version
  | _, _ => false

/-- The worker holds valid evidence of payment finality that it has not written. -/
def holdsFinality (worker : Worker) (view : SagaView Worker) : Bool :=
  ((sagaProtocol platform request).localOf worker view.history).any (SagaLocal.finality platform)

/-- The worker is in the middle of `execute` and holds a copy that it would cancel. -/
def cancelsUnderWay (worker : Worker) (view : SagaView Worker) : Bool :=
  UnderWay (CrossNetworkSettlementService.execute platform request) (fun _ => true) worker
      view.history &&
    (copyOf platform request worker view).any fun record => record.state.cancellable

/-- Valid evidence of payment finality reaches a worker with the current version while
no other one under way has a copy it could cancel. Until the evidence has been
written, its worker does not crash and no worker reads the record. -/
def FinalityUndisturbed (view : SagaView Worker) : Event settlementInterface Worker Nat → Prop
  | .answered worker (.act .verifyPaymentFinality _) (.ok result) =>
      result.verifiable platform → currentCopy platform request worker view ∧
        ∀ other, other ≠ worker → cancelsUnderWay platform request other view = false
  | .answered _ (.get _) _ => ∀ worker, holdsFinality platform request worker view = false
  | .answered _ (.create _ _ _) _ => ∀ worker, holdsFinality platform request worker view = false
  | .crashed worker => holdsFinality platform request worker view = false
  | _ => True

instance [Fintype Worker] (view : SagaView Worker)
    (event : Event settlementInterface Worker Nat) :
    Decidable (FinalityUndisturbed platform request view event) := by
  unfold FinalityUndisturbed
  split <;> infer_instance

/-- No settlement exists yet. -/
def SagaView.empty (Worker : Type) (clock : Int) : SagaView Worker :=
  ⟨⟨fun _ => none, clock⟩, []⟩

variable {platform request}

theorem SagaInvariant.empty (clock : Int) :
    SagaInvariant platform request (SagaView.empty Worker clock) where
  stored _ found := nomatch found
  copied _ _ copy := nomatch copy

/-- The invariant holds in every configuration that saga runs reach. -/
theorem SagaInvariant.reachable
    {admits : SagaView Worker → Event settlementInterface Worker Nat → Prop} {clock : Int}
    {config : Config settlementServices Worker Nat CrossNetworkSettlementRecord}
    (reached : Reachable (CrossNetworkSettlementService.execute platform request) admits
      (SagaView.empty Worker clock) config) :
    SagaInvariant platform request config.toView :=
  Protocol.invariant (CrossNetworkSettlementService.execute_follows platform request)
    SettlementWorld.reply_clockAnswers rfl (.empty clock) (SagaInvariant.preserves admits) reached

/-! ## Who holds the evidence -/

/-- What holds while finality is guarded: evidence is held by one worker at most, on the
current version; and once finality is known, every busy worker that could cancel holds it,
as one does while the record is still cancellable. -/
structure FinalityGuarded (platform : Platform) (request : CrossNetworkSettlementRequest)
    (view : SagaView Worker) (busy : Worker → Prop) : Prop where
  returned : ∀ worker, holdsFinality platform request worker view →
    finalityReturned platform view.history
  current : ∀ worker, holdsFinality platform request worker view → ∃ record stored,
    copyOf platform request worker view = some record ∧ record.state = .paymentSubmitted ∧
      view.state.settlements request.id = some stored ∧ stored.version = record.version
  unique : ∀ worker other, holdsFinality platform request worker view →
    holdsFinality platform request other view → worker = other
  sole : finalityKnown platform request view → ∀ worker record, busy worker →
    copyOf platform request worker view = some record → record.state.cancellable →
    holdsFinality platform request worker view
  begun : finalityKnown platform request view → ∃ stored,
    view.state.settlements request.id = some stored ∧ stored.state ≠ .created ∧
      stored.state ≠ .policyChecked ∧
      (stored.state.cancellable → ∃ worker, holdsFinality platform request worker view)

/-- A write into a cancellable state starts from one, or from POLICY_CHECKED. -/
theorem CrossNetworkSettlementState.cancellable_of_leadsTo :
    ∀ source target : CrossNetworkSettlementState, source.leadsTo target → target.cancellable →
      source = .policyChecked ∨ source.cancellable ∧ source ≠ .paymentSubmitted := by
  decide

/-- A write into a final state starts from one, or from PAYMENT_SUBMITTED. -/
theorem CrossNetworkSettlementState.paymentFinal_of_leadsTo :
    ∀ source target : CrossNetworkSettlementState, source.leadsTo target → target.paymentFinal →
      source.paymentFinal ∨ source = .paymentSubmitted ∧ target = .paymentFinalized := by
  decide

theorem CrossNetworkSettlementState.begun_of_leadsTo :
    ∀ source target : CrossNetworkSettlementState, source.leadsTo target → source ≠ .created →
      target ≠ .created ∧ target ≠ .policyChecked := by
  decide

theorem SagaLocal.finality_iff {here : SagaLocal} :
    here.finality platform ↔ ∃ result,
      here.returned = some (.verifyPaymentFinality, result) ∧ result.verifiable platform := by
  unfold SagaLocal.finality
  constructor
  · intro held
    split at held
    · exact ⟨_, ‹_›, held⟩
    · cases held
  · rintro ⟨result, same, verifiable⟩
    rw [same]
    exact verifiable

theorem SagaLocal.not_finality_of_quiet {here : SagaLocal} (quiet : here.Quiet platform) :
    here.finality platform = false := by
  rw [Bool.eq_false_iff]
  intro held
  obtain ⟨result, same, verifiable⟩ := finality_iff.mp held
  exact quiet.2 ⟨_, result, same, verifiable⟩

section Steps

variable {view : SagaView Worker} {event : Event settlementInterface Worker Nat}
  {world : SettlementWorld} {busy later : Worker → Prop} {worker other : Worker}
  {here : SagaLocal} {call : SettlementCall} {answer : settlementInterface.Answer call}

theorem holdsFinality_of_known
    (known : (sagaProtocol platform request).localOf worker view.history = some here) :
    holdsFinality platform request worker view = here.finality platform := by
  rw [holdsFinality, known, Option.any_some]

theorem holdsFinality_frame (others : event.worker ≠ worker) :
    holdsFinality platform request worker (Protocol.after view event world) =
      holdsFinality platform request worker view := by
  rw [holdsFinality, Protocol.after_history, Protocol.localOf_cons_of_ne others, holdsFinality]

theorem copyOf_frame (others : event.worker ≠ worker) :
    copyOf platform request worker (Protocol.after view event world) =
      copyOf platform request worker view := by
  rw [copyOf, Protocol.after_history, Protocol.localOf_cons_of_ne others, copyOf]

theorem localOf_after_answered
    (known : (sagaProtocol platform request).localOf worker view.history = some here) :
    (sagaProtocol platform request).localOf worker
      (Protocol.after view (.answered worker call answer) world).history =
        some (here.next call answer) := by
  rw [Protocol.after_history, Protocol.localOf_answered_self, known, Option.map_some]

/-- Other workers hold what they held, and what they could cancel. -/
theorem holdsFinality_iff_of_own
    (own : holdsFinality platform request event.worker (Protocol.after view event world) =
      holdsFinality platform request event.worker view) :
    holdsFinality platform request worker (Protocol.after view event world) =
      holdsFinality platform request worker view := by
  by_cases same : event.worker = worker
  · rw [← same]
    exact own
  · exact holdsFinality_frame same

/-- A step that leaves the stored record, the evidence and what its worker holds alone. -/
theorem FinalityGuarded.still (valid : FinalityGuarded platform request view busy)
    (stored : world.settlements = view.state.settlements)
    (returned : finalityReturned platform (event :: view.history) =
      finalityReturned platform view.history)
    (others : ∀ worker, event.worker ≠ worker → later worker → busy worker)
    (held : holdsFinality platform request event.worker (Protocol.after view event world) =
      holdsFinality platform request event.worker view)
    (own : copyOf platform request event.worker (Protocol.after view event world) =
        copyOf platform request event.worker view ∧ busy event.worker ∨
      copyOf platform request event.worker (Protocol.after view event world) = none ∧
        holdsFinality platform request event.worker view = false) :
    FinalityGuarded platform request (Protocol.after view event world) later := by
  have holds : ∀ worker,
      holdsFinality platform request worker (Protocol.after view event world) =
        holdsFinality platform request worker view := fun _ => holdsFinality_iff_of_own held
  have known : finalityKnown platform request (Protocol.after view event world) =
      finalityKnown platform request view := by
    rw [finalityKnown, finalityKnown, Protocol.after_history, returned, finalityRecorded,
      finalityRecorded, Protocol.after_state, stored]
  refine ⟨?_, ?_, ?_, ?_, ?_⟩
  · intro worker holder
    rw [holds] at holder
    rw [Protocol.after_history, returned]
    exact valid.returned worker holder
  · intro worker holder
    rw [holds] at holder
    obtain ⟨record, kept, copy, state, found, version⟩ := valid.current worker holder
    refine ⟨record, kept, ?_, state, by rw [Protocol.after_state, stored, found], version⟩
    by_cases same : event.worker = worker
    · subst same
      rcases own with ⟨unchanged, _⟩ | ⟨_, none⟩
      · exact unchanged.trans copy
      · rw [none] at holder
        cases holder
    · exact (copyOf_frame same).trans copy
  · intro worker other first second
    rw [holds] at first second
    exact valid.unique worker other first second
  · intro aware worker record working copy cancellable
    rw [known] at aware
    rw [holds]
    by_cases same : event.worker = worker
    · subst same
      rcases own with ⟨unchanged, working⟩ | ⟨none, _⟩
      · exact valid.sole aware _ record working (unchanged.symm.trans copy) cancellable
      · rw [none] at copy
        cases copy
    · exact valid.sole aware worker record (others worker same working)
        ((copyOf_frame same).symm.trans copy) cancellable
  · intro aware
    rw [known] at aware
    simp only [holds, Protocol.after_state, stored]
    exact valid.begun aware

/-- An answer with the stored record, while no evidence is held. -/
theorem FinalityGuarded.read (valid : FinalityGuarded platform request view busy)
    (unheld : ∀ worker, holdsFinality platform request worker view = false)
    (quiet : holdsFinality platform request event.worker (Protocol.after view event world) = false)
    (others : ∀ worker, event.worker ≠ worker → later worker → busy worker)
    (known : finalityKnown platform request (Protocol.after view event world) →
      finalityKnown platform request view ∧
        world.settlements request.id = view.state.settlements request.id)
    (own : ∀ record, copyOf platform request event.worker (Protocol.after view event world) =
        some record → world.settlements request.id = some record ∨
      copyOf platform request event.worker view = some record ∧ busy event.worker) :
    FinalityGuarded platform request (Protocol.after view event world) later := by
  have holds (worker : Worker) :
      holdsFinality platform request worker (Protocol.after view event world) = false :=
    (holdsFinality_iff_of_own (quiet.trans (unheld _).symm)).trans (unheld worker)
  have held {worker : Worker} (holder : holdsFinality platform request worker
      (Protocol.after view event world) = true) : False := by
    rw [holds] at holder
    cases holder
  refine ⟨fun _ holder => (held holder).elim, fun _ holder => (held holder).elim,
    fun _ _ holder => (held holder).elim, ?_, ?_⟩
  · intro aware worker record working copy cancellable
    obtain ⟨aware, stored⟩ := known aware
    obtain ⟨current, found, _, _, guarded⟩ := valid.begun aware
    have absent : ¬ ∃ worker, holdsFinality platform request worker view = true := by
      rintro ⟨worker, holder⟩
      rw [unheld] at holder
      cases holder
    -- A busy worker whose copy is older would have to hold the evidence.
    have older : ∀ worker, busy worker → copyOf platform request worker view = some record →
        False := fun worker working copy =>
      absent ⟨worker, valid.sole aware worker record working copy cancellable⟩
    by_cases same : event.worker = worker
    · subst same
      rcases own record copy with read | ⟨kept, working⟩
      · cases (stored.symm.trans read).symm.trans found
        exact (absent (guarded cancellable)).elim
      · exact (older _ working kept).elim
    · exact (older worker (others worker same working) ((copyOf_frame same).symm.trans copy)).elim
  · intro aware
    obtain ⟨aware, stored⟩ := known aware
    obtain ⟨current, found, created, checked, guarded⟩ := valid.begun aware
    refine ⟨current, stored.trans found, created, checked, fun cancellable => ?_⟩
    obtain ⟨worker, holder⟩ := guarded cancellable
    rw [unheld] at holder
    cases holder

/-- Valid evidence reaches a worker with the current version, and no other one under way
has a copy it could cancel. -/
theorem FinalityGuarded.gains {result : SettlementStepEvidence}
    {acted : CrossNetworkSettlementRequest} {record stored : CrossNetworkSettlementRecord}
    (valid : FinalityGuarded platform request view busy)
    (known : (sagaProtocol platform request).localOf worker view.history = some here)
    (copy : here.copy = some record) (state : record.state = .paymentSubmitted)
    (found : view.state.settlements request.id = some stored)
    (version : stored.version = record.version) (submitted : stored.state = .paymentSubmitted)
    (verifiable : result.verifiable platform)
    (working : ∀ worker, holdsFinality platform request worker view → busy worker)
    (others : ∀ other, worker ≠ other → later other → busy other)
    (alone : ∀ other, other ≠ worker → busy other → ∀ record,
      copyOf platform request other view = some record → ¬ record.state.cancellable) :
    FinalityGuarded platform request
      (Protocol.after view (.answered worker (.act .verifyPaymentFinality acted) (.ok result))
        view.state) later := by
  have after : (sagaProtocol platform request).localOf worker (Protocol.after view
      (.answered worker (.act .verifyPaymentFinality acted) (.ok result)) view.state).history =
        some (here.next (.act .verifyPaymentFinality acted) (.ok result)) :=
    localOf_after_answered known
  have holds : holdsFinality platform request worker (Protocol.after view
      (.answered worker (.act .verifyPaymentFinality acted) (.ok result)) view.state) = true :=
    (holdsFinality_of_known after).trans (SagaLocal.finality_iff.mpr ⟨result, rfl, verifiable⟩)
  have returned : finalityReturned platform (.answered worker (.act .verifyPaymentFinality acted)
      (.ok result) :: view.history) = true := by
    rw [finalityReturned, List.any_cons]
    exact Bool.or_eq_true_iff.mpr (.inl verifiable)
  -- Another holder would be under way with a copy it could cancel.
  have sole : ∀ other, holdsFinality platform request other (Protocol.after view
      (.answered worker (.act .verifyPaymentFinality acted) (.ok result)) view.state) →
      other = worker := by
    intro other holder
    by_contra different
    rw [holdsFinality_frame (Ne.symm different)] at holder
    obtain ⟨held, _, held_copy, held_state, _, _⟩ := valid.current other holder
    refine alone other different (working other holder) held held_copy ?_
    rw [held_state]
    rfl
  refine ⟨fun _ _ => returned, ?_, ?_, ?_, ?_⟩
  · intro other holder
    cases sole other holder
    exact ⟨record, stored, (copyOf_of_known after).trans copy, state, found, version⟩
  · intro first second one two
    rw [sole first one, sole second two]
  · intro _ other held working copied cancellable
    by_cases same : worker = other
    · exact same ▸ holds
    · rw [copyOf_frame (by exact same)] at copied
      exact (alone other (Ne.symm same) (others other same working) held copied cancellable).elim
  · intro _
    refine ⟨stored, found, ?_, ?_, fun _ => ⟨worker, holds⟩⟩ <;> rw [submitted] <;> decide

end Steps

end Finality
end InterWeave
