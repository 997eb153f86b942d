import InterWeave.Core.IsoDate
import InterWeave.Settlement.SagaProtocol

/-! # Runs of the saga by many workers

The store is written by compare-and-set on the version. Every copy a worker holds
is a beginning of the stored record, and a copy whose version is current is the
stored record. The code decides to cancel a reservation by its copy alone, so
workers that hold an old copy, or overtake evidence that another worker has not
written yet, cancel after payment finality.
-/

namespace InterWeave

open Async

/-- PAYMENT_FINALIZED or a later state of the sequence. -/
def CrossNetworkSettlementState.paymentFinal : CrossNetworkSettlementState → Bool
  | .paymentFinalized | .paymentAttested | .deliveryReleased | .deliveryFinalized | .reconciled
  | .completed => true
  | _ => false

/-- No step of the saga leads back before payment finality. -/
theorem CrossNetworkSettlementState.before_of_leadsTo :
    ∀ source target : CrossNetworkSettlementState, source.leadsTo target →
      target.beforePaymentFinality → source.beforePaymentFinality := by
  decide

/-- A record as the saga writes it: one transition for every version, the last of
them into the current state, and none past payment finality before it. -/
structure CrossNetworkSettlementRecord.Wellformed (request : CrossNetworkSettlementRequest)
    (record : CrossNetworkSettlementRecord) : Prop where
  request : record.request = request
  numbered : record.transitions.length = record.version + 1
  last : record.transitions.getLast?.map CrossNetworkTransition.state = some record.state
  early : record.state.beforePaymentFinality →
    ∀ transition ∈ record.transitions, transition.state.beforePaymentFinality

/-- A copy is a beginning of the stored record. -/
def Copied (request : CrossNetworkSettlementRequest) (world : SettlementWorld)
    (record : CrossNetworkSettlementRecord) : Prop :=
  record.Wellformed request ∧ ∃ stored, world.settlements request.id = some stored ∧
    record.transitions <+: stored.transitions

section Records

variable {request : CrossNetworkSettlementRequest} {world : SettlementWorld}
  {record stored : CrossNetworkSettlementRecord}

/-- A copy with the current version is the stored record, up to the request hash. -/
theorem Copied.current (copied : Copied request world record)
    (found : world.settlements request.id = some stored) (valid : stored.Wellformed request)
    (version : stored.version = record.version) :
    stored.transitions = record.transitions ∧ stored.state = record.state := by
  obtain ⟨wellformed, other, same, beginning⟩ := copied
  rw [found] at same
  cases same
  have transitions : record.transitions = stored.transitions := by
    refine beginning.eq_of_length ?_
    rw [wellformed.numbered, valid.numbered, version]
  refine ⟨transitions.symm, Option.some.inj ?_⟩
  rw [← valid.last, ← transitions, wellformed.last]

/-- A permitted write on the current version keeps the record well formed. -/
theorem CrossNetworkSettlementRecord.Wellformed.write {platform : Platform} {here : SagaLocal}
    (valid : stored.Wellformed request) (copied : Copied request world record)
    (found : world.settlements request.id = some stored)
    (version : stored.version = record.version) {transition : CrossNetworkTransition}
    (writes : here.Writes platform record transition.state) :
    CrossNetworkSettlementRecord.Wellformed request
      { stored with state := transition.state, version := record.version + 1
                    transitions := stored.transitions ++ [transition] } where
  request := valid.request
  numbered := by rw [List.length_append, valid.numbered, version]; rfl
  last := by rw [List.getLast?_concat]; rfl
  early before other member := by
    rcases List.mem_append.mp member with earlier | added
    · refine valid.early ?_ other earlier
      rw [(copied.current found valid version).2]
      exact CrossNetworkSettlementState.before_of_leadsTo _ _ writes.leadsTo before
    · rw [List.mem_singleton.mp added]
      exact before

end Records

/-! ## The invariant of the store and the copies -/

section Runs

variable (platform : Platform) (request : CrossNetworkSettlementRequest) {Worker : Type}
  [DecidableEq Worker]

/-- A view of a pool of saga runs. -/
abbrev SagaView (Worker : Type) : Type := View settlementServices Worker Nat

/-- The record a worker was last given since its start. -/
def copyOf (worker : Worker) (view : SagaView Worker) : Option CrossNetworkSettlementRecord :=
  ((sagaProtocol platform request).localOf worker view.history).bind SagaLocal.copy

/-- What all runs preserve. -/
structure SagaInvariant (view : SagaView Worker) : Prop where
  stored : ∀ record, view.state.settlements request.id = some record → record.Wellformed request
  copied : ∀ worker record, copyOf platform request worker view = some record →
    Copied request view.state record

variable {platform request} {view : SagaView Worker} {event : Event settlementInterface Worker Nat}
  {world : SettlementWorld}

/-- A step keeps the invariant if it lets the stored record grow and gives its own
worker a copy of it. -/
theorem SagaInvariant.step (valid : SagaInvariant platform request view)
    (stored : ∀ record, world.settlements request.id = some record → record.Wellformed request)
    (grows : ∀ record, view.state.settlements request.id = some record → ∃ next,
      world.settlements request.id = some next ∧ record.transitions <+: next.transitions)
    (own : ∀ record, copyOf platform request event.worker (Protocol.after view event world) =
      some record → Copied request world record) :
    SagaInvariant platform request (Protocol.after view event world) where
  stored := stored
  copied := by
    intro worker record copy
    by_cases same : event.worker = worker
    · subst same
      exact own record copy
    · have earlier : copyOf platform request worker view = some record := by
        rwa [copyOf, Protocol.after_history, Protocol.localOf_cons_of_ne same] at copy
      obtain ⟨wellformed, current, found, beginning⟩ := valid.copied worker record earlier
      obtain ⟨next, there, further⟩ := grows current found
      exact ⟨wellformed, next, there, beginning.trans further⟩

/-- A step without an answer leaves the store and the copies alone. -/
theorem SagaInvariant.quiet (valid : SagaInvariant platform request view)
    (own : copyOf platform request event.worker (Protocol.after view event view.state) =
        copyOf platform request event.worker view ∨
      copyOf platform request event.worker (Protocol.after view event view.state) = none) :
    SagaInvariant platform request (Protocol.after view event view.state) := by
  refine valid.step valid.stored (fun record found => ⟨record, found, List.prefix_rfl⟩) ?_
  intro record copy
  rcases own with same | none
  · exact valid.copied _ record (same.symm.trans copy)
  · exact nomatch none.symm.trans copy

variable {worker : Worker} {here : SagaLocal} {call : SettlementCall}
  {answer : settlementInterface.Answer call}

theorem copyOf_of_known
    (known : (sagaProtocol platform request).localOf worker view.history = some here) :
    copyOf platform request worker view = here.copy := by
  rw [copyOf, known]
  rfl

/-- An answer that lets the stored record grow and gives a copy of it. -/
theorem SagaInvariant.answered (valid : SagaInvariant platform request view)
    (known : (sagaProtocol platform request).localOf worker view.history = some here)
    (stored : ∀ record, world.settlements request.id = some record → record.Wellformed request)
    (grows : ∀ record, view.state.settlements request.id = some record → ∃ next,
      world.settlements request.id = some next ∧ record.transitions <+: next.transitions)
    (own : ∀ record, (here.next call answer).copy = some record → Copied request world record) :
    SagaInvariant platform request (Protocol.after view (.answered worker call answer) world) := by
  refine valid.step stored grows fun record copy => own record ?_
  rw [copyOf, Protocol.after_history, Event.worker, Protocol.localOf_answered_self, known] at copy
  exact copy

/-- An answer that leaves the store and the copy alone. -/
theorem SagaInvariant.unchanged (valid : SagaInvariant platform request view)
    (known : (sagaProtocol platform request).localOf worker view.history = some here)
    (same : world.settlements = view.state.settlements)
    (own : (here.next call answer).copy = here.copy) :
    SagaInvariant platform request (Protocol.after view (.answered worker call answer) world) := by
  refine valid.answered known ?_ ?_ ?_
  · rw [same]
    exact valid.stored
  · rw [same]
    exact fun record found => ⟨record, found, List.prefix_rfl⟩
  · intro record copy
    obtain ⟨wellformed, stored⟩ := valid.copied worker record
      ((copyOf_of_known known).trans (own.symm.trans copy))
    exact ⟨wellformed, by rwa [same]⟩

/-- What the store holds is a copy of itself. -/
theorem SagaInvariant.self (valid : SagaInvariant platform request view)
    {record : CrossNetworkSettlementRecord}
    (found : view.state.settlements request.id = some record) :
    Copied request view.state record :=
  ⟨valid.stored record found, record, found, List.prefix_rfl⟩

/-- What `create` answers is a copy of the stored record. -/
theorem SagaInvariant.create (valid : SagaInvariant platform request view)
    {requestHash : JsString} {transition : CrossNetworkTransition}
    (known : (sagaProtocol platform request).localOf worker view.history = some here)
    (initial : transition.state = .created) :
    SagaInvariant platform request (Protocol.after view
      (.answered worker (.create request requestHash transition)
        (.ok (view.state.create request requestHash transition).1))
      (view.state.create request requestHash transition).2) := by
  cases found : view.state.settlements request.id with
  | some existing =>
      have created : view.state.create request requestHash transition = (existing, view.state) := by
        simp only [SettlementWorld.create, found]
      rw [created]
      refine valid.answered known valid.stored
        (fun record same => ⟨record, same, List.prefix_rfl⟩) ?_
      intro record copy
      cases copy
      exact valid.self found
  | none =>
      let record : CrossNetworkSettlementRecord :=
        { request, requestHash, state := .created, version := 0, transitions := [transition] }
      have created : view.state.create request requestHash transition =
          (record, view.state.put record) := by
        simp only [SettlementWorld.create, found, record]
      have wellformed : record.Wellformed request :=
        ⟨rfl, rfl, congrArg some initial, fun _ other member => by
          rw [List.mem_singleton.mp member, initial]
          rfl⟩
      have stored : (view.state.put record).settlements request.id = some record :=
        Function.update_self ..
      rw [created]
      refine valid.answered known ?_ (fun _ same => nomatch found.symm.trans same) ?_
      · intro other same
        cases stored.symm.trans same
        exact wellformed
      · intro other copy
        cases copy
        exact ⟨wellformed, record, stored, List.prefix_rfl⟩

/-- A write whose version is current appends its transition; any other write
changes nothing. -/
theorem SagaInvariant.transition (valid : SagaInvariant platform request view)
    {record : CrossNetworkSettlementRecord} {transition : CrossNetworkTransition}
    (known : (sagaProtocol platform request).localOf worker view.history = some here)
    (copy : here.copy = some record) (writes : here.Writes platform record transition.state) :
    SagaInvariant platform request (Protocol.after view
      (.answered worker (.transition record.request.id record.version transition)
        (view.state.transition record.request.id record.version transition).1)
      (view.state.transition record.request.id record.version transition).2) := by
  have copied := valid.copied worker record ((copyOf_of_known known).trans copy)
  have id : record.request.id = request.id := by rw [copied.1.request]
  obtain ⟨_, stored, found, beginning⟩ := copied
  by_cases version : stored.version = record.version
  · let next : CrossNetworkSettlementRecord :=
      { stored with state := transition.state, version := record.version + 1
                    transitions := stored.transitions ++ [transition] }
    let after : SettlementWorld :=
      { view.state with settlements := Function.update view.state.settlements request.id next }
    have wrote : view.state.transition record.request.id record.version transition =
        (.ok next, after) := by
      simp only [SettlementWorld.transition, id, found, version, ne_eq, not_true_eq_false,
        ↓reduceIte, next, after]
    have wellformed : next.Wellformed request :=
      (valid.stored stored found).write ⟨‹_›, stored, found, beginning⟩ found version writes
    have there : after.settlements request.id = some next := Function.update_self ..
    rw [wrote]
    refine valid.answered known ?_ ?_ ?_
    · intro other same
      cases there.symm.trans same
      exact wellformed
    · intro other same
      cases found.symm.trans same
      exact ⟨next, there, List.prefix_append ..⟩
    · intro other same
      cases same
      exact ⟨wellformed, next, there, List.prefix_rfl⟩
  · have refused : view.state.transition record.request.id record.version transition =
        (.error (.registryError .conflict (js "stale settlement version")), view.state) := by
      simp only [SettlementWorld.transition, id, found, version, ne_eq, not_false_eq_true,
        ↓reduceIte]
    rw [refused]
    exact valid.unchanged known rfl rfl

/-- **Every step of a saga pool keeps the invariant.** -/
theorem SagaInvariant.preserves
    (admits : SagaView Worker → Event settlementInterface Worker Nat → Prop) :
    (sagaProtocol platform request).Preserves admits (SagaInvariant platform request) where
  started view worker bound valid _ _ := by
    refine valid.quiet (.inr ?_)
    rw [copyOf, Protocol.after_history, Event.worker, Protocol.localOf_started_self]
    rfl
  issued view worker call here valid _ _ _ := by
    refine valid.quiet (.inl ?_)
    rw [copyOf, Protocol.after_history, Protocol.localOf_issued, copyOf]
  crashed view worker here valid _ _ := by
    refine valid.quiet (.inr ?_)
    rw [copyOf, Protocol.after_history, Event.worker, Protocol.localOf_crashed_self]
    rfl
  answered view worker call answer here choice world valid _ _ known allowed replied := by
    cases call with
    | now =>
        cases choice <;> cases replied
        exact valid.unchanged known rfl rfl
    | get id =>
        cases choice <;> cases replied
        obtain rfl := allowed
        refine valid.answered known valid.stored
          (fun record same => ⟨record, same, List.prefix_rfl⟩) ?_
        intro record copy
        cases found : view.state.settlements request.id with
        | none =>
            rw [found] at copy
            obtain ⟨_, stored, same, _⟩ :=
              valid.copied worker record ((copyOf_of_known known).trans copy)
            cases found.symm.trans same
        | some stored =>
            rw [found] at copy
            cases copy
            exact valid.self found
    | create created requestHash transition =>
        cases choice <;> cases replied
        obtain ⟨rfl, initial⟩ := allowed
        exact valid.create known initial
    | transition id expectedVersion transition =>
        cases choice <;> cases replied
        obtain ⟨record, copy, rfl, rfl, _, writes⟩ := allowed
        exact valid.transition known copy writes
    | check checked =>
        cases choice <;> cases replied
        all_goals exact valid.unchanged known rfl rfl
    | act action acted =>
        cases choice <;> cases replied
        all_goals exact valid.unchanged known rfl rfl
    | reconcile reconciled =>
        cases choice <;> cases replied
        all_goals exact valid.unchanged known rfl rfl

end Runs
end InterWeave
