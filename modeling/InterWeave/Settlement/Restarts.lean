import InterWeave.Settlement.Cancellation

/-! # Restarts of one worker

The saga writes a cancellation only after it has happened. A crash in between
leaves a record that does not know of it, and the next run decides again from the
old state. After an expiry it decides the same: the clock does not go back, so it
cancels once more. After a failure it takes the next action, and may release a
delivery whose reservation is cancelled. The store does not fail here: it answers every
call.
-/

namespace InterWeave

open Async

/-- The action has returned successfully. -/
def completed (action : SettlementAction)
    (history : List (Event settlementInterface Unit Nat)) : Bool :=
  history.any fun event =>
    match event with
    | .answered _ (.act acted _) (.ok _) => acted == action
    | _ => false

/-- The states from the first release on. -/
def CrossNetworkSettlementState.releasing : CrossNetworkSettlementState → Bool
  | .paymentAttested | .deliveryReleased | .deliveryFinalized | .reconciled | .completed
  | .manualReview => true
  | _ => false

/-- The states in which a cancellation is recorded. -/
def CrossNetworkSettlementState.cancelled : CrossNetworkSettlementState → Bool
  | .compensated | .manualReview => true
  | _ => false

/-- The expiry of the settlement has passed. -/
def expired (platform : Platform) (request : CrossNetworkSettlementRequest) (clock : Int) : Bool :=
  numberLe (platform.dateParse request.expiresAt) (some clock)

theorem expired_mono {platform : Platform} {request : CrossNetworkSettlementRequest}
    {earlier later : Int} (order : earlier ≤ later) (past : expired platform request earlier) :
    expired platform request later := by
  unfold expired at past ⊢
  cases parsed : platform.dateParse request.expiresAt with
  | none => rw [parsed] at past; cases past
  | some expiry =>
      rw [parsed] at past
      simp only [numberLe, decide_eq_true_eq] at past ⊢
      exact past.trans order

/-- A cancellation has returned to the worker and is not written yet. -/
def SagaLocal.cancelling (here : SagaLocal) : Bool :=
  here.returned.any fun held => held.1 == .cancelDeliveryReservation

theorem SagaLocal.cancelling_iff (here : SagaLocal) :
    here.cancelling = true ↔ here.Cancelling := by
  unfold cancelling Cancelling
  cases here.returned with
  | none => simp only [Option.any_none, Bool.false_eq_true, reduceCtorEq, exists_false]
  | some held =>
      obtain ⟨action, result⟩ := held
      simp only [Option.any_some, beq_iff_eq, Option.some.injEq, Prod.mk.injEq, exists_and_left,
        exists_eq', and_true]

section Conditions

variable (platform : Platform) (request : CrossNetworkSettlementRequest)

/-- The clock does not go back. -/
def ClockAdvances (view : SagaView Unit) : Event settlementInterface Unit Nat → Bool
  | .answered _ .now (.ok instant) => decide (view.state.clock ≤ instant)
  | _ => true

/-- No crash falls between a cancellation and its write, unless the settlement has
expired. -/
def CrashesApart (view : SagaView Unit) : Event settlementInterface Unit Nat → Bool
  | .crashed worker =>
      !((sagaProtocol platform request).localOf worker view.history).any SagaLocal.cancelling ||
        expired platform request view.state.clock
  | _ => true

/-- The local state of the only worker. -/
def theLocal (view : SagaView Unit) : Option SagaLocal :=
  (sagaProtocol platform request).localOf () view.history

/-- What is left to happen to a completed cancellation that is not recorded: its
worker writes it, or the next run cancels again. -/
def CancellationPending (view : SagaView Unit) : Prop :=
  (∃ here, theLocal platform request view = some here ∧ here.Cancelling) ∨
    (expired platform request view.state.clock ∧
      ∀ here, theLocal platform request view = some here → here.returned = none)

/-- The invariant of restarts. -/
structure RestartInvariant (view : SagaView Unit) : Prop where
  saga : SagaInvariant platform request view
  current : ∀ record, copyOf platform request () view = some record →
    view.state.settlements request.id = some record
  reading : ∀ here instant, theLocal platform request view = some here →
    here.reading = some instant → instant = view.state.clock
  released : completed .releaseDelivery view.history → ∃ stored,
    view.state.settlements request.id = some stored ∧ stored.state.releasing
  cancelled : completed .cancelDeliveryReservation view.history → ∃ stored,
    view.state.settlements request.id = some stored ∧ (stored.state.cancelled ∨
      stored.state.cancellable ∧ CancellationPending platform request view)
  exclusive : ¬ (completed .releaseDelivery view.history ∧
    completed .cancelDeliveryReservation view.history)

end Conditions

variable {platform : Platform} {request : CrossNetworkSettlementRequest} {view : SagaView Unit}

theorem RestartInvariant.empty (clock : Int) :
    RestartInvariant platform request (SagaView.empty Unit clock) where
  saga := .empty clock
  current _ copy := nomatch copy
  reading _ _ known := nomatch known
  released done := nomatch done
  cancelled done := nomatch done
  exclusive done := nomatch done.1

/-! ## Writes on the stored record -/

theorem CrossNetworkSettlementState.releasing_of_leadsTo :
    ∀ source target : CrossNetworkSettlementState, source.leadsTo target → source.releasing →
      target.releasing := by
  decide

theorem CrossNetworkSettlementState.not_leadsTo_of_cancelled :
    ∀ source target : CrossNetworkSettlementState, source.cancelled →
      source.leadsTo target = false := by
  decide

theorem CrossNetworkSettlementState.not_releasing_of_cancellable :
    ∀ state : CrossNetworkSettlementState, state.cancellable → state.releasing = false := by
  decide

/-- Without evidence of a forward action, the writes permitted on a cancellable
record are those that record a cancellation. -/
theorem SagaLocal.Writes.cancelled {here : SagaLocal} {record : CrossNetworkSettlementRecord}
    {state : CrossNetworkSettlementState} (writes : here.Writes platform record state)
    (cancellable : record.state.cancellable)
    (unacted : ∀ action result, here.returned = some (action, result) → action.step = none) :
    state.cancelled := by
  have acted : ¬ ∃ action result, action.step = some (record.state, state) ∧
      here.returned = some (action, result) ∧ result.verifiable platform := by
    rintro ⟨action, result, steps, held, _⟩
    exact nomatch (unacted action result held).symm.trans steps
  cases state with
  | compensated => rfl
  | manualReview => rfl
  | created => exact writes.elim
  | policyChecked => rw [writes.1] at cancellable; exact absurd cancellable (by decide)
  | reconciled => rw [writes.1] at cancellable; exact absurd cancellable (by decide)
  | completed => rw [writes.1] at cancellable; exact absurd cancellable (by decide)
  | failed => exact absurd cancellable (by rw [writes.2]; exact Bool.false_ne_true)
  | expired => exact absurd cancellable (by rw [writes.2]; exact Bool.false_ne_true)
  | _ => exact (acted writes).elim

/-! ## Steps -/

section Steps

variable {here : SagaLocal}

/-- A step without an answer changes neither the store, the clock nor what has
completed. -/
theorem RestartInvariant.quiet (valid : RestartInvariant platform request view)
    {event : Event settlementInterface Unit Nat}
    (saga : SagaInvariant platform request (Protocol.after view event view.state))
    (silent : ∀ action, completed action (event :: view.history) = completed action view.history)
    (standing : theLocal platform request (Protocol.after view event view.state) =
        theLocal platform request view ∨
      (∀ there, theLocal platform request (Protocol.after view event view.state) = some there →
        there = .fresh) ∧
      ∀ here, theLocal platform request view = some here → here.Cancelling →
        expired platform request view.state.clock) :
    RestartInvariant platform request (Protocol.after view event view.state) where
  saga := saga
  current record copy := by
    rcases standing with same | ⟨forgotten, _⟩
    · refine valid.current record ?_
      rw [← copy]
      exact congrArg (Option.bind · SagaLocal.copy) same.symm
    · obtain ⟨there, known, copied⟩ := Option.bind_eq_some_iff.mp copy
      rw [forgotten there known] at copied
      cases copied
  reading there instant known read := by
    rcases standing with same | ⟨forgotten, _⟩
    · exact valid.reading there instant (same.symm.trans known) read
    · rw [forgotten there known] at read
      cases read
  released done := valid.released (by rwa [Protocol.after_history, silent] at done)
  cancelled done := by
    obtain ⟨stored, found, state⟩ := valid.cancelled (by rwa [Protocol.after_history, silent] at done)
    refine ⟨stored, found, state.imp_right fun ⟨cancellable, pending⟩ => ⟨cancellable, ?_⟩⟩
    rcases standing with same | ⟨forgotten, lost⟩
    · rcases pending with ⟨here, known, cancelling⟩ | ⟨past, nothing⟩
      · exact .inl ⟨here, same.trans known, cancelling⟩
      · exact .inr ⟨past, fun there known => nothing there (same.symm.trans known)⟩
    · refine .inr ⟨?_, fun there known => by rw [forgotten there known]; rfl⟩
      rcases pending with ⟨here, known, cancelling⟩ | ⟨past, _⟩
      · exact lost here known cancelling
      · exact past
  exclusive both := valid.exclusive (by rwa [Protocol.after_history, silent, silent] at both)

variable {call : SettlementCall} {answer : settlementInterface.Answer call}
  {world : SettlementWorld}

theorem theLocal_answered (known : theLocal platform request view = some here) :
    theLocal platform request (Protocol.after view (.answered () call answer) world) =
      some (here.next call answer) := by
  rw [theLocal, Protocol.after_history, Protocol.localOf_answered_self]
  exact congrArg (Option.map _) known

theorem copyOf_answered (known : theLocal platform request view = some here) :
    copyOf platform request () (Protocol.after view (.answered () call answer) world) =
      (here.next call answer).copy := by
  rw [copyOf, Protocol.after_history, Protocol.localOf_answered_self, Option.bind_map]
  exact congrArg (Option.bind · _) known

/-- An answer after which the store holds the same record and the worker holds the
same evidence. -/
theorem RestartInvariant.same (valid : RestartInvariant platform request view)
    (known : theLocal platform request view = some here)
    (saga : SagaInvariant platform request
      (Protocol.after view (.answered () call answer) world))
    (silent : ∀ action, completed action (.answered () call answer :: view.history) =
      completed action view.history)
    (store : ∀ record, view.state.settlements request.id = some record →
      world.settlements request.id = some record)
    (copy : ∀ record, (here.next call answer).copy = some record →
      world.settlements request.id = some record)
    (clock : view.state.clock ≤ world.clock)
    (reading : ∀ instant, (here.next call answer).reading = some instant → instant = world.clock)
    (returned : (here.next call answer).returned = here.returned) :
    RestartInvariant platform request
      (Protocol.after view (.answered () call answer) world) where
  saga := saga
  current record copied := copy record ((copyOf_answered known).symm.trans copied)
  reading there instant after read := by
    cases (theLocal_answered known).symm.trans after
    exact reading instant read
  released done := by
    rw [Protocol.after_history, silent] at done
    obtain ⟨stored, found, state⟩ := valid.released done
    exact ⟨stored, store stored found, state⟩
  cancelled done := by
    rw [Protocol.after_history, silent] at done
    obtain ⟨stored, found, state⟩ := valid.cancelled done
    refine ⟨stored, store stored found, state.imp_right fun ⟨cancellable, pending⟩ =>
      ⟨cancellable, ?_⟩⟩
    rcases pending with ⟨before, same, cancelling⟩ | ⟨past, nothing⟩
    · cases known.symm.trans same
      obtain ⟨result, held⟩ := cancelling
      exact .inl ⟨_, theLocal_answered known, result, returned.trans held⟩
    · refine .inr ⟨expired_mono clock past, fun there after => ?_⟩
      cases (theLocal_answered known).symm.trans after
      exact returned.trans (nothing here known)
  exclusive both := by
    rw [Protocol.after_history, silent, silent] at both
    exact valid.exclusive both

/-- A write on the only copy succeeds and records a pending cancellation. -/
theorem RestartInvariant.transition (valid : RestartInvariant platform request view)
    {record : CrossNetworkSettlementRecord} {transition : CrossNetworkTransition}
    (known : theLocal platform request view = some here) (copy : here.copy = some record)
    (writes : here.Writes platform record transition.state)
    (saga : SagaInvariant platform request (Protocol.after view
      (.answered () (.transition record.request.id record.version transition)
        (view.state.transition record.request.id record.version transition).1)
      (view.state.transition record.request.id record.version transition).2)) :
    RestartInvariant platform request (Protocol.after view
      (.answered () (.transition record.request.id record.version transition)
        (view.state.transition record.request.id record.version transition).1)
      (view.state.transition record.request.id record.version transition).2) := by
  have found := valid.current record ((copyOf_of_known known).trans copy)
  have id : record.request.id = request.id := by rw [(valid.saga.stored record found).request]
  let next : CrossNetworkSettlementRecord :=
    { record with state := transition.state, version := record.version + 1
                  transitions := record.transitions ++ [transition] }
  let after : SettlementWorld :=
    { view.state with settlements := Function.update view.state.settlements request.id next }
  have wrote : view.state.transition record.request.id record.version transition =
      (.ok next, after) := by
    simp only [SettlementWorld.transition, id, found, ne_eq, not_true_eq_false, ↓reduceIte, next,
      after]
  have there : after.settlements request.id = some next := Function.update_self ..
  rw [wrote] at saga ⊢
  refine ⟨saga, ?_, ?_, ?_, ?_, valid.exclusive⟩
  · intro other copied
    cases (copyOf_answered known).symm.trans copied
    exact there
  · intro later instant same read
    cases (theLocal_answered known).symm.trans same
    exact valid.reading here instant known read
  · intro done
    obtain ⟨stored, same, state⟩ := valid.released done
    cases found.symm.trans same
    exact ⟨next, there,
      CrossNetworkSettlementState.releasing_of_leadsTo _ _ writes.leadsTo state⟩
  · intro done
    obtain ⟨stored, same, state⟩ := valid.cancelled done
    cases found.symm.trans same
    refine ⟨next, there, .inl ?_⟩
    rcases state with cancelled | ⟨cancellable, pending⟩
    · have blocked := CrossNetworkSettlementState.not_leadsTo_of_cancelled _ transition.state
        cancelled
      rw [writes.leadsTo] at blocked
      cases blocked
    · refine writes.cancelled cancellable fun action result held => ?_
      rcases pending with ⟨before, same, _, cancelling⟩ | ⟨_, nothing⟩
      · cases known.symm.trans same
        cases held.symm.trans cancelling
        rfl
      · cases held.symm.trans (nothing here known)

/-- A forward action completes only while no cancellation has. -/
theorem RestartInvariant.uncancelled (valid : RestartInvariant platform request view)
    {record : CrossNetworkSettlementRecord} {source : CrossNetworkSettlementState}
    (known : theLocal platform request view = some here) (copy : here.copy = some record)
    (state : record.state = source) (forward : source.cancelled = false)
    (nothing : here.returned = none) (unexpired : here.Unexpired platform request) :
    completed .cancelDeliveryReservation view.history = false := by
  by_contra done
  rw [Bool.not_eq_false] at done
  have found := valid.current record ((copyOf_of_known known).trans copy)
  obtain ⟨stored, same, recorded⟩ := valid.cancelled done
  cases found.symm.trans same
  rcases recorded with cancelled | ⟨_, pending⟩
  · rw [state, forward] at cancelled
    cases cancelled
  · rcases pending with ⟨before, same, _, held⟩ | ⟨past, _⟩
    · cases known.symm.trans same
      exact nomatch nothing.symm.trans held
    · obtain ⟨instant, read, early⟩ := unexpired
      rw [valid.reading here instant known read] at early
      exact nomatch early.symm.trans past

theorem completed_acted (action acted : SettlementAction)
    (asked : CrossNetworkSettlementRequest) (result : SettlementStepEvidence)
    (earlier : List (Event settlementInterface Unit Nat)) :
    completed action (.answered () (.act acted asked) (.ok result) :: earlier) =
      (acted == action || completed action earlier) := rfl

/-- A cancellation that returns is pending. -/
theorem RestartInvariant.cancel (valid : RestartInvariant platform request view)
    {record : CrossNetworkSettlementRecord} {asked : CrossNetworkSettlementRequest}
    {result : SettlementStepEvidence} (known : theLocal platform request view = some here)
    (copy : here.copy = some record) (cancellable : record.state.cancellable)
    (saga : SagaInvariant platform request (Protocol.after view
      (.answered () (.act .cancelDeliveryReservation asked) (.ok result)) view.state)) :
    RestartInvariant platform request (Protocol.after view
      (.answered () (.act .cancelDeliveryReservation asked) (.ok result)) view.state) := by
  have found := valid.current record ((copyOf_of_known known).trans copy)
  have unreleased : completed .releaseDelivery view.history = false := by
    by_contra done
    rw [Bool.not_eq_false] at done
    obtain ⟨stored, same, releasing⟩ := valid.released done
    cases found.symm.trans same
    rw [CrossNetworkSettlementState.not_releasing_of_cancellable _ cancellable] at releasing
    cases releasing
  refine ⟨saga, ?_, ?_, valid.released, fun _ => ?_, ?_⟩
  · intro other copied
    have kept : here.copy = some other := (copyOf_answered known).symm.trans copied
    exact valid.current other ((copyOf_of_known known).trans kept)
  · intro later instant same read
    cases (theLocal_answered known).symm.trans same
    exact valid.reading here instant known read
  · exact ⟨record, found, .inr ⟨cancellable, .inl ⟨_, theLocal_answered known, result, rfl⟩⟩⟩
  · rintro ⟨released, _⟩
    rw [Protocol.after_history, completed_acted, unreleased] at released
    cases released

/-- A forward action that returns follows no cancellation. -/
theorem RestartInvariant.forward (valid : RestartInvariant platform request view)
    {record : CrossNetworkSettlementRecord} {asked : CrossNetworkSettlementRequest}
    {result : SettlementStepEvidence} {action : SettlementAction}
    {source target : CrossNetworkSettlementState}
    (known : theLocal platform request view = some here) (copy : here.copy = some record)
    (steps : action.step = some (source, target)) (state : record.state = source)
    (nothing : here.returned = none) (unexpired : here.Unexpired platform request)
    (saga : SagaInvariant platform request (Protocol.after view
      (.answered () (.act action asked) (.ok result)) view.state)) :
    RestartInvariant platform request (Protocol.after view
      (.answered () (.act action asked) (.ok result)) view.state) := by
  have found := valid.current record ((copyOf_of_known known).trans copy)
  have ahead : source.cancelled = false := by
    cases action <;> cases steps <;> rfl
  have other : (action == .cancelDeliveryReservation) = false := by
    cases action <;> first | rfl | cases steps
  have uncancelled := valid.uncancelled known copy state ahead nothing unexpired
  refine ⟨saga, ?_, ?_, ?_, ?_, ?_⟩
  · intro next copied
    have kept : here.copy = some next := (copyOf_answered known).symm.trans copied
    exact valid.current next ((copyOf_of_known known).trans kept)
  · intro later instant same read
    cases (theLocal_answered known).symm.trans same
    exact valid.reading here instant known read
  · intro done
    rw [Protocol.after_history, completed_acted, Bool.or_eq_true, beq_iff_eq] at done
    rcases done with now | earlier
    · subst now
      cases steps
      exact ⟨record, found, by rw [state]; rfl⟩
    · exact valid.released earlier
  · intro done
    rw [Protocol.after_history, completed_acted, other, uncancelled] at done
    cases done
  · rintro ⟨_, cancelled⟩
    rw [Protocol.after_history, completed_acted, other, uncancelled] at cancelled
    cases cancelled

/-- An answer that changes nothing but the copy of a stored record. -/
theorem RestartInvariant.calm (valid : RestartInvariant platform request view)
    (known : theLocal platform request view = some here)
    (saga : SagaInvariant platform request
      (Protocol.after view (.answered () call answer) view.state))
    (silent : ∀ action, completed action (.answered () call answer :: view.history) =
      completed action view.history)
    (copy : ∀ record, (here.next call answer).copy = some record →
      here.copy = some record ∨ view.state.settlements request.id = some record)
    (reading : (here.next call answer).reading = here.reading)
    (returned : (here.next call answer).returned = here.returned) :
    RestartInvariant platform request
      (Protocol.after view (.answered () call answer) view.state) := by
  refine valid.same known saga silent (fun _ found => found) ?_ (Int.le_refl _) ?_ returned
  · intro record copied
    rcases copy record copied with kept | stored
    · exact valid.current record ((copyOf_of_known known).trans kept)
    · exact stored
  · intro instant read
    exact valid.reading here instant known (reading.symm.trans read)

/-- The record that `create` returns is stored. -/
theorem RestartInvariant.create (valid : RestartInvariant platform request view)
    {requestHash : JsString} {transition : CrossNetworkTransition}
    (known : theLocal platform request view = some here)
    (saga : SagaInvariant platform request (Protocol.after view
      (.answered () (.create request requestHash transition)
        (.ok (view.state.create request requestHash transition).1))
      (view.state.create request requestHash transition).2)) :
    RestartInvariant platform request (Protocol.after view
      (.answered () (.create request requestHash transition)
        (.ok (view.state.create request requestHash transition).1))
      (view.state.create request requestHash transition).2) := by
  cases found : view.state.settlements request.id with
  | some existing =>
      have created : view.state.create request requestHash transition = (existing, view.state) := by
        simp only [SettlementWorld.create, found]
      rw [created] at saga ⊢
      exact valid.calm known saga (fun _ => rfl) (fun record copy => .inr (found.trans copy)) rfl rfl
  | none =>
      let record : CrossNetworkSettlementRecord :=
        { request, requestHash, state := .created, version := 0, transitions := [transition] }
      have created : view.state.create request requestHash transition =
          (record, view.state.put record) := by
        simp only [SettlementWorld.create, found, record]
      have stored : (view.state.put record).settlements request.id = some record :=
        Function.update_self ..
      rw [created] at saga ⊢
      refine valid.same known saga (fun _ => rfl) (fun _ same => by cases found.symm.trans same)
        (fun _ copy => stored.trans copy) (Int.le_refl _) ?_ rfl
      exact fun instant read => valid.reading here instant known read

/-- **Every step keeps the invariant of restarts** if the clock does not go back and
crashes stay apart from unwritten cancellations. -/
theorem RestartInvariant.preserves :
    (sagaProtocol platform request).Preserves
      (fun view event => ClockAdvances view event ∧ CrashesApart platform request view event)
      (RestartInvariant platform request) where
  started view worker bound valid admitted settled := by
    refine valid.quiet ((SagaInvariant.preserves fun _ _ => True).started _ _ _ valid.saga trivial
      settled) (fun _ => rfl) (.inr ⟨?_, fun here known held => ((settled here known).1 held).elim⟩)
    intro there known
    rw [theLocal, Protocol.after_history, Protocol.localOf_started_self] at known
    exact (Option.some.inj known).symm
  issued view worker call here valid admitted known allowed := by
    refine valid.quiet ((SagaInvariant.preserves fun _ _ => True).issued _ _ _ _ valid.saga trivial
      known allowed) (fun _ => rfl) (.inl ?_)
    rw [theLocal, Protocol.after_history, Protocol.localOf_issued, theLocal]
  crashed view worker here valid admitted known := by
    refine valid.quiet ((SagaInvariant.preserves fun _ _ => True).crashed _ _ _ valid.saga trivial
      known) (fun _ => rfl) (.inr ⟨?_, ?_⟩)
    · intro there known
      rw [theLocal, Protocol.after_history, Protocol.localOf_crashed_self] at known
      cases known
    · intro held same cancelling
      have apart := admitted.2
      rw [CrashesApart, Bool.or_eq_true, Bool.not_eq_true'] at apart
      rcases apart with absent | past
      · rw [show (sagaProtocol platform request).localOf worker view.history = some held from same,
          Option.any_some] at absent
        rw [(SagaLocal.cancelling_iff held).mpr cancelling] at absent
        cases absent
      · exact past
  answered view worker call answer here choice world valid admitted waits known allowed replied := by
    have saga := (SagaInvariant.preserves fun _ _ => True).answered _ _ _ _ _ _ _ valid.saga trivial
      waits known allowed replied
    cases call with
    | now =>
        cases choice <;> cases replied
        refine valid.same known saga (fun _ => rfl) (fun _ found => found) ?_ ?_ ?_ rfl
        · exact fun record copy => valid.current record ((copyOf_of_known known).trans copy)
        · exact of_decide_eq_true admitted.1
        · exact fun _ read => (Option.some.inj read).symm
    | get id =>
        cases choice <;> cases replied
        obtain rfl := allowed
        cases found : view.state.settlements request.id with
        | none =>
            rw [found] at saga
            exact valid.calm known saga (fun _ => rfl) (fun _ copy => .inl copy) rfl rfl
        | some stored =>
            rw [found] at saga
            exact valid.calm known saga (fun _ => rfl) (fun _ copy => .inr (found.trans copy)) rfl
              rfl
    | create created requestHash transition =>
        cases choice <;> cases replied
        obtain ⟨rfl, _⟩ := allowed
        exact valid.create known saga
    | transition id expectedVersion transition =>
        cases choice <;> cases replied
        obtain ⟨record, copy, rfl, rfl, _, writes⟩ := allowed
        exact valid.transition known copy writes saga
    | check checked =>
        cases choice <;> cases replied
        all_goals exact valid.calm known saga (fun _ => rfl) (fun _ copy => .inl copy) rfl rfl
    | reconcile reconciled =>
        cases choice <;> cases replied
        all_goals exact valid.calm known saga (fun _ => rfl) (fun _ copy => .inl copy) rfl rfl
    | act action asked =>
        cases choice <;> cases replied
        · obtain ⟨record, copy, permitted⟩ := allowed
          cases steps : action.step with
          | none =>
              rw [steps] at permitted
              obtain rfl : action = .cancelDeliveryReservation := by
                cases action <;> first | rfl | cases steps
              exact valid.cancel known copy permitted.1 saga
          | some edge =>
              rw [steps] at permitted
              obtain ⟨state, nothing, unexpired⟩ := permitted
              exact valid.forward known copy steps state nothing unexpired saga
        · exact valid.calm known saga (fun _ => rfl) (fun _ copy => .inl copy) rfl rfl

end Steps

/-- **Cancellation and release exclude each other** in every run of one worker whose
clock does not go back and whose crashes stay apart from unwritten cancellations. -/
theorem cancellation_excludes_release (platform : Platform)
    (request : CrossNetworkSettlementRequest) {clock : Int}
    {config : Config settlementServices Unit Nat CrossNetworkSettlementRecord}
    (reached : Reachable (CrossNetworkSettlementService.execute platform request)
      (fun view event => ClockAdvances view event ∧ CrashesApart platform request view event)
      (SagaView.empty Unit clock) config) :
    ¬ (completed .releaseDelivery config.history ∧
      completed .cancelDeliveryReservation config.history) :=
  (Protocol.invariant (CrossNetworkSettlementService.execute_follows platform request)
    SettlementWorld.reply_clockAnswers rfl (RestartInvariant.empty clock)
    RestartInvariant.preserves reached).exclusive

namespace SagaExample

/-- The expired settlement is cancelled, the worker crashes before the write, and the
next run cancels again. -/
def cancelsTwice : List (Action settlementServices Unit Nat) :=
  .start () 12 :: exchanges () (reserve ++ [SettlementChoice.instant late, .evidence evidence]) ++
    [Action.crash (), .start () 12] ++
    exchanges () [.stored, .instant late, .evidence evidence, .instant late, .stored]

/-- A failed verification is compensated, the worker crashes before the write, and
the next run goes on to release the delivery. -/
def releasesCancelled : List (Action settlementServices Unit Nat) :=
  .start () 12 :: exchanges () (reserve ++
      [SettlementChoice.instant early, .failure .other, .evidence evidence]) ++
    [Action.crash (), .start () 12] ++
    exchanges () (.stored :: iteration ++ iteration ++ iteration ++ iteration ++
      [SettlementChoice.instant early, .evidence evidence])

end SagaExample

open SagaExample in
/-- A crash after the cancellation of an expired settlement does not release it. -/
theorem cancellation_excludes_release_expired :
    ∃ config : Config settlementServices Unit Nat CrossNetworkSettlementRecord,
      completed .cancelDeliveryReservation config.history = true ∧
      ¬ (completed .releaseDelivery config.history ∧
        completed .cancelDeliveryReservation config.history) := by
  obtain ⟨config, reached, cancelled⟩ := Reachable.exists_of_run SagaExample.execute
    (fun view event => ClockAdvances view event ∧ CrashesApart isoPlatform request view event)
    (SagaView.empty Unit early) cancelsTwice
    (fun config => completed .cancelDeliveryReservation config.history) (by decide +kernel)
  exact ⟨config, cancelled, cancellation_excludes_release isoPlatform request reached⟩

open SagaExample in
/-- **Release after cancellation.** One worker cancels the reservation after a
failure, crashes, and releases the delivery in its next run. -/
theorem release_after_cancellation :
    ¬ ∀ config : Config settlementServices Unit Nat CrossNetworkSettlementRecord,
      Reachable SagaExample.execute (fun view event => ClockAdvances view event)
        (SagaView.empty Unit early) config →
      ¬ (completed .releaseDelivery config.history ∧
        completed .cancelDeliveryReservation config.history) := by
  intro claim
  obtain ⟨config, reached, both⟩ := Reachable.exists_of_run SagaExample.execute
    (fun view event => ClockAdvances view event = true) (SagaView.empty Unit early)
    releasesCancelled
    (fun config => completed .releaseDelivery config.history &&
      completed .cancelDeliveryReservation config.history) (by decide +kernel)
  rw [Bool.and_eq_true] at both
  exact claim config reached both

end InterWeave
