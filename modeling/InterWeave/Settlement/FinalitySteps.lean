import InterWeave.Settlement.PaymentFinality

/-! # Undisturbed answers

An undisturbed answer keeps finality guarded. The write of a worker with an old copy is
refused. A write on the current version is the one of the evidence, or leads from a state
that nobody could cancel in to another one.
-/

namespace InterWeave

open Async

variable {platform : Platform} {request : CrossNetworkSettlementRequest} {Worker : Type}
  [DecidableEq Worker] {view : SagaView Worker} {world : SettlementWorld}
  {busy later : Worker → Prop} {worker : Worker} {here : SagaLocal} {call : SettlementCall}
  {answer : settlementInterface.Answer call}

/-- Only the evidence of payment finality is written as PAYMENT_FINALIZED. -/
theorem SagaLocal.Writes.finality {record : CrossNetworkSettlementRecord}
    (writes : here.Writes platform record .paymentFinalized) : here.finality platform := by
  obtain ⟨action, result, steps, held, verifiable⟩ := writes
  cases action <;> simp only [SettlementAction.step, Option.some.injEq, Prod.mk.injEq,
    reduceCtorEq, and_false] at steps
  exact finality_iff.mpr ⟨result, held, verifiable⟩

omit [DecidableEq Worker] in
/-- A record in a final state has a final transition. -/
theorem finalityRecorded_of_paymentFinal {stored : CrossNetworkSettlementRecord}
    (found : view.state.settlements request.id = some stored) (valid : stored.Wellformed request)
    (final : stored.state.paymentFinal) : finalityRecorded request view.state := by
  rw [finalityRecorded, found, Option.any_some, List.any_eq_true]
  obtain ⟨transition, last, state⟩ := Option.map_eq_some_iff.mp valid.last
  exact ⟨transition, List.mem_of_getLast? last, by rw [state]; exact final⟩

/-- A write on the current version makes finality known only where it was known. -/
theorem finalityKnown_of_write {record stored next : CrossNetworkSettlementRecord}
    {transition : CrossNetworkTransition} (valid : FinalityGuarded platform request view busy)
    (saga : SagaInvariant platform request view)
    (known : (sagaProtocol platform request).localOf worker view.history = some here)
    (writes : here.Writes platform record transition.state)
    (found : view.state.settlements request.id = some stored) (same : stored.state = record.state)
    (there : world.settlements request.id = some next)
    (transitions : next.transitions = stored.transitions ++ [transition])
    (aware : finalityReturned platform view.history || finalityRecorded request world) :
    finalityKnown platform request view := by
  rw [finalityKnown, Bool.or_eq_true]
  rcases Bool.or_eq_true_iff.mp aware with returned | recorded
  · exact .inl returned
  · rw [finalityRecorded, there, Option.any_some, transitions, List.any_append,
      Bool.or_eq_true] at recorded
    rcases recorded with earlier | final
    · refine .inr ?_
      rw [finalityRecorded, found, Option.any_some]
      exact earlier
    · simp only [List.any_cons, List.any_nil, Bool.or_false] at final
      rcases CrossNetworkSettlementState.paymentFinal_of_leadsTo _ _ writes.leadsTo final with
        past | ⟨_, entered⟩
      · exact .inr (finalityRecorded_of_paymentFinal found (saga.stored stored found)
          (same ▸ past))
      · rw [entered] at writes
        exact .inl (valid.returned worker ((holdsFinality_of_known known).trans writes.finality))

/-- A write on the current version. It is the one of the evidence, or leads from a state
that is not cancellable to another one. -/
theorem FinalityGuarded.writes {record stored next : CrossNetworkSettlementRecord}
    {transition : CrossNetworkTransition} {id : JsString} {version : Nat}
    (valid : FinalityGuarded platform request view busy)
    (saga : SagaInvariant platform request view)
    (known : (sagaProtocol platform request).localOf worker view.history = some here)
    (copy : here.copy = some record) (writes : here.Writes platform record transition.state)
    (found : view.state.settlements request.id = some stored)
    (current : stored.version = record.version) (working : busy worker)
    (others : ∀ other, worker ≠ other → later other → busy other)
    (there : world.settlements request.id = some next) (state : next.state = transition.state)
    (transitions : next.transitions = stored.transitions ++ [transition]) :
    FinalityGuarded platform request
      (Protocol.after view (.answered worker (.transition id version transition) (.ok next))
        world) later := by
  have leads := writes.leadsTo
  have copied := (copyOf_of_known known).trans copy
  obtain ⟨_, same⟩ := (saga.copied worker record copied).current found (saga.stored stored found)
    current
  have after : (sagaProtocol platform request).localOf worker (Protocol.after view
      (.answered worker (.transition id version transition) (.ok next)) world).history =
        some (here.next (.transition id version transition) (.ok next)) :=
    localOf_after_answered known
  have before : finalityKnown platform request (Protocol.after view
      (.answered worker (.transition id version transition) (.ok next)) world) →
      finalityKnown platform request view := fun aware =>
    finalityKnown_of_write valid saga known writes found same there transitions aware
  have submitted : holdsFinality platform request worker view → record.state = .paymentSubmitted := by
    intro holder
    obtain ⟨held, _, holds, submitted, _⟩ := valid.current worker holder
    cases copied.symm.trans holds
    exact submitted
  have plain : finalityKnown platform request view → ¬ transition.state.cancellable := by
    intro aware cancellable
    obtain ⟨_, begun, _, unchecked, _⟩ := valid.begun aware
    cases found.symm.trans begun
    rcases CrossNetworkSettlementState.cancellable_of_leadsTo _ _ leads cancellable with
      checked | ⟨source, other⟩
    · exact unchecked (same.trans checked)
    · exact other (submitted (valid.sole aware worker record working copied source))
  -- The copies of holders are current, so another holder would make this worker one.
  have unheld : ∀ holder, ¬ holdsFinality platform request holder (Protocol.after view
      (.answered worker (.transition id version transition) (.ok next)) world) := by
    intro holder holds
    by_cases own : worker = holder
    · subst own
      rw [holdsFinality_of_known after] at holds
      cases holds
    · rw [holdsFinality_frame (by exact own)] at holds
      obtain ⟨held, _, copy', submitted', found', current'⟩ := valid.current holder holds
      cases found.symm.trans found'
      obtain ⟨_, same'⟩ := (saga.copied holder held copy').current found
        (saga.stored stored found) current'
      have aware : finalityKnown platform request view :=
        Bool.or_eq_true_iff.mpr (.inl (valid.returned holder holds))
      refine own (valid.unique worker holder (valid.sole aware worker record working copied ?_)
        holds)
      rw [← same, same', submitted']
      rfl
  refine ⟨fun holder holds => (unheld holder holds).elim,
    fun holder holds => (unheld holder holds).elim,
    fun holder _ holds => (unheld holder holds).elim, ?_, ?_⟩
  · intro aware other held working copied cancellable
    by_cases own : worker = other
    · subst own
      cases (copyOf_of_known after).symm.trans copied
      exact (plain (before aware) (state ▸ cancellable)).elim
    · rw [copyOf_frame (by exact own)] at copied
      have holds := valid.sole (before aware) other held (others other own working) copied
        cancellable
      exact (holdsFinality_frame (by exact own)).trans holds
  · intro aware
    obtain ⟨_, begun, created, _, _⟩ := valid.begun (before aware)
    cases found.symm.trans begun
    have fresh := CrossNetworkSettlementState.begun_of_leadsTo _ _ leads (same ▸ created)
    rw [← state] at fresh
    exact ⟨next, there, fresh.1, fresh.2,
      fun cancellable => (plain (before aware) (state ▸ cancellable)).elim⟩

/-- An answer that changes neither the stored record nor what its worker holds. -/
theorem FinalityGuarded.unmoved (valid : FinalityGuarded platform request view busy)
    (known : (sagaProtocol platform request).localOf worker view.history = some here)
    (working : busy worker) (others : ∀ other, worker ≠ other → later other → busy other)
    (stored : world.settlements = view.state.settlements)
    (returned : finalityReturned platform (.answered worker call answer :: view.history) =
      finalityReturned platform view.history)
    (held : (here.next call answer).finality platform = here.finality platform)
    (copy : (here.next call answer).copy = here.copy) :
    FinalityGuarded platform request (Protocol.after view (.answered worker call answer) world)
      later := by
  have after : (sagaProtocol platform request).localOf worker
      (Protocol.after view (.answered worker call answer) world).history =
        some (here.next call answer) := localOf_after_answered known
  refine valid.still stored returned others ?_ (.inl ⟨?_, working⟩)
  · exact (holdsFinality_of_known after).trans (held.trans (holdsFinality_of_known known).symm)
  · exact (copyOf_of_known after).trans (copy.trans (copyOf_of_known known).symm)

/-- The record is read while no evidence is held. -/
theorem FinalityGuarded.copies (valid : FinalityGuarded platform request view busy)
    (known : (sagaProtocol platform request).localOf worker view.history = some here)
    (working : busy worker) (others : ∀ other, worker ≠ other → later other → busy other)
    (unheld : ∀ worker, holdsFinality platform request worker view = false)
    (returned : finalityReturned platform (.answered worker call answer :: view.history) =
      finalityReturned platform view.history)
    (held : (here.next call answer).returned = here.returned)
    (recorded : finalityRecorded request world → finalityRecorded request view.state)
    (stored : ∀ record, view.state.settlements request.id = some record →
      world.settlements request.id = some record)
    (copy : (here.next call answer).copy = world.settlements request.id ∨
      (here.next call answer).copy = here.copy) :
    FinalityGuarded platform request (Protocol.after view (.answered worker call answer) world)
      later := by
  have after : (sagaProtocol platform request).localOf worker
      (Protocol.after view (.answered worker call answer) world).history =
        some (here.next call answer) := localOf_after_answered known
  refine valid.read unheld ?_ others (fun aware => ?_) fun record copied => ?_
  · refine (holdsFinality_of_known after).trans (Eq.trans ?_ (unheld worker))
    rw [holdsFinality_of_known known, SagaLocal.finality, SagaLocal.finality, held]
  · have earlier : finalityKnown platform request view := by
      rw [finalityKnown, Protocol.after_history, returned] at aware
      exact Bool.or_eq_true_iff.mpr ((Bool.or_eq_true_iff.mp aware).imp_right recorded)
    obtain ⟨record, found, _⟩ := valid.begun earlier
    exact ⟨earlier, (stored record found).trans found.symm⟩
  · rw [Event.worker, copyOf_of_known after] at copied
    rcases copy with read | kept
    · exact .inl (read.symm.trans copied)
    · exact .inr ⟨(copyOf_of_known known).trans (kept.symm.trans copied), working⟩

/-- **An undisturbed answer keeps finality guarded.** -/
theorem FinalityGuarded.answered {choice : SettlementChoice}
    (valid : FinalityGuarded platform request view busy)
    (saga : SagaInvariant platform request view)
    (known : (sagaProtocol platform request).localOf worker view.history = some here)
    (allowed : here.Allows platform request call)
    (replied : SettlementWorld.reply call choice view.state = some (answer, world))
    (admitted : FinalityUndisturbed platform request view (.answered worker call answer))
    (working : busy worker) (others : ∀ other, worker ≠ other → later other → busy other)
    (holders : ∀ worker, holdsFinality platform request worker view → busy worker)
    (underWay : ∀ worker, busy worker → UnderWay
      (CrossNetworkSettlementService.execute platform request) (fun _ => true) worker
      view.history) :
    FinalityGuarded platform request (Protocol.after view (.answered worker call answer) world)
      later := by
  cases call with
  | now =>
      cases choice <;> cases replied
      exact valid.unmoved known working others rfl rfl rfl rfl
  | check checked =>
      cases choice <;> cases replied
      all_goals exact valid.unmoved known working others rfl rfl rfl rfl
  | reconcile reconciled =>
      cases choice <;> cases replied
      all_goals exact valid.unmoved known working others rfl rfl rfl rfl
  | get id =>
      cases choice <;> cases replied
      obtain rfl := allowed
      refine valid.copies known working others admitted rfl ?_ id (fun _ found => found) ?_
      · cases view.state.settlements request.id <;> rfl
      · cases found : view.state.settlements request.id with
        | none => exact .inr rfl
        | some stored => exact .inl rfl
  | create created requestHash transition =>
      cases choice <;> cases replied
      obtain ⟨rfl, initial⟩ := allowed
      cases found : view.state.settlements created.id with
      | some existing =>
          have same : view.state.create created requestHash transition =
              (existing, view.state) := by
            simp only [SettlementWorld.create, found]
          rw [same] at admitted ⊢
          exact valid.copies known working others admitted rfl rfl id (fun _ same => same)
            (.inl found.symm)
      | none =>
          let record : CrossNetworkSettlementRecord :=
            { request := created, requestHash, state := .created, version := 0
              transitions := [transition] }
          have made : view.state.create created requestHash transition =
              (record, view.state.put record) := by
            simp only [SettlementWorld.create, found, record]
          have there : (view.state.put record).settlements created.id = some record :=
            Function.update_self ..
          rw [made] at admitted ⊢
          refine valid.copies known working others admitted rfl rfl ?_ ?_ (.inl there.symm)
          · intro recorded
            simp only [finalityRecorded, there, Option.any_some, record, List.any_cons, initial,
              List.any_nil, Bool.or_false] at recorded
            cases recorded
          · intro _ same
            cases found.symm.trans same
  | transition id expectedVersion transition =>
      cases choice <;> cases replied
      obtain ⟨record, copy, rfl, rfl, _, writes⟩ := allowed
      have copied := saga.copied worker record ((copyOf_of_known known).trans copy)
      have same : record.request.id = request.id := by rw [copied.1.request]
      obtain ⟨_, stored, found, _⟩ := copied
      by_cases version : stored.version = record.version
      · let next : CrossNetworkSettlementRecord :=
          { stored with state := transition.state, version := record.version + 1
                        transitions := stored.transitions ++ [transition] }
        have wrote : view.state.transition record.request.id record.version transition =
            (.ok next, { view.state with
              settlements := Function.update view.state.settlements request.id (some next) }) := by
          simp only [SettlementWorld.transition, same, found, version, ne_eq, not_true_eq_false,
            ↓reduceIte, next]
        rw [wrote]
        exact valid.writes saga known copy writes found version working others
          (Function.update_self ..) rfl rfl
      · have refused : view.state.transition record.request.id record.version transition =
            (.error (.registryError .conflict (js "stale settlement version")), view.state) := by
          simp only [SettlementWorld.transition, same, found, version, ne_eq, not_false_eq_true,
            ↓reduceIte]
        have unheld : here.finality platform = false := by
          rw [Bool.eq_false_iff]
          intro held
          obtain ⟨held_record, _, kept, _, found', version'⟩ :=
            valid.current worker ((holdsFinality_of_known known).trans held)
          cases found.symm.trans found'
          cases ((copyOf_of_known known).trans copy).symm.trans kept
          exact version version'
        rw [refused]
        exact valid.unmoved known working others rfl rfl unheld.symm rfl
  | act action acted =>
      have unheld : here.finality platform = false := by
        obtain ⟨record, copy, may⟩ := allowed
        cases steps : action.step with
        | none =>
            rw [steps] at may
            exact SagaLocal.not_finality_of_quiet may.2
        | some step =>
            rw [steps] at may
            rw [SagaLocal.finality, may.2.1]
      cases choice <;> cases replied
      case failure.refl error =>
        exact valid.unmoved known working others rfl (by cases action <;> rfl) rfl rfl
      case evidence.refl result =>
        by_cases final : action = .verifyPaymentFinality ∧ result.verifiable platform
        · obtain ⟨rfl, verifiable⟩ := final
          obtain ⟨current, alone⟩ := admitted verifiable
          obtain ⟨record, copy, source, _⟩ := allowed
          have copied := (copyOf_of_known known).trans copy
          rw [currentCopy, copied] at current
          cases found : view.state.settlements request.id with
          | none => simp only [found, Bool.false_eq_true] at current
          | some stored =>
              simp only [found, beq_iff_eq] at current
              have same := ((saga.copied worker record copied).current found
                (saga.stored stored found) current.symm).2
              refine valid.gains known copy source found current.symm (same.trans source)
                verifiable holders others fun other different busy held kept cancellable => ?_
              have free := alone other different
              rw [cancelsUnderWay, underWay other busy, kept, Option.any_some, Bool.true_and,
                cancellable] at free
              cases free
        · have plain : (here.next (.act action acted) (.ok result)).finality platform = false := by
            rw [Bool.eq_false_iff]
            intro held
            obtain ⟨other, same, verifiable⟩ := SagaLocal.finality_iff.mp held
            cases same
            exact final ⟨rfl, verifiable⟩
          refine valid.unmoved known working others rfl ?_ (plain.trans unheld.symm) rfl
          rw [finalityReturned, List.any_cons]
          refine (congrArg (· || _) ?_).trans (Bool.false_or _)
          split
          · rename_i same
            cases same
            exact Bool.eq_false_iff.mpr fun verifiable => final ⟨rfl, verifiable⟩
          · rfl

end InterWeave
