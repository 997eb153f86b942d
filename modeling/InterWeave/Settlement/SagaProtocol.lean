import InterWeave.Async.Protocol
import InterWeave.Settlement.CrossNetworkSettlement
import Mathlib.Data.Fintype.Basic

/-! # The protocol of a saga run

What a run of `execute` does next is decided by the record it last received, its
last clock reading and the evidence it holds but has not written yet. The walk of
the program shows which calls it may issue by these three alone.
-/

namespace InterWeave

open Async (Program Protocol)

/-- The local state of a run. -/
structure SagaLocal where
  /-- The record last returned to the run. -/
  copy : Option CrossNetworkSettlementRecord
  reading : Option Int
  /-- Evidence returned since the last write. -/
  returned : Option (SettlementAction × SettlementStepEvidence)

/-- The state an action is taken in and the state it enters. -/
def SettlementAction.step :
    SettlementAction → Option (CrossNetworkSettlementState × CrossNetworkSettlementState)
  | .reserveDelivery => some (.policyChecked, .deliveryReserved)
  | .verifyDeliveryReservation => some (.deliveryReserved, .deliveryReservationVerified)
  | .reserveOrTransferPayment => some (.deliveryReservationVerified, .paymentSubmitted)
  | .verifyPaymentFinality => some (.paymentSubmitted, .paymentFinalized)
  | .attestPayment => some (.paymentFinalized, .paymentAttested)
  | .releaseDelivery => some (.paymentAttested, .deliveryReleased)
  | .verifyDelivery => some (.deliveryReleased, .deliveryFinalized)
  | .cancelDeliveryReservation => none

namespace SagaLocal

def fresh : SagaLocal := ⟨none, none, none⟩

def next (here : SagaLocal) : (call : SettlementCall) → settlementInterface.Answer call → SagaLocal
  | .now, .ok value => { here with reading := some value }
  | .get _, .ok (some record) => { here with copy := some record }
  | .create _ _ _, .ok record => { here with copy := some record }
  | .transition _ _ _, .ok record => { here with copy := some record, returned := none }
  | .transition _ _ _, .error _ => { here with returned := none }
  | .act action _, .ok result => { here with returned := some (action, result) }
  | _, _ => here

/-- A cancellation has returned and is not written yet. -/
def Cancelling (here : SagaLocal) : Prop :=
  ∃ result, here.returned = some (.cancelDeliveryReservation, result)

/-- Valid evidence has been returned and is not written yet. -/
def Verified (platform : Platform) (here : SagaLocal) : Prop :=
  ∃ action result, here.returned = some (action, result) ∧ result.verifiable platform

/-- Nothing returned is left to be written. -/
def Quiet (platform : Platform) (here : SagaLocal) : Prop :=
  ¬ here.Cancelling ∧ ¬ here.Verified platform

/-- The last reading of the clock precedes the expiry. -/
def Unexpired (platform : Platform) (request : CrossNetworkSettlementRequest)
    (here : SagaLocal) : Prop :=
  ∃ instant, here.reading = some instant ∧
    numberLe (platform.dateParse request.expiresAt) (some instant) = false

/-- The writes permitted on a copy of the record. -/
def Writes (platform : Platform) (here : SagaLocal) (record : CrossNetworkSettlementRecord) :
    CrossNetworkSettlementState → Prop
  | .created => False
  | .policyChecked => record.state = .created ∧ here.returned = none
  | .failed | .expired => record.state.beforePaymentFinality ∧ record.state.cancellable = false
  | .compensated => record.state.cancellable ∧ ∃ result,
      here.returned = some (.cancelDeliveryReservation, result) ∧ result.verifiable platform
  | .manualReview => record.state.terminal = false ∧
      (record.state.cancellable ∨ record.state.beforePaymentFinality = false)
  | .reconciled => record.state = .deliveryFinalized ∧ here.returned = none
  | .completed => record.state = .reconciled ∧ here.returned = none
  | target => ∃ action result, action.step = some (record.state, target) ∧
      here.returned = some (action, result) ∧ result.verifiable platform

/-- The calls a run may issue. -/
def Allows (platform : Platform) (request : CrossNetworkSettlementRequest) (here : SagaLocal) :
    SettlementCall → Prop
  | .now => True
  | .get id => id = request.id
  | .create created _ transition => created = request ∧ transition.state = .created
  | .check _ => ¬ here.Cancelling
  | .reconcile _ => ¬ here.Cancelling
  | .act action _ => ∃ record, here.copy = some record ∧
      match action.step with
      | some (source, _) => record.state = source ∧ here.returned = none ∧
          here.Unexpired platform request
      | none => record.state.cancellable ∧ here.Quiet platform
  | .transition id expectedVersion transition => ∃ record, here.copy = some record ∧
      id = record.request.id ∧ expectedVersion = record.version ∧
      transition.sequence = record.version + 1 ∧ here.Writes platform record transition.state

end SagaLocal

/-- The state that the evidence of an action enters. -/
def SettlementAction.enters (action : SettlementAction) : CrossNetworkSettlementState :=
  match action.step with
  | some (_, target) => target
  | none => .compensated

/-- The states that are entered with the evidence of an action. -/
def CrossNetworkSettlementState.effected : CrossNetworkSettlementState → Bool
  | .deliveryReserved | .deliveryReservationVerified | .paymentSubmitted | .paymentFinalized
  | .paymentAttested | .deliveryReleased | .deliveryFinalized | .compensated => true
  | _ => false

/-- The data of the calls a run issues. -/
def SagaLocal.Carries (platform : Platform) (here : SagaLocal) : SettlementCall → Prop
  | .now => True
  | .get _ => True
  | .create request requestHash transition => transition.sequence = 0 ∧
      requestFingerprint platform request.json = .ok requestHash
  | .check request => here.copy.map CrossNetworkSettlementRecord.request = some request
  | .act _ request => here.copy.map CrossNetworkSettlementRecord.request = some request
  | .reconcile request => here.copy.map CrossNetworkSettlementRecord.request = some request
  | .transition _ _ transition => transition.state.effected → ∃ action result,
      here.returned = some (action, result) ∧ action.enters = transition.state ∧
        result.verifiable platform ∧ transition.evidence = result.recorded

instance : Fintype CrossNetworkSettlementState :=
  .ofList [.created, .policyChecked, .deliveryReserved, .deliveryReservationVerified,
    .paymentSubmitted, .paymentFinalized, .paymentAttested, .deliveryReleased,
    .deliveryFinalized, .reconciled, .completed, .compensated, .failed, .expired,
    .manualReview] fun state => by cases state <;> decide

/-- The graph of the saga: what may be written after a state. -/
def CrossNetworkSettlementState.leadsTo :
    CrossNetworkSettlementState → CrossNetworkSettlementState → Bool
  | .created, .policyChecked => true
  | .policyChecked, .deliveryReserved => true
  | .deliveryReserved, .deliveryReservationVerified => true
  | .deliveryReservationVerified, .paymentSubmitted => true
  | .paymentSubmitted, .paymentFinalized => true
  | .paymentFinalized, .paymentAttested => true
  | .paymentAttested, .deliveryReleased => true
  | .deliveryReleased, .deliveryFinalized => true
  | .deliveryFinalized, .reconciled => true
  | .reconciled, .completed => true
  | .created, .failed | .created, .expired | .policyChecked, .failed
  | .policyChecked, .expired => true
  | source, .compensated => source.cancellable
  | source, .manualReview =>
      !source.terminal && (source.cancellable || !source.beforePaymentFinality)
  | _, _ => false

/-- Permitted writes follow the graph. -/
theorem SagaLocal.Writes.leadsTo {platform : Platform} {here : SagaLocal}
    {record : CrossNetworkSettlementRecord} {state : CrossNetworkSettlementState}
    (writes : here.Writes platform record state) : record.state.leadsTo state := by
  have acted : (∃ action result, action.step = some (record.state, state) ∧
      here.returned = some (action, result) ∧ result.verifiable platform) →
      record.state.leadsTo state := by
    rintro ⟨action, _, steps, _⟩
    cases action <;> simp only [SettlementAction.step, Option.some.injEq, Prod.mk.injEq,
      reduceCtorEq] at steps
    all_goals
      obtain ⟨same, rfl⟩ := steps
      rw [← same]
      rfl
  have leaves : ∀ source : CrossNetworkSettlementState, source.beforePaymentFinality →
      source.cancellable = false → source.leadsTo .failed ∧ source.leadsTo .expired := by
    decide
  have reviewed : ∀ source : CrossNetworkSettlementState, source.terminal = false →
      (source.cancellable ∨ source.beforePaymentFinality = false) →
      source.leadsTo .manualReview := by
    decide
  have compensated : ∀ source : CrossNetworkSettlementState, source.cancellable →
      source.leadsTo .compensated := by
    decide
  cases state with
  | created => exact writes.elim
  | policyChecked => rw [writes.1]; rfl
  | failed => exact (leaves _ writes.1 writes.2).1
  | expired => exact (leaves _ writes.1 writes.2).2
  | compensated => exact compensated _ writes.1
  | manualReview => exact reviewed _ writes.1 writes.2
  | reconciled => rw [writes.1]; rfl
  | completed => rw [writes.1]; rfl
  | _ => exact acted writes

/-- Reading the clock does not throw. -/
def ClockAnswers : (call : SettlementCall) → settlementInterface.Answer call → Prop
  | .now, .error _ => False
  | _, _ => True

theorem SettlementWorld.reply_clockAnswers :
    ∀ call choice world answer next,
      SettlementWorld.reply call choice world = some (answer, next) → ClockAnswers call answer := by
  intro call choice world answer next replied
  cases call with
  | now =>
      cases choice <;> simp only [reply, Option.some.injEq, Prod.mk.injEq, reduceCtorEq] at replied
      obtain ⟨rfl, _⟩ := replied
      trivial
  | _ => trivial

abbrev sagaProtocol (platform : Platform) (request : CrossNetworkSettlementRequest) :
    Protocol settlementInterface Nat where
  Local := SagaLocal
  start _ := .fresh
  next := SagaLocal.next
  possible := ClockAnswers
  allowed := SagaLocal.Allows platform request
  settles here := here.Quiet platform

/-- The protocol with the data of the calls. -/
abbrev sagaDataProtocol (platform : Platform) (request : CrossNetworkSettlementRequest) :
    Protocol settlementInterface Nat :=
  (sagaProtocol platform request).restrict (SagaLocal.Carries platform)

namespace CrossNetworkSettlementService

variable {platform : Platform} {request : CrossNetworkSettlementRequest} {here : SagaLocal}
  {record : CrossNetworkSettlementRecord}

theorem quiet_of_none (nothing : here.returned = none) : here.Quiet platform := by
  refine ⟨?_, ?_⟩
  · rintro ⟨result, held⟩
    rw [nothing] at held
    cases held
  · rintro ⟨action, result, held, _⟩
    rw [nothing] at held
    cases held

/-- Evidence of a forward action that is not valid leaves nothing to be written. -/
theorem quiet_of_invalid {action : SettlementAction} {result : SettlementStepEvidence}
    (held : here.returned = some (action, result)) (forward : action ≠ .cancelDeliveryReservation)
    (invalid : ¬ result.verifiable platform) : here.Quiet platform := by
  refine ⟨?_, ?_⟩
  · rintro ⟨other, same⟩
    cases held.symm.trans same
    exact forward rfl
  · rintro ⟨other, returned, same, verifiable⟩
    cases held.symm.trans same
    exact invalid verifiable

/-- What a write leaves: nothing is held, and the copy is the record returned. -/
def Wrote (record : CrossNetworkSettlementRecord) (there : SagaLocal)
    (outcome : Except Thrown CrossNetworkSettlementRecord) : Prop :=
  there.returned = none ∧ (∀ next, outcome = .ok next → there.copy = some next) ∧
    ∀ error, outcome = .error error → there.copy = some record

/-- What an attempt to advance leaves. It may have thrown while evidence of the
action was held that is not valid. -/
def Advanced (platform : Platform) (record : CrossNetworkSettlementRecord) (there : SagaLocal)
    (outcome : Except Thrown CrossNetworkSettlementRecord) : Prop :=
  there.Quiet platform ∧
    (∀ next, outcome = .ok next → there.returned = none ∧ there.copy = some next) ∧
    ∀ error, outcome = .error error → there.copy = some record

theorem Wrote.advanced {there : SagaLocal}
    {outcome : Except Thrown CrossNetworkSettlementRecord} (wrote : Wrote record there outcome) :
    Advanced platform record there outcome :=
  ⟨quiet_of_none wrote.1, fun next same => ⟨wrote.1, wrote.2.1 next same⟩, wrote.2.2⟩

/-- Evidence enters a state only as the record of what an action has returned. -/
def Backed (platform : Platform) (here : SagaLocal) (state : CrossNetworkSettlementState)
    (evidence : List JsString) : Prop :=
  state.effected → ∃ action result, here.returned = some (action, result) ∧
    action.enters = state ∧ result.verifiable platform ∧ evidence = result.recorded

theorem backed_of_not_effected {state : CrossNetworkSettlementState} {evidence : List JsString}
    (plain : state.effected = false) : Backed platform here state evidence := by
  intro effected
  rw [plain] at effected
  cases effected

theorem move_follows {post : SagaLocal → Except Thrown CrossNetworkSettlementRecord → Prop}
    {state : CrossNetworkSettlementState} {evidence : List JsString} {reason : JsString}
    (copied : here.copy = some record) (writes : here.Writes platform record state)
    (backed : Backed platform here state evidence)
    (implies : ∀ there outcome, Wrote record there outcome → post there outcome) :
    (move platform record state evidence reason).Follows (sagaDataProtocol platform request)
      post here := by
  refine .call_seq ⟨trivial, trivial⟩ (fun now _ => ?_) nofun
  refine ⟨⟨⟨record, copied, rfl, rfl, rfl, ?_⟩, backed⟩, fun answer _ => implies _ _ ?_⟩
  · cases state <;> exact writes
  · cases answer with
    | ok next => exact ⟨rfl, fun _ same => congrArg some (Except.ok.inj same), nofun⟩
    | error rejected => exact ⟨rfl, nofun, fun _ _ => copied⟩

theorem verifiable_of_validateEvidence {result : SettlementStepEvidence}
    (valid : validateEvidence platform result = .ok ()) : result.verifiable platform := by
  unfold validateEvidence at valid
  split at valid
  · assumption
  · cases valid

theorem not_verifiable_of_validateEvidence {result : SettlementStepEvidence} {error : Thrown}
    (invalid : validateEvidence platform result = .error error) :
    ¬ result.verifiable platform := by
  intro verifiable
  rw [validateEvidence, if_pos verifiable] at invalid
  cases invalid

/-- Verifiable evidence of an action permits the write of its state. -/
theorem writes_of_step {action : SettlementAction} {state : CrossNetworkSettlementState}
    {result : SettlementStepEvidence} (steps : action.step = some (record.state, state))
    (held : here.returned = some (action, result)) (verifiable : result.verifiable platform) :
    here.Writes platform record state := by
  have target : ∃ action result, action.step = some (record.state, state) ∧
      here.returned = some (action, result) ∧ result.verifiable platform :=
    ⟨action, result, steps, held, verifiable⟩
  cases action <;> simp only [SettlementAction.step, Option.some.injEq, Prod.mk.injEq,
    reduceCtorEq] at steps
  all_goals
    obtain ⟨_, rfl⟩ := steps
    exact target

theorem enters_of_step {action : SettlementAction} {source state : CrossNetworkSettlementState}
    (steps : action.step = some (source, state)) : action.enters = state := by
  rw [SettlementAction.enters, steps]

theorem request_of_copied (copied : here.copy = some record) :
    here.copy.map CrossNetworkSettlementRecord.request = some record.request := by
  rw [copied, Option.map_some]

theorem effect_follows (copied : here.copy = some record) (nothing : here.returned = none)
    (unexpired : here.Unexpired platform request) {action : SettlementAction}
    {state : CrossNetworkSettlementState} (steps : action.step = some (record.state, state)) :
    (effect platform record state (SettlementProgram.act action record.request)).Follows
      (sagaDataProtocol platform request) (Advanced platform record) here := by
  have allows : here.Allows platform request (.act action record.request) :=
    ⟨record, copied, by rw [steps]; exact ⟨rfl, nothing, unexpired⟩⟩
  have other : action ≠ .cancelDeliveryReservation := fun same => by
    rw [same] at steps
    cases steps
  refine .call_seq ⟨allows, request_of_copied copied⟩ (fun result _ => ?_) fun error _ => ?_
  · refine .ofExcept_seq (fun _ valid => ?_) fun error invalid => ?_
    · have verifiable := verifiable_of_validateEvidence valid
      exact move_follows copied (writes_of_step steps rfl verifiable)
        (fun _ => ⟨action, result, rfl, enters_of_step steps, verifiable, rfl⟩)
        fun _ _ wrote => wrote.advanced
    · exact ⟨quiet_of_invalid rfl other (not_verifiable_of_validateEvidence invalid), nofun,
        fun _ _ => copied⟩
  · exact ⟨quiet_of_none nothing, nofun, fun _ _ => copied⟩

theorem advance_follows (copied : here.copy = some record) (nothing : here.returned = none)
    (unexpired : here.Unexpired platform request) (running : record.state.terminal = false) :
    (advance platform record).Follows (sagaDataProtocol platform request) (Advanced platform record)
      here := by
  have quiet : here.Quiet platform := quiet_of_none nothing
  have known := request_of_copied copied
  unfold advance
  split <;> rename_i state
  · refine .call_seq ⟨quiet.1, known⟩ (fun result _ => ?_) fun error _ =>
      ⟨quiet, nofun, fun _ _ => copied⟩
    have refused : here.Writes platform record .failed := by
      rw [SagaLocal.Writes, state]
      exact ⟨rfl, rfl⟩
    split
    · exact move_follows copied refused (backed_of_not_effected rfl)
        fun _ _ wrote => wrote.advanced
    · exact move_follows copied ⟨state, nothing⟩ (backed_of_not_effected rfl)
        fun _ _ wrote => wrote.advanced
  · exact effect_follows copied nothing unexpired (by rw [state]; rfl)
  · exact effect_follows copied nothing unexpired (by rw [state]; rfl)
  · exact effect_follows copied nothing unexpired (by rw [state]; rfl)
  · exact effect_follows copied nothing unexpired (by rw [state]; rfl)
  · exact effect_follows copied nothing unexpired (by rw [state]; rfl)
  · exact effect_follows copied nothing unexpired (by rw [state]; rfl)
  · exact effect_follows copied nothing unexpired (by rw [state]; rfl)
  · refine .call_seq ⟨quiet.1, known⟩ (fun result _ => ?_) fun error _ =>
      ⟨quiet, nofun, fun _ _ => copied⟩
    have review : here.Writes platform record .manualReview := ⟨running, .inr (by rw [state]; rfl)⟩
    split
    · exact move_follows copied ⟨state, nothing⟩ (backed_of_not_effected rfl)
        fun _ _ wrote => wrote.advanced
    · exact move_follows copied review (backed_of_not_effected rfl)
        fun _ _ wrote => wrote.advanced
  · exact move_follows copied ⟨state, nothing⟩ (backed_of_not_effected rfl)
      fun _ _ wrote => wrote.advanced
  · exact ⟨quiet, fun next same => ⟨nothing, copied.trans (congrArg some (Except.ok.inj same))⟩,
      nofun⟩

/-- The cancellation is written as compensated, or it ends in manual review. -/
theorem compensate_follows (copied : here.copy = some record)
    (cancellable : record.state.cancellable) (quiet : here.Quiet platform)
    {compensated uncertain : JsString} :
    (compensate platform record compensated uncertain).Follows (sagaDataProtocol platform request)
      (fun there _ => there.Quiet platform) here := by
  have running : record.state.terminal = false := by
    cases state : record.state <;> rw [state] at cancellable <;>
      first | rfl | exact absurd cancellable (by decide)
  have cancels : (cancelled platform record).Follows (sagaDataProtocol platform request)
      (fun there outcome => there.copy = some record ∧ ∀ result, outcome = .ok result →
        there.returned = some (.cancelDeliveryReservation, result) ∧
          result.verifiable platform) here := by
    refine .call_seq ⟨⟨record, copied, cancellable, quiet⟩, request_of_copied copied⟩
      (fun result _ => ?_) fun error _ => ⟨copied, nofun⟩
    refine .ofExcept_seq (fun _ valid => ⟨copied, fun _ same => ?_⟩) fun _ _ => ⟨copied, nofun⟩
    cases same
    exact ⟨rfl, verifiable_of_validateEvidence valid⟩
  refine .attempt_seq cancels fun there outcome left => ?_
  obtain ⟨copied, returned⟩ := left
  cases outcome with
  | ok result =>
      obtain ⟨held, verifiable⟩ := returned result rfl
      exact move_follows copied ⟨cancellable, result, held, verifiable⟩
        (fun _ => ⟨_, result, held, rfl, verifiable, rfl⟩)
        fun _ _ wrote => quiet_of_none wrote.1
  | error rejected =>
      exact move_follows copied ⟨running, .inl cancellable⟩ (backed_of_not_effected rfl)
        fun _ _ wrote => quiet_of_none wrote.1

/-- Failure and expiry do the same up to the texts they record. -/
theorem leave_follows (copied : here.copy = some record) (running : record.state.terminal = false)
    (quiet : here.Quiet platform) {state : CrossNetworkSettlementState}
    {compensated uncertain before after : JsString}
    (leaves : state = .failed ∨ state = .expired) :
    (if record.state.cancellable then compensate platform record compensated uncertain
      else if record.state.beforePaymentFinality then move platform record state [] before
      else move platform record .manualReview [] after).Follows (sagaDataProtocol platform request)
        (fun there _ => there.Quiet platform) here := by
  by_cases cancellable : record.state.cancellable
  · rw [if_pos cancellable]
    exact compensate_follows copied cancellable quiet
  · rw [if_neg cancellable]
    rw [Bool.not_eq_true] at cancellable
    by_cases before : record.state.beforePaymentFinality
    · rw [if_pos before]
      have writes : here.Writes platform record state := by
        rcases leaves with rfl | rfl <;> exact ⟨before, cancellable⟩
      have plain : state.effected = false := by
        rcases leaves with rfl | rfl <;> rfl
      exact move_follows copied writes (backed_of_not_effected plain)
        fun _ _ wrote => quiet_of_none wrote.1
    · rw [if_neg before]
      rw [Bool.not_eq_true] at before
      exact move_follows copied ⟨running, .inr before⟩ (backed_of_not_effected rfl)
        fun _ _ wrote => quiet_of_none wrote.1

theorem drive_follows (bound : Nat) (copied : here.copy = some record)
    (nothing : here.returned = none) :
    (drive platform request bound record).Follows (sagaDataProtocol platform request)
      (fun there _ => there.Quiet platform) here := by
  induction bound generalizing here record with
  | zero => exact quiet_of_none nothing
  | succ bound ih =>
      unfold drive
      by_cases terminal : record.state.terminal
      · rw [if_pos terminal]
        exact quiet_of_none nothing
      · rw [if_neg terminal]
        rw [Bool.not_eq_true] at terminal
        refine .call_seq ⟨trivial, trivial⟩ (fun now _ => ?_) nofun
        by_cases expired : numberLe (platform.dateParse request.expiresAt) (some now)
        · rw [if_pos expired]
          have kept : ({ here with reading := some now } : SagaLocal).copy = some record := copied
          exact leave_follows kept terminal (quiet_of_none nothing) (.inr rfl)
        · rw [if_neg expired]
          rw [Bool.not_eq_true] at expired
          refine .attempt_seq (advance_follows copied nothing ⟨now, rfl, expired⟩ terminal)
            fun there outcome advanced => ?_
          obtain ⟨quiet, moved, failed⟩ := advanced
          cases outcome with
          | ok next => exact ih (moved next rfl).2 (moved next rfl).1
          | error rejected =>
              exact leave_follows (failed rejected rfl) terminal quiet (.inl rfl)

/-- **A run of `execute` follows the saga protocol with the data of its calls.** -/
theorem execute_carries (platform : Platform) (request : CrossNetworkSettlementRequest)
    (bound : Nat) :
    (execute platform request bound).Follows (sagaDataProtocol platform request)
      (fun there _ => there.Quiet platform) SagaLocal.fresh := by
  have quiet : SagaLocal.fresh.Quiet platform := quiet_of_none rfl
  refine .ofExcept_seq (fun _ _ => ?_) fun _ _ => quiet
  refine .ofExcept_seq (fun hash fingerprint => ?_) fun _ _ => quiet
  refine .call_seq ⟨rfl, trivial⟩ (fun found _ => ?_) fun _ _ => quiet
  cases found with
  | none =>
      refine .call_seq ⟨⟨rfl, rfl⟩, rfl, fingerprint⟩ (fun record _ => ?_) fun _ _ => quiet
      exact drive_follows bound rfl rfl
  | some record =>
      dsimp only
      split
      · exact quiet
      · exact drive_follows bound rfl rfl

/-- **A run of `execute` follows the saga protocol.** -/
theorem execute_follows (platform : Platform) (request : CrossNetworkSettlementRequest)
    (bound : Nat) :
    (execute platform request bound).Follows (sagaProtocol platform request)
      (fun there _ => there.Quiet platform) SagaLocal.fresh :=
  (execute_carries platform request bound).of_restrict

end CrossNetworkSettlementService
end InterWeave
