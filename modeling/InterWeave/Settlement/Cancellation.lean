import InterWeave.Settlement.FinalitySteps

/-! # Cancellation before payment finality

In an undisturbed run no cancellation is started once finality of the payment is known.
In any run at all one may be.
-/

namespace InterWeave

open Async

section Finality

variable {platform : Platform} {request : CrossNetworkSettlementRequest} {Worker : Type}
  [DecidableEq Worker]

theorem FinalityGuarded.empty (clock : Int) (busy : Worker → Prop) :
    FinalityGuarded platform request (SagaView.empty Worker clock) busy := by
  have unheld : ∀ worker,
      ¬ holdsFinality platform request worker (SagaView.empty Worker clock) := fun _ => nofun
  have unknown : ¬ finalityKnown platform request (SagaView.empty Worker clock) := nofun
  exact ⟨fun worker held => (unheld worker held).elim, fun worker held => (unheld worker held).elim,
    fun worker _ held => (unheld worker held).elim, fun known => (unknown known).elim,
    fun known => (unknown known).elim⟩

/-- **Undisturbed runs keep finality guarded.** -/
theorem FinalityGuarded.of_reachable {clock : Int}
    {config : Config settlementServices Worker Nat CrossNetworkSettlementRecord}
    (reached : Reachable (CrossNetworkSettlementService.execute platform request)
      (FinalityUndisturbed platform request) (SagaView.empty Worker clock) config) :
    FinalityGuarded platform request config.toView
      fun worker => (config.workers worker).atRest ≠ true := by
  induction reached with
  | initial => exact .empty clock _
  | @step config action move earlier moved admitted ih =>
      have step := Protocol.step_of_reachable
        (CrossNetworkSettlementService.execute_follows platform request)
        SettlementWorld.reply_clockAnswers rfl earlier moved
      have standing := Protocol.standing
        (CrossNetworkSettlementService.execute_follows platform request)
        SettlementWorld.reply_clockAnswers rfl earlier
      have holders : ∀ worker, holdsFinality platform request worker config.toView →
          (config.workers worker).atRest ≠ true := by
        intro worker held resting
        obtain ⟨here, known, holds⟩ := (Option.any_eq_true ..).mp held
        rw [SagaLocal.not_finality_of_quiet ((standing worker).settles resting known)] at holds
        cases holds
      have others : ∀ worker, move.event.worker ≠ worker →
          ((config.apply move).workers worker).atRest ≠ true →
          (config.workers worker).atRest ≠ true := by
        intro worker different busy
        rwa [show (config.apply move).workers worker = config.workers worker from
          Function.update_of_ne (Ne.symm different) ..] at busy
      change FinalityGuarded platform request
        (Protocol.after config.toView move.event move.state) _
      cases Config.moves_of_move moved with
      | @start worker bound resting =>
          have unheld : holdsFinality platform request worker config.toView = false :=
            Bool.eq_false_iff.mpr fun held => holders worker held resting
          refine ih.still rfl rfl others (Eq.trans ?_ unheld.symm) (.inr ⟨?_, unheld⟩)
          · rw [holdsFinality, Protocol.after_history, Event.worker, Protocol.localOf_started_self]
            rfl
          · rw [copyOf, Protocol.after_history, Event.worker, Protocol.localOf_started_self]
            rfl
      | @issue worker call resume status =>
          have busy : (config.workers worker).atRest ≠ true := by
            rw [status]
            exact Bool.false_ne_true
          refine ih.still rfl rfl others ?_ (.inl ⟨?_, busy⟩)
          · rw [holdsFinality, Protocol.after_history, Protocol.localOf_issued, holdsFinality]
          · rw [copyOf, Protocol.after_history, Protocol.localOf_issued, copyOf]
      | @crash worker busy =>
          refine ih.still rfl rfl others (Eq.trans ?_ admitted.symm) (.inr ⟨?_, admitted⟩)
          · rw [holdsFinality, Protocol.after_history, Event.worker, Protocol.localOf_crashed_self]
            rfl
          · rw [copyOf, Protocol.after_history, Event.worker, Protocol.localOf_crashed_self]
            rfl
      | @answer worker call resume choice answer state status replied =>
          have busy : (config.workers worker).atRest ≠ true := by
            rw [status]
            exact Bool.false_ne_true
          cases step with
          | answered _ known allowed _ =>
              refine ih.answered (SagaInvariant.reachable earlier) known allowed replied admitted
                busy others holders fun _ working => earlier.underWay_of_busy rfl working

/-- **Cancellation before finality.** In an undisturbed run no cancellation is started
once finality is known. -/
theorem cancellation_before_finality (platform : Platform)
    (request : CrossNetworkSettlementRequest) {clock : Int}
    {config : Config settlementServices Worker Nat CrossNetworkSettlementRecord}
    (reached : Reachable (CrossNetworkSettlementService.execute platform request)
      (FinalityUndisturbed platform request) (SagaView.empty Worker clock) config)
    {action : Action settlementServices Worker Nat}
    {move : Move settlementServices Worker Nat CrossNetworkSettlementRecord}
    (moved : config.move (CrossNetworkSettlementService.execute platform request) action =
      some move) {worker : Worker} {acted : CrossNetworkSettlementRequest}
    (cancels : move.event = .issued worker (.act .cancelDeliveryReservation acted)) :
    finalityKnown platform request config.toView = false := by
  have step := Protocol.step_of_reachable
    (CrossNetworkSettlementService.execute_follows platform request)
    SettlementWorld.reply_clockAnswers rfl reached moved
  have busy : (config.workers worker).atRest ≠ true := by
    cases Config.moves_of_move moved <;> cases cancels
    rename_i status
    rw [status]
    exact Bool.false_ne_true
  rw [cancels] at step
  generalize move.state = state at step
  cases step with
  | issued known allowed =>
      obtain ⟨record, copy, cancellable, quiet⟩ := allowed
      rw [Bool.eq_false_iff]
      intro aware
      have holds := (FinalityGuarded.of_reachable reached).sole aware worker record busy
        ((copyOf_of_known known).trans copy) cancellable
      rw [holdsFinality_of_known known, SagaLocal.not_finality_of_quiet quiet] at holds
      cases holds

end Finality

/-! ## Runs of one and of two workers -/

namespace SagaExample

def delivery : CrossNetworkLeg :=
  ⟨js "IW:ASSET:bond", js "IW:NETWORK:canton", js "IW:IDENTITY:seller", js "IW:IDENTITY:buyer",
    js "1"⟩

def payment : CrossNetworkLeg :=
  ⟨js "IW:ASSET:usd", js "IW:NETWORK:evm", js "IW:IDENTITY:buyer", js "IW:IDENTITY:seller",
    js "100"⟩

def request : CrossNetworkSettlementRequest where
  id := js "IW:SETTLEMENT:s1"
  idempotencyKey := js "key-1"
  delivery := delivery
  payment := payment
  policyVersion := js "policy-1"
  createdAt := js "2026-08-11T12:00:00.000Z"
  expiresAt := js "2026-08-11T13:00:00.000Z"

/-- 2026-08-11T12:30:00.000Z. -/
def early : Int := 1786451400000

/-- 2026-08-11T13:00:00.000Z. -/
def late : Int := 1786453200000

def evidence : SettlementStepEvidence :=
  ⟨js "tx", js "block:1", [js "proof"], js "2026-08-11T12:30:00.000Z"⟩

/-- A worker's calls, each issued and answered at once. -/
def exchanges {Worker : Type} (worker : Worker) (choices : List SettlementChoice) :
    List (Action settlementServices Worker Nat) :=
  choices.flatMap fun choice => [.issue worker, .answer worker choice]

/-- An iteration of the loop that takes an action and writes its state. -/
def iteration : List SettlementChoice :=
  [.instant early, .evidence evidence, .instant early, .stored]

/-- Creation, the policy check and the reservation of the delivery. -/
def reserve : List SettlementChoice :=
  [SettlementChoice.stored, .stored, .instant early, .policy ⟨.allow, [], []⟩, .instant early,
    .stored] ++ iteration

def execute (bound : Nat) : SettlementProgram CrossNetworkSettlementRecord :=
  CrossNetworkSettlementService.execute isoPlatform request bound

/-- One worker reserves the delivery and then reads a clock past the expiry. -/
def expires : List (Action settlementServices Bool Nat) :=
  .start true 12 :: exchanges true (reserve ++ [SettlementChoice.instant late])

/-- The event starts a cancellation. -/
def cancels : Event settlementInterface Bool Nat → Bool
  | .issued _ (.act .cancelDeliveryReservation _) => true
  | _ => false

theorem cancels_iff {event : Event settlementInterface Bool Nat} (found : cancels event) :
    ∃ worker acted, event = .issued worker (.act .cancelDeliveryReservation acted) := by
  unfold cancels at found
  split at found
  · exact ⟨_, _, rfl⟩
  · cases found

/-- One worker takes the settlement to a submitted payment and receives evidence of
its finality; the other one has read the record and then a clock past the expiry. -/
def overtakes : List (Action settlementServices Bool Nat) :=
  .start true 12 :: exchanges true (reserve ++ iteration ++ iteration) ++
    (.start false 12 :: exchanges false [.stored]) ++
    exchanges true [.instant early, .evidence evidence] ++
    exchanges false [.instant late]

/-- One worker takes the settlement past payment finality, and another one, which started
before, reads the record then. -/
def finalizes : List (Action settlementServices Bool Nat) :=
  .start true 12 :: .start false 12 ::
    exchanges true (reserve ++ iteration ++ iteration ++ iteration) ++ exchanges false [.stored]

end SagaExample

open SagaExample in
/-- A reservation that expires is cancelled before finality is known. -/
theorem cancellation_before_finality_expired :
    ∃ config move, Reachable SagaExample.execute (FinalityUndisturbed isoPlatform request)
        (SagaView.empty Bool early) config ∧
      config.move SagaExample.execute (.issue true) = some move ∧ cancels move.event = true ∧
      finalityKnown isoPlatform request config.toView = false := by
  obtain ⟨config, move, reached, moved, cancelled⟩ := Reachable.exists_move_of_run
    SagaExample.execute (FinalityUndisturbed isoPlatform request) (SagaView.empty Bool early) expires
    (.issue true) (fun _ move => cancels move.event) (by decide +kernel)
  obtain ⟨worker, acted, event⟩ := cancels_iff cancelled
  exact ⟨config, move, reached, moved, cancelled,
    cancellation_before_finality isoPlatform request reached moved event⟩

open SagaExample in
/-- An undisturbed run goes past payment finality. -/
example : ∃ config, Reachable SagaExample.execute (FinalityUndisturbed isoPlatform request)
      (SagaView.empty Bool early) config ∧
    finalityKnown isoPlatform request config.toView = true :=
  Reachable.exists_of_run SagaExample.execute (FinalityUndisturbed isoPlatform request)
    (SagaView.empty Bool early) finalizes
    (fun config => finalityKnown isoPlatform request config.toView) (by decide +kernel)

open SagaExample in
/-- **Cancellation after finality.** While one worker holds evidence of payment
finality, another one starts the cancellation of the expired settlement. -/
theorem cancellation_after_finality :
    ¬ ∀ (config : Config settlementServices Bool Nat CrossNetworkSettlementRecord)
        (action : Action settlementServices Bool Nat)
        (move : Move settlementServices Bool Nat CrossNetworkSettlementRecord)
        (worker : Bool) (acted : CrossNetworkSettlementRequest),
      Reachable SagaExample.execute (fun _ _ => True) (SagaView.empty Bool early) config →
      config.move SagaExample.execute action = some move →
      move.event = .issued worker (.act .cancelDeliveryReservation acted) →
      finalityKnown isoPlatform request config.toView = false := by
  intro claim
  obtain ⟨config, move, reached, moved, checked⟩ := Reachable.exists_move_of_run SagaExample.execute
    (fun _ _ => True) (SagaView.empty Bool early) overtakes (.issue false)
    (fun config move => cancels move.event && finalityKnown isoPlatform request config.toView)
    (by decide +kernel)
  rw [Bool.and_eq_true] at checked
  obtain ⟨worker, acted, event⟩ := cancels_iff checked.1
  have unknown := claim config _ move worker acted reached moved event
  rw [checked.2] at unknown
  cases unknown

end InterWeave
