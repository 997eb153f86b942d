import InterWeave.Bridge.EvidencedRuns

/-! # How operations end after the destination effect

Once the destination effect has happened, a coordinator may still find the operation
past its expiry and record EXPIRED: the effect is not undone by it. Every other
ending rests on evidence of a later stage, except that the check of the attestation's
expiry is made again in the state that precedes the effect.
-/

namespace InterWeave

open Async

section Endings

variable (platform : Platform) (route : BridgeRoute) (input : CreateBridgeOperation)
  {Worker : Type}

/-- The destination effect has returned, or its evidence is stored. -/
def DestinationEffected (view : BridgeView Worker) : Prop :=
  Performed view.history .destinationEffect ∨
    ∃ evidence, view.state.Holds route input .destinationEffect evidence

/-- Stored evidence of the stage has no true verdict. -/
def BridgeWorld.Denies (world : BridgeWorld) (stage : BridgeStage) (verdict : JsString) : Prop :=
  ∃ evidence, world.Holds route input stage evidence ∧ evidence.data.isTrue verdict = false

/-- The operation failed in the state before the destination effect. -/
def DurableBridgeOperation.FailedBeforeEffect (operation : DurableBridgeOperation) : Prop :=
  ∃ transition ∈ operation.transitions, transition.source = some .destinationPreparing ∧
    transition.target = .destinationFailed

/-- What decides the end of an operation after the destination effect. -/
def EndDecided (view : BridgeView Worker) (operation : DurableBridgeOperation) : Prop :=
  match operation.state with
  | .policyRejected | .sourceFailed | .attestationFailed => False
  | .completed => view.state.Shows route input.id .reconciliation (js "matched")
  | .reconciliationFailed => view.state.Denies route input .reconciliation (js "matched")
  | .destinationFailed => operation.FailedBeforeEffect ∨
      view.state.Denies route input .destinationConfirmation (js "confirmed") ∨
      view.state.Denies route input .destinationFinality (js "finalized")
  | .expired => ∃ instant, ClockRead view.history instant ∧
      numberLe (platform.dateParse input.expiresAt) (some instant)
  | _ => True

end Endings

section Runs

variable {platform : Platform} {route : BridgeRoute} {input : CreateBridgeOperation}
  {Worker : Type} {view : BridgeView Worker} {operation : DurableBridgeOperation}

/-- The transition that ended an operation, with what justifies it. -/
theorem Justified.ending (justified : Justified platform route input view operation)
    (ended : operation.state.terminal) : ∃ transition ∈ operation.transitions, ∃ source,
      transition.source = some source ∧ transition.target = operation.state ∧
      BridgeStep platform input.expiresAt (view.state.Holds route input)
        (ClockRead view.history) source operation.state := by
  obtain ⟨transition, member, target⟩ := List.mem_map.mp justified.recorded.state_mem
  rcases justified.entered transition member with created | ⟨source, _, same, step⟩
  · rw [← target, created] at ended
    cases ended
  · exact ⟨transition, member, source, same, target, target ▸ step⟩

/-- What a failure at the destination rests on. -/
theorem BridgeStep.destinationFailed {world : BridgeWorld} {read : Int → Prop}
    {source : BridgeState}
    (step : BridgeStep platform input.expiresAt (world.Holds route input) read source
      .destinationFailed) :
    source = .destinationPreparing ∨
      world.Denies route input .destinationConfirmation (js "confirmed") ∨
      world.Denies route input .destinationFinality (js "finalized") := by
  generalize reached : BridgeState.destinationFailed = target at step
  cases step with
  | attestationExpired => exact .inl rfl
  | proceeds leads => subst reached; cases source <;> cases leads
  | expired _ _ _ => cases reached
  | approved => cases reached
  | rejected => cases reached
  | @evaluated stage evidence holds =>
      cases stage <;> simp only [BridgeStage.outcome] at reached <;> (try split at reached) <;>
        (try cases reached)
      · rename_i denied
        exact .inr (.inl ⟨evidence, holds, Bool.eq_false_iff.mpr denied⟩)
      · rename_i denied
        exact .inr (.inr ⟨evidence, holds, Bool.eq_false_iff.mpr denied⟩)

theorem BridgeStep.reconciliationFailed {world : BridgeWorld} {read : Int → Prop}
    {source : BridgeState}
    (step : BridgeStep platform input.expiresAt (world.Holds route input) read source
      .reconciliationFailed) : world.Denies route input .reconciliation (js "matched") := by
  generalize reached : BridgeState.reconciliationFailed = target at step
  cases step with
  | attestationExpired => cases reached
  | proceeds leads => subst reached; cases source <;> cases leads
  | expired _ _ _ => cases reached
  | approved => cases reached
  | rejected => cases reached
  | @evaluated stage evidence holds =>
      cases stage <;> simp only [BridgeStage.outcome] at reached <;> (try split at reached) <;>
        (try cases reached)
      rename_i denied
      exact ⟨evidence, holds, Bool.eq_false_iff.mpr denied⟩

theorem BridgeStep.expiry {known : BridgeStage → StageEvidence → Prop} {read : Int → Prop}
    {expiresAt : JsString} {source : BridgeState}
    (step : BridgeStep platform expiresAt known read source .expired) :
    ∃ instant, read instant ∧ numberLe (platform.dateParse expiresAt) (some instant) := by
  generalize reached : BridgeState.expired = target at step
  cases step with
  | expired _ past later => exact ⟨_, past, later⟩
  | proceeds leads => subst reached; cases source <;> cases leads
  | attestationExpired => cases reached
  | approved => cases reached
  | rejected => cases reached
  | @evaluated stage evidence _ =>
      cases stage <;> simp only [BridgeStage.outcome] at reached <;> (try split at reached) <;>
        cases reached

/-- An operation past the destination effect is not behind it. -/
theorem Justified.past_effect (justified : Justified platform route input view operation)
    (effected : DestinationEffected route input view) :
    BridgeState.destinationPreparing.progress ≤ operation.state.progress := by
  refine justified.bounded _ ?_
  rcases effected with performed | ⟨evidence, holds⟩
  · exact justified.performed .destinationEffect performed
  · exact justified.collected .destinationEffect evidence holds

theorem Justified.endDecided (justified : Justified platform route input view operation)
    (effected : DestinationEffected route input view) (ended : operation.state.terminal) :
    EndDecided platform route input view operation := by
  have past := justified.past_effect effected
  obtain ⟨transition, member, source, left, target, step⟩ := justified.ending ended
  unfold EndDecided
  cases state : operation.state with
  | policyRejected => rw [state] at past; exact absurd past (by decide)
  | sourceFailed => rw [state] at past; exact absurd past (by decide)
  | attestationFailed => rw [state] at past; exact absurd past (by decide)
  | completed => exact justified.backs (state ▸ justified.recorded.state_mem)
  | reconciliationFailed => rw [state] at step; exact step.reconciliationFailed
  | destinationFailed =>
      rw [state] at step target
      refine step.destinationFailed.imp_left fun before => ?_
      exact ⟨transition, member, left.trans (congrArg some before), target⟩
  | expired => rw [state] at step; exact step.expiry
  | _ => trivial

variable [DecidableEq Worker]

/-- **Endings after the destination effect.** In every run, an operation whose
destination effect has returned or is recorded ends as COMPLETED or
RECONCILIATION_FAILED by reconciliation evidence, as DESTINATION_FAILED by
confirmation or finality evidence unless it fails in the state before the effect, as
EXPIRED past its expiry, or in manual review. -/
theorem end_decided_after_effect (platform : Platform) (route : BridgeRoute)
    (input : CreateBridgeOperation) {operation : DurableBridgeOperation} {table : OperationTable}
    (created : DurableTransactionEngine.create platform input (fun _ => none) =
      (.ok operation, table))
    {admits : BridgeView Worker → Event bridgeInterface Worker Unit → Prop}
    {config : Config bridgeServices Worker Unit DurableBridgeOperation}
    (reached : Reachable (fun _ => BridgeCoordinator.run platform route input.id) admits
      (BridgeView.opened Worker table) config)
    (effected : DestinationEffected route input config.toView) {stored : DurableBridgeOperation}
    (found : config.state.operations input.id = some stored) (ended : stored.state.terminal) :
    EndDecided platform route input config.toView stored := by
  have valid : BridgeInvariant platform route input config.toView :=
    BridgeInvariant.reachable created reached
  obtain ⟨other, same, justified⟩ := valid.stored
  cases found.symm.trans same
  exact justified.endDecided effected ended

end Runs

namespace BridgeExample

/-- The mint has returned and its evidence is stored when the worker crashes; its
next run finds the operation past its expiry. -/
def expiresMinted : List (Action bridgeServices Unit Unit) :=
  .start () () :: exchanges (prepares ++ [BridgeChoice.instant early, .stored, .instant early] ++
      stage [text "transactionId" "mint-tx", text "outcome" "EXECUTED"]) ++
    [Action.crash (), .start () ()] ++
    exchanges [.stored, .instant late, .instant late, .stored, .stored]

/-- The clock does not go back. -/
def readsForward (view : BridgeView Unit) : Event bridgeInterface Unit Unit → Bool
  | .answered _ .now (.ok instant) =>
      view.history.all fun event =>
        match event with
        | .answered _ .now (.ok earlier) => decide (earlier ≤ instant)
        | _ => true
  | _ => true

/-- The destination effect is recorded and the operation is in this state. -/
def endedIn (state : BridgeState) (config : Config bridgeServices Unit Unit DurableBridgeOperation) :
    Bool :=
  (config.state.evidence input.id (js "DESTINATION_MINT")).isSome &&
    (config.state.operations input.id).any fun stored => stored.state == state

theorem endedIn_iff {state : BridgeState}
    {config : Config bridgeServices Unit Unit DurableBridgeOperation}
    (ended : endedIn state config = true) :
    DestinationEffected (lockMintRoute none) input config.toView ∧
      ∃ stored, config.state.operations input.id = some stored ∧ stored.state = state := by
  rw [endedIn, Bool.and_eq_true] at ended
  obtain ⟨evidence, holds⟩ := Option.isSome_iff_exists.mp ended.1
  obtain ⟨stored, found, same⟩ := (Option.any_eq_true ..).mp ended.2
  exact ⟨.inr ⟨evidence, holds⟩, stored, found, eq_of_beq same⟩

theorem expiresMinted_reached :
    ∃ config : Config bridgeServices Unit Unit DurableBridgeOperation,
      Reachable run (fun view event => readsForward view event) (BridgeView.opened Unit table)
        config ∧ endedIn .expired config = true :=
  Reachable.exists_of_run run (fun view event => readsForward view event = true)
    (BridgeView.opened Unit table) expiresMinted (endedIn .expired) (by decide +kernel)

end BridgeExample

open BridgeExample in
/-- An operation that expires after its mint has a clock reading past its expiry. -/
theorem end_decided_after_effect_expired :
    ∃ (config : Config bridgeServices Unit Unit DurableBridgeOperation)
      (stored : DurableBridgeOperation), stored.state = .expired ∧
      EndDecided isoPlatform (lockMintRoute none) input config.toView stored := by
  obtain ⟨operation, created⟩ := BridgeExample.created
  obtain ⟨config, reached, ended⟩ := expiresMinted_reached
  obtain ⟨effected, stored, found, expired⟩ := endedIn_iff ended
  exact ⟨config, stored, expired, end_decided_after_effect isoPlatform (lockMintRoute none) input
    created reached effected found (by rw [expired]; rfl)⟩

open BridgeExample in
/-- **Expiry after the mint.** The mint is executed and recorded, and the operation
ends as EXPIRED. -/
theorem expired_after_mint :
    ¬ ∀ (config : Config bridgeServices Unit Unit DurableBridgeOperation)
        (stored : DurableBridgeOperation),
      Reachable BridgeExample.run (fun view event => readsForward view event)
        (BridgeView.opened Unit table) config →
      DestinationEffected (lockMintRoute none) input config.toView →
      config.state.operations input.id = some stored → stored.state ≠ .expired := by
  intro claim
  obtain ⟨config, reached, ended⟩ := expiresMinted_reached
  obtain ⟨effected, stored, found, expired⟩ := endedIn_iff ended
  exact claim config stored reached effected found expired

end InterWeave
