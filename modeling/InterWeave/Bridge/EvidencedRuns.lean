import InterWeave.Bridge.OperationRuns
import InterWeave.Core.IsoDate

/-! # Evidence before progress

The two stores of a coordinator are written in separate steps, the evidence first.
A state that the stored operation has entered therefore has its evidence in the
table, and a worker that reaches the destination effect, on whatever copy, has
behind it the policy decision, the source finality and the attestation.
-/

namespace InterWeave

open Async

/-! ## Predecessors -/

/-- The only state from which a state can be entered. -/
def BridgeState.before : BridgeState → Option BridgeState
  | .policyChecked => some .created
  | .sourcePreparing => some .policyChecked
  | .sourceSubmitted => some .sourcePreparing
  | .sourceConfirmed => some .sourceSubmitted
  | .sourceFinalized => some .sourceConfirmed
  | .attestationPending => some .sourceFinalized
  | .attested => some .attestationPending
  | .destinationPreparing => some .attested
  | .destinationSubmitted => some .destinationPreparing
  | .destinationConfirmed => some .destinationSubmitted
  | .destinationFinalized => some .destinationConfirmed
  | .reconciliationPending => some .destinationFinalized
  | .reconciled => some .reconciliationPending
  | .completed => some .reconciled
  | _ => none

theorem BridgeState.before_of_proceeds : ∀ source target : BridgeState,
    source.proceeds = some target → target.before = some source := by
  decide

namespace BridgeStep

variable {platform : Platform} {expiresAt : JsString}
  {known : BridgeStage → StageEvidence → Prop} {read : Int → Prop} {source target : BridgeState}

theorem before (step : BridgeStep platform expiresAt known read source target)
    {first : BridgeState} (only : target.before = some first) : source = first := by
  cases step with
  | approved => exact Option.some.inj only
  | rejected => cases only
  | proceeds leads =>
      exact Option.some.inj ((BridgeState.before_of_proceeds _ _ leads).symm.trans only)
  | @evaluated stage evidence _ =>
      cases stage <;> simp only [BridgeStage.outcome] at only <;> (try split at only) <;>
        first | exact Option.some.inj only | cases only
  | expired _ _ _ => cases only
  | attestationExpired => cases only

end BridgeStep

section Evidence

variable (route : BridgeRoute) (operationId : JsString)

/-- Evidence of the stage is stored, with a true verdict. -/
def BridgeWorld.Shows (world : BridgeWorld) (stage : BridgeStage) (verdict : JsString) : Prop :=
  ∃ evidence, world.evidence operationId (route.stageText stage) = some evidence ∧
    evidence.data.isTrue verdict

/-- What must be stored for a state to have been entered. -/
def BridgeWorld.Backs (world : BridgeWorld) : BridgeState → Prop
  | .sourceSubmitted =>
      ∃ evidence, world.evidence operationId (route.stageText .sourceEffect) = some evidence
  | .sourceConfirmed => world.Shows route operationId .sourceConfirmation (js "confirmed")
  | .sourceFinalized => world.Shows route operationId .sourceFinality (js "finalized")
  | .attested => world.Shows route operationId .attestation (js "satisfied")
  | .destinationSubmitted =>
      ∃ evidence, world.evidence operationId (route.stageText .destinationEffect) = some evidence
  | .destinationConfirmed =>
      world.Shows route operationId .destinationConfirmation (js "confirmed")
  | .destinationFinalized => world.Shows route operationId .destinationFinality (js "finalized")
  | .reconciled | .completed => world.Shows route operationId .reconciliation (js "matched")
  | _ => True

end Evidence

section Runs

variable {platform : Platform} {route : BridgeRoute} {input : CreateBridgeOperation}
  {Worker : Type} {view : BridgeView Worker} {operation : DurableBridgeOperation}

/-- A stored operation has passed through the predecessors of its states. -/
theorem Justified.before (justified : Justified platform route input view operation)
    {state first : BridgeState} (entered : state ∈ operation.states)
    (only : state.before = some first) : first ∈ operation.states := by
  obtain ⟨transition, member, rfl⟩ := List.mem_map.mp entered
  rcases justified.entered transition member with created | ⟨source, passed, _, step⟩
  · rw [created] at only
    cases only
  · rwa [← step.before only]

/-- Evidence leads only to states that it backs. -/
theorem BridgeWorld.backs_outcome {world : BridgeWorld} {stage : BridgeStage}
    {evidence : StageEvidence} (holds : world.Holds route input stage evidence) :
    world.Backs route input.id (stage.outcome evidence.data) := by
  cases stage <;> simp only [BridgeStage.outcome] <;> (try split) <;>
    first
      | trivial
      | exact ⟨evidence, holds⟩
      | exact ⟨evidence, holds, ‹_›⟩

/-- A step other than the last one leads to a state that the stores back. -/
theorem BridgeStep.backs {world : BridgeWorld} {read : Int → Prop} {source target : BridgeState}
    (step : BridgeStep platform input.expiresAt (world.Holds route input) read source target)
    (other : target ≠ .completed) : world.Backs route input.id target := by
  cases step with
  | approved => trivial
  | rejected => trivial
  | proceeds leads =>
      cases source <;> cases leads <;> trivial
  | evaluated holds => exact BridgeWorld.backs_outcome holds
  | expired _ _ _ => trivial
  | attestationExpired => trivial

/-- Every state that the stored operation has entered is backed by stored evidence. -/
theorem Justified.backs (justified : Justified platform route input view operation)
    {state : BridgeState} (entered : state ∈ operation.states) :
    view.state.Backs route input.id state := by
  have direct : ∀ {state : BridgeState}, state ∈ operation.states → state ≠ .completed →
      view.state.Backs route input.id state := by
    intro state entered other
    obtain ⟨transition, member, rfl⟩ := List.mem_map.mp entered
    rcases justified.entered transition member with created | ⟨source, _, _, step⟩
    · rw [created]
      trivial
    · exact step.backs other
  by_cases last : state = .completed
  · -- The last step rests on the reconciliation before it.
    subst last
    have reconciled : BridgeState.reconciled ∈ operation.states := justified.before entered rfl
    have backed : view.state.Backs route input.id .reconciled := direct reconciled (by decide)
    exact backed
  · exact direct entered last

/-- Behind the destination effect lie an approved policy, final source evidence and a
satisfied attestation. -/
theorem Justified.authorizes (justified : Justified platform route input view operation)
    (entered : .destinationPreparing ∈ operation.states) :
    operation.policyDecision.map PolicyDecision.outcome = some .allow ∧
      view.state.Shows route input.id .sourceFinality (js "finalized") ∧
      view.state.Shows route input.id .attestation (js "satisfied") := by
  have attested : BridgeState.attested ∈ operation.states := justified.before entered rfl
  have pending : BridgeState.attestationPending ∈ operation.states := justified.before attested rfl
  have finalized : BridgeState.sourceFinalized ∈ operation.states := justified.before pending rfl
  have confirmed : BridgeState.sourceConfirmed ∈ operation.states := justified.before finalized rfl
  have submitted : BridgeState.sourceSubmitted ∈ operation.states := justified.before confirmed rfl
  have preparing : BridgeState.sourcePreparing ∈ operation.states := justified.before submitted rfl
  have checked : BridgeState.policyChecked ∈ operation.states := justified.before preparing rfl
  exact ⟨justified.approved checked, justified.backs finalized, justified.backs attested⟩

variable [DecidableEq Worker]

/-- **Evidence before progress.** In every run of workers of one coordinator on one
operation, stored evidence never changes, every state the operation has entered is
backed by stored evidence, and the destination effect is asked for only with an
approved policy, final source evidence and a satisfied attestation stored. -/
theorem evidence_before_progress (platform : Platform) (route : BridgeRoute)
    (input : CreateBridgeOperation) {operation : DurableBridgeOperation} {table : OperationTable}
    (created : DurableTransactionEngine.create platform input (fun _ => none) =
      (.ok operation, table))
    {config : Config bridgeServices Worker Unit DurableBridgeOperation}
    (reached : Reachable (fun _ => BridgeCoordinator.run platform route input.id)
      (fun _ _ => True) (BridgeView.opened Worker table) config) :
    (∀ stored, config.state.operations input.id = some stored →
      ∀ state ∈ stored.states, config.state.Backs route input.id state) ∧
    ∀ action move,
      config.move (fun _ => BridgeCoordinator.run platform route input.id) action = some move →
      (∀ operationId stage evidence,
        config.state.evidence operationId stage = some evidence →
        move.state.evidence operationId stage = some evidence) ∧
      ∀ worker performed stageInput,
        move.event = .issued worker (.perform .destinationEffect performed stageInput) →
        ∃ stored, config.state.operations input.id = some stored ∧
          stored.policyDecision.map PolicyDecision.outcome = some .allow ∧
          config.state.Shows route input.id .sourceFinality (js "finalized") ∧
          config.state.Shows route input.id .attestation (js "satisfied") := by
  have valid : BridgeInvariant platform route input config.toView :=
    BridgeInvariant.reachable created reached
  obtain ⟨stored, found, justified⟩ := valid.stored
  refine ⟨fun other same state entered => ?_, fun action move moved => ⟨?_, ?_⟩⟩
  · cases found.symm.trans same
    exact justified.backs entered
  · intro operationId stage evidence held
    have step := Protocol.step_of_reachable
      (fun _ => BridgeCoordinator.run_follows platform route input.id)
      BridgeWorld.reply_possible rfl reached moved
    generalize move.event = event at step
    generalize move.state = world at step
    cases step with
    | started _ => exact held
    | issued _ _ => exact held
    | answered _ _ _ replied => exact BridgeWorld.reply_evidence replied held
    | crashed _ => exact held
  · intro worker performed stageInput asks
    have step := Protocol.step_of_reachable
      (fun _ => BridgeCoordinator.run_follows platform route input.id)
      BridgeWorld.reply_possible rfl reached moved
    rw [asks] at step
    generalize move.state = world at step
    cases step with
    | issued known allowed =>
      obtain ⟨held, state⟩ := allowed
      have entered := ((valid.faithful worker _ known).operations performed held).state_mem found
      rw [state] at entered
      exact ⟨stored, found, justified.authorizes entered⟩

end Runs
/-! ## A run to the destination -/

namespace BridgeExample

def input : CreateBridgeOperation where
  id := js "IW:BRIDGE_OPERATION:mint-1"
  idempotencyKey := js "mint-1"
  assetId := js "IW:ASSET:usd"
  sourceNetworkId := js "IW:NETWORK:canton"
  destinationNetworkId := js "IW:NETWORK:evm"
  sender := js "IW:IDENTITY:alice"
  receiver := js "IW:IDENTITY:bob"
  amount := js "100"
  expiresAt := js "2026-08-11T13:00:00.000Z"
  createdAt := js "2026-08-11T12:00:00.000Z"
  actor := js "client"

/-- 2026-08-11T12:30:00.000Z. -/
def early : Int := 1786451400000

/-- 2026-08-11T13:00:00.000Z. -/
def late : Int := 1786453200000

def table : OperationTable :=
  (DurableTransactionEngine.create isoPlatform input fun _ => none).2

def run (_ : Unit) : BridgeProgram DurableBridgeOperation :=
  CantonToEvmLockMintCoordinator.run isoPlatform none input.id

theorem created : ∃ operation,
    DurableTransactionEngine.create isoPlatform input (fun _ => none) = (.ok operation, table) :=
  ⟨_, rfl⟩

/-- Calls of the worker, each issued and answered at once. -/
def exchanges (choices : List BridgeChoice) : List (Action bridgeServices Unit Unit) :=
  choices.flatMap fun choice => [.issue (), .answer () choice]

/-- The clock is read, and the engine loads and appends. -/
def transition : List BridgeChoice := [.instant early, .stored, .stored]

/-- A stage without evidence calls its service and stores the result. -/
def stage (data : StageData) : List BridgeChoice :=
  [.stored, .result data, .instant early, .stored]

def decision : PolicyDecision := ⟨.allow, [], js "IW:POLICY:p", js "1", js "now", none⟩

def text (key value : String) : JsString × DataValue := (js key, .text (js value))

def attested : StageData :=
  [(js "satisfied", .flag true), text "digest" "d", text "validatorSetId" "set-1",
    text "signatureCount" "2", text "threshold" "2", text "expiresAt" "2026-08-11T12:45:00.000Z"]

/-- From the start of a run to the state DESTINATION_PREPARING. -/
def prepares : List BridgeChoice :=
  [BridgeChoice.stored] ++ [BridgeChoice.instant early, .decision decision] ++ transition ++
    [BridgeChoice.instant early] ++ transition ++
    [BridgeChoice.instant early] ++ stage [text "transactionId" "lock-tx", text "lockId" "lock"] ++
      transition ++
    [BridgeChoice.instant early, .stored] ++
      stage [(js "confirmed", .flag true), text "position" "7"] ++
      transition ++
    [BridgeChoice.instant early, .stored] ++
      stage [(js "finalized", .flag true), text "position" "7", text "evidenceId" "e"] ++
      transition ++
    [BridgeChoice.instant early] ++ transition ++
    [BridgeChoice.instant early, .stored] ++ stage attested ++ transition ++
    [BridgeChoice.instant early] ++ transition

/-- The run is about to call the mint. -/
def reachesMint : List (Action bridgeServices Unit Unit) :=
  .start () () :: exchanges (prepares ++
    [BridgeChoice.instant early, .stored, .instant early, .stored])

/-- The event asks for the destination effect. -/
def mints : Event bridgeInterface Unit Unit → Bool
  | .issued _ (.perform .destinationEffect _ _) => true
  | _ => false

theorem mints_iff {event : Event bridgeInterface Unit Unit} (found : mints event) :
    ∃ worker operation stageInput,
      event = .issued worker (.perform .destinationEffect operation stageInput) := by
  unfold mints at found
  split at found
  · exact ⟨_, _, _, rfl⟩
  · cases found

end BridgeExample

open BridgeExample in
/-- A run reaches the mint with everything it rests on stored. -/
theorem evidence_before_progress_mint :
    ∃ (config : Config bridgeServices Unit Unit DurableBridgeOperation)
      (stored : DurableBridgeOperation),
      config.state.operations input.id = some stored ∧
      stored.policyDecision.map PolicyDecision.outcome = some .allow ∧
      config.state.Shows (lockMintRoute none) input.id .attestation (js "satisfied") := by
  obtain ⟨operation, created⟩ := BridgeExample.created
  obtain ⟨config, move, reached, moved, checked⟩ := Reachable.exists_move_of_run
    BridgeExample.run (fun _ _ => True) (BridgeView.opened Unit table) reachesMint (.issue ())
    (fun _ move => mints move.event) (by decide +kernel)
  obtain ⟨worker, performed, stageInput, asks⟩ := mints_iff checked
  obtain ⟨stored, found, allowed, _, satisfied⟩ :=
    ((evidence_before_progress isoPlatform (lockMintRoute none) input created reached).2 _ _
      moved).2 worker performed stageInput asks
  exact ⟨config, stored, found, allowed, satisfied⟩

end InterWeave
