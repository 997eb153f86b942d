import InterWeave.Async.Pool
import InterWeave.Bridge.TransactionEngine

/-! # The bridge coordinators

`lock-mint-coordinator.ts` and `burn-release-coordinator.ts`. The two coordinators
walk the same graph of states and differ in their stage names, in the fields they
require, in their reasons, and in when they read the clock for stage evidence: a
`BridgeRoute` holds these differences. The services they call may return any
object or throw.
-/

namespace InterWeave

open Async (Program)

/-- The stages of a bridge operation that leave evidence. -/
inductive BridgeStage where
  | sourceEffect
  | sourceConfirmation
  | sourceFinality
  | attestation
  | destinationEffect
  | destinationConfirmation
  | destinationFinality
  | reconciliation
  deriving DecidableEq, Repr

instance : Fintype BridgeStage :=
  .ofList [.sourceEffect, .sourceConfirmation, .sourceFinality, .attestation,
    .destinationEffect, .destinationConfirmation, .destinationFinality, .reconciliation]
    fun stage => by cases stage <;> decide

/-! ## Stage evidence -/

inductive DataValue where
  | text (value : JsString)
  | flag (value : Bool)
  deriving DecidableEq, Repr

/-- An object of type `Record<string, string | boolean>`, as its properties. -/
abbrev StageData := List (JsString × DataValue)

namespace StageData

def value (data : StageData) (key : JsString) : Option DataValue := data.lookup key

/-- `data[key] === true`. -/
def isTrue (data : StageData) (key : JsString) : Bool := data.value key == some (.flag true)

/-- The object literal that copies these properties. -/
def select (data : StageData) (keys : List JsString) : StageData :=
  keys.filterMap fun key => (data.value key).map fun value => (key, value)

/-- Equality as `jsonb`: the same properties in any order. -/
def equivalent (left right : StageData) : Bool :=
  (left ++ right).all fun property => left.value property.1 == right.value property.1

/-- A property in a template literal. -/
def rendered (data : StageData) (key : JsString) : JsString :=
  match data.value key with
  | some (.text value) => value
  | some (.flag true) => js "true"
  | some (.flag false) => js "false"
  | none => js "undefined"

/-- `requireText(data[key], name)`. -/
def requireText (data : StageData) (key name : JsString) : Except Thrown Unit :=
  match data.value key with
  | some (.text value) =>
      if value.isBlank then .error (.registryError .invalidArgument (name ++ js " is required"))
      else .ok ()
  | some (.flag _) => .error (.error (js "value.trim is not a function"))
  | none => .error (.error (js "Cannot read properties of undefined (reading 'trim')"))

end StageData

structure StageEvidence where
  operationId : JsString
  stage : JsString
  recordedAt : JsString
  data : StageData
  deriving DecidableEq, Repr

/-- `stringValue(evidence, key)` and `text(evidence, key)`. -/
def StageEvidence.stringValue (evidence : StageEvidence) (key : JsString) :
    Except Thrown JsString :=
  match evidence.data.value key with
  | some (.text value) =>
      if value.isBlank then
        .error (.registryError .invalidArgument
          (js "invalid " ++ evidence.stage ++ js " evidence: " ++ key))
      else .ok value
  | _ => .error (.registryError .invalidArgument
      (js "invalid " ++ evidence.stage ++ js " evidence: " ++ key))

structure VerifiedThresholdAttestation where
  digest : JsString
  validatorSetId : JsString
  signatureCount : JsString
  threshold : JsString
  expiresAt : JsString
  deriving DecidableEq, Repr

/-- `attestationFrom(evidence)`. -/
def attestationFrom (evidence : StageEvidence) : Except Thrown VerifiedThresholdAttestation := do
  return {
    digest := ← evidence.stringValue (js "digest")
    validatorSetId := ← evidence.stringValue (js "validatorSetId")
    signatureCount := ← evidence.stringValue (js "signatureCount")
    threshold := ← evidence.stringValue (js "threshold")
    expiresAt := ← evidence.stringValue (js "expiresAt") }

/-! ## Routes -/

/-- What one coordinator has of its own. -/
structure BridgeRoute where
  coordinator : JsString
  actor : JsString
  stageText : BridgeStage → JsString
  /-- The stages are rows of their own. -/
  distinct : Function.Injective stageText
  /-- The clock of stage evidence is read before the service is called. -/
  clockFirst : Bool
  /-- The properties kept of a result, where not all of them. -/
  selected : BridgeStage → Option (List JsString)
  /-- The properties that must be texts, with their names in errors. -/
  required : BridgeStage → List (JsString × JsString)
  /-- The reason of a transition, given the evidence it rests on. -/
  reason : BridgeState → StageData → JsString
  /-- The reason of DESTINATION_FAILED before the destination effect. -/
  attestationExpired : JsString

/-- The properties kept of an attestation result; all but the first are those of its
`attestation`. -/
def attestationKeys : List JsString :=
  [js "satisfied", js "digest", js "validatorSetId", js "signatureCount", js "threshold",
    js "expiresAt"]

/-- The route of `CantonToEvmLockMintCoordinator`. -/
def lockMintRoute (actor : Option JsString) : BridgeRoute where
  coordinator := js "lock-mint"
  actor := actor.getD (js "lock-mint-coordinator")
  stageText
    | .sourceEffect => js "SOURCE_LOCK"
    | .sourceConfirmation => js "SOURCE_CONFIRMATION"
    | .sourceFinality => js "SOURCE_FINALITY"
    | .attestation => js "ATTESTATION"
    | .destinationEffect => js "DESTINATION_MINT"
    | .destinationConfirmation => js "DESTINATION_CONFIRMATION"
    | .destinationFinality => js "DESTINATION_FINALITY"
    | .reconciliation => js "RECONCILIATION"
  distinct := by unfold Function.Injective; decide
  clockFirst := false
  selected
    | .sourceEffect => some [js "transactionId", js "lockId"]
    | .attestation => some attestationKeys
    | _ => none
  required
    | .sourceEffect =>
        [(js "transactionId", js "source transaction ID"), (js "lockId", js "Canton lock ID")]
    | .sourceConfirmation => [(js "position", js "source confirmation position")]
    | .sourceFinality =>
        [(js "position", js "source finality position"),
          (js "evidenceId", js "source finality evidence ID")]
    | .destinationConfirmation => [(js "blockNumber", js "destination confirmation block")]
    | .destinationFinality =>
        [(js "position", js "destination finality position"),
          (js "evidenceId", js "destination finality evidence ID")]
    | .attestation | .destinationEffect | .reconciliation => []
  reason
    | .sourcePreparing, _ => js "prepare Canton lock"
    | .sourceSubmitted, data =>
        js "Canton lock submitted: " ++ data.rendered (js "transactionId")
    | .sourceConfirmed, _ => js "Canton lock confirmation evaluated"
    | .sourceFinalized, _ => js "Canton finality evaluated"
    | .attestationPending, _ => js "request independent validator attestations"
    | .attested, _ => js "threshold attestation evaluated"
    | .destinationPreparing, _ => js "prepare replay-protected EVM mint"
    | .destinationSubmitted, data => js "EVM mint " ++ data.rendered (js "outcome")
    | .destinationConfirmed, _ => js "EVM mint confirmation evaluated"
    | .destinationFinalized, _ => js "EVM mint finality evaluated"
    | .reconciliationPending, _ => js "reconcile backing and representation supply"
    | .reconciled, _ => js "supply reconciliation evaluated"
    | .completed, _ => js "lock-mint operation completed"
    | _, _ => []
  attestationExpired := js "threshold attestation expired before mint"

/-- The route of `EvmToCantonBurnReleaseCoordinator`. -/
def burnReleaseRoute (actor : Option JsString) : BridgeRoute where
  coordinator := js "burn-release"
  actor := actor.getD (js "burn-release-coordinator")
  stageText
    | .sourceEffect => js "SOURCE_BURN"
    | .sourceConfirmation => js "SOURCE_CONFIRMATION"
    | .sourceFinality => js "SOURCE_FINALITY"
    | .attestation => js "ATTESTATION"
    | .destinationEffect => js "DESTINATION_RELEASE"
    | .destinationConfirmation => js "DESTINATION_CONFIRMATION"
    | .destinationFinality => js "DESTINATION_FINALITY"
    | .reconciliation => js "RECONCILIATION"
  distinct := by unfold Function.Injective; decide
  clockFirst := true
  selected
    | .attestation => some attestationKeys
    | _ => none
  required
    | .sourceEffect => [(js "transactionId", js "burn transaction ID")]
    | .sourceConfirmation => [(js "blockNumber", js "burn confirmation block")]
    | .sourceFinality =>
        [(js "position", js "burn finality position"),
          (js "evidenceId", js "burn finality evidence ID")]
    | .destinationEffect =>
        [(js "transactionId", js "Canton release transaction ID"),
          (js "authorizationId", js "Canton release authorization ID")]
    | .destinationConfirmation => [(js "position", js "release confirmation position")]
    | .destinationFinality =>
        [(js "position", js "release finality position"),
          (js "evidenceId", js "release finality evidence ID")]
    | .reconciliation => [(js "evidenceId", js "reconciliation evidence ID")]
    | .attestation => []
  reason
    | .sourcePreparing, _ => js "prepare replay-protected EVM burn"
    | .sourceSubmitted, data => js "EVM burn " ++ data.rendered (js "outcome")
    | .sourceConfirmed, _ => js "EVM burn confirmation evaluated"
    | .sourceFinalized, _ => js "EVM burn finality evaluated"
    | .attestationPending, _ => js "request independent burn attestations"
    | .attested, _ => js "threshold burn attestation evaluated"
    | .destinationPreparing, _ => js "prepare one-time Canton release"
    | .destinationSubmitted, data => js "Canton release " ++ data.rendered (js "outcome")
    | .destinationConfirmed, _ => js "Canton release confirmation evaluated"
    | .destinationFinalized, _ => js "Canton release finality evaluated"
    | .reconciliationPending, _ => js "reconcile burn, release, backing, and supply"
    | .reconciled, _ => js "round-trip supply reconciliation evaluated"
    | .completed, _ => js "burn-release operation completed"
    | _, _ => []
  attestationExpired := js "threshold attestation expired before release"

/-! ## Calls -/

/-- What a service receives next to the operation. -/
inductive StageInput where
  | nothing
  | transaction (transactionId : JsString)
  | finality (evidence : StageEvidence)
  | authorized (attestation : VerifiedThresholdAttestation)
  deriving DecidableEq, Repr

/-- What a run awaits. -/
inductive BridgeCall where
  | now
  | getOperation (id : JsString)
  | findTransition (operationId transitionKey : JsString)
  | append (command : TransitionCommand)
  | getEvidence (operationId stage : JsString)
  | putEvidence (evidence : StageEvidence)
  | evaluate (operation : DurableBridgeOperation)
  /-- The service of a stage: lock or burn, confirm, finalize, attest, mint or
  release, reconcile. -/
  | perform (stage : BridgeStage) (operation : DurableBridgeOperation) (input : StageInput)
  deriving DecidableEq, Repr

abbrev BridgeCall.Value : BridgeCall → Type
  | .now => Int
  | .getOperation _ => Option DurableBridgeOperation
  | .findTransition _ _ => Option PersistedTransition
  | .append _ => DurableBridgeOperation
  | .getEvidence _ _ => Option StageEvidence
  | .putEvidence _ => StageEvidence
  | .evaluate _ => PolicyDecision
  | .perform _ _ _ => StageData

abbrev bridgeInterface : Async.Interface where
  Call := BridgeCall
  Value := BridgeCall.Value
  Error := Thrown

abbrev BridgeProgram := Program bridgeInterface

namespace BridgeProgram

def now : BridgeProgram Int := Program.call (I := bridgeInterface) .now

def getOperation (id : JsString) : BridgeProgram (Option DurableBridgeOperation) :=
  Program.call (I := bridgeInterface) (.getOperation id)

def findTransition (operationId transitionKey : JsString) :
    BridgeProgram (Option PersistedTransition) :=
  Program.call (I := bridgeInterface) (.findTransition operationId transitionKey)

def append (command : TransitionCommand) : BridgeProgram DurableBridgeOperation :=
  Program.call (I := bridgeInterface) (.append command)

def getEvidence (operationId stage : JsString) : BridgeProgram (Option StageEvidence) :=
  Program.call (I := bridgeInterface) (.getEvidence operationId stage)

def putEvidence (evidence : StageEvidence) : BridgeProgram StageEvidence :=
  Program.call (I := bridgeInterface) (.putEvidence evidence)

def evaluate (operation : DurableBridgeOperation) : BridgeProgram PolicyDecision :=
  Program.call (I := bridgeInterface) (.evaluate operation)

def perform (stage : BridgeStage) (operation : DurableBridgeOperation) (input : StageInput) :
    BridgeProgram StageData :=
  Program.call (I := bridgeInterface) (.perform stage operation input)

end BridgeProgram

namespace DurableTransactionEngine

/-- The checks of `transition` on the command alone. -/
def checkCommand (command : TransitionCommand) : Except Thrown Unit := do
  if command.transitionKey.isBlank || command.actor.isBlank || command.reason.isBlank then
    throw (.registryError .invalidArgument (js "transition key, actor, and reason are required"))
  if command.attempt < 1 ∨ 9007199254740991 < command.attempt then
    throw (.registryError .invalidArgument (js "transition attempt must be positive"))

/-- The checks of `transition` on the policy decision. -/
def checkDecision (command : TransitionCommand) : Except Thrown Unit := do
  let outcome := command.policyDecision.map PolicyDecision.outcome
  if command.target = .policyChecked ∧ outcome ≠ some .allow then
    throw (.registryError .invalidArgument (js "POLICY_CHECKED requires an ALLOW decision"))
  if command.target = .policyRejected ∧ (outcome = none ∨ outcome = some .allow) then
    throw (.registryError .invalidArgument (js "POLICY_REJECTED requires a non-ALLOW decision"))

def transition (command : TransitionCommand) : BridgeProgram DurableBridgeOperation := do
  Program.ofExcept (checkCommand command)
  match ← BridgeProgram.getOperation command.operationId with
  | none => Program.reject (.registryError .notFound
      (js "operation not found: " ++ command.operationId))
  | some operation =>
      if operation.state.canTransition command.target then
        Program.ofExcept (checkDecision command)
        BridgeProgram.append command
      else
        let existing ← BridgeProgram.findTransition command.operationId command.transitionKey
        if existing.map PersistedTransition.target = some command.target then return operation
        else Program.reject (.registryError .conflict (js "illegal bridge transition: " ++
          operation.state.text ++ js " -> " ++ command.target.text))

end DurableTransactionEngine

/-! ## The run -/

namespace BridgeCoordinator

variable (platform : Platform) (route : BridgeRoute)

/-- `#transition(operation, to, reason, policyDecision)`. -/
def transition (operation : DurableBridgeOperation) (target : BridgeState) (reason : JsString)
    (policyDecision : Option PolicyDecision) : BridgeProgram DurableBridgeOperation := do
  let now ← BridgeProgram.now
  DurableTransactionEngine.transition
    { operationId := operation.id, transitionKey := operation.id ++ js ":" ++ target.text
      expectedVersion := operation.version, target, occurredAt := platform.toISOString now
      reason, actor := route.actor, attempt := 1, policyDecision }

/-- The callback given to `#evidence`. -/
def produce (operation : DurableBridgeOperation) (stage : BridgeStage)
    (input : Except Thrown StageInput) : BridgeProgram StageData := do
  let value ← Program.ofExcept input
  let result ← BridgeProgram.perform stage operation value
  Program.ofExcept ((route.required stage).forM fun property =>
    result.requireText property.1 property.2)
  return match route.selected stage with
    | some keys => result.select keys
    | none => result

/-- `#evidence(operation, stage, produce)`. -/
def evidence (operation : DurableBridgeOperation) (stage : BridgeStage)
    (input : Except Thrown StageInput) : BridgeProgram StageEvidence := do
  match ← BridgeProgram.getEvidence operation.id (route.stageText stage) with
  | some existing => return existing
  | none =>
      if route.clockFirst then
        let now ← BridgeProgram.now
        let data ← produce route operation stage input
        BridgeProgram.putEvidence
          { operationId := operation.id, stage := route.stageText stage
            recordedAt := platform.toISOString now, data }
      else
        let data ← produce route operation stage input
        let now ← BridgeProgram.now
        BridgeProgram.putEvidence
          { operationId := operation.id, stage := route.stageText stage
            recordedAt := platform.toISOString now, data }

/-- `#requiredEvidence(operationId, stage)` and `#required(operationId, stage)`. -/
def requiredEvidence (operationId : JsString) (stage : BridgeStage) :
    BridgeProgram StageEvidence := do
  match ← BridgeProgram.getEvidence operationId (route.stageText stage) with
  | some value => return value
  | none => Program.reject (.registryError .notFound
      (js "missing durable stage evidence: " ++ route.stageText stage))

/-- The stage that confirms or finalizes the transaction of an earlier one. -/
def followUp (operation : DurableBridgeOperation) (effect stage : BridgeStage) (verdict : JsString)
    (passed failed : BridgeState) : BridgeProgram DurableBridgeOperation := do
  let submitted ← requiredEvidence route operation.id effect
  let evidence ← evidence platform route operation stage
    ((submitted.stringValue (js "transactionId")).map .transaction)
  transition platform route operation (if evidence.data.isTrue verdict then passed else failed)
    (route.reason passed evidence.data) none

/-- The `switch` of `run`. Its default case returns the operation as it is. -/
def advance (operation : DurableBridgeOperation) :
    BridgeProgram (Option DurableBridgeOperation) :=
  match operation.state with
  | .created => do
      let decision ← BridgeProgram.evaluate operation
      some <$> transition platform route operation
        (if decision.outcome = .allow then .policyChecked else .policyRejected)
        (js "policy evaluated") (some decision)
  | .policyChecked =>
      some <$> transition platform route operation .sourcePreparing
        (route.reason .sourcePreparing []) none
  | .sourcePreparing => do
      let evidence ← evidence platform route operation .sourceEffect (.ok .nothing)
      some <$> transition platform route operation .sourceSubmitted
        (route.reason .sourceSubmitted evidence.data) none
  | .sourceSubmitted =>
      some <$> followUp platform route operation .sourceEffect .sourceConfirmation
        (js "confirmed") .sourceConfirmed .sourceFailed
  | .sourceConfirmed =>
      some <$> followUp platform route operation .sourceEffect .sourceFinality
        (js "finalized") .sourceFinalized .sourceFailed
  | .sourceFinalized =>
      some <$> transition platform route operation .attestationPending
        (route.reason .attestationPending []) none
  | .attestationPending => do
      let finality ← requiredEvidence route operation.id .sourceFinality
      let evidence ← evidence platform route operation .attestation (.ok (.finality finality))
      some <$> transition platform route operation
        (if evidence.data.isTrue (js "satisfied") then .attested else .attestationFailed)
        (route.reason .attested evidence.data) none
  | .attested =>
      some <$> transition platform route operation .destinationPreparing
        (route.reason .destinationPreparing []) none
  | .destinationPreparing => do
      let stored ← requiredEvidence route operation.id .attestation
      let attestation ← Program.ofExcept (attestationFrom stored)
      let now ← BridgeProgram.now
      if numberLe (platform.dateParse attestation.expiresAt) (some now) then
        some <$> transition platform route operation .destinationFailed route.attestationExpired
          none
      else
        let evidence ← evidence platform route operation .destinationEffect
          (.ok (.authorized attestation))
        some <$> transition platform route operation .destinationSubmitted
          (route.reason .destinationSubmitted evidence.data) none
  | .destinationSubmitted =>
      some <$> followUp platform route operation .destinationEffect .destinationConfirmation
        (js "confirmed") .destinationConfirmed .destinationFailed
  | .destinationConfirmed =>
      some <$> followUp platform route operation .destinationEffect .destinationFinality
        (js "finalized") .destinationFinalized .destinationFailed
  | .destinationFinalized =>
      some <$> transition platform route operation .reconciliationPending
        (route.reason .reconciliationPending []) none
  | .reconciliationPending => do
      let evidence ← evidence platform route operation .reconciliation (.ok .nothing)
      some <$> transition platform route operation
        (if evidence.data.isTrue (js "matched") then .reconciled else .reconciliationFailed)
        (route.reason .reconciled evidence.data) none
  | .reconciled =>
      some <$> transition platform route operation .completed (route.reason .completed []) none
  | _ => return none

/-- The loop of `run` and what follows it. -/
def drive : Nat → DurableBridgeOperation → BridgeProgram DurableBridgeOperation
  | 0, operation =>
      if operation.state ≠ .completed then
        Program.reject (.registryError .conflict
          (route.coordinator ++ js " coordinator stopped in state: " ++ operation.state.text))
      else return operation
  | guard + 1, operation =>
      if operation.state = .completed then return operation
      else if operation.state.terminal then return operation
      else do
        let now ← BridgeProgram.now
        if numberLe (platform.dateParse operation.expiresAt) (some now) then
          let expired ← transition platform route operation .expired
            (js "bridge operation expired before completion") none
          drive guard expired
        else
          match ← advance platform route operation with
          | some next => drive guard next
          | none => return operation

/-- `run(operationId)`. -/
def run (operationId : JsString) : BridgeProgram DurableBridgeOperation := do
  match ← BridgeProgram.getOperation operationId with
  | none => Program.reject (.registryError .notFound (js "operation not found: " ++ operationId))
  | some operation => drive platform route 24 operation

end BridgeCoordinator

def CantonToEvmLockMintCoordinator.run (platform : Platform) (actor : Option JsString)
    (operationId : JsString) : BridgeProgram DurableBridgeOperation :=
  BridgeCoordinator.run platform (lockMintRoute actor) operationId

def EvmToCantonBurnReleaseCoordinator.run (platform : Platform) (actor : Option JsString)
    (operationId : JsString) : BridgeProgram DurableBridgeOperation :=
  BridgeCoordinator.run platform (burnReleaseRoute actor) operationId

/-! ## The stores and the services -/

/-- The rows of `bridge_stage_evidence`, by operation and stage, beside the
operations. -/
structure BridgeWorld where
  operations : OperationTable
  evidence : JsString → JsString → Option StageEvidence

namespace BridgeWorld

/-- `PostgresLockMintEvidenceStore.put` and `PostgresBurnReleaseEvidenceStore.put`. -/
def putEvidence (world : BridgeWorld) (evidence : StageEvidence) :
    Except Thrown StageEvidence × BridgeWorld :=
  match world.evidence evidence.operationId evidence.stage with
  | some stored =>
      if stored.recordedAt = evidence.recordedAt && stored.data.equivalent evidence.data then
        (.ok stored, world)
      else
        (.error (.registryError .conflict
          (js "stage evidence differs from immutable record: " ++ evidence.stage)), world)
  | none =>
      (.ok evidence, { world with
        evidence := fun operationId stage =>
          if operationId = evidence.operationId ∧ stage = evidence.stage then some evidence
          else world.evidence operationId stage })

end BridgeWorld

/-- What the environment decides at an answer. -/
inductive BridgeChoice where
  | instant (value : Int)
  | stored
  | decision (value : PolicyDecision)
  | result (data : StageData)
  | failure (error : Thrown)

def BridgeWorld.reply : (call : BridgeCall) → BridgeChoice → BridgeWorld →
    Option (bridgeInterface.Answer call × BridgeWorld)
  | .now, .instant value, world => some (.ok value, world)
  | .getOperation id, .stored, world => some (.ok (world.operations id), world)
  | .findTransition operationId transitionKey, .stored, world =>
      some (.ok (PostgresTransactionStore.findTransition world.operations operationId
        transitionKey), world)
  | .append command, .stored, world =>
      let appended := PostgresTransactionStore.append world.operations command
      some (appended.1, { world with operations := appended.2 })
  | .getEvidence operationId stage, .stored, world =>
      some (.ok (world.evidence operationId stage), world)
  | .putEvidence evidence, .stored, world =>
      let written := world.putEvidence evidence
      some (written.1, written.2)
  | .evaluate _, .decision value, world => some (.ok value, world)
  | .evaluate _, .failure error, world => some (.error error, world)
  | .perform _ _ _, .result data, world => some (.ok data, world)
  | .perform _ _ _, .failure error, world => some (.error error, world)
  | _, _, _ => none

abbrev bridgeServices : Async.Services bridgeInterface where
  State := BridgeWorld
  Choice := BridgeChoice
  reply := BridgeWorld.reply

end InterWeave
