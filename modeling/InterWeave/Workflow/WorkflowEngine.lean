import InterWeave.Attestation.GenericService
import InterWeave.Bridge.TransactionEngine

/-! # The workflow engine

`workflow-engine.ts`. A workflow version names a predicate over attestations, a policy and
one action. `execute` claims an execution, checks the attestation and the policy, and hands the
action to the handler of its type. Verifier, policy, handlers and clock are outside; the world
keeps the actions that handlers have applied.
-/

namespace InterWeave

open Async (Program)

inductive PermissionedWorkflowActionType where
  | recordCantonCollateral
  | initiateEvmPayment
  | recordCantonEligibility
  deriving DecidableEq, Repr

def PermissionedWorkflowActionType.text : PermissionedWorkflowActionType → JsString
  | .recordCantonCollateral => js "RECORD_CANTON_COLLATERAL"
  | .initiateEvmPayment => js "INITIATE_EVM_PAYMENT"
  | .recordCantonEligibility => js "RECORD_CANTON_ELIGIBILITY"

structure WorkflowDefinition where
  id : JsString
  version : JsString
  enabled : Bool
  sourceNetworkId : JsString
  predicateType : JsString
  claimEquals : GenericClaims
  policyId : JsString
  policyVersion : JsString
  actionType : PermissionedWorkflowActionType
  actionConfiguration : GenericClaims
  createdAt : JsString
  deriving DecidableEq

/-- What the policy authorizer returns. -/
structure WorkflowDecision where
  outcome : DecisionOutcome
  policyId : JsString
  policyVersion : JsString
  reasons : List JsString
  deriving DecidableEq, Repr

def DecisionOutcome.text : DecisionOutcome → JsString
  | .allow => js "ALLOW"
  | .deny => js "DENY"
  | .requiresApproval => js "REQUIRES_APPROVAL"

structure WorkflowActionEvidence where
  externalTransactionId : JsString
  observedPosition : JsString
  evidence : List JsString
  finalizedAt : JsString
  deriving DecidableEq, Repr

inductive WorkflowActionResult where
  | applied (evidence : WorkflowActionEvidence)
  | alreadyApplied (evidence : WorkflowActionEvidence)
  | rejected (reason : JsString) (evidence : List JsString)
  | uncertain (reason : JsString) (evidence : List JsString)
  deriving DecidableEq, Repr

/-- What a handler is asked to do. -/
structure WorkflowAction where
  executionId : JsString
  workflow : WorkflowDefinition
  attestation : StoredGenericAttestation
  deriving DecidableEq

inductive WorkflowExecutionStatus where
  | inProgress
  | completed
  | rejected
  | manualReview
  deriving DecidableEq, Repr

structure WorkflowExecutionRecord where
  id : JsString
  idempotencyKey : JsString
  workflowId : JsString
  workflowVersion : JsString
  attestationId : JsString
  requestHash : JsString
  status : WorkflowExecutionStatus
  policyEvidence : Option (List JsString)
  actionResult : Option WorkflowActionResult
  createdAt : JsString
  updatedAt : JsString
  deriving DecidableEq, Repr

inductive WorkflowClaimOutcome where
  | claimed
  | replay
  | conflict
  deriving DecidableEq, Repr

structure WorkflowExecutionClaim where
  outcome : WorkflowClaimOutcome
  record : WorkflowExecutionRecord
  deriving DecidableEq, Repr

structure ExecuteWorkflowRequest where
  id : JsString
  idempotencyKey : JsString
  workflowId : JsString
  workflowVersion : JsString
  attestation : StoredGenericAttestation
  createdAt : JsString
  deriving DecidableEq

/-! ## Calls -/

/-- What the registry and the engine await. -/
inductive WorkflowCall where
  | now
  | register (definition : WorkflowDefinition)
  | getWorkflow (id version : JsString)
  | claim (record : WorkflowExecutionRecord)
  | verify (attestation : StoredGenericAttestation)
  | authorize (workflow : WorkflowDefinition) (attestation : StoredGenericAttestation)
      (evaluatedAt : JsString)
  /-- The handler of the workflow's action type. -/
  | act (action : WorkflowAction)
  | finish (id requestHash : JsString) (status : WorkflowExecutionStatus)
      (policyEvidence : List JsString) (actionResult : Option WorkflowActionResult)
      (updatedAt : JsString)
  deriving DecidableEq

abbrev WorkflowCall.Value : WorkflowCall → Type
  | .now => Int
  | .register _ => WorkflowDefinition
  | .getWorkflow _ _ => Option WorkflowDefinition
  | .claim _ => WorkflowExecutionClaim
  | .verify _ => Bool
  | .authorize _ _ _ => WorkflowDecision
  | .act _ => WorkflowActionResult
  | .finish _ _ _ _ _ _ => WorkflowExecutionRecord

abbrev workflowInterface : Async.Interface where
  Call := WorkflowCall
  Value := WorkflowCall.Value
  Error := Thrown

abbrev WorkflowProgram := Program workflowInterface

namespace WorkflowProgram

def now : WorkflowProgram Int := Program.call (I := workflowInterface) .now

def register (definition : WorkflowDefinition) : WorkflowProgram WorkflowDefinition :=
  Program.call (I := workflowInterface) (.register definition)

def getWorkflow (id version : JsString) : WorkflowProgram (Option WorkflowDefinition) :=
  Program.call (I := workflowInterface) (.getWorkflow id version)

def claim (record : WorkflowExecutionRecord) : WorkflowProgram WorkflowExecutionClaim :=
  Program.call (I := workflowInterface) (.claim record)

def verify (attestation : StoredGenericAttestation) : WorkflowProgram Bool :=
  Program.call (I := workflowInterface) (.verify attestation)

def authorize (workflow : WorkflowDefinition) (attestation : StoredGenericAttestation)
    (evaluatedAt : JsString) : WorkflowProgram WorkflowDecision :=
  Program.call (I := workflowInterface) (.authorize workflow attestation evaluatedAt)

def act (action : WorkflowAction) : WorkflowProgram WorkflowActionResult :=
  Program.call (I := workflowInterface) (.act action)

def finish (id requestHash : JsString) (status : WorkflowExecutionStatus)
    (policyEvidence : List JsString) (actionResult : Option WorkflowActionResult)
    (updatedAt : JsString) : WorkflowProgram WorkflowExecutionRecord :=
  Program.call (I := workflowInterface)
    (.finish id requestHash status policyEvidence actionResult updatedAt)

end WorkflowProgram

/-! ## Checks -/

/-- `/^[1-9][0-9]*(\.[0-9]+){0,2}$/`. -/
def isWorkflowVersion (value : JsString) : Bool :=
  match value.splitOn 46 with
  | major :: minors => JsString.isDigits major && major.head? ≠ some 48 && minors.length ≤ 2 &&
      minors.all JsString.isDigits
  | [] => false

/-- `validateDefinition(value)`. The types leave nothing to its last two checks, of the action
type and of the kinds of claim values. -/
def validateDefinition (platform : Platform) (value : WorkflowDefinition) : Except Thrown Unit := do
  if !value.id.startsWith (js "IW:WORKFLOW:") || !isWorkflowVersion value.version ||
      !value.sourceNetworkId.startsWith (js "IW:NETWORK:") || value.predicateType.isBlank ||
      !value.policyId.startsWith (js "IW:POLICY:") || value.policyVersion.isBlank ||
      (platform.dateParse value.createdAt).isNone then
    throw (.registryError .invalidArgument (js "workflow definition is invalid"))
  if value.claimEquals.entries.any (fun entry => entry.1.isBlank) ||
      value.actionConfiguration.entries.any (fun entry => entry.1.isBlank) then
    throw (.registryError .invalidArgument
      (js "workflow claim and action configuration keys must be non-empty"))

/-- `validateExecution(value)`. -/
def validateExecution (platform : Platform) (value : ExecuteWorkflowRequest) :
    Except Thrown Unit :=
  if !value.id.startsWith (js "IW:WORKFLOW_EXECUTION:") || value.idempotencyKey.isBlank ||
      !value.workflowId.startsWith (js "IW:WORKFLOW:") || value.workflowVersion.isBlank ||
      (platform.dateParse value.createdAt).isNone then
    .error (.registryError .invalidArgument
      (js "valid workflow execution identifiers and timestamp are required"))
  else .ok ()

/-- `left === right` of two claim values. -/
def GenericClaimValue.same : GenericClaimValue → GenericClaimValue → Bool
  | .number .nan, .number .nan => false
  | left, right => left = right

/-- `matches(workflow, attestation)`. -/
def WorkflowDefinition.accepts (workflow : WorkflowDefinition)
    (attestation : StoredGenericAttestation) : Bool :=
  let statement := attestation.statement
  statement.sourceNetworkId = workflow.sourceNetworkId &&
    statement.predicateType = workflow.predicateType &&
    workflow.claimEquals.entries.all fun entry =>
      (statement.claims.entries.lookup entry.1).any fun value => value.same entry.2

/-- `validateActionResult(value)`. -/
def validateActionResult (platform : Platform) : WorkflowActionResult → Except Thrown Unit
  | .applied evidence | .alreadyApplied evidence =>
      if evidence.externalTransactionId.isBlank || evidence.observedPosition.isBlank ||
          evidence.evidence.isEmpty || (platform.dateParse evidence.finalizedAt).isNone then
        .error (.registryError .invalidArgument
          (js "applied workflow action requires finality evidence"))
      else .ok ()
  | .rejected reason _ | .uncertain reason _ =>
      if reason.isBlank then
        .error (.registryError .invalidArgument
          (js "non-applied workflow action requires a reason"))
      else .ok ()

/-- The status a result finishes the execution with. -/
def WorkflowActionResult.status : WorkflowActionResult → WorkflowExecutionStatus
  | .applied _ | .alreadyApplied _ => .completed
  | .rejected _ _ => .rejected
  | .uncertain _ _ => .manualReview

/-- What `requestFingerprint` is given of a request. -/
def ExecuteWorkflowRequest.json (input : ExecuteWorkflowRequest) : JsValue :=
  .object [(js "id", .string input.id), (js "idempotencyKey", .string input.idempotencyKey),
    (js "workflowId", .string input.workflowId),
    (js "workflowVersion", .string input.workflowVersion),
    (js "attestationDigest", .string input.attestation.digest)]

/-- The record that an execution is claimed with. -/
def ExecuteWorkflowRequest.initial (input : ExecuteWorkflowRequest) (requestHash : JsString) :
    WorkflowExecutionRecord where
  id := input.id
  idempotencyKey := input.idempotencyKey
  workflowId := input.workflowId
  workflowVersion := input.workflowVersion
  attestationId := input.attestation.statement.id
  requestHash := requestHash
  status := .inProgress
  policyEvidence := none
  actionResult := none
  createdAt := input.createdAt
  updatedAt := input.createdAt

/-! ## The engine -/

/-- The engine, by the action types that have a handler. -/
structure WorkflowEngine where
  handlers : List PermissionedWorkflowActionType
  unique : handlers.Nodup

namespace WorkflowEngine

/-- The engine with one more handler. -/
def configure (engine : WorkflowEngine) (actionType : PermissionedWorkflowActionType) :
    Except Thrown WorkflowEngine :=
  if configured : actionType ∈ engine.handlers then
    .error (.registryError .conflict
      (js "duplicate workflow action handler: " ++ actionType.text))
  else .ok
    { handlers := engine.handlers ++ [actionType]
      unique := List.nodup_append_comm.mp (List.nodup_cons.mpr ⟨configured, engine.unique⟩) }

/-- The constructor, by the action types of the handlers it is given. -/
def constructor (handlers : List PermissionedWorkflowActionType) : Except Thrown WorkflowEngine :=
  handlers.foldlM configure ⟨[], List.nodup_nil⟩

theorem configured_iff {handlers : List PermissionedWorkflowActionType}
    {engine result : WorkflowEngine} : handlers.foldlM configure engine = .ok result ↔
      result.handlers = engine.handlers ++ handlers := by
  induction handlers generalizing engine with
  | nil =>
      rw [List.foldlM_nil, List.append_nil]
      constructor
      · rintro ⟨⟩
        rfl
      · intro same
        cases result
        cases same
        rfl
  | cons actionType rest ih =>
      rw [List.foldlM_cons, configure]
      split
      · rename_i configured
        refine ⟨fun returned => (nomatch returned), fun same => ?_⟩
        have unique := result.unique
        rw [same, List.nodup_append] at unique
        exact absurd rfl (unique.2.2 actionType configured actionType List.mem_cons_self)
      · refine ih.trans ?_
        rw [List.append_assoc, List.singleton_append]

/-- Every engine comes from the constructor, with the handlers that it was given. -/
theorem constructor_iff {handlers : List PermissionedWorkflowActionType}
    {engine : WorkflowEngine} : constructor handlers = .ok engine ↔ engine.handlers = handlers :=
  configured_iff

variable (platform : Platform) (engine : WorkflowEngine)

/-- `register` of the registry. -/
def register (definition : WorkflowDefinition) : WorkflowProgram WorkflowDefinition := do
  Program.ofExcept (validateDefinition platform definition)
  WorkflowProgram.register definition

/-- `reject(record, hash, evidence)`. -/
def reject (record : WorkflowExecutionRecord) (hash : JsString) (evidence : List JsString) :
    WorkflowProgram WorkflowExecutionRecord := do
  let now ← WorkflowProgram.now
  WorkflowProgram.finish record.id hash .rejected evidence none (platform.toISOString now)

/-- `execute`, from the call of the handler on. -/
def dispatch (input : ExecuteWorkflowRequest) (workflow : WorkflowDefinition) (hash : JsString)
    (reasons : List JsString) : WorkflowProgram WorkflowExecutionRecord := do
  let outcome ← (WorkflowProgram.act
    { executionId := input.id, workflow, attestation := input.attestation }).attempt
  let result := match outcome with
    | .ok result => result
    | .error _ => .uncertain (js "ACTION_HANDLER_ERROR") []
  Program.ofExcept (validateActionResult platform result)
  let now ← WorkflowProgram.now
  WorkflowProgram.finish input.id hash result.status reasons (some result)
    (platform.toISOString now)

/-- `execute`, once the execution is claimed and in progress. -/
def authorized (input : ExecuteWorkflowRequest) (workflow : WorkflowDefinition) (hash : JsString) :
    WorkflowProgram WorkflowExecutionRecord := do
  let initial := input.initial hash
  if !workflow.enabled then reject platform initial hash [js "WORKFLOW_DISABLED"]
  else if !workflow.accepts input.attestation then
    reject platform initial hash [js "WORKFLOW_PREDICATE_MISMATCH"]
  else if !(← WorkflowProgram.verify input.attestation) then
    reject platform initial hash [js "ATTESTATION_VERIFICATION_FAILED"]
  else
    let now ← WorkflowProgram.now
    let decision ← WorkflowProgram.authorize workflow input.attestation (platform.toISOString now)
    if decision.policyId ≠ workflow.policyId ∨ decision.policyVersion ≠ workflow.policyVersion then
      reject platform initial hash [js "POLICY_VERSION_MISMATCH"]
    else if decision.outcome ≠ .allow then
      reject platform initial hash
        (if decision.reasons = [] then [decision.outcome.text] else decision.reasons)
    else if workflow.actionType ∉ engine.handlers then
      reject platform initial hash [js "ACTION_HANDLER_NOT_CONFIGURED"]
    else dispatch platform input workflow hash decision.reasons

def execute (input : ExecuteWorkflowRequest) : WorkflowProgram WorkflowExecutionRecord := do
  Program.ofExcept (validateExecution platform input)
  match ← WorkflowProgram.getWorkflow input.workflowId input.workflowVersion with
  | none => Program.reject (.registryError .notFound (js "workflow version not found"))
  | some workflow =>
      let hash ← Program.ofExcept (requestFingerprint platform input.json)
      let claim ← WorkflowProgram.claim (input.initial hash)
      if claim.outcome = .conflict then
        Program.reject (.registryError .conflict
          (js "workflow execution ID was reused: " ++ input.id))
      else if claim.record.status ≠ .inProgress then return claim.record
      else authorized platform engine input workflow hash

end WorkflowEngine

/-- What a worker is started with. -/
inductive WorkflowCommand where
  | register (definition : WorkflowDefinition)
  | execute (input : ExecuteWorkflowRequest)
  deriving DecidableEq

inductive WorkflowReply where
  | registered (definition : WorkflowDefinition)
  | executed (record : WorkflowExecutionRecord)
  deriving DecidableEq

def WorkflowCommand.program (platform : Platform) (engine : WorkflowEngine) :
    WorkflowCommand → WorkflowProgram WorkflowReply
  | .register definition => do
      let registered ← WorkflowEngine.register platform definition
      return .registered registered
  | .execute input => do
      let record ← engine.execute platform input
      return .executed record

/-! ## The stores and the handlers -/

/-- The rows of `workflow_definitions`, each under its own identifier and version. -/
structure WorkflowDefinitions where
  get : JsString → JsString → Option WorkflowDefinition
  filed : ∀ id version definition, get id version = some definition →
    definition.id = id ∧ definition.version = version

/-- One more row. -/
def WorkflowDefinitions.insert (definitions : WorkflowDefinitions)
    (definition : WorkflowDefinition) : WorkflowDefinitions where
  get id version :=
    if definition.id = id ∧ definition.version = version then some definition
    else definitions.get id version
  filed id version found row := by
    by_cases same : definition.id = id ∧ definition.version = version
    · simp only [same, and_self, ↓reduceIte, Option.some.injEq] at row
      exact row ▸ same
    · simp only [same, ↓reduceIte] at row
      exact definitions.filed id version found row

/-- No workflow is registered. -/
def WorkflowDefinitions.empty : WorkflowDefinitions where
  get _ _ := none
  filed _ _ _ row := by cases row

/-- The workflow versions, the executions, and the actions that handlers have applied. -/
structure WorkflowWorld where
  definitions : WorkflowDefinitions
  executions : JsString → Option WorkflowExecutionRecord
  applied : List WorkflowAction

namespace WorkflowWorld

/-- `PostgresWorkflowRegistry.register`, once the definition is valid. -/
def register (world : WorkflowWorld) (definition : WorkflowDefinition) :
    Except Thrown WorkflowDefinition × WorkflowWorld :=
  match world.definitions.get definition.id definition.version with
  | some _ =>
      (.error (.registryError .alreadyExists (js "workflow version is immutable")), world)
  | none => (.ok definition, { world with definitions := world.definitions.insert definition })

def put (world : WorkflowWorld) (id : JsString) (record : WorkflowExecutionRecord) :
    WorkflowWorld :=
  { world with executions := Function.update world.executions id (some record) }

/-- `PostgresWorkflowExecutionStore.claim`. -/
def claim (world : WorkflowWorld) (record : WorkflowExecutionRecord) :
    WorkflowExecutionClaim × WorkflowWorld :=
  match world.executions record.id with
  | some found =>
      (⟨if found.requestHash = record.requestHash then .replay else .conflict, found⟩, world)
  | none => (⟨.claimed, record⟩, world.put record.id record)

/-- `PostgresWorkflowExecutionStore.finish`. Changes without an action result keep the
stored one. -/
def finish (world : WorkflowWorld) (id requestHash : JsString) (status : WorkflowExecutionStatus)
    (policyEvidence : List JsString) (actionResult : Option WorkflowActionResult)
    (updatedAt : JsString) : Except Thrown WorkflowExecutionRecord × WorkflowWorld :=
  match world.executions id with
  | none => (.error (.registryError .conflict (js "workflow claim mismatch")), world)
  | some found =>
      if found.requestHash ≠ requestHash then
        (.error (.registryError .conflict (js "workflow claim mismatch")), world)
      else if found.status ≠ .inProgress then (.ok found, world)
      else
        let record : WorkflowExecutionRecord :=
          { found with
            status, policyEvidence := some policyEvidence,
            actionResult := actionResult <|> found.actionResult, updatedAt }
        (.ok record, world.put id record)

/-- Whether a handler has applied the action of an execution. -/
def hasApplied (world : WorkflowWorld) (id : JsString) : Bool :=
  world.applied.any fun action => action.executionId = id

def apply (world : WorkflowWorld) (action : WorkflowAction) : WorkflowWorld :=
  { world with applied := action :: world.applied }

/-- No workflow, no execution and no effect. -/
def empty : WorkflowWorld := ⟨.empty, fun _ => none, []⟩

end WorkflowWorld

/-- What the environment decides at an answer. -/
inductive WorkflowChoice where
  | instant (value : Int)
  | stored
  | verified (valid : Bool)
  | decided (decision : WorkflowDecision)
  /-- Whether the handler applies the action now, and what it reports. -/
  | handled (applies : Bool) (result : WorkflowActionResult)

/-- The answers of the stores, of the clock, of the verifier, of the policy, and of handlers
that apply an action at most once for each execution. What handlers report is limited by
`answers`, given whether the action of the execution is applied by then. -/
def WorkflowWorld.reply (answers : Bool → WorkflowActionResult → Bool) :
    (call : WorkflowCall) → WorkflowChoice → WorkflowWorld →
      Option (workflowInterface.Answer call × WorkflowWorld)
  | .now, .instant value, world => some (.ok value, world)
  | .register definition, .stored, world =>
      let registered := world.register definition
      some (registered.1, registered.2)
  | .getWorkflow id version, .stored, world => some (.ok (world.definitions.get id version), world)
  | .claim record, .stored, world =>
      let claimed := world.claim record
      some (.ok claimed.1, claimed.2)
  | .verify _, .verified valid, world => some (.ok valid, world)
  | .authorize _ _ _, .decided decision, world => some (.ok decision, world)
  | .act action, .handled applies result, world =>
      let before := world.hasApplied action.executionId
      if !(before && applies) && answers (before || applies) result then
        some (.ok result, if applies then world.apply action else world)
      else none
  | .finish id requestHash status policyEvidence actionResult updatedAt, .stored, world =>
      let finished := world.finish id requestHash status policyEvidence actionResult updatedAt
      some (finished.1, finished.2)
  | _, _, _ => none

/-- Any call may fail as well, whether or not it has taken effect. -/
abbrev workflowServices (answers : Bool → WorkflowActionResult → Bool) :
    Async.Services workflowInterface :=
  Async.Services.fallible
    { State := WorkflowWorld, Choice := WorkflowChoice, reply := WorkflowWorld.reply answers }
    fun _ => true

end InterWeave
