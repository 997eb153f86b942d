import InterWeave.Core.Platform
import Mathlib.Data.Fintype.Basic
import Mathlib.Logic.Function.Basic

/-! # The durable transaction engine

`transaction-engine.ts`: the graph of bridge states and the PostgreSQL store of
operations. A row of `bridge_operations` and its rows of `bridge_transitions` are one
record here: the transitions are kept with the operation, in the order of their
sequence numbers.
-/

namespace InterWeave

inductive BridgeState where
  | created
  | policyChecked
  | sourcePreparing
  | sourceSubmitted
  | sourceConfirmed
  | sourceFinalized
  | attestationPending
  | attested
  | destinationPreparing
  | destinationSubmitted
  | destinationConfirmed
  | destinationFinalized
  | reconciliationPending
  | reconciled
  | completed
  | policyRejected
  | sourceFailed
  | attestationFailed
  | destinationFailed
  | expired
  | reconciliationFailed
  | manualReview
  deriving DecidableEq, Repr

namespace BridgeState

instance : Fintype BridgeState :=
  .ofList [.created, .policyChecked, .sourcePreparing, .sourceSubmitted, .sourceConfirmed,
    .sourceFinalized, .attestationPending, .attested, .destinationPreparing,
    .destinationSubmitted, .destinationConfirmed, .destinationFinalized,
    .reconciliationPending, .reconciled, .completed, .policyRejected, .sourceFailed,
    .attestationFailed, .destinationFailed, .expired, .reconciliationFailed, .manualReview]
    fun state => by cases state <;> decide

def text : BridgeState → JsString
  | .created => js "CREATED"
  | .policyChecked => js "POLICY_CHECKED"
  | .sourcePreparing => js "SOURCE_PREPARING"
  | .sourceSubmitted => js "SOURCE_SUBMITTED"
  | .sourceConfirmed => js "SOURCE_CONFIRMED"
  | .sourceFinalized => js "SOURCE_FINALIZED"
  | .attestationPending => js "ATTESTATION_PENDING"
  | .attested => js "ATTESTED"
  | .destinationPreparing => js "DESTINATION_PREPARING"
  | .destinationSubmitted => js "DESTINATION_SUBMITTED"
  | .destinationConfirmed => js "DESTINATION_CONFIRMED"
  | .destinationFinalized => js "DESTINATION_FINALIZED"
  | .reconciliationPending => js "RECONCILIATION_PENDING"
  | .reconciled => js "RECONCILED"
  | .completed => js "COMPLETED"
  | .policyRejected => js "POLICY_REJECTED"
  | .sourceFailed => js "SOURCE_FAILED"
  | .attestationFailed => js "ATTESTATION_FAILED"
  | .destinationFailed => js "DESTINATION_FAILED"
  | .expired => js "EXPIRED"
  | .reconciliationFailed => js "RECONCILIATION_FAILED"
  | .manualReview => js "MANUAL_REVIEW"

/-- The table `forward`. -/
def forward : BridgeState → List BridgeState
  | .created => [.policyChecked, .policyRejected]
  | .policyChecked => [.sourcePreparing]
  | .sourcePreparing => [.sourceSubmitted, .sourceFailed]
  | .sourceSubmitted => [.sourceConfirmed, .sourceFailed]
  | .sourceConfirmed => [.sourceFinalized, .sourceFailed]
  | .sourceFinalized => [.attestationPending]
  | .attestationPending => [.attested, .attestationFailed]
  | .attested => [.destinationPreparing]
  | .destinationPreparing => [.destinationSubmitted, .destinationFailed]
  | .destinationSubmitted => [.destinationConfirmed, .destinationFailed]
  | .destinationConfirmed => [.destinationFinalized, .destinationFailed]
  | .destinationFinalized => [.reconciliationPending]
  | .reconciliationPending => [.reconciled, .reconciliationFailed]
  | .reconciled => [.completed]
  | _ => []

/-- `terminal.has(state)`, and the coordinators' `isTerminal(state)`. -/
def terminal : BridgeState → Bool
  | .completed | .policyRejected | .sourceFailed | .attestationFailed | .destinationFailed
  | .expired | .reconciliationFailed | .manualReview => true
  | _ => false

def canTransition (source target : BridgeState) : Bool :=
  if source.terminal then false
  else if target = .manualReview || target = .expired then true
  else source.forward.contains target

end BridgeState

inductive DecisionOutcome where
  | allow
  | deny
  | requiresApproval
  deriving DecidableEq, Repr

structure PolicyDecision where
  outcome : DecisionOutcome
  reasonCodes : List JsString
  policyId : JsString
  policyVersion : JsString
  decidedAt : JsString
  matchedRuleIds : Option (List JsString)
  deriving DecidableEq, Repr

structure PersistedTransition where
  transitionKey : JsString
  sequence : Nat
  attempt : Nat
  source : Option BridgeState
  target : BridgeState
  occurredAt : JsString
  reason : JsString
  actor : JsString
  deriving DecidableEq, Repr

structure DurableBridgeOperation where
  id : JsString
  idempotencyKey : JsString
  assetId : JsString
  sourceNetworkId : JsString
  destinationNetworkId : JsString
  sender : JsString
  receiver : JsString
  amount : JsString
  state : BridgeState
  policyDecision : Option PolicyDecision
  transitions : List PersistedTransition
  expiresAt : JsString
  createdAt : JsString
  version : Nat
  deriving DecidableEq, Repr

structure CreateBridgeOperation where
  id : JsString
  idempotencyKey : JsString
  assetId : JsString
  sourceNetworkId : JsString
  destinationNetworkId : JsString
  sender : JsString
  receiver : JsString
  amount : JsString
  expiresAt : JsString
  createdAt : JsString
  actor : JsString
  deriving DecidableEq, Repr

structure TransitionCommand where
  operationId : JsString
  transitionKey : JsString
  expectedVersion : Nat
  target : BridgeState
  occurredAt : JsString
  reason : JsString
  actor : JsString
  attempt : Nat
  policyDecision : Option PolicyDecision
  deriving DecidableEq, Repr

/-- The rows of `bridge_operations` with their transitions, by identifier. -/
abbrev OperationTable := JsString → Option DurableBridgeOperation

namespace PostgresTransactionStore

def create (table : OperationTable) (input : CreateBridgeOperation)
    (initial : PersistedTransition) : Except Thrown DurableBridgeOperation × OperationTable :=
  match table input.id with
  | some _ =>
      (.error (.registryError .alreadyExists (js "operation already exists: " ++ input.id)), table)
  | none =>
      let operation : DurableBridgeOperation :=
        { id := input.id, idempotencyKey := input.idempotencyKey, assetId := input.assetId
          sourceNetworkId := input.sourceNetworkId
          destinationNetworkId := input.destinationNetworkId, sender := input.sender
          receiver := input.receiver, amount := input.amount, state := .created
          policyDecision := none, transitions := [initial], expiresAt := input.expiresAt
          createdAt := input.createdAt, version := 0 }
      (.ok operation, Function.update table input.id (some operation))

def findTransition (table : OperationTable) (operationId transitionKey : JsString) :
    Option PersistedTransition :=
  (table operationId).bind fun operation =>
    operation.transitions.find? fun transition => transition.transitionKey = transitionKey

/-- The operation after a transition. -/
def appended (operation : DurableBridgeOperation) (command : TransitionCommand) :
    DurableBridgeOperation :=
  { operation with
    state := command.target
    version := operation.version + 1
    policyDecision := command.policyDecision.or operation.policyDecision
    transitions := operation.transitions ++
      [{ transitionKey := command.transitionKey, sequence := operation.version + 1
         attempt := command.attempt, source := some operation.state, target := command.target
         occurredAt := command.occurredAt, reason := command.reason, actor := command.actor }] }

def append (table : OperationTable) (command : TransitionCommand) :
    Except Thrown DurableBridgeOperation × OperationTable :=
  match findTransition table command.operationId command.transitionKey, table command.operationId
    with
  | some duplicate, found =>
      if duplicate.target ≠ command.target then
        (.error (.registryError .conflict
          (js "transition key was reused with different content")), table)
      else
        match found with
        | none => (.error (.registryError .notFound (js "operation disappeared")), table)
        | some existing => (.ok existing, table)
  | none, none =>
      (.error (.registryError .notFound (js "operation not found: " ++ command.operationId)), table)
  | none, some operation =>
      if operation.version ≠ command.expectedVersion then
        (.error (.registryError .conflict (js "stale operation version: expected " ++
          bigintText command.expectedVersion ++ js ", found " ++ bigintText operation.version)),
          table)
      else if !operation.state.canTransition command.target then
        (.error (.registryError .conflict (js "illegal bridge transition: " ++
          operation.state.text ++ js " -> " ++ command.target.text)), table)
      else
        (.ok (appended operation command),
          Function.update table command.operationId (some (appended operation command)))

end PostgresTransactionStore

namespace DurableTransactionEngine

def create (platform : Platform) (input : CreateBridgeOperation) (table : OperationTable) :
    Except Thrown DurableBridgeOperation × OperationTable :=
  let checks : Except Thrown Unit := do
    assertPositiveAmount input.amount
    if input.sourceNetworkId = input.destinationNetworkId then
      throw (.registryError .invalidArgument (js "bridge networks must differ"))
    if input.idempotencyKey.isBlank || input.actor.isBlank then
      throw (.registryError .invalidArgument (js "idempotency key and actor are required"))
    if (platform.dateParse input.createdAt).isNone ||
        numberLe (platform.dateParse input.expiresAt) (platform.dateParse input.createdAt) then
      throw (.registryError .invalidArgument (js "operation expiry must be after creation"))
  match checks with
  | .error error => (.error error, table)
  | .ok _ =>
      PostgresTransactionStore.create table input
        { transitionKey := input.id ++ js ":created", sequence := 0, attempt := 1, source := none
          target := .created, occurredAt := input.createdAt, reason := js "operation created"
          actor := input.actor }

end DurableTransactionEngine
end InterWeave
