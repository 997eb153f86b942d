import InterWeave.Async.Pool
import InterWeave.Bridge.TransactionEngine
import InterWeave.Core.Numbers

/-! # The rows of the transaction engine

`001_transaction_engine.sql` and `PostgresTransactionStore`, row by row: a snapshot of
each operation in `bridge_operations`, and a log of its transitions in
`bridge_transitions`. A store call is one transaction: it commits as a whole, or it
fails and leaves every row as it was. Workers of any number run commands of the engine
against the same tables; versions and attempts are whatever numbers the commands name.
-/

namespace InterWeave

open Async (Program)

structure TransitionRow where
  operationId : JsString
  transitionKey : JsString
  sequence : Nat
  attempt : Nat
  fromState : Option BridgeState
  toState : BridgeState
  occurredAt : JsString
  reason : JsString
  actor : JsString
  deriving DecidableEq, Repr

/-- A row of `bridge_operations`; the transitions of its snapshot are `[]`. -/
structure OperationRow where
  id : JsString
  idempotencyKey : JsString
  state : BridgeState
  version : Nat
  operation : DurableBridgeOperation
  deriving DecidableEq, Repr

/-- The row of an operation after an update of the snapshot of an identifier. -/
def OperationRow.updated (id : JsString) (snapshot : DurableBridgeOperation)
    (row : OperationRow) : OperationRow :=
  if row.id = id then
    { row with state := snapshot.state, version := snapshot.version, operation := snapshot }
  else row

@[simp] theorem OperationRow.updated_id (id : JsString) (snapshot : DurableBridgeOperation)
    (row : OperationRow) : (row.updated id snapshot).id = row.id := by
  rw [updated]
  split <;> rfl

theorem map_updated_id (id : JsString) (snapshot : DurableBridgeOperation)
    (rows : List OperationRow) :
    (rows.map (OperationRow.updated id snapshot)).map OperationRow.id =
      rows.map OperationRow.id := by
  rw [List.map_map]
  exact List.map_congr_left fun row _ => row.updated_id id snapshot

/-- The two tables with their constraints. -/
structure BridgeTables where
  operations : List OperationRow
  transitions : List TransitionRow
  operationsKey : (operations.map OperationRow.id).Nodup
  transitionsKey :
    (transitions.map fun row => (row.operationId, row.transitionKey)).Nodup
  sequences : (transitions.map fun row => (row.operationId, row.sequence)).Nodup
  references : ∀ row ∈ transitions, row.operationId ∈ operations.map OperationRow.id
  attempts : ∀ row ∈ transitions, 0 < row.attempt

def TransitionRow.persisted (row : TransitionRow) : PersistedTransition where
  transitionKey := row.transitionKey
  sequence := row.sequence
  attempt := row.attempt
  source := row.fromState
  target := row.toState
  occurredAt := row.occurredAt
  reason := row.reason
  actor := row.actor

/-- A transition command, with any numbers for its version and its attempt. -/
structure TransitionInput where
  operationId : JsString
  transitionKey : JsString
  expectedVersion : JsNumber
  target : BridgeState
  occurredAt : JsString
  reason : JsString
  actor : JsString
  attempt : JsNumber
  policyDecision : Option PolicyDecision
  deriving DecidableEq

namespace BridgeTables

def empty : BridgeTables where
  operations := []
  transitions := []
  operationsKey := List.Pairwise.nil
  transitionsKey := List.Pairwise.nil
  sequences := List.nodup_nil
  references := fun _ member => (List.not_mem_nil member).elim
  attempts := fun _ member => (List.not_mem_nil member).elim

/-! ## Statements -/

/-- `INSERT INTO bridge_operations … ON CONFLICT (id) DO NOTHING`, where it inserts. -/
def insertOperation (tables : BridgeTables) (row : OperationRow) : Option BridgeTables :=
  if fresh : row.id ∉ tables.operations.map OperationRow.id then
    some { tables with
      operations := tables.operations ++ [row]
      operationsKey := by
        rw [List.map_append, List.map_singleton, ← List.concat_eq_append]
        exact tables.operationsKey.concat fresh
      references := fun transition member => by
        rw [List.map_append]
        exact List.mem_append_left _ (tables.references transition member) }
  else none

/-- `INSERT INTO bridge_transitions`. -/
def insertTransition (platform : Platform) (tables : BridgeTables) (row : TransitionRow) :
    Except Thrown BridgeTables :=
  if (platform.timestamptz row.occurredAt).isNone then
    .error (.error (js "invalid input syntax for type timestamp with time zone"))
  else if 2 ^ 31 ≤ row.sequence ∨ 2 ^ 31 ≤ row.attempt then
    .error (.error (js "value out of range for type integer"))
  else if positive : 0 < row.attempt then
    if key : (row.operationId, row.transitionKey) ∉
        tables.transitions.map fun row => (row.operationId, row.transitionKey) then
      if sequence : (row.operationId, row.sequence) ∉
          tables.transitions.map fun row => (row.operationId, row.sequence) then
        if reference : row.operationId ∈ tables.operations.map OperationRow.id then
          .ok { tables with
            transitions := tables.transitions ++ [row]
            transitionsKey := by
              rw [List.map_append, List.map_singleton, ← List.concat_eq_append]
              exact tables.transitionsKey.concat key
            sequences := by
              rw [List.map_append, List.map_singleton, ← List.concat_eq_append]
              exact tables.sequences.concat sequence
            references := fun other member =>
              (List.mem_append.mp member).elim (tables.references other) fun last =>
                List.mem_singleton.mp last ▸ reference
            attempts := fun other member =>
              (List.mem_append.mp member).elim (tables.attempts other) fun last =>
                List.mem_singleton.mp last ▸ positive }
        else .error (.error (js "insert violates foreign key constraint"))
      else .error (.error (js "duplicate key value violates unique constraint"))
    else .error (.error (js "duplicate key value violates unique constraint"))
  else .error (.error (js "new row violates check constraint"))

/-- `UPDATE bridge_operations SET state, version, operation WHERE id`. -/
def updateOperation (tables : BridgeTables) (id : JsString) (updated : DurableBridgeOperation) :
    BridgeTables where
  operations := tables.operations.map (OperationRow.updated id updated)
  transitions := tables.transitions
  operationsKey := by
    rw [map_updated_id]
    exact tables.operationsKey
  transitionsKey := tables.transitionsKey
  sequences := tables.sequences
  references := by
    rw [map_updated_id]
    exact tables.references
  attempts := tables.attempts

/-- `SELECT * FROM bridge_transitions WHERE operation_id ORDER BY sequence`. -/
def transitionsOf (tables : BridgeTables) (id : JsString) : List TransitionRow :=
  (tables.transitions.filter fun row => row.operationId = id).insertionSort
    fun left right => left.sequence ≤ right.sequence

/-! ## `PostgresTransactionStore` -/

/-- `#load`. -/
def load (tables : BridgeTables) (id : JsString) : Option DurableBridgeOperation :=
  (tables.operations.find? fun row => row.id = id).map fun row =>
    { row.operation with transitions := (tables.transitionsOf id).map TransitionRow.persisted }

def findTransition (tables : BridgeTables) (operationId transitionKey : JsString) :
    Option TransitionRow :=
  tables.transitions.find? fun row =>
    row.operationId = operationId ∧ row.transitionKey = transitionKey

/-- A number for a column of type `integer` that counts. -/
def integerColumn : JsNumber → Except Thrown Nat
  | .finite value =>
      if value.den = 1 ∧ 0 ≤ value.num then .ok value.num.toNat
      else .error (.error (js "invalid input syntax for type integer"))
  | _ => .error (.error (js "invalid input syntax for type integer"))

/-- The snapshot of a new operation. -/
def newOperation (input : CreateBridgeOperation) : DurableBridgeOperation where
  id := input.id
  idempotencyKey := input.idempotencyKey
  assetId := input.assetId
  sourceNetworkId := input.sourceNetworkId
  destinationNetworkId := input.destinationNetworkId
  sender := input.sender
  receiver := input.receiver
  amount := input.amount
  state := .created
  policyDecision := none
  transitions := []
  expiresAt := input.expiresAt
  createdAt := input.createdAt
  version := 0

def newRow (input : CreateBridgeOperation) : OperationRow where
  id := input.id
  idempotencyKey := input.idempotencyKey
  state := .created
  version := 0
  operation := newOperation input

/-- The first row of a log. -/
def firstTransition (input : CreateBridgeOperation) (initial : PersistedTransition) :
    TransitionRow where
  operationId := input.id
  transitionKey := initial.transitionKey
  sequence := 0
  attempt := initial.attempt
  fromState := none
  toState := initial.target
  occurredAt := initial.occurredAt
  reason := initial.reason
  actor := initial.actor

def create (platform : Platform) (tables : BridgeTables) (input : CreateBridgeOperation)
    (initial : PersistedTransition) : Except Thrown (DurableBridgeOperation × BridgeTables) :=
  match tables.insertOperation (newRow input) with
  | none => .error (.registryError .alreadyExists (js "operation already exists: " ++ input.id))
  | some inserted => do
      let logged ← inserted.insertTransition platform (firstTransition input initial)
      return ({ newOperation input with transitions := [initial] }, logged)

/-- The row that a command writes after a loaded operation. -/
def nextTransition (operation : DurableBridgeOperation) (command : TransitionInput)
    (attempt : Nat) : TransitionRow where
  operationId := command.operationId
  transitionKey := command.transitionKey
  sequence := operation.version + 1
  attempt := attempt
  fromState := some operation.state
  toState := command.target
  occurredAt := command.occurredAt
  reason := command.reason
  actor := command.actor

/-- The snapshot that a command writes over a loaded operation. -/
def nextSnapshot (operation : DurableBridgeOperation) (command : TransitionInput) :
    DurableBridgeOperation :=
  { operation with
    state := command.target
    version := operation.version + 1
    transitions := []
    policyDecision := command.policyDecision.or operation.policyDecision }

def append (platform : Platform) (tables : BridgeTables) (command : TransitionInput) :
    Except Thrown (DurableBridgeOperation × BridgeTables) :=
  match tables.findTransition command.operationId command.transitionKey with
  | some duplicate =>
      if duplicate.toState ≠ command.target then
        .error (.registryError .conflict (js "transition key was reused with different content"))
      else
        match tables.load command.operationId with
        | none => .error (.registryError .notFound (js "operation disappeared"))
        | some existing => .ok (existing, tables)
  | none =>
      match tables.load command.operationId with
      | none => .error (.registryError .notFound
          (js "operation not found: " ++ command.operationId))
      | some operation =>
          if JsNumber.ofNat operation.version ≠ command.expectedVersion then
            .error (.registryError .conflict (js "stale operation version: expected " ++
              command.expectedVersion.text platform ++ js ", found " ++
              bigintText operation.version))
          else if !operation.state.canTransition command.target then
            .error (.registryError .conflict (js "illegal bridge transition: " ++
              operation.state.text ++ js " -> " ++ command.target.text))
          else do
            let attempt ← integerColumn command.attempt
            let row := nextTransition operation command attempt
            let logged ← tables.insertTransition platform row
            let updated := nextSnapshot operation command
            return ({ updated with transitions := operation.transitions ++ [row.persisted] },
              logged.updateOperation command.operationId updated)

end BridgeTables

/-! ## The engine -/

/-- What a command awaits: one transaction of the store. -/
inductive TransactionCall where
  | create (input : CreateBridgeOperation) (initial : PersistedTransition)
  | get (id : JsString)
  | findTransition (operationId transitionKey : JsString)
  | append (command : TransitionInput)
  deriving DecidableEq

abbrev TransactionCall.Value : TransactionCall → Type
  | .create _ _ => DurableBridgeOperation
  | .get _ => Option DurableBridgeOperation
  | .findTransition _ _ => Option PersistedTransition
  | .append _ => DurableBridgeOperation

abbrev transactionInterface : Async.Interface where
  Call := TransactionCall
  Value := TransactionCall.Value
  Error := Thrown

abbrev TransactionProgram := Program transactionInterface

namespace TransactionProgram

def create (input : CreateBridgeOperation) (initial : PersistedTransition) :
    TransactionProgram DurableBridgeOperation :=
  Program.call (I := transactionInterface) (.create input initial)

def get (id : JsString) : TransactionProgram (Option DurableBridgeOperation) :=
  Program.call (I := transactionInterface) (.get id)

def findTransition (operationId transitionKey : JsString) :
    TransactionProgram (Option PersistedTransition) :=
  Program.call (I := transactionInterface) (.findTransition operationId transitionKey)

def append (command : TransitionInput) : TransactionProgram DurableBridgeOperation :=
  Program.call (I := transactionInterface) (.append command)

end TransactionProgram

inductive EngineCommand where
  | create (input : CreateBridgeOperation)
  | transition (command : TransitionInput)
  deriving DecidableEq

namespace TransactionEngine

/-- What `create` checks of its input. -/
def checkCreate (platform : Platform) (input : CreateBridgeOperation) : Except Thrown Unit := do
  assertPositiveAmount input.amount
  if input.sourceNetworkId = input.destinationNetworkId then
    throw (.registryError .invalidArgument (js "bridge networks must differ"))
  if input.idempotencyKey.isBlank || input.actor.isBlank then
    throw (.registryError .invalidArgument (js "idempotency key and actor are required"))
  if (platform.dateParse input.createdAt).isNone ||
      numberLe (platform.dateParse input.expiresAt) (platform.dateParse input.createdAt) then
    throw (.registryError .invalidArgument (js "operation expiry must be after creation"))

/-- The first transition of an operation. -/
def initialTransition (input : CreateBridgeOperation) : PersistedTransition where
  transitionKey := input.id ++ js ":created"
  sequence := 0
  attempt := 1
  source := none
  target := .created
  occurredAt := input.createdAt
  reason := js "operation created"
  actor := input.actor

def create (platform : Platform) (input : CreateBridgeOperation) :
    TransactionProgram DurableBridgeOperation := do
  Program.ofExcept (checkCreate platform input)
  TransactionProgram.create input (initialTransition input)

/-- What `transition` checks before it reads the operation. -/
def checkTransition (command : TransitionInput) : Except Thrown Unit := do
  if command.transitionKey.isBlank || command.actor.isBlank || command.reason.isBlank then
    throw (.registryError .invalidArgument
      (js "transition key, actor, and reason are required"))
  if !command.attempt.isSafeInteger || command.attempt.lt (.ofNat 1) then
    throw (.registryError .invalidArgument (js "transition attempt must be positive"))

/-- The decision that a step out of the policy check needs. -/
def checkDecision (command : TransitionInput) : Except Thrown Unit := do
  if command.target = .policyChecked ∧
      command.policyDecision.all fun decision => decision.outcome ≠ .allow then
    throw (.registryError .invalidArgument (js "POLICY_CHECKED requires an ALLOW decision"))
  if command.target = .policyRejected ∧
      command.policyDecision.all fun decision => decision.outcome = .allow then
    throw (.registryError .invalidArgument (js "POLICY_REJECTED requires a non-ALLOW decision"))

def transition (command : TransitionInput) : TransactionProgram DurableBridgeOperation := do
  Program.ofExcept (checkTransition command)
  match ← TransactionProgram.get command.operationId with
  | none => Program.reject (.registryError .notFound
      (js "operation not found: " ++ command.operationId))
  | some operation =>
      if !operation.state.canTransition command.target then
        let existing ← TransactionProgram.findTransition command.operationId command.transitionKey
        if existing.any fun transition => transition.target = command.target then
          return operation
        else Program.reject (.registryError .conflict (js "illegal bridge transition: " ++
          operation.state.text ++ js " -> " ++ command.target.text))
      else
        Program.ofExcept (checkDecision command)
        TransactionProgram.append command

/-- The program of a command. -/
def run (platform : Platform) : EngineCommand → TransactionProgram DurableBridgeOperation
  | .create input => create platform input
  | .transition command => transition command

end TransactionEngine

/-! ## The database -/

/-- What the environment decides at an answer: a transaction commits, or it fails. -/
inductive TransactionChoice where
  | committed
  | failed (error : Thrown)

/-- What a transaction answers, with the tables it leaves. -/
def BridgeTables.settle (tables : BridgeTables) :
    Except Thrown (DurableBridgeOperation × BridgeTables) →
      Except Thrown DurableBridgeOperation × BridgeTables
  | .ok (operation, next) => (.ok operation, next)
  | .error error => (.error error, tables)

def BridgeTables.reply (platform : Platform) :
    (call : TransactionCall) → TransactionChoice → BridgeTables →
      Option (transactionInterface.Answer call × BridgeTables)
  | .create input initial, .committed, tables =>
      some (tables.settle (tables.create platform input initial))
  | .get id, .committed, tables => some (.ok (tables.load id), tables)
  | .findTransition operationId transitionKey, .committed, tables =>
      some (.ok ((tables.findTransition operationId transitionKey).map TransitionRow.persisted),
        tables)
  | .append command, .committed, tables =>
      some (tables.settle (tables.append platform command))
  | _, .failed error, tables => some (.error error, tables)

/-- The database of the engine. -/
abbrev transactionServices (platform : Platform) : Async.Services transactionInterface where
  State := BridgeTables
  Choice := TransactionChoice
  reply := BridgeTables.reply platform

end InterWeave
