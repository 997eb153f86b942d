import InterWeave.Atomic.Machine
import InterWeave.Core.Fingerprints
import InterWeave.Core.Stringify
import InterWeave.Core.Tenancy
import Mathlib.Algebra.Order.Ring.Unbundled.Rat
import Mathlib.Data.List.MinMax

/-! # The audit service

`audit-service.ts`: records of one transaction form a chain, in which each record carries the hash
of the one before it. The service hashes what it is given, and a table keeps what `JSON.stringify`
makes of that.
-/

namespace InterWeave

/-! ## Payloads -/

namespace JsonSource

/-- `/secret|password|private.?key|api.?key|authorization|bearer/i`. -/
def namesSecret (key : JsString) : Bool :=
  key.toLowerCase.tails.any fun tail =>
    [js "secret", js "password", js "authorization", js "bearer"].any (·.isPrefixOf tail) ||
      [js "private", js "api"].any fun start => start.isPrefixOf tail &&
        match tail.drop start.length with
        | [] => false
        | unit :: rest => (js "key").isPrefixOf (unit :: rest) ||
            ((js "key").isPrefixOf rest && !([0x0A, 0x0D, 0x2028, 0x2029].contains unit))

mutual

/-- `rejectSecrets(value, path)`. `forEach` skips the holes of an array. -/
def rejectSecrets (path : JsString) : JsonSource → Except Thrown Unit
  | .array items => rejectSecretItems path 0 items
  | .object properties => rejectSecretProperties path properties
  | .custom value _ => rejectSecrets path value
  | _ => .ok ()

def rejectSecretItems (path : JsString) (index : Nat) :
    List (Option JsonSource) → Except Thrown Unit
  | [] => .ok ()
  | none :: rest => rejectSecretItems path (index + 1) rest
  | some item :: rest => do
      rejectSecrets (path ++ js "[" ++ bigintText index ++ js "]") item
      rejectSecretItems path (index + 1) rest

def rejectSecretProperties (path : JsString) :
    List (JsString × JsonSource) → Except Thrown Unit
  | [] => .ok ()
  | (key, value) :: rest => do
      if namesSecret key then
        throw (.registryError .invalidArgument
          (js "secret material is prohibited in audit payload: " ++ path ++ js "." ++ key))
      rejectSecrets (path ++ js "." ++ key) value
      rejectSecretProperties path rest

end

end JsonSource

/-! ## Records -/

inductive AuditCategory where
  | request
  | policyDecision
  | sourceTransaction
  | sourceFinality
  | attestation
  | validatorSignatures
  | destinationTransaction
  | destinationFinality
  | reconciliation
  | administratorIntervention
  | stateTransition
  deriving DecidableEq, Repr

namespace AuditCategory

def text : AuditCategory → JsString
  | .request => js "REQUEST"
  | .policyDecision => js "POLICY_DECISION"
  | .sourceTransaction => js "SOURCE_TRANSACTION"
  | .sourceFinality => js "SOURCE_FINALITY"
  | .attestation => js "ATTESTATION"
  | .validatorSignatures => js "VALIDATOR_SIGNATURES"
  | .destinationTransaction => js "DESTINATION_TRANSACTION"
  | .destinationFinality => js "DESTINATION_FINALITY"
  | .reconciliation => js "RECONCILIATION"
  | .administratorIntervention => js "ADMINISTRATOR_INTERVENTION"
  | .stateTransition => js "STATE_TRANSITION"

def required : List AuditCategory :=
  [.request, .policyDecision, .sourceTransaction, .sourceFinality, .attestation,
    .validatorSignatures, .destinationTransaction, .destinationFinality, .reconciliation]

end AuditCategory

structure AppendAuditInput where
  id : JsString
  transactionId : JsString
  operationId : JsString
  category : AuditCategory
  actor : JsString
  action : JsString
  payload : JsonSource
  occurredAt : JsString

/-- `Omit<AuditRecord, "recordHash">`, with the payload as it reads. -/
structure AuditDraft extends Tenant where
  id : JsString
  transactionId : JsString
  operationId : JsString
  sequence : Rat
  category : AuditCategory
  actor : JsString
  action : JsString
  payload : JsValue
  payloadHash : JsString
  previousHash : JsString
  occurredAt : JsString

structure AuditRecord extends AuditDraft where
  recordHash : JsString

def digest (platform : Platform) (value : JsString) : JsString :=
  js "sha256:" ++ platform.sha256Hex value.encode

/-- The properties of a draft with a payload, for texts, numbers and payloads of any kind. -/
def AuditDraft.fields {Value : Type} (draft : AuditDraft) (string : JsString → Value)
    (number : JsNumber → Value) (payload : Value) : List (JsString × Value) :=
  [(js "id", string draft.id), (js "transactionId", string draft.transactionId),
    (js "operationId", string draft.operationId), (js "category", string draft.category.text),
    (js "actor", string draft.actor), (js "action", string draft.action),
    (js "payload", payload), (js "occurredAt", string draft.occurredAt),
    (js "organizationId", string draft.organizationId),
    (js "projectId", string draft.projectId),
    (js "environmentId", string draft.environmentId),
    (js "payloadHash", string draft.payloadHash),
    (js "sequence", number (.finite draft.sequence)),
    (js "previousHash", string draft.previousHash)]

/-- The draft as it is read back. -/
def AuditDraft.json (draft : AuditDraft) : JsValue :=
  .object (draft.fields .string .number draft.payload)

/-- The draft as it is hashed at first, with the payload that `record` was given. -/
def AuditDraft.source (draft : AuditDraft) (payload : JsonSource) : JsonSource :=
  .object (draft.fields .string .number payload)

/-- `digest(canonicalJson(payload))`. -/
def payloadDigest (platform : Platform) (payload : JsValue) : Except Thrown JsString := do
  let text ← canonicalJson platform payload
  return digest platform text

def recordDigest (platform : Platform) (draft : AuditDraft) : Except Thrown JsString := do
  let text ← canonicalJson platform draft.json
  return digest platform text

/-- `digest(canonicalJson(value))` of a value that the program holds. -/
def sourceDigest (platform : Platform) (source : JsonSource) : Except Thrown JsString := do
  let text ← source.canonical platform
  return digest platform text

/-! ## The table -/

/-- The rows of `audit_records`, by their records. The other columns repeat fields of them. -/
abbrev AuditRows := List AuditRecord

/-- The records of a tenant's transaction. -/
def AuditRecord.isOf (tenant : Tenant) (transactionId : JsString) (record : AuditRecord) : Bool :=
  record.toTenant = tenant && record.transactionId = transactionId

namespace AuditRows

/-- `SELECT … ORDER BY sequence DESC LIMIT 1`. -/
def last (rows : AuditRows) (tenant : Tenant) (transactionId : JsString) : Option AuditRecord :=
  (rows.filter (AuditRecord.isOf tenant transactionId)).argmax fun record => record.sequence

/-- `SELECT … ORDER BY sequence`. -/
def list (rows : AuditRows) (tenant : Tenant) (transactionId : JsString) : List AuditRecord :=
  (rows.filter (AuditRecord.isOf tenant transactionId)).insertionSort fun record other =>
    record.sequence ≤ other.sequence

/-- The unique keys of the table. -/
def taken (rows : AuditRows) (record : AuditRecord) : Bool :=
  rows.any fun row => row.id = record.id ||
    (row.isOf record.toTenant record.transactionId && row.sequence = record.sequence)

/-- `PostgresAuditStore.append`, under the lock of the tenant's transaction: the record that is
returned, and the rows with what was written of it. -/
def append (platform : Platform) (rows : AuditRows) (tenant : Tenant) (input : AppendAuditInput)
    (payloadHash : JsString) : Except Thrown (AuditRecord × AuditRows) := do
  let last := rows.last tenant input.transactionId
  let draft : AuditDraft :=
    { tenant with
      id := input.id, transactionId := input.transactionId, operationId := input.operationId
      sequence := (last.elim (-1) fun record => record.sequence) + 1
      category := input.category, actor := input.actor, action := input.action
      payload := input.payload.seen, payloadHash
      previousHash := last.elim (js "GENESIS") AuditRecord.recordHash
      occurredAt := input.occurredAt }
  let recordHash ← sourceDigest platform (draft.source input.payload)
  let written ← input.payload.json
  let record : AuditRecord := { draft with recordHash }
  if rows.taken record then
    throw (.registryError .conflict (js "audit sequence or ID already exists"))
  return (record, rows ++ [{ record with payload := written.getD .undefined }])

end AuditRows

/-! ## The service -/

def validateInput (platform : Platform) (input : AppendAuditInput) : Except Thrown Unit :=
  if !input.id.startsWith (js "IW:AUDIT:") ||
      !input.transactionId.startsWith (js "IW:TRANSACTION:") || input.operationId.isBlank ||
      input.actor.isBlank || input.action.isBlank || (platform.dateParse input.occurredAt).isNone then
    .error (.registryError .invalidArgument
      (js "audit identity, actor, action, and timestamp are required"))
  else .ok ()

/-- `AuditService.record`. -/
def recordAudit (platform : Platform) (rows : AuditRows) (context : TenantContext)
    (input : AppendAuditInput) : Except Thrown (AuditRecord × AuditRows) := do
  validateInput platform input
  input.payload.rejectSecrets (js "payload")
  let payloadHash ← sourceDigest platform input.payload
  rows.append platform context.toTenant input payloadHash

structure OperationReconstruction where
  transactionId : JsString
  operationId : JsString
  records : List AuditRecord
  actors : List JsString
  categories : List AuditCategory
  complete : Bool
  missing : List AuditCategory
  chainVerified : Bool
  startedAt : JsString
  lastActivityAt : JsString

/-- What the loop of `reconstruct` checks of the record at a place of the chain. -/
def checkLink (platform : Platform) (index : Nat) (previous : JsString) (record : AuditRecord) :
    Except Thrown Unit := do
  let failed : Thrown := .registryError .conflict
    (js "audit chain verification failed at sequence " ++ platform.numberText record.sequence)
  if record.sequence ≠ index ∨ record.previousHash ≠ previous then throw failed
  let payloadHash ← payloadDigest platform record.payload
  if record.payloadHash ≠ payloadHash then throw failed
  let recordHash ← recordDigest platform record.toAuditDraft
  if record.recordHash ≠ recordHash then throw failed

/-- The loop of `reconstruct`. -/
def checkChain (platform : Platform) (index : Nat) (previous : JsString) :
    List AuditRecord → Except Thrown Unit
  | [] => .ok ()
  | record :: rest => do
      checkLink platform index previous record
      checkChain platform (index + 1) record.recordHash rest

/-- `AuditService.reconstruct`, given what the store lists. -/
def reconstruct (platform : Platform) (transactionId : JsString) (listed : List AuditRecord) :
    Except Thrown OperationReconstruction :=
  match listed.insertionSort fun record other => record.sequence ≤ other.sequence with
  | [] => .error (.registryError .notFound (js "audit history not found: " ++ transactionId))
  | first :: rest => do
      checkChain platform 0 (js "GENESIS") (first :: rest)
      let categories := ((first :: rest).map fun record => record.category).eraseDups
      let missing := AuditCategory.required.filter fun category => !categories.contains category
      return {
        transactionId, operationId := first.operationId, records := first :: rest
        actors := (((first :: rest).map fun record => record.actor).eraseDups).insertionSort (· ≤ ·)
        categories, complete := missing.isEmpty, missing, chainVerified := true
        startedAt := first.occurredAt
        lastActivityAt := ((first :: rest).getLast (List.cons_ne_nil first rest)).occurredAt }

/-! ## Runs -/

/-- A call of `record`. The database may refuse to write. -/
structure AuditCall where
  context : TenantContext
  input : AppendAuditInput
  refused : Option Thrown

/-- The service over the table. -/
def auditService (platform : Platform) :
    Atomic.Machine AuditRows AuditCall (Except Thrown AuditRecord) where
  execute call rows :=
    match call.refused with
    | some error => (.error error, rows)
    | none => Atomic.commit (fun rows => recordAudit platform rows call.context call.input) rows

/-- The calls of a run that have succeeded, with the records they return. -/
def recordings (platform : Platform) : List AuditCall → AuditRows → List (AuditCall × AuditRecord)
  | [], _ => []
  | call :: rest, rows =>
      ((((auditService platform).execute call rows).1.toOption).map fun record =>
          (call, record)).toList ++
        recordings platform rest ((auditService platform).next call rows)

/-- What the calls of a run have recorded. -/
def recordedBy (platform : Platform) (run : List AuditCall) (rows : AuditRows) :
    List AuditRecord :=
  (recordings platform run rows).map Prod.snd

end InterWeave
