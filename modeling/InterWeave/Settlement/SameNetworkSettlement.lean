import InterWeave.Async.Pool
import InterWeave.Core.Idempotency

/-! # Same-network atomic settlement

`same-network-settlement.ts`. A run of `execute` claims the settlement, asks the
native executor of its network to commit both legs, and finishes the record. The
executor itself is outside: the world keeps the legs it has committed, and an
answer is possible if an executor that commits each settlement at most once may
give it.
-/

namespace InterWeave

open Async (Program)

structure SameNetworkSettlementLeg where
  id : JsString
  assetId : JsString
  sender : JsString
  receiver : JsString
  amount : JsString
  deriving DecidableEq, Repr

structure SameNetworkSettlementRequest where
  id : JsString
  idempotencyKey : JsString
  networkId : JsString
  networkType : JsString
  legs : SameNetworkSettlementLeg × SameNetworkSettlementLeg
  expiresAt : JsString
  createdAt : JsString
  deriving DecidableEq, Repr

structure NativeAtomicSettlementEvidence where
  externalTransactionId : JsString
  observedPosition : JsString
  evidence : List JsString
  finalizedAt : JsString
  deriving DecidableEq, Repr

inductive NativeAtomicSettlementResult where
  | committed (evidence : NativeAtomicSettlementEvidence)
  | alreadyCommitted (evidence : NativeAtomicSettlementEvidence)
  | rejected (reasonCode : JsString) (evidence : List JsString)
  | uncertain (reasonCode : JsString) (evidence : List JsString)
  deriving DecidableEq, Repr

/-- What identifies a configured executor. -/
structure NativeAtomicSettlementExecutor where
  networkId : JsString
  networkType : JsString
  deriving DecidableEq, Repr

inductive SameNetworkSettlementStatus where
  | inProgress
  | completed
  | failed
  | manualReview
  deriving DecidableEq, Repr

structure SameNetworkSettlementRecord where
  request : SameNetworkSettlementRequest
  requestHash : JsString
  status : SameNetworkSettlementStatus
  result : Option NativeAtomicSettlementResult
  recordedAt : JsString
  deriving DecidableEq, Repr

inductive ClaimOutcome where
  | claimed
  | replay
  | conflict
  deriving DecidableEq, Repr

structure SettlementClaim where
  outcome : ClaimOutcome
  record : SameNetworkSettlementRecord
  deriving DecidableEq, Repr

/-- What a run of `execute` awaits. -/
inductive AtomicCall where
  | now
  | claim (request : SameNetworkSettlementRequest) (requestHash recordedAt : JsString)
  | executeAtomically (executor : NativeAtomicSettlementExecutor)
      (request : SameNetworkSettlementRequest)
  | finish (id requestHash : JsString) (status : SameNetworkSettlementStatus)
      (result : NativeAtomicSettlementResult) (recordedAt : JsString)
  deriving DecidableEq, Repr

abbrev AtomicCall.Value : AtomicCall → Type
  | .now => Int
  | .claim _ _ _ => SettlementClaim
  | .executeAtomically _ _ => NativeAtomicSettlementResult
  | .finish _ _ _ _ _ => SameNetworkSettlementRecord

abbrev atomicInterface : Async.Interface where
  Call := AtomicCall
  Value := AtomicCall.Value
  Error := Thrown

abbrev AtomicProgram := Program atomicInterface

namespace AtomicProgram

def now : AtomicProgram Int := Program.call (I := atomicInterface) .now

def claim (request : SameNetworkSettlementRequest) (requestHash recordedAt : JsString) :
    AtomicProgram SettlementClaim :=
  Program.call (I := atomicInterface) (.claim request requestHash recordedAt)

def executeAtomically (executor : NativeAtomicSettlementExecutor)
    (request : SameNetworkSettlementRequest) : AtomicProgram NativeAtomicSettlementResult :=
  Program.call (I := atomicInterface) (.executeAtomically executor request)

def finish (id requestHash : JsString) (status : SameNetworkSettlementStatus)
    (result : NativeAtomicSettlementResult) (recordedAt : JsString) :
    AtomicProgram SameNetworkSettlementRecord :=
  Program.call (I := atomicInterface) (.finish id requestHash status result recordedAt)

end AtomicProgram

/-! ## Checks -/

def SameNetworkSettlementLeg.json (leg : SameNetworkSettlementLeg) : JsValue :=
  .object [(js "id", .string leg.id), (js "assetId", .string leg.assetId),
    (js "sender", .string leg.sender), (js "receiver", .string leg.receiver),
    (js "amount", .string leg.amount)]

def SameNetworkSettlementRequest.json (request : SameNetworkSettlementRequest) : JsValue :=
  .object [(js "id", .string request.id), (js "idempotencyKey", .string request.idempotencyKey),
    (js "networkId", .string request.networkId), (js "networkType", .string request.networkType),
    (js "legs", .array [request.legs.1.json, request.legs.2.json]),
    (js "expiresAt", .string request.expiresAt), (js "createdAt", .string request.createdAt)]

/-- `assertRequest(request)`. -/
def assertRequest (platform : Platform) (request : SameNetworkSettlementRequest) :
    Except Thrown Unit := do
  if !request.id.startsWith (js "IW:SETTLEMENT:") ||
      !request.networkId.startsWith (js "IW:NETWORK:") || request.idempotencyKey.isBlank then
    throw (.registryError .invalidArgument
      (js "settlement, network, and idempotency identifiers are required"))
  if (platform.dateParse request.createdAt).isNone ||
      (platform.dateParse request.expiresAt).isNone ||
      numberLe (platform.dateParse request.expiresAt) (platform.dateParse request.createdAt) then
    throw (.registryError .invalidArgument (js "settlement validity interval is invalid"))
  let (delivery, payment) := request.legs
  if delivery.id.isBlank || payment.id.isBlank || delivery.id = payment.id then
    throw (.registryError .invalidArgument (js "exactly two unique settlement legs are required"))
  if delivery.assetId = payment.assetId then
    throw (.registryError .invalidArgument
      (js "same-network asset-for-asset settlement requires distinct assets"))
  if delivery.sender ≠ payment.receiver ∨ delivery.receiver ≠ payment.sender ∨
      delivery.sender = delivery.receiver then
    throw (.registryError .invalidArgument
      (js "settlement legs must have reciprocal distinct counterparties"))
  for leg in [delivery, payment] do
    if (← parseAtomicAmount leg.amount) ≤ 0 then
      throw (.registryError .invalidArgument (js "settlement leg amounts must be positive"))

/-- `assertResult(result)`. -/
def assertResult (platform : Platform) : NativeAtomicSettlementResult → Except Thrown Unit
  | .committed evidence | .alreadyCommitted evidence =>
      if evidence.externalTransactionId.isBlank || evidence.observedPosition.isBlank ||
          evidence.evidence.isEmpty || (platform.dateParse evidence.finalizedAt).isNone then
        .error (.registryError .invalidArgument
          (js "committed atomic settlement requires finality evidence"))
      else .ok ()
  | .rejected reasonCode _ | .uncertain reasonCode _ =>
      if reasonCode.isBlank then
        .error (.registryError .invalidArgument
          (js "non-committed atomic settlement requires a reason code"))
      else .ok ()

/-- The status a result finishes the settlement with. -/
def NativeAtomicSettlementResult.status :
    NativeAtomicSettlementResult → SameNetworkSettlementStatus
  | .committed _ | .alreadyCommitted _ => .completed
  | .rejected _ _ => .failed
  | .uncertain _ _ => .manualReview

/-! ## The service -/

/-- The service with its executors, one for each network. -/
structure SameNetworkSettlementService where
  executors : List NativeAtomicSettlementExecutor
  unique : (executors.map NativeAtomicSettlementExecutor.networkId).Nodup

namespace SameNetworkSettlementService

/-- The first network that occurs twice, given those configured already. -/
def duplicate : List JsString → List NativeAtomicSettlementExecutor → Option JsString
  | _, [] => none
  | configured, executor :: rest =>
      if executor.networkId ∈ configured then some executor.networkId
      else duplicate (executor.networkId :: configured) rest

theorem unique_of_duplicate {configured : List JsString}
    {executors : List NativeAtomicSettlementExecutor}
    (absent : duplicate configured executors = none) :
    (executors.map NativeAtomicSettlementExecutor.networkId).Nodup ∧
      ∀ executor ∈ executors, executor.networkId ∉ configured := by
  induction executors generalizing configured with
  | nil => exact ⟨List.nodup_nil, nofun⟩
  | cons executor rest ih =>
      by_cases repeated : executor.networkId ∈ configured
      · simp only [duplicate, repeated, ↓reduceIte, reduceCtorEq] at absent
      · simp only [duplicate, repeated, ↓reduceIte] at absent
        obtain ⟨unique, fresh⟩ := ih absent
        refine ⟨List.nodup_cons.mpr ⟨?_, unique⟩, ?_⟩
        · intro member
          obtain ⟨other, among, same⟩ := List.mem_map.mp member
          exact fresh other among (same ▸ List.mem_cons_self)
        · intro other member
          rcases List.mem_cons.mp member with rfl | among
          · exact repeated
          · exact fun known => fresh other among (List.mem_cons_of_mem _ known)

/-- The constructor. -/
def create (executors : List NativeAtomicSettlementExecutor) :
    Except Thrown SameNetworkSettlementService :=
  match absent : duplicate [] executors with
  | some networkId =>
      .error (.registryError .conflict (js "duplicate settlement executor: " ++ networkId))
  | none => .ok ⟨executors, (unique_of_duplicate absent).1⟩

/-- `this.#executors.get(networkId)`. -/
def executor (service : SameNetworkSettlementService) (networkId : JsString) :
    Option NativeAtomicSettlementExecutor :=
  service.executors.find? fun executor => executor.networkId = networkId

variable (platform : Platform) (service : SameNetworkSettlementService)

/-- `execute`, from the claim on. -/
def settle (executor : NativeAtomicSettlementExecutor) (request : SameNetworkSettlementRequest)
    (hash : JsString) : AtomicProgram SameNetworkSettlementRecord := do
  let claimedAt ← AtomicProgram.now
  let claim ← AtomicProgram.claim request hash (platform.toISOString claimedAt)
  if claim.outcome = .conflict then
    Program.reject (.registryError .conflict
      (js "settlement ID was reused with different content: " ++ request.id))
  else if claim.record.status ≠ .inProgress then return claim.record
  else
    let now ← AtomicProgram.now
    if numberLe (platform.dateParse request.expiresAt) (some now) then
      let recordedAt ← AtomicProgram.now
      AtomicProgram.finish request.id hash .failed (.rejected (js "SETTLEMENT_EXPIRED") [])
        (platform.toISOString recordedAt)
    else
      let outcome ← (AtomicProgram.executeAtomically executor request).attempt
      let result := match outcome with
        | .ok result => result
        | .error _ => .uncertain (js "EXECUTOR_ERROR") []
      Program.ofExcept (assertResult platform result)
      let recordedAt ← AtomicProgram.now
      AtomicProgram.finish request.id hash result.status result (platform.toISOString recordedAt)

def execute (request : SameNetworkSettlementRequest) : AtomicProgram SameNetworkSettlementRecord :=
  do
  Program.ofExcept (assertRequest platform request)
  match service.executor request.networkId with
  | none => Program.reject (.registryError .notFound
      (js "native atomic settlement executor not configured: " ++ request.networkId))
  | some executor =>
      if executor.networkType ≠ request.networkType then
        Program.reject (.registryError .notFound
          (js "native atomic settlement executor not configured: " ++ request.networkId))
      else
        let hash ← Program.ofExcept (requestFingerprint platform request.json)
        settle platform executor request hash

end SameNetworkSettlementService

/-! ## The store and the native executors -/

/-- The rows of `same_network_settlements`, by identifier, and the settlements whose
legs a network has committed. -/
structure AtomicWorld where
  settlements : JsString → Option SameNetworkSettlementRecord
  committed : JsString → JsString → Bool

namespace AtomicWorld

def put (world : AtomicWorld) (id : JsString) (record : SameNetworkSettlementRecord) :
    AtomicWorld :=
  { world with settlements := Function.update world.settlements id (some record) }

/-- `PostgresSameNetworkSettlementStore.claim`. -/
def claim (world : AtomicWorld) (request : SameNetworkSettlementRequest)
    (requestHash recordedAt : JsString) : SettlementClaim × AtomicWorld :=
  match world.settlements request.id with
  | none =>
      let record : SameNetworkSettlementRecord :=
        { request, requestHash, status := .inProgress, result := none, recordedAt }
      (⟨.claimed, record⟩, world.put request.id record)
  | some existing =>
      (⟨if existing.requestHash = requestHash then .replay else .conflict, existing⟩, world)

/-- `PostgresSameNetworkSettlementStore.finish`. -/
def finish (world : AtomicWorld) (id requestHash : JsString)
    (status : SameNetworkSettlementStatus) (result : NativeAtomicSettlementResult)
    (recordedAt : JsString) : Except Thrown SameNetworkSettlementRecord × AtomicWorld :=
  match world.settlements id with
  | none =>
      (.error (.registryError .conflict (js "settlement claim does not match: " ++ id)), world)
  | some existing =>
      if existing.requestHash ≠ requestHash then
        (.error (.registryError .conflict (js "settlement claim does not match: " ++ id)), world)
      else if existing.status ≠ .inProgress then (.ok existing, world)
      else
        let record : SameNetworkSettlementRecord :=
          { existing with status, result := some result, recordedAt }
        (.ok record, world.put id record)

def commit (world : AtomicWorld) (networkId id : JsString) : AtomicWorld :=
  { world with committed := fun network settlement =>
      (network == networkId && settlement == id) || world.committed network settlement }

end AtomicWorld

/-- What the environment decides at an answer. -/
inductive AtomicChoice where
  | instant (value : Int)
  | stored
  /-- Whether the executor commits the legs now, and what the caller sees. -/
  | native (commits : Bool) (answer : Except Thrown NativeAtomicSettlementResult)

/-- The answers of an executor that commits both legs at most once for each
settlement: it reports an earlier commit, and it rejects only what it has not
committed. Any call may fail or stay uncertain on its way back. -/
def truthful (before commits : Bool) : Except Thrown NativeAtomicSettlementResult → Bool
  | .ok (.committed _) => commits && !before
  | .ok (.alreadyCommitted _) => before && !commits
  | .ok (.rejected _ _) => !before && !commits
  | .ok (.uncertain _ _) => !(before && commits)
  | .error _ => !(before && commits)

def AtomicWorld.reply : (call : AtomicCall) → AtomicChoice → AtomicWorld →
    Option (atomicInterface.Answer call × AtomicWorld)
  | .now, .instant value, world => some (.ok value, world)
  | .claim request requestHash recordedAt, .stored, world =>
      let claimed := world.claim request requestHash recordedAt
      some (.ok claimed.1, claimed.2)
  | .executeAtomically executor request, .native commits answer, world =>
      if truthful (world.committed executor.networkId request.id) commits answer then
        some (answer, if commits then world.commit executor.networkId request.id else world)
      else none
  | .finish id requestHash status result recordedAt, .stored, world =>
      let finished := world.finish id requestHash status result recordedAt
      some (finished.1, finished.2)
  | _, _, _ => none

abbrev atomicServices : Async.Services atomicInterface where
  State := AtomicWorld
  Choice := AtomicChoice
  reply := AtomicWorld.reply

end InterWeave
