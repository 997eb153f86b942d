import InterWeave.Async.Pool
import InterWeave.Core.Numbers
import InterWeave.Core.Tenancy
import Mathlib.Data.Finset.Card

/-! # Signing requests and their approvals

`key-management.ts`. A coordinator stores signing requests and the approvals that
administrators give them, and asks a signer once the policy allows a request. Its
store is in memory or in PostgreSQL, and it may serve any number of commands at
once. Custody of the keys is outside: what a signer's client answers is left open.
-/

namespace InterWeave

open Async (Program)

/-- `value.includes(part)`. -/
def JsString.includes (value part : JsString) : Bool :=
  value.tails.any fun tail => part.isPrefixOf tail

/-- The platform, with what signing needs of it besides: `milliseconds / 1000`, and
`createHmac("sha256", secret).update(text).digest("hex")`. -/
structure SigningPlatform extends Platform where
  seconds : Int → JsNumber
  hmacSha256Hex : List UInt8 → JsString → JsString

inductive SigningPurpose where
  | attestation
  | networkTransaction
  | validatorRotation
  | pauseProtocol
  | policyAdmin
  deriving DecidableEq, Repr

def SigningPurpose.text : SigningPurpose → JsString
  | .attestation => js "ATTESTATION"
  | .networkTransaction => js "NETWORK_TRANSACTION"
  | .validatorRotation => js "VALIDATOR_ROTATION"
  | .pauseProtocol => js "PAUSE_PROTOCOL"
  | .policyAdmin => js "POLICY_ADMIN"

/-- `Omit<SigningRequest, "organizationId" | "projectId" | "environmentId">`. -/
structure SigningInput where
  id : JsString
  purpose : SigningPurpose
  operationId : JsString
  keyReference : JsString
  algorithm : JsString
  payloadDigest : JsString
  policyVersion : JsString
  createdAt : JsString
  expiresAt : JsString
  deriving DecidableEq, Repr

structure SigningRequest extends SigningInput, Tenant
  deriving DecidableEq, Repr

inductive SigningDecision where
  | approve
  | reject
  deriving DecidableEq, Repr

structure SigningApproval where
  id : JsString
  requestId : JsString
  requestDigest : JsString
  approverId : JsString
  decision : SigningDecision
  occurredAt : JsString
  deriving DecidableEq, Repr

structure SigningPolicy where
  version : JsString
  environmentId : JsString
  allowedPurposes : List SigningPurpose
  allowedAlgorithms : List JsString
  allowedKeyPrefixes : List JsString
  privilegedPurposes : List SigningPurpose
  requiredApprovals : JsNumber
  maxValiditySeconds : JsNumber
  deriving DecidableEq

inductive SigningProvider where
  | localDevelopment
  | hsm
  | mpc
  deriving DecidableEq, Repr

structure SignatureResult where
  requestId : JsString
  keyReference : JsString
  algorithm : JsString
  signature : JsString
  signedAt : JsString
  provider : SigningProvider
  deriving DecidableEq, Repr

/-! ## Signers -/

/-- What a custody client answers. -/
structure ExternalSignature where
  signature : JsString
  signedAt : JsString
  deriving DecidableEq, Repr

/-- A signer of the development environment, as its constructor admits it. -/
structure LocalDevelopmentSigner where
  keyReference : JsString
  secret : List UInt8
  inMemory : keyReference.startsWith (js "local-dev://") = true
  strong : 32 ≤ secret.length

inductive Signer where
  | hsm
  | mpc
  | localDevelopment (signer : LocalDevelopmentSigner)

/-- `assertExternalReference(value, start)`. -/
def assertExternalReference (value start : JsString) : Except Thrown Unit :=
  if !value.startsWith start || value.includes (js "private") || value.includes (js "secret") then
    .error (.registryError .invalidArgument
      (js "signer requires an opaque " ++ start ++ js " key reference"))
  else .ok ()

/-- The result for a request. -/
def SigningRequest.signed (request : SigningRequest) (evidence : ExternalSignature)
    (provider : SigningProvider) : SignatureResult where
  requestId := request.id
  keyReference := request.keyReference
  algorithm := request.algorithm
  signature := evidence.signature
  signedAt := evidence.signedAt
  provider := provider

/-- `HsmSigner.sign` and `MpcSigner.sign`, given what the custody client answers. -/
def SigningRequest.signExternally (request : SigningRequest) (start : JsString)
    (provider : SigningProvider) (answer : Except Thrown ExternalSignature) :
    Except Thrown SignatureResult := do
  assertExternalReference request.keyReference start
  let evidence ← answer
  return request.signed evidence provider

/-- `LocalDevelopmentSigner.sign` at an instant. -/
def LocalDevelopmentSigner.sign (platform : SigningPlatform) (signer : LocalDevelopmentSigner)
    (request : SigningRequest) (now : Int) : Except Thrown SignatureResult :=
  if request.keyReference ≠ signer.keyReference ∨
      request.environmentId.includes (js ":prod") then
    .error (.registryError .conflict (js "local development signer cannot sign this request"))
  else .ok (request.signed
    { signature := platform.hmacSha256Hex signer.secret request.payloadDigest,
      signedAt := platform.toISOString now } .localDevelopment)

/-! ## Calls -/

/-- What a command awaits: its store, its clock and its signer. -/
inductive SigningCall where
  | create (request : SigningRequest)
  | get (id : JsString)
  | addApproval (approval : SigningApproval)
  | approvals (id : JsString)
  | saveResult (result : SignatureResult)
  | getResult (id : JsString)
  | now
  | sign (request : SigningRequest)
  deriving DecidableEq, Repr

abbrev SigningCall.Value : SigningCall → Type
  | .create _ => SigningRequest
  | .get _ => Option SigningRequest
  | .addApproval _ => Unit
  | .approvals _ => List SigningApproval
  | .saveResult _ => SignatureResult
  | .getResult _ => Option SignatureResult
  | .now => Int
  | .sign _ => SignatureResult

abbrev signingInterface : Async.Interface where
  Call := SigningCall
  Value := SigningCall.Value
  Error := Thrown

abbrev SigningProgram := Program signingInterface

namespace SigningProgram

def create (request : SigningRequest) : SigningProgram SigningRequest :=
  Program.call (I := signingInterface) (.create request)

def get (id : JsString) : SigningProgram (Option SigningRequest) :=
  Program.call (I := signingInterface) (.get id)

def addApproval (approval : SigningApproval) : SigningProgram Unit :=
  Program.call (I := signingInterface) (.addApproval approval)

def approvals (id : JsString) : SigningProgram (List SigningApproval) :=
  Program.call (I := signingInterface) (.approvals id)

def saveResult (result : SignatureResult) : SigningProgram SignatureResult :=
  Program.call (I := signingInterface) (.saveResult result)

def getResult (id : JsString) : SigningProgram (Option SignatureResult) :=
  Program.call (I := signingInterface) (.getResult id)

def now : SigningProgram Int := Program.call (I := signingInterface) .now

def sign (request : SigningRequest) : SigningProgram SignatureResult :=
  Program.call (I := signingInterface) (.sign request)

end SigningProgram

/-! ## The coordinator -/

def SigningRequest.json (request : SigningRequest) : JsValue :=
  .object [(js "id", .string request.id), (js "organizationId", .string request.organizationId),
    (js "projectId", .string request.projectId),
    (js "environmentId", .string request.environmentId),
    (js "purpose", .string request.purpose.text),
    (js "operationId", .string request.operationId),
    (js "keyReference", .string request.keyReference),
    (js "algorithm", .string request.algorithm),
    (js "payloadDigest", .string request.payloadDigest),
    (js "policyVersion", .string request.policyVersion),
    (js "createdAt", .string request.createdAt), (js "expiresAt", .string request.expiresAt)]

/-- `/^sha256:[0-9a-f]{64}$/`. -/
def isSha256Digest (value : JsString) : Bool :=
  value.startsWith (js "sha256:") && value.length == 71 &&
    (value.drop 7).all fun unit => (48 ≤ unit && unit ≤ 57) || (97 ≤ unit && unit ≤ 102)

/-- The policy names the environment, the version, the purpose, the algorithm and the
kind of key of a request. -/
def SigningPolicy.authorizes (policy : SigningPolicy) (request : SigningRequest) : Bool :=
  request.environmentId == policy.environmentId && request.policyVersion == policy.version &&
    policy.allowedPurposes.contains request.purpose &&
    policy.allowedAlgorithms.contains request.algorithm &&
    policy.allowedKeyPrefixes.any request.keyReference.startsWith

/-- The approvals that a request needs. -/
def SigningPolicy.required (policy : SigningPolicy) (request : SigningRequest) : JsNumber :=
  if policy.privilegedPurposes.contains request.purpose then policy.requiredApprovals
  else .ofNat 0

/-- What `validate` checks of a request before it reads the clock. -/
def SigningRequest.wellFormed (platform : SigningPlatform) (policy : SigningPolicy)
    (request : SigningRequest) : Bool :=
  request.id.startsWith (js "IW:SIGNING_REQUEST:") && !request.operationId.isBlank &&
    isSha256Digest request.payloadDigest &&
    match platform.dateParse request.createdAt, platform.dateParse request.expiresAt with
    | some created, some expires =>
        created < expires && !policy.maxValiditySeconds.lt (platform.seconds (expires - created))
    | _, _ => false

/-- `new Set(approvals.filter(x => x.decision === "APPROVE").map(x => x.approverId))`. -/
def approvers (approvals : List SigningApproval) : Finset JsString :=
  ((approvals.filter fun approval => approval.decision = .approve).map
    SigningApproval.approverId).toFinset

structure SigningCoordinator where
  policy : SigningPolicy
  signer : Signer

inductive SigningCommand where
  | submit (context : TenantContext) (input : SigningInput)
  | approve (context : TenantContext) (requestId approverId : JsString)
      (decision : SigningDecision)
  | execute (context : TenantContext) (id : JsString)
  deriving DecidableEq, Repr

/-- Who calls. -/
def SigningCommand.context : SigningCommand → TenantContext
  | .submit context _ => context
  | .approve context _ _ _ => context
  | .execute context _ => context

/-- What a command returns. -/
inductive SigningOutcome where
  | submitted (request : SigningRequest)
  | approved (approval : SigningApproval)
  | executed (result : SignatureResult)
  deriving DecidableEq, Repr

namespace SigningCoordinator

variable (platform : SigningPlatform) (coordinator : SigningCoordinator)

def required (id : JsString) : SigningProgram SigningRequest := do
  match ← SigningProgram.get id with
  | some request => return request
  | none => Program.reject (.registryError .notFound (js "signing request not found: " ++ id))

def validate (request : SigningRequest) : SigningProgram Unit := do
  if !coordinator.policy.authorizes request then
    Program.reject (.registryError .conflict (js "signing policy does not authorize request"))
  else if !request.wellFormed platform coordinator.policy then
    Program.reject (.registryError .invalidArgument (js "signing request is invalid or expired"))
  else
    let now ← SigningProgram.now
    if numberLe (platform.dateParse request.expiresAt) (some now) then
      Program.reject (.registryError .invalidArgument (js "signing request is invalid or expired"))

def submit (context : TenantContext) (input : SigningInput) : SigningProgram SigningRequest := do
  let request : SigningRequest :=
    { input with organizationId := context.organizationId, projectId := context.projectId,
                 environmentId := context.environmentId }
  validate platform coordinator request
  SigningProgram.create request

def approve (context : TenantContext) (requestId approverId : JsString)
    (decision : SigningDecision) : SigningProgram SigningApproval := do
  if !context.scopes.contains .policiesAdmin then
    Program.reject (.registryError .conflict (js "administrative approval scope is required"))
  else
    let request ← required requestId
    let requestDigest ← Program.ofExcept (requestFingerprint platform.toPlatform request.json)
    let now ← SigningProgram.now
    let approval : SigningApproval :=
      { id := js "IW:SIGNING_APPROVAL:" ++ requestId ++ js ":" ++ approverId
        requestId, requestDigest, approverId, decision
        occurredAt := platform.toISOString now }
    SigningProgram.addApproval approval
    return approval

/-- What `execute` checks of the approvals it has read. -/
def checkApprovals (request : SigningRequest) (approvals : List SigningApproval) :
    Except Thrown Unit := do
  let digest ← requestFingerprint platform.toPlatform request.json
  if approvals.any fun approval =>
      approval.requestDigest ≠ digest || approval.decision = .reject then
    throw (.registryError .conflict (js "signing request has invalid or rejecting approval"))
  let required := coordinator.policy.required request
  if (JsNumber.ofNat (approvers approvals).card).lt required then
    throw (.registryError .conflict (js "signing request requires " ++
      required.text platform.toPlatform ++ js " distinct approvals"))

def execute (context : TenantContext) (id : JsString) : SigningProgram SignatureResult := do
  match ← SigningProgram.getResult id with
  | some existing => return existing
  | none =>
      let request ← required id
      validate platform coordinator request
      if request.organizationId ≠ context.organizationId ∨
          request.projectId ≠ context.projectId ∨
          request.environmentId ≠ context.environmentId then
        Program.reject (.registryError .conflict
          (js "signing request belongs to another tenant"))
      else
        let approvals ← SigningProgram.approvals id
        Program.ofExcept (checkApprovals platform coordinator request approvals)
        let result ← SigningProgram.sign request
        if result.signature.isBlank || (platform.dateParse result.signedAt).isNone then
          Program.reject (.registryError .invalidArgument
            (js "signer returned invalid evidence"))
        else SigningProgram.saveResult result

/-- The program of a command. -/
def run : SigningCommand → SigningProgram SigningOutcome
  | .submit context input => do
      let request ← submit platform coordinator context input
      return .submitted request
  | .approve context requestId approverId decision => do
      let approval ← approve platform context requestId approverId decision
      return .approved approval
  | .execute context id => do
      let result ← execute platform coordinator context id
      return .executed result

end SigningCoordinator

/-! ## The stores -/

/-- `InMemorySigningStore` and `PostgresSigningStore`. -/
inductive SigningStoreKind where
  | inMemory
  | postgres
  deriving DecidableEq, Repr

/-- What a store holds. -/
structure SigningStore where
  requests : JsString → Option SigningRequest
  approvalLog : List SigningApproval
  results : JsString → Option SignatureResult

namespace SigningStore

def empty : SigningStore := ⟨fun _ => none, [], fun _ => none⟩

def create (store : SigningStore) (request : SigningRequest) :
    Except Thrown SigningRequest × SigningStore :=
  match store.requests request.id with
  | some _ =>
      (.error (.registryError .alreadyExists (js "signing request is immutable")), store)
  | none =>
      (.ok request,
        { store with requests := Function.update store.requests request.id (some request) })

/-- The table also keeps the identifiers of approvals apart: two requests whose
identifiers run into those of their approvers share them. -/
def addApproval (kind : SigningStoreKind) (store : SigningStore) (approval : SigningApproval) :
    Except Thrown Unit × SigningStore :=
  if store.approvalLog.any fun other =>
      other.requestId == approval.requestId && other.approverId == approval.approverId then
    (.error (.registryError .conflict (js "approver already decided")), store)
  else if kind = .postgres ∧ store.approvalLog.any fun other => other.id == approval.id then
    (.error .other, store)
  else (.ok (), { store with approvalLog := store.approvalLog ++ [approval] })

/-- The log keeps the order of insertion; the table is read `ORDER BY id`. -/
def approvals (platform : SigningPlatform) (kind : SigningStoreKind) (store : SigningStore)
    (id : JsString) : List SigningApproval :=
  let listed := store.approvalLog.filter fun approval => approval.requestId == id
  match kind with
  | .inMemory => listed
  | .postgres => listed.mergeSort fun left right => platform.collates left.id right.id

def saveResult (store : SigningStore) (result : SignatureResult) :
    Except Thrown SignatureResult × SigningStore :=
  match store.results result.requestId with
  | some _ =>
      (.error (.registryError .conflict (js "signature result is immutable")), store)
  | none =>
      (.ok result,
        { store with results := Function.update store.results result.requestId (some result) })

end SigningStore

/-- What the environment decides at an answer. -/
inductive SigningChoice where
  | instant (value : Int)
  | stored
  | custody (answer : Except Thrown ExternalSignature)
  /-- A call to the store may fail; it then stores nothing. -/
  | failed (error : Thrown)

/-- The answers of the store, the clock and the signer. -/
def SigningStore.reply (platform : SigningPlatform) (kind : SigningStoreKind) (signer : Signer) :
    (call : SigningCall) → SigningChoice → SigningStore →
      Option (signingInterface.Answer call × SigningStore)
  | .now, .instant value, store => some (.ok value, store)
  | .create request, .stored, store => some (store.create request)
  | .get id, .stored, store => some (.ok (store.requests id), store)
  | .addApproval approval, .stored, store => some (store.addApproval kind approval)
  | .approvals id, .stored, store => some (.ok (store.approvals platform kind id), store)
  | .saveResult result, .stored, store => some (store.saveResult result)
  | .getResult id, .stored, store => some (.ok (store.results id), store)
  | .sign request, .custody answer, store =>
      match signer with
      | .hsm => some (request.signExternally (js "hsm://") .hsm answer, store)
      | .mpc => some (request.signExternally (js "mpc://") .mpc answer, store)
      | .localDevelopment _ => none
  | .sign request, .instant value, store =>
      match signer with
      | .localDevelopment signer => some (signer.sign platform request value, store)
      | _ => none
  | .now, .failed _, _ => none
  | .sign _, .failed _, _ => none
  | _, .failed error, store => some (.error error, store)
  | _, _, _ => none

/-- The stores with their clock and their signer. -/
abbrev signingServices (platform : SigningPlatform) (kind : SigningStoreKind) (signer : Signer) :
    Async.Services signingInterface where
  State := SigningStore
  Choice := SigningChoice
  reply := SigningStore.reply platform kind signer

end InterWeave
