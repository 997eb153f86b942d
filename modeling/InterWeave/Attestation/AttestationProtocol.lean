import InterWeave.Core.Idempotency
import InterWeave.Atomic.Machine

/-! # The attestation protocol

`attestation-protocol.ts`: the checks on an unsigned attestation and the bytes
that validators sign.
-/

namespace InterWeave

structure UnsignedAttestation where
  version : JsString
  id : JsString
  operationId : JsString
  sourceNetworkType : JsString
  sourceNetworkId : JsString
  sourceTransactionId : JsString
  sourceEventPosition : JsString
  eventType : JsString
  assetId : JsString
  amount : JsString
  sender : JsString
  receiver : JsString
  destinationNetworkType : JsString
  destinationNetworkId : JsString
  nonce : JsString
  observedStatePosition : JsString
  observedAt : JsString
  validFrom : JsString
  expiresAt : JsString
  policyVersion : JsString
  deriving DecidableEq, Repr

structure ValidatorSignature where
  validatorId : JsString
  algorithm : JsString
  publicKeyId : JsString
  signature : JsString
  signedAt : JsString
  deriving DecidableEq, Repr

def attestationProtocolVersion : JsString := js "1"

def attestationDomainName : JsString := js "INTERWEAVE_ATTESTATION"

def assertId (value start name : JsString) : Except Thrown Unit :=
  if !value.startsWith start || value.length = start.length then
    .error (.registryError .invalidArgument (js "invalid " ++ name ++ js " ID"))
  else .ok ()

def timestamp (platform : Platform) (value name : JsString) : Except Thrown Int :=
  match platform.dateParse value with
  | some parsed => .ok parsed
  | none =>
      .error (.registryError .invalidArgument (js "invalid " ++ name ++ js " timestamp"))

/-- `/^[A-Za-z0-9_-]{16,256}$/`. -/
def isNonce (value : JsString) : Bool :=
  16 ≤ value.length && value.length ≤ 256 && value.all fun unit =>
    (65 ≤ unit && unit ≤ 90) || (97 ≤ unit && unit ≤ 122) || (48 ≤ unit && unit ≤ 57) ||
      unit == 95 || unit == 45

namespace UnsignedAttestation

/-- The identifiers with their prefixes and names. -/
def identifiers (attestation : UnsignedAttestation) : List (JsString × JsString × JsString) :=
  [(attestation.id, js "IW:ATTESTATION:", js "attestation"),
    (attestation.operationId, js "IW:BRIDGE:", js "operation"),
    (attestation.assetId, js "IW:ASSET:", js "asset"),
    (attestation.sender, js "IW:IDENTITY:", js "sender"),
    (attestation.receiver, js "IW:IDENTITY:", js "receiver"),
    (attestation.sourceNetworkId, js "IW:NETWORK:", js "source network"),
    (attestation.destinationNetworkId, js "IW:NETWORK:", js "destination network")]

/-- The texts that must not be blank, with their names. -/
def required (attestation : UnsignedAttestation) : List (JsString × JsString) :=
  [(js "source network type", attestation.sourceNetworkType),
    (js "destination network type", attestation.destinationNetworkType),
    (js "source transaction", attestation.sourceTransactionId),
    (js "source event position", attestation.sourceEventPosition),
    (js "event type", attestation.eventType),
    (js "observed state position", attestation.observedStatePosition),
    (js "policy version", attestation.policyVersion)]

end UnsignedAttestation

def assertUnsignedAttestation (platform : Platform) (attestation : UnsignedAttestation) :
    Except Thrown Unit := do
  if attestation.version ≠ attestationProtocolVersion then
    throw (.registryError .invalidArgument
      (js "unsupported attestation version: " ++ attestation.version))
  for (value, start, name) in attestation.identifiers do
    assertId value start name
  if attestation.sourceNetworkId = attestation.destinationNetworkId then
    throw (.registryError .invalidArgument (js "attestation networks must differ"))
  for (name, value) in attestation.required do
    if value.isBlank then
      throw (.registryError .invalidArgument (name ++ js " is required"))
  if !isNonce attestation.nonce then
    throw (.registryError .invalidArgument
      (js "attestation nonce must contain 16-256 safe random characters"))
  let amount ← parseAtomicAmount attestation.amount
  if amount ≤ 0 then
    throw (.registryError .invalidArgument (js "attestation amount must be positive"))
  let observed ← timestamp platform attestation.observedAt (js "observedAt")
  let valid ← timestamp platform attestation.validFrom (js "validFrom")
  let expires ← timestamp platform attestation.expiresAt (js "expiresAt")
  if observed > valid || valid ≥ expires then
    throw (.registryError .invalidArgument
      (js "attestation requires observedAt <= validFrom < expiresAt"))

def canonicalAttestationObject (platform : Platform) (attestation : UnsignedAttestation) :
    Except Thrown JsValue := do
  assertUnsignedAttestation platform attestation
  return .object [
    (js "amount", .string attestation.amount),
    (js "assetId", .string attestation.assetId),
    (js "attestationId", .string attestation.id),
    (js "destinationNetworkId", .string attestation.destinationNetworkId),
    (js "destinationNetworkType", .string attestation.destinationNetworkType),
    (js "eventType", .string attestation.eventType),
    (js "expiresAt", .string attestation.expiresAt),
    (js "nonce", .string attestation.nonce),
    (js "observedAt", .string attestation.observedAt),
    (js "observedStatePosition", .string attestation.observedStatePosition),
    (js "operationId", .string attestation.operationId),
    (js "policyVersion", .string attestation.policyVersion),
    (js "receiver", .string attestation.receiver),
    (js "sender", .string attestation.sender),
    (js "sourceEventPosition", .string attestation.sourceEventPosition),
    (js "sourceNetworkId", .string attestation.sourceNetworkId),
    (js "sourceNetworkType", .string attestation.sourceNetworkType),
    (js "sourceTransactionId", .string attestation.sourceTransactionId),
    (js "validFrom", .string attestation.validFrom),
    (js "version", .string attestation.version)]

def attestationDomain (attestation : UnsignedAttestation) : JsString :=
  attestationDomainName ++ js "|" ++ attestation.version ++ js "|" ++
    attestation.sourceNetworkId ++ js "|" ++ attestation.destinationNetworkId

def canonicalAttestationBytes (platform : Platform) (attestation : UnsignedAttestation) :
    Except Thrown (List UInt8) := do
  let object ← canonicalAttestationObject platform attestation
  let payload ← canonicalJson platform object
  return JsString.encode (attestationDomain attestation ++ [0] ++ payload)

def attestationDigest (platform : Platform) (attestation : UnsignedAttestation) :
    Except Thrown JsString := do
  let bytes ← canonicalAttestationBytes platform attestation
  return js "sha256:" ++ platform.sha256Hex bytes

/-! ## Accepted attestations -/

section Accepted

open Atomic

variable {platform : Platform}

theorem timestamp_ok {value name : JsString} {time : Int}
    (parsed : timestamp platform value name = .ok time) : platform.dateParse value = some time := by
  rw [timestamp] at parsed
  split at parsed
  · rename_i known
    cases parsed
    exact known
  · cases parsed

structure UnsignedAttestation.Window (platform : Platform) (attestation : UnsignedAttestation)
    (observed valid expires : Int) : Prop where
  observedAt : platform.dateParse attestation.observedAt = some observed
  validFrom : platform.dateParse attestation.validFrom = some valid
  expiresAt : platform.dateParse attestation.expiresAt = some expires
  ordered : observed ≤ valid ∧ valid < expires

theorem assertUnsignedAttestation_window {attestation : UnsignedAttestation}
    (accepted : assertUnsignedAttestation platform attestation = .ok ()) :
    ∃ observed valid expires, attestation.Window platform observed valid expires := by
  rw [assertUnsignedAttestation] at accepted
  dsimp only at accepted
  split at accepted
  · cases accepted
  obtain ⟨_, _, accepted⟩ := ok_of_bind accepted
  split at accepted
  · cases accepted
  obtain ⟨_, _, accepted⟩ := ok_of_bind accepted
  split at accepted
  · cases accepted
  obtain ⟨amount, _, accepted⟩ := ok_of_bind accepted
  split at accepted
  · cases accepted
  obtain ⟨observed, observedAt, accepted⟩ := ok_of_bind accepted
  obtain ⟨valid, validFrom, accepted⟩ := ok_of_bind accepted
  obtain ⟨expires, expiresAt, accepted⟩ := ok_of_bind accepted
  split at accepted
  · cases accepted
  rename_i ordered
  simp only [Bool.or_eq_true, decide_eq_true_eq, not_or] at ordered
  exact ⟨observed, valid, expires, timestamp_ok observedAt, timestamp_ok validFrom,
    timestamp_ok expiresAt, by omega⟩

theorem assertUnsignedAttestation_of_bytes {attestation : UnsignedAttestation} {bytes : List UInt8}
    (rendered : canonicalAttestationBytes platform attestation = .ok bytes) :
    assertUnsignedAttestation platform attestation = .ok () := by
  obtain ⟨object, rendered, _⟩ := ok_of_bind rendered
  obtain ⟨_, accepted, _⟩ := ok_of_bind rendered
  exact accepted

theorem canonicalAttestationBytes_ok {unsigned : UnsignedAttestation}
    (accepted : assertUnsignedAttestation platform unsigned = .ok ()) :
    ∃ bytes, canonicalAttestationBytes platform unsigned = .ok bytes := by
  obtain ⟨object, built, text, rendered⟩ : ∃ object,
      canonicalAttestationObject platform unsigned = .ok object ∧
        ∃ text, canonicalJson platform object = .ok text := by
    refine ⟨_, by rw [canonicalAttestationObject, accepted]; rfl, canonicalJson_object_ok ?_⟩
    simp only [List.forall_mem_cons, JsValue.isUndefined, canonicalJson, Except.ok.injEq,
      exists_eq', and_self, List.not_mem_nil, false_implies, implies_true]
  refine ⟨JsString.encode (attestationDomain unsigned ++ [0] ++ text), ?_⟩
  simp only [canonicalAttestationBytes, built, rendered, bind, Except.bind, pure, Except.pure]

end Accepted
end InterWeave
