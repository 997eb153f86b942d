import InterWeave.Attestation.ThresholdAttestation

/-! # Generic attestations

`generic-attestation.ts`: statements about the state of a source network, the bytes
that validators sign, and the check of an attestation by whoever receives it. The
validators and the store of the service that issues them are outside this module.
-/

namespace InterWeave

def genericAttestationVersion : JsString := js "1"

def genericAttestationDomain : JsString := js "INTERWEAVE_GENERIC_STATE_ATTESTATION"

inductive GenericClaimValue where
  | string (value : JsString)
  | number (value : JsNumber)
  | boolean (value : Bool)
  | null
  deriving DecidableEq

def GenericClaimValue.toJs : GenericClaimValue → JsValue
  | .string value => .string value
  | .number value => .number value
  | .boolean value => .boolean value
  | .null => .null

/-- The own properties of a claims object, which has one for each name. -/
structure GenericClaims where
  entries : List (JsString × GenericClaimValue)
  distinct : (entries.map Prod.fst).Nodup
  deriving DecidableEq

structure GenericAttestationRequest where
  id : JsString
  idempotencyKey : JsString
  sourceNetworkId : JsString
  sourceNetworkType : JsString
  sourceTransactionId : JsString
  sourceEventPosition : JsString
  predicateType : JsString
  claims : GenericClaims
  nonce : JsString
  policyVersion : JsString
  validatorSetId : JsString
  threshold : JsNumber
  validFrom : JsString
  expiresAt : JsString
  createdAt : JsString
  deriving DecidableEq

structure GenericAttestationStatement extends GenericAttestationRequest where
  version : JsString
  observedStatePosition : JsString
  observedAt : JsString
  deriving DecidableEq

/-- A generic attestation without `validatorEvidence` and `recordedAt`, which no check
reads. -/
structure GenericStateAttestation where
  statement : GenericAttestationStatement
  signatures : List ValidatorSignature
  digest : JsString
  status : JsString
  destinationMutationAuthorized : Bool
  deriving DecidableEq

/-! ## Statements -/

def validateRequest (platform : Platform) (value : GenericAttestationRequest) :
    Except Thrown Unit :=
  if !value.id.startsWith (js "IW:ATTESTATION:") || value.idempotencyKey.isBlank ||
      !value.sourceNetworkId.startsWith (js "IW:NETWORK:") || value.sourceNetworkType.isBlank then
    invalid "attestation and network identifiers are required"
  else if [value.sourceTransactionId, value.sourceEventPosition, value.predicateType,
      value.policyVersion, value.validatorSetId].any JsString.isBlank then
    invalid "attestation source, predicate, policy, and validator set are required"
  else if !isNonce value.nonce then
    invalid "attestation nonce must contain 16-256 safe random characters"
  else if !value.threshold.isSafeInteger || value.threshold.lt (.ofNat 1) then
    invalid "threshold must be positive"
  else if value.claims.entries.isEmpty ||
      value.claims.entries.any fun entry => entry.1.isBlank then
    invalid "typed claims are required"
  else
    match platform.dateParse value.createdAt, platform.dateParse value.validFrom,
        platform.dateParse value.expiresAt with
    | some created, some valid, some expires =>
        if created > valid || valid ≥ expires then
          invalid "attestation validity interval is invalid"
        else .ok ()
    | _, _, _ => invalid "attestation validity interval is invalid"
where
  invalid (message : String) : Except Thrown Unit :=
    .error (.registryError .invalidArgument (js message))

def validateStatement (platform : Platform) (value : GenericAttestationStatement) :
    Except Thrown Unit := do
  validateRequest platform value.toGenericAttestationRequest
  if value.version ≠ genericAttestationVersion ∨ value.observedStatePosition.isBlank ∨
      platform.dateParse value.observedAt = none then
    .error (.registryError .invalidArgument (js "generic attestation statement is invalid"))
  else .ok ()

/-- The statement as the object that is rendered. -/
def GenericAttestationStatement.toJs (value : GenericAttestationStatement) : JsValue :=
  .object [
    (js "id", .string value.id),
    (js "idempotencyKey", .string value.idempotencyKey),
    (js "sourceNetworkId", .string value.sourceNetworkId),
    (js "sourceNetworkType", .string value.sourceNetworkType),
    (js "sourceTransactionId", .string value.sourceTransactionId),
    (js "sourceEventPosition", .string value.sourceEventPosition),
    (js "predicateType", .string value.predicateType),
    (js "claims", .object (value.claims.entries.map fun entry => (entry.1, entry.2.toJs))),
    (js "nonce", .string value.nonce),
    (js "policyVersion", .string value.policyVersion),
    (js "validatorSetId", .string value.validatorSetId),
    (js "threshold", .number value.threshold),
    (js "validFrom", .string value.validFrom),
    (js "expiresAt", .string value.expiresAt),
    (js "createdAt", .string value.createdAt),
    (js "version", .string value.version),
    (js "observedStatePosition", .string value.observedStatePosition),
    (js "observedAt", .string value.observedAt)]

def canonicalGenericAttestationBytes (platform : Platform)
    (statement : GenericAttestationStatement) : Except Thrown (List UInt8) := do
  validateStatement platform statement
  let payload ← canonicalJson platform statement.toJs
  return JsString.encode (genericAttestationDomain ++ js "|" ++ statement.version ++ js "|" ++
    statement.sourceNetworkId ++ [0] ++ payload)

def genericAttestationDigest (platform : Platform) (statement : GenericAttestationStatement) :
    Except Thrown JsString := do
  let bytes ← canonicalGenericAttestationBytes platform statement
  return js "sha256:" ++ platform.sha256Hex bytes

/-! ## Verification -/

/-- The loop of `verifyGenericAttestation`: how many signatures under labels not seen
before the verifier accepts. -/
def countValid (verifier : AttestationSignatureVerifier) (bytes : List UInt8) :
    List JsString → List ValidatorSignature → Except Thrown Nat
  | _, [] => .ok 0
  | seen, signature :: rest =>
      if signature.validatorId ∈ seen then countValid verifier bytes seen rest
      else do
        let valid ← verifier signature.algorithm signature.publicKeyId signature.signature bytes
        let others ← countValid verifier bytes (signature.validatorId :: seen) rest
        return if valid then others + 1 else others

def verifyGenericAttestation (platform : Platform) (attestation : GenericStateAttestation)
    (threshold : JsNumber) (verifier : AttestationSignatureVerifier) (now : Int) :
    Except Thrown Bool := do
  validateStatement platform attestation.statement
  if attestation.status ≠ js "VERIFIED_EVIDENCE_ONLY" ∨
      attestation.destinationMutationAuthorized ≠ false ∨
      numberLe (platform.dateParse attestation.statement.expiresAt) (some now) ∨
      threshold.lt (.ofNat 1) then
    .ok false
  else do
    let bytes ← canonicalGenericAttestationBytes platform attestation.statement
    let valid ← countValid verifier bytes [] attestation.signatures
    if threshold.le (.ofNat valid) then do
      let digest ← genericAttestationDigest platform attestation.statement
      return digest = attestation.digest
    else .ok false

end InterWeave
