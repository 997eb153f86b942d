import InterWeave.Async.Program
import InterWeave.Attestation.AttestationProtocol

/-! # The validator service

`validator-service.ts`. A validator awaits its own network reader and its signer;
any number of candidates may be in progress at once. The signer receives bytes,
and a sign call also names the attestation that they encode.
-/

namespace InterWeave

open Async (Program)

inductive SourceAssetKind where
  | evmContract
  | cantonInstrument
  deriving DecidableEq, Repr

structure SourceAssetLocator where
  kind : SourceAssetKind
  value : JsString
  deriving DecidableEq, Repr

inductive TransactionStatus where
  | succeeded
  | failed
  deriving DecidableEq, Repr

/-- Evidence returned by a network reader of the validator. -/
structure IndependentSourceObservation where
  networkId : JsString
  networkType : JsString
  transactionId : JsString
  transactionStatus : TransactionStatus
  eventPosition : JsString
  eventType : JsString
  sourceAsset : SourceAssetLocator
  assetId : JsString
  operationId : JsString
  amount : JsString
  sender : JsString
  receiver : JsString
  canonical : Bool
  finalitySatisfied : Bool
  observedStatePosition : JsString
  observedAt : JsString
  finalityEvidence : List JsString
  deriving DecidableEq, Repr

structure SourceQuery where
  sourceTransactionId : JsString
  sourceEventPosition : JsString
  expectedSourceAsset : SourceAssetLocator
  deriving DecidableEq, Repr

structure ValidatorNetworkConfiguration where
  networkId : JsString
  networkType : JsString
  endpoints : List JsString
  enabled : Bool
  sourceAssets : List (JsString × SourceAssetLocator)
  allowedPolicyVersions : Option (List JsString)
  deriving DecidableEq, Repr

structure AttestationSigner where
  validatorId : JsString
  algorithm : JsString
  publicKeyId : JsString
  deriving DecidableEq, Repr

inductive ValidatorRejectionCode where
  | networkDisabled
  | policyNotAllowed
  | notYetValid
  | expired
  | sourceNotFound
  | networkMismatch
  | transactionFailed
  | eventNotCanonical
  | sourceAssetMismatch
  | eventMismatch
  | assetMismatch
  | operationMismatch
  | amountMismatch
  | senderMismatch
  | receiverMismatch
  | finalityNotSatisfied
  | observedPositionMismatch
  | observationTimeMismatch
  | providerError
  deriving DecidableEq, Repr

inductive ValidatorDecision where
  | signed (validatorId digest : JsString) (signature : ValidatorSignature)
      (evidence : IndependentSourceObservation)
  | rejected (reasons : List ValidatorRejectionCode)
      (evidence : Option IndependentSourceObservation)
  deriving DecidableEq, Repr

/-- A configured validator. -/
structure ValidatorService where
  networks : List ValidatorNetworkConfiguration
  signer : AttestationSigner
  distinct : (networks.map ValidatorNetworkConfiguration.networkId).Nodup
  independent : ∀ network ∈ networks,
    network.endpoints ≠ [] ∧ ∀ endpoint ∈ network.endpoints, endpoint.isBlank = false

/-- What a validator awaits. -/
inductive ValidatorCall where
  | now
  | provider (configuration : ValidatorNetworkConfiguration)
  | observe (networkId : JsString) (query : SourceQuery)
  | sign (attestation : UnsignedAttestation) (bytes : List UInt8)
  deriving DecidableEq, Repr

abbrev ValidatorCall.Value : ValidatorCall → Type
  | .now => Int
  | .provider _ => Unit
  | .observe _ _ => Option IndependentSourceObservation
  | .sign _ _ => JsString

abbrev validatorInterface : Async.Interface where
  Call := ValidatorCall
  Value := ValidatorCall.Value
  Error := Thrown

abbrev ValidatorProgram := Program validatorInterface

namespace ValidatorProgram

def now : ValidatorProgram Int := Program.call (I := validatorInterface) .now

def provider (configuration : ValidatorNetworkConfiguration) : ValidatorProgram Unit :=
  Program.call (I := validatorInterface) (.provider configuration)

def observe (networkId : JsString) (query : SourceQuery) :
    ValidatorProgram (Option IndependentSourceObservation) :=
  Program.call (I := validatorInterface) (.observe networkId query)

def sign (attestation : UnsignedAttestation) (bytes : List UInt8) : ValidatorProgram JsString :=
  Program.call (I := validatorInterface) (.sign attestation bytes)

end ValidatorProgram

def signAttestation (platform : Platform) (attestation : UnsignedAttestation)
    (signer : AttestationSigner) (signedAt : JsString) : ValidatorProgram ValidatorSignature := do
  let time ← Program.ofExcept (timestamp platform signedAt (js "signedAt"))
  if numberLt (some time) (platform.dateParse attestation.observedAt) ||
      numberLe (platform.dateParse attestation.expiresAt) (some time) then
    Program.reject (.registryError .invalidArgument
      (js "signature time is outside the attestation validity window"))
  else if signer.validatorId.isBlank || signer.algorithm.isBlank || signer.publicKeyId.isBlank then
    Program.reject (.registryError .invalidArgument
      (js "signer identity, algorithm, and key ID are required"))
  else do
    let bytes ← Program.ofExcept (canonicalAttestationBytes platform attestation)
    let signature ← ValidatorProgram.sign attestation bytes
    return { validatorId := signer.validatorId, algorithm := signer.algorithm,
             publicKeyId := signer.publicKeyId, signature, signedAt }

def sameLocator (left right : SourceAssetLocator) : Bool :=
  left.kind == right.kind &&
    match left.kind with
    | .evmContract => left.value.toLowerCase == right.value.toLowerCase
    | .cantonInstrument => left.value == right.value

/-- The codes of the checks that fail, in the order of the checks. -/
def failedChecks (checks : List (Bool × ValidatorRejectionCode)) : List ValidatorRejectionCode :=
  checks.filterMap fun check => if check.1 then some check.2 else none

/-- The reasons found before the source is observed. -/
def preliminaryReasons (platform : Platform) (configuration : ValidatorNetworkConfiguration)
    (attestation : UnsignedAttestation) (now : Int) : List ValidatorRejectionCode :=
  failedChecks [
    (configuration.networkType != attestation.sourceNetworkType, .networkMismatch),
    (configuration.allowedPolicyVersions.any fun allowed =>
      !allowed.contains attestation.policyVersion, .policyNotAllowed),
    ((configuration.sourceAssets.lookup attestation.assetId).isNone, .sourceAssetMismatch),
    (numberLt (some now) (platform.dateParse attestation.validFrom), .notYetValid),
    (numberLe (platform.dateParse attestation.expiresAt) (some now), .expired)]

/-- The reasons found in the validator's own observation. -/
def observationReasons (attestation : UnsignedAttestation)
    (observation : IndependentSourceObservation) (expectedSourceAsset : SourceAssetLocator) :
    List ValidatorRejectionCode :=
  failedChecks [
    (observation.networkId != attestation.sourceNetworkId ||
      observation.networkType != attestation.sourceNetworkType, .networkMismatch),
    (observation.transactionId != attestation.sourceTransactionId ||
      observation.transactionStatus != .succeeded, .transactionFailed),
    (!observation.canonical, .eventNotCanonical),
    (!sameLocator observation.sourceAsset expectedSourceAsset, .sourceAssetMismatch),
    (observation.eventPosition != attestation.sourceEventPosition ||
      observation.eventType != attestation.eventType, .eventMismatch),
    (observation.assetId != attestation.assetId, .assetMismatch),
    (observation.operationId != attestation.operationId, .operationMismatch),
    (observation.amount != attestation.amount, .amountMismatch),
    (observation.sender != attestation.sender, .senderMismatch),
    (observation.receiver != attestation.receiver, .receiverMismatch),
    (!observation.finalitySatisfied || observation.finalityEvidence.isEmpty,
      .finalityNotSatisfied),
    (observation.observedStatePosition != attestation.observedStatePosition,
      .observedPositionMismatch),
    (observation.observedAt != attestation.observedAt, .observationTimeMismatch)]

namespace ValidatorService

/-- The body of the `try` block: the provider of the network, then its view of
the event. -/
def observeSource (configuration : ValidatorNetworkConfiguration)
    (attestation : UnsignedAttestation) (expectedSourceAsset : SourceAssetLocator) :
    ValidatorProgram (Option IndependentSourceObservation) := do
  ValidatorProgram.provider configuration
  ValidatorProgram.observe configuration.networkId
    { sourceTransactionId := attestation.sourceTransactionId
      sourceEventPosition := attestation.sourceEventPosition
      expectedSourceAsset }

/-- The part of `verifyAndSign` after the observation. -/
def signObserved (platform : Platform) (service : ValidatorService)
    (attestation : UnsignedAttestation) (observation : IndependentSourceObservation)
    (expectedSourceAsset : SourceAssetLocator) : ValidatorProgram ValidatorDecision :=
  let reasons := observationReasons attestation observation expectedSourceAsset
  if reasons ≠ [] then return .rejected reasons (some observation)
  else do
    let signedAt ← ValidatorProgram.now
    let signature ← signAttestation platform attestation service.signer
      (platform.toISOString signedAt)
    let digest ← Program.ofExcept (attestationDigest platform attestation)
    return .signed service.signer.validatorId digest signature observation

def verifyAndSign (platform : Platform) (service : ValidatorService)
    (attestation : UnsignedAttestation) : ValidatorProgram ValidatorDecision := do
  Program.ofExcept (assertUnsignedAttestation platform attestation)
  match service.networks.find? fun network => network.networkId == attestation.sourceNetworkId with
  | none => return .rejected [.networkDisabled] none
  | some configuration =>
      if !configuration.enabled then return .rejected [.networkDisabled] none
      else do
        let now ← ValidatorProgram.now
        match preliminaryReasons platform configuration attestation now,
            configuration.sourceAssets.lookup attestation.assetId with
        | [], some expectedSourceAsset =>
            match ← (observeSource configuration attestation expectedSourceAsset).attempt with
            | .error _ => return .rejected [.providerError] none
            | .ok none => return .rejected [.sourceNotFound] none
            | .ok (some observation) =>
                signObserved platform service attestation observation expectedSourceAsset
        | preliminary, _ => return .rejected preliminary none

end ValidatorService
end InterWeave
