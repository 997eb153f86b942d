import InterWeave.Async.Pool
import InterWeave.Attestation.GenericAttestation

/-! # The generic attestation service

`generic-attestation.ts`: the service that asks its validators for observations, has the
agreeing ones sign a statement, and keeps one record for each attestation. Validators, the
clock and the connection to the store are outside: what they answer is open.
-/

namespace InterWeave

open Async (Program)

structure GenericSourceObservation where
  networkId : JsString
  networkType : JsString
  transactionId : JsString
  eventPosition : JsString
  predicateType : JsString
  claims : GenericClaims
  canonical : Bool
  finalitySatisfied : Bool
  observedStatePosition : JsString
  observedAt : JsString
  finalityEvidence : List JsString
  deriving DecidableEq

/-- What identifies a configured validator. -/
structure GenericAttestationValidator where
  validatorId : JsString
  algorithm : JsString
  publicKeyId : JsString
  deriving DecidableEq, Repr

/-- `${validator.algorithm}|${validator.publicKeyId}`. -/
def GenericAttestationValidator.keyText (validator : GenericAttestationValidator) : JsString :=
  validator.algorithm ++ js "|" ++ validator.publicKeyId

/-- An attestation as it is stored. The evidence is an object, here in the order in which
the validators were accepted. -/
structure StoredGenericAttestation extends GenericStateAttestation where
  validatorEvidence : List (JsString × GenericSourceObservation)
  recordedAt : JsString
  deriving DecidableEq

inductive GenericOutcome where
  | verified
  | rejected
  deriving DecidableEq, Repr

structure GenericAttestationRecord where
  request : GenericAttestationRequest
  requestHash : JsString
  outcome : GenericOutcome
  attestation : Option StoredGenericAttestation
  reasons : List JsString
  recordedAt : JsString
  deriving DecidableEq

/-! ## Calls -/

/-- What a run of `request` awaits. -/
inductive GenericCall where
  | get (id : JsString)
  | now
  | observe (validator : GenericAttestationValidator) (request : GenericAttestationRequest)
  | sign (validator : GenericAttestationValidator) (bytes : List UInt8)
  | save (record : GenericAttestationRecord)
  deriving DecidableEq

abbrev GenericCall.Value : GenericCall → Type
  | .get _ => Option GenericAttestationRecord
  | .now => Int
  | .observe _ _ => Option GenericSourceObservation
  | .sign _ _ => JsString
  | .save _ => Unit

abbrev genericInterface : Async.Interface where
  Call := GenericCall
  Value := GenericCall.Value
  Error := Thrown

abbrev GenericProgram := Program genericInterface

namespace GenericProgram

def get (id : JsString) : GenericProgram (Option GenericAttestationRecord) :=
  Program.call (I := genericInterface) (.get id)

def now : GenericProgram Int := Program.call (I := genericInterface) .now

def observe (validator : GenericAttestationValidator) (request : GenericAttestationRequest) :
    GenericProgram (Option GenericSourceObservation) :=
  Program.call (I := genericInterface) (.observe validator request)

def sign (validator : GenericAttestationValidator) (bytes : List UInt8) :
    GenericProgram JsString :=
  Program.call (I := genericInterface) (.sign validator bytes)

def save (record : GenericAttestationRecord) : GenericProgram Unit :=
  Program.call (I := genericInterface) (.save record)

end GenericProgram

/-! ## Checks -/

def GenericClaims.toJs (claims : GenericClaims) : JsValue :=
  .object (claims.entries.map fun entry => (entry.1, entry.2.toJs))

/-- The request as the object whose fingerprint is taken. -/
def GenericAttestationRequest.toJs (value : GenericAttestationRequest) : JsValue :=
  .object [
    (js "id", .string value.id),
    (js "idempotencyKey", .string value.idempotencyKey),
    (js "sourceNetworkId", .string value.sourceNetworkId),
    (js "sourceNetworkType", .string value.sourceNetworkType),
    (js "sourceTransactionId", .string value.sourceTransactionId),
    (js "sourceEventPosition", .string value.sourceEventPosition),
    (js "predicateType", .string value.predicateType),
    (js "claims", value.claims.toJs),
    (js "nonce", .string value.nonce),
    (js "policyVersion", .string value.policyVersion),
    (js "validatorSetId", .string value.validatorSetId),
    (js "threshold", .number value.threshold),
    (js "validFrom", .string value.validFrom),
    (js "expiresAt", .string value.expiresAt),
    (js "createdAt", .string value.createdAt)]

/-- `observationMismatch(input, value)`. -/
def observationMismatch (platform : Platform) (input : GenericAttestationRequest)
    (value : GenericSourceObservation) : Except Thrown (Option JsString) :=
  if value.networkId ≠ input.sourceNetworkId ∨ value.networkType ≠ input.sourceNetworkType then
    .ok (some (js "NETWORK_MISMATCH"))
  else if value.transactionId ≠ input.sourceTransactionId ∨
      value.eventPosition ≠ input.sourceEventPosition ∨
      value.predicateType ≠ input.predicateType then
    .ok (some (js "EVENT_MISMATCH"))
  else do
    let observed ← canonicalJson platform value.claims.toJs
    let requested ← canonicalJson platform input.claims.toJs
    if observed ≠ requested then return some (js "CLAIMS_MISMATCH")
    else if !value.canonical then return some (js "EVENT_NOT_CANONICAL")
    else if !value.finalitySatisfied || value.finalityEvidence.isEmpty then
      return some (js "FINALITY_NOT_SATISFIED")
    else if value.observedStatePosition.isBlank ||
        (platform.dateParse value.observedAt).isNone then
      return some (js "INVALID_OBSERVATION")
    else return none

/-- The body of the `try` block after the observation: why a validator is not counted. -/
def refusal (platform : Platform) (input : GenericAttestationRequest) :
    Except Thrown (Option GenericSourceObservation) → Except JsString GenericSourceObservation
  | .error _ => .error (js "PROVIDER_ERROR")
  | .ok none => .error (js "SOURCE_NOT_FOUND")
  | .ok (some observation) =>
      match observationMismatch platform input observation with
      | .error _ => .error (js "PROVIDER_ERROR")
      | .ok (some mismatch) => .error mismatch
      | .ok none => .ok observation

/-- `${observation.observedStatePosition}|${observation.observedAt}`. -/
def GenericSourceObservation.positionText (observation : GenericSourceObservation) : JsString :=
  observation.observedStatePosition ++ js "|" ++ observation.observedAt

structure AcceptedObservation where
  validator : GenericAttestationValidator
  observation : GenericSourceObservation
  deriving DecidableEq

/-! ## The service -/

/-- The service with its validators, no two of which share an identity or a key. -/
structure GenericAttestationService where
  validators : List GenericAttestationValidator
  identities : (validators.map GenericAttestationValidator.validatorId).Nodup
  keys : (validators.map GenericAttestationValidator.keyText).Nodup

namespace GenericAttestationService

/-- The first complaint of the constructor, given the identities and keys seen. -/
def complaint (identities keys : List JsString) :
    List GenericAttestationValidator → Option Thrown
  | [] => none
  | validator :: rest =>
      if validator.validatorId.isBlank || validator.algorithm.isBlank ||
          validator.publicKeyId.isBlank then
        some (.registryError .invalidArgument
          (js "validator identity, algorithm, and key are required"))
      else if validator.validatorId ∈ identities then
        some (.registryError .conflict
          (js "duplicate validator identity: " ++ validator.validatorId))
      else if validator.keyText ∈ keys then
        some (.registryError .conflict (js "validator key is shared: " ++ validator.publicKeyId))
      else complaint (validator.validatorId :: identities) (validator.keyText :: keys) rest

theorem distinct_of_complaint {identities keys : List JsString}
    {validators : List GenericAttestationValidator}
    (absent : complaint identities keys validators = none) :
    ((validators.map GenericAttestationValidator.validatorId).Nodup ∧
      ∀ validator ∈ validators, validator.validatorId ∉ identities) ∧
    (validators.map GenericAttestationValidator.keyText).Nodup ∧
      ∀ validator ∈ validators, validator.keyText ∉ keys := by
  induction validators generalizing identities keys with
  | nil => simp
  | cons validator rest ih =>
      rw [complaint] at absent
      split at absent
      · cases absent
      split at absent
      · cases absent
      split at absent
      · cases absent
      rename_i _ newIdentity newKey
      obtain ⟨⟨distinctIdentities, freshIdentities⟩, distinctKeys, freshKeys⟩ := ih absent
      simp only [List.mem_cons, not_or] at freshIdentities freshKeys
      simp only [List.map_cons, List.nodup_cons, List.mem_map, not_exists, not_and,
        List.forall_mem_cons]
      exact ⟨⟨⟨fun other later same => (freshIdentities other later).1 same, distinctIdentities⟩,
        newIdentity, fun other later => (freshIdentities other later).2⟩,
        ⟨fun other later same => (freshKeys other later).1 same, distinctKeys⟩,
        newKey, fun other later => (freshKeys other later).2⟩

/-- The constructor. -/
def create (validators : List GenericAttestationValidator) :
    Except Thrown GenericAttestationService :=
  match absent : complaint [] [] validators with
  | some error => .error error
  | none => .ok ⟨validators, (distinct_of_complaint absent).1.1, (distinct_of_complaint absent).2.1⟩

variable (platform : Platform) (localeCompare : LocaleCompare)

/-- `this.persist(input, hash, reasons)`. -/
def persist (input : GenericAttestationRequest) (hash : JsString) (reasons : List JsString) :
    GenericProgram GenericAttestationRecord := do
  let recordedAt ← GenericProgram.now
  let record : GenericAttestationRecord :=
    { request := input, requestHash := hash, outcome := .rejected, attestation := none, reasons,
      recordedAt := platform.toISOString recordedAt }
  GenericProgram.save record
  return record

/-- The loop over the validators. -/
def observeAll (input : GenericAttestationRequest) :
    List GenericAttestationValidator → List AcceptedObservation → List JsString →
      GenericProgram (List AcceptedObservation × List JsString)
  | [], accepted, reasons => return (accepted, reasons)
  | validator :: rest, accepted, reasons => do
      let outcome ← (GenericProgram.observe validator input).attempt
      match refusal platform input outcome with
      | .ok observation => observeAll input rest (accepted ++ [⟨validator, observation⟩]) reasons
      | .error reason =>
          observeAll input rest accepted (reasons ++ [validator.validatorId ++ js ":" ++ reason])

/-- The loop over the accepted validators. -/
def signAll (bytes : List UInt8) :
    List AcceptedObservation → List ValidatorSignature → GenericProgram (List ValidatorSignature)
  | [], signatures => return signatures
  | ⟨validator, _⟩ :: rest, signatures => do
      let signature ← GenericProgram.sign validator bytes
      let signedAt ← GenericProgram.now
      signAll bytes rest (signatures ++ [{
        validatorId := validator.validatorId
        algorithm := validator.algorithm
        publicKeyId := validator.publicKeyId
        signature
        signedAt := platform.toISOString signedAt }])

/-- The statement that validators sign. -/
def statement (input : GenericAttestationRequest) (first : GenericSourceObservation) :
    GenericAttestationStatement :=
  { input with
    version := genericAttestationVersion
    observedStatePosition := first.observedStatePosition
    observedAt := first.observedAt }

/-- `request`, once the accepted observations agree. -/
def issue (input : GenericAttestationRequest) (hash : JsString)
    (accepted : List AcceptedObservation) (reasons : List JsString)
    (first : GenericSourceObservation) : GenericProgram GenericAttestationRecord := do
  let bytes ← Program.ofExcept (canonicalGenericAttestationBytes platform (statement input first))
  let signatures ← signAll platform bytes accepted []
  let digest ← Program.ofExcept (genericAttestationDigest platform (statement input first))
  let attestedAt ← GenericProgram.now
  let recordedAt ← GenericProgram.now
  let attestation : StoredGenericAttestation := {
    statement := statement input first
    signatures := sortSignatures localeCompare signatures
    digest
    status := js "VERIFIED_EVIDENCE_ONLY"
    destinationMutationAuthorized := false
    validatorEvidence := accepted.map fun item => (item.validator.validatorId, item.observation)
    recordedAt := platform.toISOString attestedAt }
  let record : GenericAttestationRecord :=
    { request := input, requestHash := hash, outcome := .verified, attestation := some attestation,
      reasons, recordedAt := platform.toISOString recordedAt }
  GenericProgram.save record
  return record

/-- `request`, from the loop over the validators on. -/
def attest (service : GenericAttestationService) (input : GenericAttestationRequest)
    (hash : JsString) : GenericProgram GenericAttestationRecord := do
  let (accepted, reasons) ← observeAll platform input service.validators [] []
  if (JsNumber.ofNat accepted.length).lt input.threshold then
    persist platform input hash (reasons ++ [js "INSUFFICIENT_THRESHOLD"])
  else
    let positions := (accepted.map fun item => item.observation.positionText).dedup
    match accepted with
    | first :: _ =>
        if positions.length ≠ 1 then
          persist platform input hash (reasons ++ [js "VALIDATOR_OBSERVATION_DISAGREEMENT"])
        else issue platform localeCompare input hash accepted reasons first.observation
    | [] => persist platform input hash (reasons ++ [js "VALIDATOR_OBSERVATION_DISAGREEMENT"])

def request (service : GenericAttestationService) (input : GenericAttestationRequest) :
    GenericProgram GenericAttestationRecord := do
  Program.ofExcept (validateRequest platform input)
  let hash ← Program.ofExcept (requestFingerprint platform input.toJs)
  match ← GenericProgram.get input.id with
  | some existing =>
      if existing.requestHash ≠ hash then
        Program.reject (.registryError .conflict
          (js "attestation ID was reused with different content: " ++ input.id))
      else return existing
  | none =>
      let opening ← GenericProgram.now
      if numberLt (some opening) (platform.dateParse input.validFrom) then
        persist platform input hash [js "OUTSIDE_VALIDITY_WINDOW"]
      else
        let closing ← GenericProgram.now
        if numberLe (platform.dateParse input.expiresAt) (some closing) then
          persist platform input hash [js "OUTSIDE_VALIDITY_WINDOW"]
        else if (JsNumber.ofNat service.validators.length).lt input.threshold then
          persist platform input hash [js "INSUFFICIENT_CONFIGURED_VALIDATORS"]
        else attest platform localeCompare service input hash

end GenericAttestationService

/-! ## The store -/

/-- The stored records, by identifier. Both stores insert a record only where there is none. -/
abbrev GenericWorld := JsString → Option GenericAttestationRecord

/-- What the environment decides at an answer. A store may fail, before or after it has
taken effect. -/
inductive GenericChoice where
  | instant (value : Int)
  | observed (answer : Except Thrown (Option GenericSourceObservation))
  | signed (answer : Except Thrown JsString)
  | stored
  | failed (error : Thrown) (written : Bool)

/-- `save`, of either store. -/
def GenericWorld.save (world : GenericWorld) (record : GenericAttestationRecord) :
    Except Thrown Unit × GenericWorld :=
  match world record.request.id with
  | some _ => (.error (.registryError .conflict (js "attestation record is immutable")), world)
  | none => (.ok (), Function.update world record.request.id (some record))

def GenericWorld.reply (world : GenericWorld) : (call : GenericCall) → GenericChoice →
    Option (genericInterface.Answer call × GenericWorld)
  | .get id, .stored => some (.ok (world id), world)
  | .get _, .failed error _ => some (.error error, world)
  | .now, .instant value => some (.ok value, world)
  | .observe _ _, .observed answer => some (answer, world)
  | .sign _ _, .signed answer => some (answer, world)
  | .save record, .stored => some (world.save record)
  | .save record, .failed error written =>
      some (.error error, if written then (world.save record).2 else world)
  | _, _ => none

abbrev genericServices : Async.Services genericInterface where
  State := GenericWorld
  Choice := GenericChoice
  reply call choice world := GenericWorld.reply world call choice

namespace GenericWorld

variable {world next : GenericWorld} {call : GenericCall} {choice : GenericChoice}
  {answer : genericInterface.Answer call} {record : GenericAttestationRecord}

/-- An answer to `save`: the records are as they were, or there is one more. -/
theorem reply_save {answer : genericInterface.Answer (.save record)}
    (replied : world.reply (.save record) choice = some (answer, next)) :
    next = world ∧ (∃ error, answer = .error error) ∨
      world record.request.id = none ∧
        next = Function.update world record.request.id (some record) := by
  have saves : (∃ error, world.save record = (.error error, world)) ∨
      world record.request.id = none ∧
        world.save record = (.ok (), Function.update world record.request.id (some record)) := by
    rw [save]
    cases world record.request.id with
    | some existing => exact .inl ⟨_, rfl⟩
    | none => exact .inr ⟨rfl, rfl⟩
  cases choice with
  | stored =>
      rw [reply, Option.some.injEq] at replied
      rcases saves with ⟨error, saved⟩ | ⟨fresh, saved⟩
      · rw [saved] at replied
        cases replied
        exact .inl ⟨rfl, error, rfl⟩
      · rw [saved] at replied
        cases replied
        exact .inr ⟨fresh, rfl⟩
  | failed error written =>
      cases written with
      | false =>
          cases replied
          exact .inl ⟨rfl, error, rfl⟩
      | true =>
          cases replied
          rcases saves with ⟨_, saved⟩ | ⟨fresh, saved⟩
          · exact .inl ⟨congrArg Prod.snd saved, error, rfl⟩
          · exact .inr ⟨fresh, congrArg Prod.snd saved⟩
  | _ => cases replied

theorem reply_eq (other : ∀ record, call ≠ .save record)
    (replied : world.reply call choice = some (answer, next)) : next = world := by
  cases call with
  | save record => exact (other record rfl).elim
  | _ => cases choice <;> cases replied <;> rfl

/-- No record is replaced. -/
theorem reply_kept {id : JsString} (replied : world.reply call choice = some (answer, next))
    (found : world id = some record) : next id = some record := by
  by_cases saves : ∃ saved, call = .save saved
  · obtain ⟨saved, rfl⟩ := saves
    rcases reply_save replied with ⟨rfl, _⟩ | ⟨fresh, rfl⟩
    · exact found
    · have other : id ≠ saved.request.id := by
        rintro rfl
        rw [fresh] at found
        cases found
      rw [Function.update_of_ne other]
      exact found
  · rw [reply_eq (fun saved same => saves ⟨saved, same⟩) replied]
    exact found

theorem reply_new {id : JsString} (replied : world.reply call choice = some (answer, next))
    (found : next id = some record) :
    world id = some record ∨ call = .save record ∧ id = record.request.id := by
  by_cases saves : ∃ saved, call = .save saved
  · obtain ⟨saved, rfl⟩ := saves
    rcases reply_save replied with ⟨rfl, _⟩ | ⟨_, rfl⟩
    · exact .inl found
    · by_cases same : id = saved.request.id
      · subst same
        rw [Function.update_self, Option.some.injEq] at found
        exact .inr ⟨by rw [found], by rw [found]⟩
      · rw [Function.update_of_ne same] at found
        exact .inl found
  · rw [reply_eq (fun saved same => saves ⟨saved, same⟩) replied] at found
    exact .inl found

end GenericWorld

end InterWeave
