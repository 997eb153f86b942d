import InterWeave.Attestation.AttestationProtocol
import InterWeave.Core.Numbers
import Mathlib.Data.List.ReduceOption
import Mathlib.Data.List.Sort

/-! # Threshold attestations

`threshold-attestation.ts`: validator sets, the registry that admits them, and the
aggregator that checks signatures against the set of an attestation. Optional
instants are texts, so that an empty one counts as absent.
-/

namespace InterWeave

structure Attestation extends UnsignedAttestation where
  signatures : List ValidatorSignature
  deriving DecidableEq, Repr

/-- `AttestationSignatureVerifier.verify`: the algorithm, the key, the signature and
the bytes. -/
abbrev AttestationSignatureVerifier :=
  JsString → JsString → JsString → List UInt8 → Except Thrown Bool

/-- `String.prototype.localeCompare`. -/
abbrev LocaleCompare := JsString → JsString → Ordering

/-- `signatures.sort((a, b) => a.validatorId.localeCompare(b.validatorId))`. -/
def sortSignatures (localeCompare : LocaleCompare) (signatures : List ValidatorSignature) :
    List ValidatorSignature :=
  signatures.mergeSort fun left right => localeCompare left.validatorId right.validatorId != .gt

def verifyAttestationSignature (platform : Platform) (attestation : UnsignedAttestation)
    (signature : ValidatorSignature) (verifier : AttestationSignatureVerifier) :
    Except Thrown Bool := do
  assertUnsignedAttestation platform attestation
  let signedAt ← timestamp platform signature.signedAt (js "signedAt")
  if numberLt (some signedAt) (platform.dateParse attestation.observedAt) ||
      numberLe (platform.dateParse attestation.expiresAt) (some signedAt) then
    .ok false
  else do
    let bytes ← canonicalAttestationBytes platform attestation
    verifier signature.algorithm signature.publicKeyId signature.signature bytes

def attachAttestationSignature (platform : Platform) (localeCompare : LocaleCompare)
    (attestation : Attestation) (signature : ValidatorSignature) : Except Thrown Attestation := do
  assertUnsignedAttestation platform attestation.toUnsignedAttestation
  if attestation.signatures.any (fun item => item.validatorId = signature.validatorId) then
    .error (.registryError .conflict
      (js "validator already signed attestation: " ++ signature.validatorId))
  else
    .ok { attestation with
      signatures := sortSignatures localeCompare (attestation.signatures ++ [signature]) }

/-! ## Validator sets -/

structure ValidatorMember where
  validatorId : JsString
  algorithm : JsString
  publicKeyId : JsString
  enabledFrom : JsString
  disabledAt : Option JsString
  deriving DecidableEq, Repr

structure ValidatorSet where
  id : JsString
  version : JsString
  threshold : JsNumber
  validFrom : JsString
  validUntil : Option JsString
  members : List ValidatorMember
  deriving DecidableEq

/-- An optional text where the code tests its truth. -/
def truthy (value : Option JsString) : Option JsString := value.filter fun text => !text.isEmpty

def parseTime (platform : Platform) (value name : JsString) : Except Thrown Int :=
  match platform.dateParse value with
  | some time => .ok time
  | none =>
      .error (.registryError .invalidArgument (name ++ js " must be a valid timestamp"))

/-- `stop && time >= Date.parse(stop)`: an optional end was reached. -/
def ended (platform : Platform) (stop : Option JsString) (time : Int) : Bool :=
  match truthy stop with
  | some text => numberLe (platform.dateParse text) (some time)
  | none => false

/-- Where an optional end lies: `none` is `Infinity`. -/
def endOf (platform : Platform) (stop : Option JsString) : Option (Option Int) :=
  (truthy stop).map platform.dateParse

def intervalsOverlap (platform : Platform) (aFrom : JsString) (aUntil : Option JsString)
    (bFrom : JsString) (bUntil : Option JsString) : Bool :=
  before (platform.dateParse aFrom) (endOf platform bUntil) &&
    before (platform.dateParse bFrom) (endOf platform aUntil)
where
  before (start : Option Int) : Option (Option Int) → Bool
    | some stop => numberLt start stop
    | none => start.isSome

namespace ValidatorMember

/-- `${member.algorithm}|${member.publicKeyId}`. -/
def keyText (member : ValidatorMember) : JsString :=
  member.algorithm ++ js "|" ++ member.publicKeyId

/-- The algorithm and the key of a member. -/
def key (member : ValidatorMember) : JsString × JsString := (member.algorithm, member.publicKeyId)

/-- A member counted as available at a boundary. -/
def available (platform : Platform) (time : Int) (member : ValidatorMember) : Bool :=
  numberLe (platform.dateParse member.enabledFrom) (some time) &&
    match truthy member.disabledAt with
    | some disabledAt => numberLt (some time) (platform.dateParse disabledAt)
    | none => true

/-- The loop of `assertValidatorSet` over the members, with the identities and keys
of the earlier ones. -/
def assertMembers (platform : Platform) (ids keys : List JsString) :
    List ValidatorMember → Except Thrown Unit
  | [] => .ok ()
  | member :: rest => do
      if member.validatorId.isBlank || member.algorithm.isBlank || member.publicKeyId.isBlank then
        .error (.registryError .invalidArgument
          (js "validator member identity, algorithm, and key are required"))
      else if member.validatorId ∈ ids then
        .error (.registryError .invalidArgument
          (js "duplicate validator member: " ++ member.validatorId))
      else if member.keyText ∈ keys then
        .error (.registryError .invalidArgument
          (js "validator key is shared by multiple members: " ++ member.publicKeyId))
      else do
        let enabled ← parseTime platform member.enabledFrom (js "member enabledFrom")
        match truthy member.disabledAt with
        | some text => do
            let disabled ← parseTime platform text (js "member disabledAt")
            if enabled ≥ disabled then
              .error (.registryError .invalidArgument
                (js "invalid member interval: " ++ member.validatorId))
            else assertMembers platform (member.validatorId :: ids) (member.keyText :: keys) rest
        | none => assertMembers platform (member.validatorId :: ids) (member.keyText :: keys) rest

end ValidatorMember

namespace ValidatorSet

/-- The instants from `start` on, inside the interval of the set, at which members
come and go. Neither `NaN` nor `Infinity` is finite. -/
def boundaries (platform : Platform) (set : ValidatorSet) (start : Int) : List Int :=
  let instants := some start :: set.members.flatMap fun member =>
    [platform.dateParse member.enabledFrom, (truthy member.disabledAt).bind platform.dateParse]
  instants.reduceOption.filter fun time =>
    start ≤ time && match truthy set.validUntil with
      | some text => numberLt (some time) (platform.dateParse text)
      | none => true

/-- `available < set.threshold` fails: enough members are available. -/
def achievableAt (platform : Platform) (set : ValidatorSet) (time : Int) : Bool :=
  !(JsNumber.ofNat (set.members.countP (·.available platform time))).lt set.threshold

end ValidatorSet

def assertValidatorSet (platform : Platform) (set : ValidatorSet) : Except Thrown Unit := do
  if set.id.isBlank || set.version.isBlank then
    .error (.registryError .invalidArgument (js "validator set ID and version are required"))
  else do
    let start ← parseTime platform set.validFrom (js "validator set validFrom")
    match truthy set.validUntil with
    | some text => do
        let stop ← parseTime platform text (js "validator set validUntil")
        if start ≥ stop then
          .error (.registryError .invalidArgument (js "validator set interval is empty"))
        else members start
    | none => members start
where
  members (start : Int) : Except Thrown Unit := do
    if !set.threshold.isSafeInteger || set.threshold.lt (.ofNat 1) ||
        (JsNumber.ofNat set.members.length).lt set.threshold then
      .error (.registryError .invalidArgument
        (js "validator threshold must be between one and member count"))
    else do
      ValidatorMember.assertMembers platform [] [] set.members
      if (set.boundaries platform start).all (set.achievableAt platform) then .ok ()
      else .error (.registryError .invalidArgument
        (js "validator threshold is not achievable throughout the set interval"))

/-! ## The registry -/

/-- The registered sets, oldest first. They are immutable: `register` is the only way in. -/
structure ValidatorSetRegistry (platform : Platform) where
  sets : List ValidatorSet
  accepted : ∀ set ∈ sets, assertValidatorSet platform set = .ok ()
  distinct : (sets.map ValidatorSet.id).Nodup
  apart : sets.Pairwise fun earlier later =>
    intervalsOverlap platform later.validFrom later.validUntil earlier.validFrom
      earlier.validUntil = false

namespace ValidatorSetRegistry

variable {platform : Platform}

def empty : ValidatorSetRegistry platform where
  sets := []
  accepted _ member := by cases member
  distinct := List.nodup_nil
  apart := List.Pairwise.nil

/-- `this.#sets.get(id)`. -/
def get (registry : ValidatorSetRegistry platform) (id : JsString) : Option ValidatorSet :=
  registry.sets.find? fun set => set.id = id

/-- The first registered set whose interval meets that of a new one. -/
def overlapping (registry : ValidatorSetRegistry platform) (set : ValidatorSet) :
    Option ValidatorSet :=
  registry.sets.find? fun existing =>
    intervalsOverlap platform set.validFrom set.validUntil existing.validFrom existing.validUntil

def register (registry : ValidatorSetRegistry platform) (set : ValidatorSet) :
    Except Thrown (ValidatorSet × ValidatorSetRegistry platform) :=
  match valid : assertValidatorSet platform set with
  | .error error => .error error
  | .ok () =>
      if known : (registry.get set.id).isSome then
        .error (.registryError .conflict (js "validator set is immutable: " ++ set.id))
      else
        match free : registry.overlapping set with
        | some existing =>
            .error (.registryError .conflict
              (js "validator set validity overlaps: " ++ existing.id))
        | none =>
            .ok (set, {
              sets := registry.sets ++ [set]
              accepted := by
                intro other member
                rcases List.mem_append.mp member with earlier | added
                · exact registry.accepted other earlier
                · rw [List.mem_singleton.mp added]
                  exact valid
              distinct := by
                rw [List.map_append, List.nodup_append]
                refine ⟨registry.distinct, List.nodup_singleton _, fun id earlier other added => ?_⟩
                rw [List.map_singleton, List.mem_singleton] at added
                rintro rfl
                obtain ⟨existing, member, same⟩ := List.mem_map.mp earlier
                refine known (List.find?_isSome.mpr ⟨existing, member, ?_⟩)
                simpa using same.trans added
              apart := by
                rw [List.pairwise_append]
                refine ⟨registry.apart, List.pairwise_singleton _ _,
                  fun existing member other added => ?_⟩
                rw [List.mem_singleton.mp added]
                simpa using List.find?_eq_none.mp free existing member })

def resolve (registry : ValidatorSetRegistry platform) (id attestationValidFrom : JsString) :
    Except Thrown ValidatorSet :=
  match registry.get id with
  | none => .error (.registryError .notFound (js "validator set not found: " ++ id))
  | some set => do
      let time ← parseTime platform attestationValidFrom (js "attestation validFrom")
      let start ← parseTime platform set.validFrom (js "validator set validFrom")
      if time < start then outside
      else
        match truthy set.validUntil with
        | some text => do
            let stop ← parseTime platform text (js "validator set validUntil")
            if time ≥ stop then outside else .ok set
        | none => .ok set
where
  outside : Except Thrown ValidatorSet :=
    .error (.registryError .invalidArgument
      (js "validator set is not valid for attestation time: " ++ id))

end ValidatorSetRegistry

/-! ## Verification -/

inductive SignatureRejectionCode where
  | duplicateValidator
  | notAMember
  | memberDisabled
  | keyMismatch
  | invalidSignature
  deriving DecidableEq, Repr

structure RejectedValidatorSignature where
  validatorId : JsString
  reason : SignatureRejectionCode
  deriving DecidableEq, Repr

inductive ThresholdRejection where
  | insufficientThreshold
  | invalidSignatures
  | expired
  deriving DecidableEq, Repr

inductive ThresholdVerification where
  | satisfied (validatorSetId : JsString) (threshold : JsNumber)
      (validValidatorIds : List JsString)
  | rejected (validatorSetId : JsString) (threshold : JsNumber)
      (validValidatorIds : List JsString) (rejected : List RejectedValidatorSignature)
      (reason : ThresholdRejection)
  deriving DecidableEq

/-- `verification.outcome === "SATISFIED"`. -/
def ThresholdVerification.isSatisfied : ThresholdVerification → Bool
  | .satisfied .. => true
  | .rejected .. => false

structure CheckedSignatures where
  validSignatures : List ValidatorSignature
  rejected : List RejectedValidatorSignature
  deriving DecidableEq

/-- The entry of `new Map(set.members.map((member) => [member.validatorId, member]))`:
a later member replaces an earlier one. -/
def ValidatorSet.member (set : ValidatorSet) (validatorId : JsString) : Option ValidatorMember :=
  set.members.reverse.find? fun member => member.validatorId = validatorId

structure AttestationAggregator (platform : Platform) where
  sets : ValidatorSetRegistry platform
  verifier : AttestationSignatureVerifier
  localeCompare : LocaleCompare

namespace AttestationAggregator

variable {platform : Platform}

/-- What is wrong with a signature under a label that was not seen before. -/
def rejection (aggregator : AttestationAggregator platform) (unsigned : UnsignedAttestation)
    (set : ValidatorSet) (signature : ValidatorSignature) : Option SignatureRejectionCode :=
  match set.member signature.validatorId with
  | none => some .notAMember
  | some member =>
      match platform.dateParse signature.signedAt with
      | none => some .invalidSignature
      | some signedAt =>
          if numberLt (some signedAt) (platform.dateParse member.enabledFrom) ||
              ended platform member.disabledAt signedAt then
            some .memberDisabled
          else if signature.algorithm ≠ member.algorithm ∨
              signature.publicKeyId ≠ member.publicKeyId then
            some .keyMismatch
          else
            match verifyAttestationSignature platform unsigned signature aggregator.verifier with
            | .ok true => none
            | _ => some .invalidSignature

/-- The loop of `#check`, with the labels seen so far. -/
def checkFrom (aggregator : AttestationAggregator platform) (unsigned : UnsignedAttestation)
    (set : ValidatorSet) : List JsString → List ValidatorSignature → CheckedSignatures
  | _, [] => ⟨[], []⟩
  | seen, signature :: rest =>
      if signature.validatorId ∈ seen then
        let checked := aggregator.checkFrom unsigned set seen rest
        { checked with
          rejected := ⟨signature.validatorId, .duplicateValidator⟩ :: checked.rejected }
      else
        let checked := aggregator.checkFrom unsigned set (signature.validatorId :: seen) rest
        match aggregator.rejection unsigned set signature with
        | some reason =>
            { checked with rejected := ⟨signature.validatorId, reason⟩ :: checked.rejected }
        | none => { checked with validSignatures := signature :: checked.validSignatures }

/-- `#check`. -/
def check (aggregator : AttestationAggregator platform) (unsigned : UnsignedAttestation)
    (set : ValidatorSet) (signatures : List ValidatorSignature) : CheckedSignatures :=
  let checked := aggregator.checkFrom unsigned set [] signatures
  { checked with
    validSignatures := sortSignatures aggregator.localeCompare checked.validSignatures }

/-- The function `result`. -/
def result (set : ValidatorSet) (checked : CheckedSignatures) (expired : Bool) :
    ThresholdVerification :=
  let validValidatorIds := checked.validSignatures.map (·.validatorId)
  if expired then
    .rejected set.id set.threshold validValidatorIds checked.rejected .expired
  else if !checked.rejected.isEmpty then
    .rejected set.id set.threshold validValidatorIds checked.rejected .invalidSignatures
  else if (JsNumber.ofNat checked.validSignatures.length).lt set.threshold then
    .rejected set.id set.threshold validValidatorIds [] .insufficientThreshold
  else .satisfied set.id set.threshold validValidatorIds

/-- `this.now().getTime() >= Date.parse(expiresAt)`. -/
def expired (platform : Platform) (unsigned : UnsignedAttestation) (now : Int) : Bool :=
  numberLe (platform.dateParse unsigned.expiresAt) (some now)

/-- `aggregate` when its clock reads `now`. -/
def aggregate (aggregator : AttestationAggregator platform) (unsigned : UnsignedAttestation)
    (validatorSetId : JsString) (signatures : List ValidatorSignature) (now : Int) :
    Except Thrown (Attestation × ThresholdVerification) := do
  assertUnsignedAttestation platform unsigned
  let set ← aggregator.sets.resolve validatorSetId unsigned.validFrom
  let checked := aggregator.check unsigned set signatures
  let attestation ← checked.validSignatures.foldlM
    (attachAttestationSignature platform aggregator.localeCompare)
    { unsigned with signatures := [] }
  return (attestation, result set checked (expired platform unsigned now))

/-- `verify` when its clock reads `now`. -/
def verify (aggregator : AttestationAggregator platform) (attestation : Attestation)
    (validatorSetId : JsString) (now : Int) : Except Thrown ThresholdVerification := do
  assertUnsignedAttestation platform attestation.toUnsignedAttestation
  let set ← aggregator.sets.resolve validatorSetId attestation.validFrom
  let checked := aggregator.check attestation.toUnsignedAttestation set attestation.signatures
  return result set checked (expired platform attestation.toUnsignedAttestation now)

end AttestationAggregator
end InterWeave
