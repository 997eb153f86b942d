import InterWeave.Attestation.ValidatorSets
import InterWeave.Core.IsoDate
import InterWeave.Quorum.FirstVotes

/-! # What a satisfied threshold rests on

`#check` is a count of first votes: the label of a signature is its `validatorId`,
and a first vote counts unless something is wrong with it. A verification is
satisfied exactly when every supplied signature counts and there are enough of
them; since a set gives each of its keys to one member, they are as many keys.
-/

namespace InterWeave

open Atomic

variable {platform : Platform}

/-! ## The window of an attestation -/

/-- The instants at which an attestation may be signed. -/
def UnsignedAttestation.SignableAt (platform : Platform) (attestation : UnsignedAttestation)
    (time : Int) : Prop :=
  (∃ observed, platform.dateParse attestation.observedAt = some observed ∧ observed ≤ time) ∧
    ∃ expires, platform.dateParse attestation.expiresAt = some expires ∧ time < expires

/-! ## Signatures that count -/

/-- The algorithm and the key that a signature names. -/
def ValidatorSignature.key (signature : ValidatorSignature) : JsString × JsString :=
  (signature.algorithm, signature.publicKeyId)

/-- The value of a signature verifies over the canonical bytes under the key it names. -/
def ValidatorSignature.Verifies (platform : Platform) (verifier : AttestationSignatureVerifier)
    (attestation : UnsignedAttestation) (signature : ValidatorSignature) : Prop :=
  ∃ bytes, canonicalAttestationBytes platform attestation = .ok bytes ∧
    verifier signature.algorithm signature.publicKeyId signature.signature bytes = .ok true

/-- An instant at which both the member and the attestation admit a signature. -/
def ValidatorMember.SignsAt (platform : Platform) (attestation : UnsignedAttestation)
    (member : ValidatorMember) (time : Int) : Prop :=
  member.EnabledAt platform time ∧ attestation.SignableAt platform time

/-- A signature that a member of the set made in time with its registered key. -/
structure ValidatorSignature.Counts (platform : Platform)
    (verifier : AttestationSignatureVerifier) (attestation : UnsignedAttestation)
    (set : ValidatorSet) (signature : ValidatorSignature) : Prop where
  member : ∃ member ∈ set.members, member.validatorId = signature.validatorId ∧
    signature.key = member.key ∧
    ∃ signedAt, platform.dateParse signature.signedAt = some signedAt ∧
      member.SignsAt platform attestation signedAt
  verifies : signature.Verifies platform verifier attestation

theorem verifyAttestationSignature_eq_ok_true_iff {attestation : UnsignedAttestation}
    (accepted : assertUnsignedAttestation platform attestation = .ok ())
    (verifier : AttestationSignatureVerifier) {signature : ValidatorSignature} {signedAt : Int}
    (parsed : platform.dateParse signature.signedAt = some signedAt) :
    verifyAttestationSignature platform attestation signature verifier = .ok true ↔
      attestation.SignableAt platform signedAt ∧
        signature.Verifies platform verifier attestation := by
  obtain ⟨observed, valid, expires, window⟩ := assertUnsignedAttestation_window accepted
  have time : timestamp platform signature.signedAt (js "signedAt") = .ok signedAt := by
    rw [timestamp, parsed]
  simp only [verifyAttestationSignature, accepted, time, bind, Except.bind, window.observedAt,
    window.expiresAt, numberLt, numberLe, UnsignedAttestation.SignableAt, Option.some.injEq,
    exists_eq_left', ValidatorSignature.Verifies]
  by_cases outside : signedAt < observed ∨ expires ≤ signedAt
  · simp only [Bool.or_eq_true, decide_eq_true_eq, outside, if_true, Except.ok.injEq,
      Bool.false_eq_true, false_iff]
    omega
  · have inside : observed ≤ signedAt ∧ signedAt < expires := by omega
    simp only [Bool.or_eq_true, decide_eq_true_eq, outside, if_false, inside, and_self, true_and]
    cases canonicalAttestationBytes platform attestation with
    | error error => simp
    | ok bytes => simp

namespace AttestationAggregator

variable {aggregator : AttestationAggregator platform}

theorem ended_eq_false_iff {member : ValidatorMember} (meant : member.Meant platform)
    {time : Int} : ended platform member.disabledAt time = false ↔
      BeforeEnd platform member.disabledAt time := by
  rw [ended, BeforeEnd]
  cases present : truthy member.disabledAt with
  | none => simp
  | some text =>
      obtain ⟨disabled, parsed⟩ := meant.stops text present
      simp [parsed, numberLe]

/-- A signature under a new label is rejected unless it counts. -/
theorem rejection_eq_none_iff {unsigned : UnsignedAttestation}
    (accepted : assertUnsignedAttestation platform unsigned = .ok ()) {set : ValidatorSet}
    (sound : set.Sound platform) {signature : ValidatorSignature} :
    aggregator.rejection unsigned set signature = none ↔
      signature.Counts platform aggregator.verifier unsigned set := by
  rw [rejection]
  cases found : set.member signature.validatorId with
  | none =>
      refine ⟨fun rejected => (by cases rejected), fun counts => ?_⟩
      obtain ⟨member, listed, named, _⟩ := counts.member
      rw [sound.member_eq_some_iff.mpr ⟨listed, named⟩] at found
      cases found
  | some member =>
      obtain ⟨listed, named⟩ := sound.member_eq_some_iff.mp found
      have meant := sound.meant member listed
      obtain ⟨enabled, parsedEnabled⟩ := meant.starts
      have only : signature.Counts platform aggregator.verifier unsigned set ↔
          (signature.key = member.key ∧ ∃ signedAt,
            platform.dateParse signature.signedAt = some signedAt ∧
              member.SignsAt platform unsigned signedAt) ∧
            signature.Verifies platform aggregator.verifier unsigned := by
        refine ⟨fun counts => ⟨?_, counts.verifies⟩, fun counts =>
          ⟨⟨member, listed, named, counts.1⟩, counts.2⟩⟩
        obtain ⟨other, otherListed, otherNamed, rest⟩ := counts.member
        have same := sound.member_eq_some_iff.mpr ⟨otherListed, otherNamed⟩
        rw [found] at same
        cases same
        exact rest
      rw [only]
      cases parsed : platform.dateParse signature.signedAt with
      | none => simp
      | some signedAt =>
          simp only [parsedEnabled, numberLt, Option.some.injEq, exists_eq_left',
            ValidatorMember.SignsAt, ValidatorMember.EnabledAt, ← ended_eq_false_iff meant,
            ValidatorSignature.key, ValidatorMember.key, Prod.mk.injEq, Bool.or_eq_true,
            decide_eq_true_eq]
          have verified := verifyAttestationSignature_eq_ok_true_iff accepted
            aggregator.verifier parsed
          by_cases early : signedAt < enabled
          · simp [early, not_le.mpr early]
          cases stopped : ended platform member.disabledAt signedAt with
          | true => simp
          | false =>
              by_cases otherKey : signature.algorithm ≠ member.algorithm ∨
                  signature.publicKeyId ≠ member.publicKeyId
              · rw [if_neg (by simp [early]), if_pos otherKey]
                simp only [reduceCtorEq, false_iff]
                tauto
              · rw [if_neg (by simp [early]), if_neg otherKey]
                split
                · rename_i valid
                  obtain ⟨signable, verifies⟩ := verified.mp valid
                  push Not at otherKey
                  simp only [true_iff]
                  exact ⟨⟨otherKey, ⟨not_lt.mp early, trivial⟩, signable⟩, verifies⟩
                · rename_i invalid
                  simp only [reduceCtorEq, false_iff]
                  tauto

/-! ## The loop -/

/-- The loop keeps the first votes that nothing is wrong with. -/
theorem checkFrom_validSignatures (unsigned : UnsignedAttestation) (set : ValidatorSet)
    (seen : List JsString) (signatures : List ValidatorSignature) :
    (aggregator.checkFrom unsigned set seen signatures).validSignatures =
      (firstVotes ValidatorSignature.validatorId seen signatures).filter fun signature =>
        (aggregator.rejection unsigned set signature).isNone := by
  induction signatures generalizing seen with
  | nil => rfl
  | cons signature rest ih =>
      rw [checkFrom, firstVotes]
      split
      · exact ih seen
      · cases wrong : aggregator.rejection unsigned set signature with
        | none => simp only [ih, List.filter_cons, wrong, Option.isNone_none, if_true]
        | some reason =>
            simp only [ih, List.filter_cons, wrong, Option.isNone_some, Bool.false_eq_true,
              if_false]

/-- Every signature is kept or rejected. -/
theorem checkFrom_length (unsigned : UnsignedAttestation) (set : ValidatorSet)
    (seen : List JsString) (signatures : List ValidatorSignature) :
    (aggregator.checkFrom unsigned set seen signatures).validSignatures.length +
      (aggregator.checkFrom unsigned set seen signatures).rejected.length = signatures.length := by
  induction signatures generalizing seen with
  | nil => rfl
  | cons signature rest ih =>
      rw [checkFrom]
      split
      · have kept := ih seen
        simp only [List.length_cons]
        omega
      · have kept := ih (signature.validatorId :: seen)
        cases aggregator.rejection unsigned set signature with
        | none =>
            simp only [List.length_cons]
            omega
        | some reason =>
            simp only [List.length_cons]
            omega

/-- Nothing is rejected exactly when every signature is a first vote that counts. -/
theorem checkFrom_rejected_eq_nil_iff {unsigned : UnsignedAttestation} {set : ValidatorSet}
    {seen : List JsString} {signatures : List ValidatorSignature} :
    (aggregator.checkFrom unsigned set seen signatures).rejected = [] ↔
      ((signatures.map ValidatorSignature.validatorId).Nodup ∧
        ∀ signature ∈ signatures, signature.validatorId ∉ seen) ∧
      ∀ signature ∈ signatures, aggregator.rejection unsigned set signature = none := by
  have total := aggregator.checkFrom_length unsigned set seen signatures
  rw [checkFrom_validSignatures] at total
  have firsts : (firstVotes ValidatorSignature.validatorId seen signatures).Sublist signatures :=
    firstVotes_sublist seen signatures
  have kept := List.length_filter_le (fun signature =>
    (aggregator.rejection unsigned set signature).isNone)
    (firstVotes ValidatorSignature.validatorId seen signatures)
  rw [← firstVotes_eq_self_iff, ← List.length_eq_zero_iff]
  constructor
  · intro none
    have all := firsts.eq_of_length_le (by omega)
    refine ⟨all, fun signature member => ?_⟩
    rw [all] at total
    have every : (signatures.filter fun signature =>
        (aggregator.rejection unsigned set signature).isNone).length = signatures.length := by
      omega
    simpa using List.length_filter_eq_length_iff.mp every signature member
  · rintro ⟨all, valid⟩
    rw [all, List.filter_eq_self.mpr fun signature member => by simp [valid signature member]]
      at total
    omega

theorem sortSignatures_perm (localeCompare : LocaleCompare)
    (signatures : List ValidatorSignature) :
    (sortSignatures localeCompare signatures).Perm signatures :=
  List.mergeSort_perm _ _

/-! ## The verdict -/

/-- The signatures that support an attestation: all of them count, under distinct
labels. -/
structure Supported (aggregator : AttestationAggregator platform)
    (unsigned : UnsignedAttestation) (set : ValidatorSet) (signatures : List ValidatorSignature) :
    Prop where
  labels : (signatures.map ValidatorSignature.validatorId).Nodup
  count : ∀ signature ∈ signatures,
    signature.Counts platform aggregator.verifier unsigned set

theorem check_rejected_eq_nil_iff {unsigned : UnsignedAttestation}
    (accepted : assertUnsignedAttestation platform unsigned = .ok ()) {set : ValidatorSet}
    (sound : set.Sound platform) {signatures : List ValidatorSignature} :
    (aggregator.check unsigned set signatures).rejected = [] ↔
      aggregator.Supported unsigned set signatures := by
  rw [check, checkFrom_rejected_eq_nil_iff]
  simp only [List.not_mem_nil, not_false_eq_true, implies_true, and_true,
    rejection_eq_none_iff accepted sound]
  exact ⟨fun ⟨labels, count⟩ => ⟨labels, count⟩, fun supported => ⟨supported.labels, supported.count⟩⟩

/-- The verdict is SATISFIED before expiry, with nothing rejected and enough kept. -/
theorem result_isSatisfied_iff {set : ValidatorSet} (sound : set.Sound platform)
    {checked : CheckedSignatures} {expired : Bool} :
    (result set checked expired).isSatisfied = true ↔
      expired = false ∧ checked.rejected = [] ∧
        set.threshold.le (.ofNat checked.validSignatures.length) = true := by
  obtain ⟨count, threshold, _⟩ := sound.threshold
  rw [result, threshold, JsNumber.lt_ofNat, JsNumber.le_ofNat]
  cases expired with
  | true => simp [ThresholdVerification.isSatisfied]
  | false =>
      cases checked.rejected with
      | cons first rest => simp [ThresholdVerification.isSatisfied]
      | nil =>
          by_cases few : checked.validSignatures.length < count
          · simp [few, ThresholdVerification.isSatisfied]
          · simp [few, ThresholdVerification.isSatisfied, not_lt.mp few]

theorem expired_eq_false_iff {unsigned : UnsignedAttestation}
    (accepted : assertUnsignedAttestation platform unsigned = .ok ()) {now : Int} :
    expired platform unsigned now = false ↔
      ∃ expires, platform.dateParse unsigned.expiresAt = some expires ∧ now < expires := by
  obtain ⟨observed, valid, expires, window⟩ := assertUnsignedAttestation_window accepted
  simp [expired, window.expiresAt, numberLe]

/-- The whole of `verify` and of the verdict of `aggregate`: before expiry, the supplied
signatures support the attestation and are enough. -/
theorem verdict_isSatisfied_iff {unsigned : UnsignedAttestation}
    (accepted : assertUnsignedAttestation platform unsigned = .ok ()) {set : ValidatorSet}
    (sound : set.Sound platform) {signatures : List ValidatorSignature} {now : Int} :
    (result set (aggregator.check unsigned set signatures)
        (expired platform unsigned now)).isSatisfied = true ↔
      (∃ expires, platform.dateParse unsigned.expiresAt = some expires ∧ now < expires) ∧
        aggregator.Supported unsigned set signatures ∧
        set.threshold.le (.ofNat signatures.length) = true := by
  rw [result_isSatisfied_iff sound, expired_eq_false_iff accepted,
    check_rejected_eq_nil_iff accepted sound]
  refine and_congr_right fun _ => and_congr_right fun supported => ?_
  have total := aggregator.checkFrom_length unsigned set [] signatures
  have none := (check_rejected_eq_nil_iff accepted sound).mpr supported
  rw [check] at none ⊢
  rw [none, List.length_nil, Nat.add_zero] at total
  rw [(sortSignatures_perm _ _).length_eq, total]

/-- `verify` returned SATISFIED. -/
def Satisfies (aggregator : AttestationAggregator platform) (attestation : Attestation)
    (validatorSetId : JsString) (now : Int) : Prop :=
  ∃ verification, aggregator.verify attestation validatorSetId now = .ok verification ∧
    verification.isSatisfied = true

theorem verify_verdict_iff {attestation : Attestation} {validatorSetId : JsString} {now : Int}
    {verdict : Bool} :
    (aggregator.verify attestation validatorSetId now).map (·.isSatisfied) = .ok verdict ↔
      ∃ verification, aggregator.verify attestation validatorSetId now = .ok verification ∧
        verification.isSatisfied = verdict := by
  cases aggregator.verify attestation validatorSetId now with
  | error error => simp [Except.map]
  | ok verification => simp [Except.map]

/-- `verify` accepts the attestation, resolves its set and gives the verdict. -/
theorem verify_eq_ok_iff {attestation : Attestation} {validatorSetId : JsString} {now : Int}
    {verification : ThresholdVerification} :
    aggregator.verify attestation validatorSetId now = .ok verification ↔
      assertUnsignedAttestation platform attestation.toUnsignedAttestation = .ok () ∧
        ∃ set, aggregator.sets.resolve validatorSetId attestation.validFrom = .ok set ∧
          verification = result set
            (aggregator.check attestation.toUnsignedAttestation set attestation.signatures)
            (expired platform attestation.toUnsignedAttestation now) := by
  rw [verify]
  constructor
  · intro returned
    obtain ⟨_, accepted, returned⟩ := ok_of_bind returned
    obtain ⟨set, resolved, returned⟩ := ok_of_bind returned
    cases returned
    exact ⟨accepted, set, resolved, rfl⟩
  · rintro ⟨accepted, set, resolved, rfl⟩
    simp only [accepted, resolved, bind, Except.bind, pure, Except.pure]

theorem satisfies_iff {unsigned : UnsignedAttestation} {signatures : List ValidatorSignature}
    {validatorSetId : JsString} {now : Int} {set : ValidatorSet}
    (accepted : assertUnsignedAttestation platform unsigned = .ok ())
    (resolved : aggregator.sets.resolve validatorSetId unsigned.validFrom = .ok set) :
    aggregator.Satisfies ⟨unsigned, signatures⟩ validatorSetId now ↔
      (∃ expires, platform.dateParse unsigned.expiresAt = some expires ∧ now < expires) ∧
        aggregator.Supported unsigned set signatures ∧
        set.threshold.le (.ofNat signatures.length) = true := by
  have sound := ValidatorSetRegistry.sound_of_get
    (ValidatorSetRegistry.resolve_eq_ok_iff.mp resolved).1
  rw [← verdict_isSatisfied_iff accepted sound]
  constructor
  · rintro ⟨verification, returned, satisfied⟩
    obtain ⟨_, other, otherResolved, rfl⟩ := verify_eq_ok_iff.mp returned
    rw [resolved] at otherResolved
    cases otherResolved
    exact satisfied
  · exact fun satisfied => ⟨_, verify_eq_ok_iff.mpr ⟨accepted, set, resolved, rfl⟩, satisfied⟩

/-- Signatures that support an attestation name distinct keys of the set. -/
theorem Supported.keys_nodup {unsigned : UnsignedAttestation} {set : ValidatorSet}
    (sound : set.Sound platform) {signatures : List ValidatorSignature}
    (supported : aggregator.Supported unsigned set signatures) :
    (signatures.map ValidatorSignature.key).Nodup ∧
      ∀ key ∈ signatures.map ValidatorSignature.key, key ∈ set.members.map ValidatorMember.key := by
  constructor
  · refine List.Nodup.map_on (fun first firstMember second secondMember same => ?_)
      (List.Nodup.of_map _ supported.labels)
    obtain ⟨member, listed, named, key, _⟩ := (supported.count first firstMember).member
    obtain ⟨other, otherListed, otherNamed, otherKey, _⟩ :=
      (supported.count second secondMember).member
    have one := List.inj_on_of_nodup_map sound.keys listed otherListed
      (key.symm.trans (same.trans otherKey))
    refine List.inj_on_of_nodup_map supported.labels firstMember secondMember ?_
    rw [← named, ← otherNamed, one]
  · intro key member
    obtain ⟨signature, listed, rfl⟩ := List.mem_map.mp member
    obtain ⟨owner, ownerListed, _, same, _⟩ := (supported.count signature listed).member
    exact List.mem_map.mpr ⟨owner, ownerListed, same.symm⟩

/-- **What SATISFIED means.** The set resolves, the attestation has not expired, every
supplied signature is that of another member of the set, made in time with its key over the
canonical bytes, and there are at least as many as the threshold; so SATISFIED rests on as
many distinct keys of the set. -/
theorem verify_satisfied_iff (aggregator : AttestationAggregator platform)
    (attestation : Attestation) (validatorSetId : JsString) (now : Int) :
    (aggregator.Satisfies attestation validatorSetId now ↔
      ∃ set, aggregator.sets.resolve validatorSetId attestation.validFrom = .ok set ∧
        (∃ expires, platform.dateParse attestation.expiresAt = some expires ∧ now < expires) ∧
        aggregator.Supported attestation.toUnsignedAttestation set attestation.signatures ∧
        set.threshold.le (.ofNat attestation.signatures.length) = true) ∧
      (aggregator.Satisfies attestation validatorSetId now →
        ∃ set, aggregator.sets.resolve validatorSetId attestation.validFrom = .ok set ∧
          ∃ keys : Finset (JsString × JsString),
            (∀ key ∈ keys, key ∈ set.members.map ValidatorMember.key ∧
              ∃ signature ∈ attestation.signatures, signature.key = key ∧
                signature.Verifies platform aggregator.verifier
                  attestation.toUnsignedAttestation) ∧
            set.threshold.le (.ofNat keys.card) = true) := by
  have meaning : aggregator.Satisfies attestation validatorSetId now ↔
      ∃ set, aggregator.sets.resolve validatorSetId attestation.validFrom = .ok set ∧
        (∃ expires, platform.dateParse attestation.expiresAt = some expires ∧ now < expires) ∧
        aggregator.Supported attestation.toUnsignedAttestation set attestation.signatures ∧
        set.threshold.le (.ofNat attestation.signatures.length) = true := by
    constructor
    · intro satisfied
      have ⟨verification, returned, _⟩ := satisfied
      obtain ⟨accepted, set, resolved, _⟩ := verify_eq_ok_iff.mp returned
      exact ⟨set, resolved, (satisfies_iff accepted resolved).mp satisfied⟩
    · rintro ⟨set, resolved, unexpired, supported, enough⟩
      have sound := ValidatorSetRegistry.sound_of_get
        (ValidatorSetRegistry.resolve_eq_ok_iff.mp resolved).1
      obtain ⟨count, threshold, positive, _⟩ := sound.threshold
      have some_ : attestation.signatures ≠ [] := by
        intro empty
        rw [threshold, JsNumber.le_ofNat, empty, decide_eq_true_eq, List.length_nil] at enough
        omega
      obtain ⟨signature, listed⟩ := List.exists_mem_of_ne_nil _ some_
      obtain ⟨bytes, rendered, _⟩ := (supported.count signature listed).verifies
      exact (satisfies_iff (assertUnsignedAttestation_of_bytes rendered) resolved).mpr
        ⟨unexpired, supported, enough⟩
  refine ⟨meaning, fun satisfied => ?_⟩
  obtain ⟨set, resolved, _, supported, enough⟩ := meaning.mp satisfied
  have sound := ValidatorSetRegistry.sound_of_get
    (ValidatorSetRegistry.resolve_eq_ok_iff.mp resolved).1
  obtain ⟨distinct, registered⟩ := supported.keys_nodup sound
  refine ⟨set, resolved, (attestation.signatures.map ValidatorSignature.key).toFinset,
    fun key member => ?_, ?_⟩
  · rw [List.mem_toFinset] at member
    obtain ⟨signature, listed, same⟩ := List.mem_map.mp member
    exact ⟨registered key member, signature, listed, same,
      (supported.count signature listed).verifies⟩
  · rw [List.toFinset_card_of_nodup distinct, List.length_map]
    exact enough

end AttestationAggregator

/-! ## A set of two members

Their signatures name the key and the signed bytes, so that the verifier accepts
exactly what the holder of a key signed.
-/

namespace TwoMembers

/-- The first member is disabled at noon, the second never. -/
def set : ValidatorSet where
  id := js "validators-1"
  version := js "1"
  threshold := .ofNat 1
  validFrom := js "2026-08-11T11:00:00.000Z"
  validUntil := none
  members := [
    ⟨js "validator-1", js "ED25519", js "key-1", js "2026-08-11T10:00:00.000Z",
      some (js "2026-08-11T12:00:00.000Z")⟩,
    ⟨js "validator-2", js "ED25519", js "key-2", js "2026-08-11T10:00:00.000Z", none⟩]

def registry : ValidatorSetRegistry isoPlatform where
  sets := [set]
  accepted other member := by
    rw [List.mem_singleton.mp member]
    decide +kernel
  distinct := List.nodup_singleton _
  apart := List.pairwise_singleton _ _

def sign (publicKeyId : JsString) (bytes : List UInt8) : JsString :=
  publicKeyId ++ js ":" ++ isoPlatform.sha256Hex bytes

def aggregator : AttestationAggregator isoPlatform where
  sets := registry
  verifier _ publicKeyId signature bytes := .ok (signature = sign publicKeyId bytes)
  localeCompare left right := if left < right then .lt else if left = right then .eq else .gt

def unsigned : UnsignedAttestation where
  version := js "1"
  id := js "IW:ATTESTATION:a1"
  operationId := js "IW:BRIDGE:o1"
  sourceNetworkType := js "EVM"
  sourceNetworkId := js "IW:NETWORK:evm"
  sourceTransactionId := js "0xabc"
  sourceEventPosition := js "block:10:log:2"
  eventType := js "AssetBurned"
  assetId := js "IW:ASSET:usd"
  amount := js "40"
  sender := js "IW:IDENTITY:alice"
  receiver := js "IW:IDENTITY:alice"
  destinationNetworkType := js "CANTON"
  destinationNetworkId := js "IW:NETWORK:canton"
  nonce := js "nonce_1234567890abcdef"
  observedStatePosition := js "finalized:20"
  observedAt := js "2026-08-11T11:50:00.000Z"
  validFrom := js "2026-08-11T11:55:00.000Z"
  expiresAt := js "2026-08-11T13:00:00.000Z"
  policyVersion := js "bridge-7"

/-- A signature over the attestation under a label, with the key of a number. -/
def signature (validatorId publicKeyId signedAt : JsString) : ValidatorSignature where
  validatorId := validatorId
  algorithm := js "ED25519"
  publicKeyId := publicKeyId
  signature := match canonicalAttestationBytes isoPlatform unsigned with
    | .ok bytes => sign publicKeyId bytes
    | .error _ => []
  signedAt := signedAt

/-- 2026-08-11T12:30:00.000Z. -/
def halfPastNoon : Int := 1786451400000

end TwoMembers
end InterWeave
