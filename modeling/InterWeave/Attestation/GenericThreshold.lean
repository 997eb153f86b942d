import InterWeave.Attestation.GenericAttestation
import InterWeave.Attestation.ThresholdVerification

/-! # Labels and keys of generic attestations

`verifyGenericAttestation` counts labels, and the labels are not signed. The count is
one of keys only where the first signatures under the labels name distinct keys; and
the threshold it is held against is the caller's, whatever the statement says.
-/

namespace InterWeave

open Atomic

variable {platform : Platform}

/-- The verifier accepts a signature over some bytes. -/
def ValidatorSignature.acceptedBy (verifier : AttestationSignatureVerifier) (bytes : List UInt8)
    (signature : ValidatorSignature) : Bool :=
  match verifier signature.algorithm signature.publicKeyId signature.signature bytes with
  | .ok true => true
  | _ => false

theorem ValidatorSignature.acceptedBy_iff {verifier : AttestationSignatureVerifier}
    {bytes : List UInt8} {signature : ValidatorSignature} :
    signature.acceptedBy verifier bytes = true ↔
      verifier signature.algorithm signature.publicKeyId signature.signature bytes = .ok true := by
  rw [acceptedBy]
  split
  · rename_i accepted
    simp only [accepted]
  · rename_i refused
    exact ⟨fun impossible => (by cases impossible), fun accepted => (refused accepted).elim⟩

/-- The loop counts the first votes that the verifier accepts. -/
theorem countValid_eq {verifier : AttestationSignatureVerifier} {bytes : List UInt8}
    {seen : List JsString} {signatures : List ValidatorSignature} {valid : Nat}
    (counted : countValid verifier bytes seen signatures = .ok valid) :
    valid = (firstVotes ValidatorSignature.validatorId seen signatures).countP
      (·.acceptedBy verifier bytes) := by
  induction signatures generalizing seen valid with
  | nil =>
      cases counted
      rfl
  | cons signature rest ih =>
      rw [countValid] at counted
      rw [firstVotes]
      split at counted
      · rename_i known
        rw [if_pos known]
        exact ih counted
      · rename_i fresh
        obtain ⟨accepted, answered, counted⟩ := ok_of_bind counted
        obtain ⟨others, countedRest, counted⟩ := ok_of_bind counted
        cases counted
        rw [if_neg fresh, List.countP_cons, ← ih countedRest, ValidatorSignature.acceptedBy,
          answered]
        cases accepted <;> rfl

/-- A verifier that answers every question lets the loop finish. -/
theorem countValid_of_total (verifier : AttestationSignatureVerifier)
    (total : ∀ algorithm publicKeyId signature bytes,
      ∃ answer, verifier algorithm publicKeyId signature bytes = .ok answer)
    (bytes : List UInt8) (seen : List JsString) (signatures : List ValidatorSignature) :
    ∃ valid, countValid verifier bytes seen signatures = .ok valid := by
  induction signatures generalizing seen with
  | nil => exact ⟨0, rfl⟩
  | cons signature rest ih =>
      rw [countValid]
      split
      · exact ih seen
      · obtain ⟨answer, answered⟩ := total signature.algorithm signature.publicKeyId
          signature.signature bytes
        obtain ⟨others, counted⟩ := ih (signature.validatorId :: seen)
        refine ⟨if answer then others + 1 else others, ?_⟩
        rw [answered, counted]
        rfl

/-! ## The checks beside the count -/

/-- What `verifyGenericAttestation` asks of an attestation beside its signatures. -/
structure GenericStateAttestation.Opens (platform : Platform)
    (attestation : GenericStateAttestation) (threshold : JsNumber) (now : Int) : Prop where
  statement : validateStatement platform attestation.statement = .ok ()
  status : attestation.status = js "VERIFIED_EVIDENCE_ONLY"
  evidenceOnly : attestation.destinationMutationAuthorized = false
  unexpired : numberLe (platform.dateParse attestation.statement.expiresAt) (some now) = false
  positive : threshold.lt (.ofNat 1) = false
  digest : genericAttestationDigest platform attestation.statement = .ok attestation.digest

theorem verifyGenericAttestation_eq_true_iff {attestation : GenericStateAttestation}
    {threshold : JsNumber} {verifier : AttestationSignatureVerifier} {now : Int} :
    verifyGenericAttestation platform attestation threshold verifier now = .ok true ↔
      attestation.Opens platform threshold now ∧ ∃ bytes valid,
        canonicalGenericAttestationBytes platform attestation.statement = .ok bytes ∧
          countValid verifier bytes [] attestation.signatures = .ok valid ∧
          threshold.le (.ofNat valid) = true := by
  rw [verifyGenericAttestation]
  constructor
  · intro returned
    obtain ⟨_, statement, returned⟩ := ok_of_bind returned
    split at returned
    · cases returned
    rename_i opens
    simp only [not_or, not_not, Bool.not_eq_true] at opens
    obtain ⟨bytes, rendered, returned⟩ := ok_of_bind returned
    obtain ⟨valid, counted, returned⟩ := ok_of_bind returned
    split at returned
    · rename_i enough
      obtain ⟨digest, digested, returned⟩ := ok_of_bind returned
      have same : digest = attestation.digest := by
        simpa [pure, Except.pure] using returned
      exact ⟨⟨statement, opens.1, opens.2.1, opens.2.2.1, opens.2.2.2, same ▸ digested⟩, bytes,
        valid, rendered, counted, enough⟩
    · cases returned
  · rintro ⟨opens, bytes, valid, rendered, counted, enough⟩
    simp only [opens.statement, opens.status, opens.evidenceOnly, opens.unexpired, opens.positive,
      opens.digest, rendered, counted, enough, bind, Except.bind, pure, Except.pure, ne_eq,
      not_true_eq_false, Bool.false_eq_true, or_self, if_false, if_true, decide_true]

/-! ## Keys -/

/-- A signature verifies over the canonical bytes of a statement under the key it names. -/
def ValidatorSignature.Signs (platform : Platform) (verifier : AttestationSignatureVerifier)
    (statement : GenericAttestationStatement) (signature : ValidatorSignature) : Prop :=
  ∃ bytes, canonicalGenericAttestationBytes platform statement = .ok bytes ∧
    verifier signature.algorithm signature.publicKeyId signature.signature bytes = .ok true

namespace GenericStateAttestation

/-- Distinct keys that validly signed the statement, as many as the larger of the
caller's and the signed threshold. -/
def KeysReach (platform : Platform) (verifier : AttestationSignatureVerifier)
    (attestation : GenericStateAttestation) (threshold : JsNumber) : Prop :=
  ∃ keys : Finset (JsString × JsString),
    (∀ key ∈ keys, ∃ signature ∈ attestation.signatures, signature.key = key ∧
      signature.Signs platform verifier attestation.statement) ∧
    threshold.le (.ofNat keys.card) = true ∧
    attestation.statement.threshold.le (.ofNat keys.card) = true

/-- The signatures that are counted, whatever the verifier says of them. -/
def firsts (attestation : GenericStateAttestation) : List ValidatorSignature :=
  firstVotes ValidatorSignature.validatorId [] attestation.signatures

/-- A count of labels is a count of enough keys: a number of labels that reaches the
caller's threshold reaches the signed one, and no two labels share a key, unless one
label is enough. -/
structure LabelsCountKeys (attestation : GenericStateAttestation) (threshold : JsNumber) :
    Prop where
  signedThreshold : ∀ labels : Nat, threshold.le (.ofNat labels) = true →
    attestation.statement.threshold.le (.ofNat labels) = true
  distinct : threshold.le (.ofNat 1) = true ∨
    (attestation.firsts.map ValidatorSignature.key).Nodup

/-- The verifier of a world in which some keys sign, and only they. -/
def keyHolders (keys : Finset (JsString × JsString)) : AttestationSignatureVerifier :=
  fun algorithm publicKeyId _ _ => .ok ((algorithm, publicKeyId) ∈ keys)

theorem countValid_keyHolders (keys : Finset (JsString × JsString)) (bytes : List UInt8)
    (signatures : List ValidatorSignature) :
    countValid (keyHolders keys) bytes [] signatures =
      .ok (votesOf ValidatorSignature.key keys
        (firstVotes ValidatorSignature.validatorId [] signatures)) := by
  obtain ⟨valid, counted⟩ := countValid_of_total (keyHolders keys)
    (fun _ _ _ _ => ⟨_, rfl⟩) bytes [] signatures
  rw [counted, countValid_eq counted, votesOf]
  congr 1
  refine List.countP_congr fun signature _ => ?_
  rw [ValidatorSignature.acceptedBy_iff, keyHolders, Except.ok.injEq]
  rfl

variable {attestation : GenericStateAttestation} {threshold : JsNumber} {now : Int}

/-- The keys that signed are among those of the holders. -/
theorem KeysReach.card_le {keys : Finset (JsString × JsString)}
    (reach : attestation.KeysReach platform (keyHolders keys) threshold) :
    threshold.le (.ofNat keys.card) = true ∧
      attestation.statement.threshold.le (.ofNat keys.card) = true := by
  obtain ⟨signers, signed, callers, statements⟩ := reach
  have within : signers.card ≤ keys.card := by
    refine Finset.card_le_card fun key member => ?_
    obtain ⟨signature, _, rfl, bytes, _, accepted⟩ := signed key member
    rw [keyHolders, Except.ok.injEq, decide_eq_true_eq] at accepted
    exact accepted
  exact ⟨JsNumber.le_ofNat_mono callers within, JsNumber.le_ofNat_mono statements within⟩

/-- Holders of some keys obtain `true` as soon as they stand behind enough labels. -/
theorem Opens.verify_keyHolders (opens : attestation.Opens platform threshold now)
    (keys : Finset (JsString × JsString))
    (enough : threshold.le (.ofNat (votesOf ValidatorSignature.key keys attestation.firsts)) =
      true) :
    verifyGenericAttestation platform attestation threshold (keyHolders keys) now = .ok true := by
  obtain ⟨bytes, rendered, _⟩ := ok_of_bind opens.digest
  exact verifyGenericAttestation_eq_true_iff.mpr
    ⟨opens, bytes, _, rendered, countValid_keyHolders keys bytes attestation.signatures, enough⟩

/-- Where labels count keys, `true` is the word of enough keys. -/
theorem LabelsCountKeys.keysReach (countKeys : attestation.LabelsCountKeys threshold)
    {verifier : AttestationSignatureVerifier}
    (returned : verifyGenericAttestation platform attestation threshold verifier now = .ok true) :
    attestation.KeysReach platform verifier threshold := by
  obtain ⟨opens, bytes, valid, rendered, counted, enough⟩ :=
    verifyGenericAttestation_eq_true_iff.mp returned
  have accepted := countValid_eq counted
  have signs : ∀ signature ∈ attestation.firsts.filter (·.acceptedBy verifier bytes),
      signature ∈ attestation.signatures ∧
        signature.Signs platform verifier attestation.statement := by
    intro signature member
    obtain ⟨listed, holds⟩ := List.mem_filter.mp member
    exact ⟨(firstVotes_sublist [] attestation.signatures).subset listed, bytes, rendered,
      ValidatorSignature.acceptedBy_iff.mp holds⟩
  rw [List.countP_eq_length_filter] at accepted
  rcases countKeys.distinct with one | distinct
  · -- one label is enough, and there is one
    have present : attestation.firsts.filter (·.acceptedBy verifier bytes) ≠ [] := by
      intro empty
      rw [firsts] at empty
      rw [empty, List.length_nil] at accepted
      rw [accepted, JsNumber.not_le_zero opens.positive] at enough
      cases enough
    obtain ⟨signature, member⟩ := List.exists_mem_of_ne_nil _ present
    refine ⟨{signature.key}, fun key same => ?_, ?_, ?_⟩
    · rw [Finset.mem_singleton.mp same]
      exact ⟨signature, (signs signature member).1, rfl, (signs signature member).2⟩
    · rw [Finset.card_singleton]
      exact one
    · rw [Finset.card_singleton]
      exact countKeys.signedThreshold 1 one
  · let keys := (attestation.firsts.filter (·.acceptedBy verifier bytes)).map
      ValidatorSignature.key
    have chosen : keys.Nodup := distinct.sublist (List.filter_sublist.map _)
    have card : keys.toFinset.card = valid := by
      rw [List.toFinset_card_of_nodup chosen, List.length_map, accepted, firsts]
    refine ⟨keys.toFinset, fun key member => ?_, ?_, ?_⟩
    · obtain ⟨signature, listed, same⟩ := List.mem_map.mp (List.mem_toFinset.mp member)
      exact ⟨signature, (signs signature listed).1, same, (signs signature listed).2⟩
    · rw [card]
      exact enough
    · rw [card]
      exact countKeys.signedThreshold valid enough

/-- Where labels do not count keys, some holders of too few keys stand behind enough labels. -/
theorem exists_few_keyHolders (reachable : threshold.le (.ofNat attestation.firsts.length) = true)
    (miscounted : ¬ attestation.LabelsCountKeys threshold) :
    ∃ keys : Finset (JsString × JsString),
      threshold.le (.ofNat (votesOf ValidatorSignature.key keys attestation.firsts)) = true ∧
        (threshold.le (.ofNat keys.card) = false ∨
          attestation.statement.threshold.le (.ofNat keys.card) = false) := by
  obtain ⟨quorum, reached⟩ := JsNumber.exists_quorum reachable
  have atMost := (reached _).mp reachable
  by_cases signed : ∀ labels : Nat, threshold.le (.ofNat labels) = true →
      attestation.statement.threshold.le (.ofNat labels) = true
  · -- two labels share a key, and one label is not enough
    have shared : ¬ (threshold.le (.ofNat 1) = true ∨
        (attestation.firsts.map ValidatorSignature.key).Nodup) :=
      fun distinct => miscounted ⟨signed, distinct⟩
    rw [not_or, reached] at shared
    obtain ⟨keys, few, enough⟩ := exists_few_voters shared.2 (by omega) atMost
    refine ⟨keys, (reached _).mpr enough, Or.inl ?_⟩
    rw [Bool.eq_false_iff, ne_eq, reached]
    omega
  · -- the keys of just enough labels are too few for the signed threshold
    push Not at signed
    obtain ⟨labels, callers, short⟩ := signed
    refine ⟨((attestation.firsts.take quorum).map ValidatorSignature.key).toFinset,
      (reached _).mpr ?_, Or.inr ?_⟩
    · have taken : quorum ≤ (attestation.firsts.take quorum).length := by
        rw [List.length_take]
        omega
      exact taken.trans (length_le_votesOf_of_sublist (List.take_sublist _ _))
    · rw [Bool.eq_false_iff]
      intro enough
      refine short (JsNumber.le_ofNat_mono enough ?_)
      have most := (List.toFinset_card_le
        ((attestation.firsts.take quorum).map ValidatorSignature.key))
      rw [List.length_map, List.length_take] at most
      have least := (reached labels).mp callers
      omega

/-- **When `true` means enough keys.** Whatever the verifier accepts, `true` rests on as many
distinct keys as the larger threshold asks, exactly when the attestation is refused by the
checks beside the count, has fewer labels than the caller asks for, or its labels count keys. -/
theorem keysReach_iff (platform : Platform) (attestation : GenericStateAttestation)
    (threshold : JsNumber) (now : Int) :
    (∀ verifier, verifyGenericAttestation platform attestation threshold verifier now = .ok true →
        attestation.KeysReach platform verifier threshold) ↔
      ¬ attestation.Opens platform threshold now ∨
        threshold.le (.ofNat attestation.firsts.length) = false ∨
          attestation.LabelsCountKeys threshold := by
  constructor
  · intro sound
    by_contra neither
    simp only [not_or, not_not, Bool.not_eq_false] at neither
    obtain ⟨opens, reachable, miscounted⟩ := neither
    obtain ⟨keys, enough, few⟩ := exists_few_keyHolders reachable miscounted
    obtain ⟨callers, statements⟩ := (sound _ (opens.verify_keyHolders _ enough)).card_le
    rcases few with few | few
    · rw [few] at callers
      cases callers
    · rw [few] at statements
      cases statements
  · rintro settled verifier returned
    obtain ⟨opens, bytes, valid, _, counted, enough⟩ :=
      verifyGenericAttestation_eq_true_iff.mp returned
    rcases settled with closed | short | countKeys
    · exact (closed opens).elim
    · have within := List.countP_le_length (p := (·.acceptedBy verifier bytes))
        (l := attestation.firsts)
      rw [firsts, ← countValid_eq counted] at within
      rw [firsts, JsNumber.le_ofNat_mono enough within] at short
      cases short
    · exact countKeys.keysReach returned

end GenericStateAttestation

/-! ## One key under two labels -/

namespace RelabelledKey

/-- Its own threshold is two. -/
def statement : GenericAttestationStatement where
  id := js "IW:ATTESTATION:g1"
  idempotencyKey := js "request-1"
  sourceNetworkId := js "IW:NETWORK:evm"
  sourceNetworkType := js "EVM"
  sourceTransactionId := js "0xabc"
  sourceEventPosition := js "log:1"
  predicateType := js "reserve"
  claims := ⟨[(js "reserved", .boolean true)], List.nodup_singleton _⟩
  nonce := js "abcdefghijklmnop"
  policyVersion := js "p1"
  validatorSetId := js "set-1"
  threshold := .ofNat 2
  validFrom := js "2026-08-11T12:00:00.000Z"
  expiresAt := js "2026-08-11T13:00:00.000Z"
  createdAt := js "2026-08-11T11:59:00.000Z"
  version := js "1"
  observedStatePosition := js "finalized:20"
  observedAt := js "2026-08-11T11:58:00.000Z"

def attestation (signatures : List ValidatorSignature) : GenericStateAttestation where
  statement := statement
  signatures := signatures
  digest := match genericAttestationDigest isoPlatform statement with
    | .ok digest => digest
    | .error _ => []
  status := js "VERIFIED_EVIDENCE_ONLY"
  destinationMutationAuthorized := false

theorem rendered : ∃ bytes, canonicalGenericAttestationBytes isoPlatform statement = .ok bytes := by
  have fine : (canonicalGenericAttestationBytes isoPlatform statement).isOk = true := by
    decide +kernel
  cases returned : canonicalGenericAttestationBytes isoPlatform statement with
  | ok bytes => exact ⟨bytes, rfl⟩
  | error error =>
      rw [returned] at fine
      cases fine

theorem opens (signatures : List ValidatorSignature) {threshold : JsNumber}
    (positive : threshold.lt (.ofNat 1) = false) {now : Int}
    (unexpired : numberLe (isoPlatform.dateParse statement.expiresAt) (some now) = false) :
    (attestation signatures).Opens isoPlatform threshold now := by
  obtain ⟨bytes, returned⟩ := rendered
  obtain ⟨_, accepted, _⟩ := ok_of_bind returned
  have digested : genericAttestationDigest isoPlatform statement =
      .ok (js "sha256:" ++ isoPlatform.sha256Hex bytes) := by
    rw [genericAttestationDigest, returned]
    rfl
  refine ⟨accepted, rfl, rfl, unexpired, positive, ?_⟩
  simp only [attestation, digested]

/-- One key under two labels. -/
def signatures : List ValidatorSignature :=
  [js "validator-1", js "validator-2"].map fun label =>
    ⟨label, js "ED25519", js "key-1", js "signed", js "2026-08-11T12:01:00.000Z"⟩

theorem one_key_reaches_two : ¬ ∀ verifier,
    verifyGenericAttestation isoPlatform (attestation signatures) (.ofNat 2) verifier
        TwoMembers.halfPastNoon = .ok true →
      (attestation signatures).KeysReach isoPlatform verifier (.ofNat 2) := by
  intro sound
  have open_ : (attestation signatures).Opens isoPlatform (.ofNat 2) TwoMembers.halfPastNoon :=
    opens signatures (by rw [JsNumber.lt_ofNat]; rfl) (by decide +kernel)
  have returned := open_.verify_keyHolders {(js "ED25519", js "key-1")} (by
    decide +kernel)
  have reach := (sound _ returned).card_le.1
  rw [Finset.card_singleton, JsNumber.le_ofNat] at reach
  cases reach

end RelabelledKey
end InterWeave
