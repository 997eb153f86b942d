import InterWeave.Async.Transcript
import InterWeave.Attestation.SignedObservations

/-! # When the signer is asked

One call of `verifyAndSign`, whatever the clock, the provider and the signer answer:
the signer is asked after one transcript only, in which the clock read an instant of
the window and the provider returned an observation that agrees with the candidate
in every respect.
-/

namespace InterWeave

open Async

variable {platform : Platform}

/-- The configuration admits an attestation, and expects its source asset. -/
structure ValidatorService.Admits (service : ValidatorService) (attestation : UnsignedAttestation)
    (configuration : ValidatorNetworkConfiguration) (expected : SourceAssetLocator) : Prop where
  configured : configuration ∈ service.networks
  network : configuration.networkId = attestation.sourceNetworkId
  enabled : configuration.enabled = true
  networkType : configuration.networkType = attestation.sourceNetworkType
  policy : ∀ allowed, configuration.allowedPolicyVersions = some allowed →
    attestation.policyVersion ∈ allowed
  asset : configuration.sourceAssets.lookup attestation.assetId = some expected

/-- An instant in the window of an attestation. -/
def UnsignedAttestation.ValidAt (platform : Platform) (attestation : UnsignedAttestation)
    (now : Int) : Prop :=
  ∃ valid expires, platform.dateParse attestation.validFrom = some valid ∧
    platform.dateParse attestation.expiresAt = some expires ∧ valid ≤ now ∧ now < expires

/-- An observation that agrees with an attestation in every respect. -/
structure UnsignedAttestation.BorneOut (attestation : UnsignedAttestation)
    (observation : IndependentSourceObservation) (expected : SourceAssetLocator) : Prop
    extends attestation.Observed observation where
  networkId : observation.networkId = attestation.sourceNetworkId
  transactionId : observation.transactionId = attestation.sourceTransactionId
  succeeded : observation.transactionStatus = .succeeded
  canonical : observation.canonical = true
  sourceAsset : sameLocator observation.sourceAsset expected = true
  eventPosition : observation.eventPosition = attestation.sourceEventPosition
  finalitySatisfied : observation.finalitySatisfied = true
  finalityEvidence : observation.finalityEvidence ≠ []

/-- The question that the validator asks its own reader. -/
def UnsignedAttestation.query (attestation : UnsignedAttestation) (expected : SourceAssetLocator) :
    SourceQuery where
  sourceTransactionId := attestation.sourceTransactionId
  sourceEventPosition := attestation.sourceEventPosition
  expectedSourceAsset := expected

/-- The clock was read, then the provider of the network gave its observation. -/
def consultation (configuration : ValidatorNetworkConfiguration)
    (attestation : UnsignedAttestation) (expected : SourceAssetLocator) (now : Int)
    (observation : IndependentSourceObservation) : List (Exchange validatorInterface) :=
  [⟨.now, .ok now⟩, ⟨.provider configuration, .ok ()⟩,
    ⟨.observe configuration.networkId (attestation.query expected), .ok (some observation)⟩]

/-- The transcript after which a validator signs, with the observation in it: a clock
reading in the window, an observation that bears the attestation out, and a second
clock reading. -/
def ValidatorService.SignsAfter (platform : Platform) (service : ValidatorService)
    (attestation : UnsignedAttestation) (observation : IndependentSourceObservation)
    (exchanges : List (Exchange validatorInterface)) : Prop :=
  ∃ configuration expected now signedAt,
    exchanges = consultation configuration attestation expected now observation ++
        [⟨.now, .ok signedAt⟩] ∧
      service.Admits attestation configuration expected ∧
      attestation.ValidAt platform now ∧ attestation.BorneOut observation expected

theorem UnsignedAttestation.BorneOut.of_reasons {attestation : UnsignedAttestation}
    {observation : IndependentSourceObservation} {expected : SourceAssetLocator}
    (clean : observationReasons attestation observation expected = []) :
    attestation.BorneOut observation expected := by
  have observed := UnsignedAttestation.Observed.of_reasons clean
  rw [observationReasons, failedChecks_eq_nil_iff] at clean
  simp only [List.forall_mem_cons, Bool.or_eq_false_iff, bne_eq_false_iff_eq,
    Bool.not_eq_false'] at clean
  obtain ⟨network, transaction, canonical, asset, event, _, _, _, _, _, final, _⟩ := clean
  exact { observed with
    networkId := network.1
    transactionId := transaction.1
    succeeded := transaction.2
    canonical := canonical
    sourceAsset := asset
    eventPosition := event.1
    finalitySatisfied := final.1
    finalityEvidence := List.isEmpty_eq_false_iff.mp final.2 }

/-- Without preliminary reasons, the configuration admits the attestation at that instant. -/
theorem ValidatorService.Admits.of_reasons {service : ValidatorService}
    {attestation : UnsignedAttestation}
    (accepted : assertUnsignedAttestation platform attestation = .ok ())
    {configuration : ValidatorNetworkConfiguration}
    (found : service.networks.find? (fun network =>
      network.networkId == attestation.sourceNetworkId) = some configuration)
    (enabled : configuration.enabled = true) {now : Int} {expected : SourceAssetLocator}
    (asset : configuration.sourceAssets.lookup attestation.assetId = some expected)
    (clean : preliminaryReasons platform configuration attestation now = []) :
    service.Admits attestation configuration expected ∧ attestation.ValidAt platform now := by
  obtain ⟨_, valid, expires, window⟩ := assertUnsignedAttestation_window accepted
  rw [preliminaryReasons, failedChecks_eq_nil_iff] at clean
  simp only [List.forall_mem_cons, bne_eq_false_iff_eq, window.validFrom, window.expiresAt,
    numberLt, numberLe, decide_eq_false_iff_not, not_lt, not_le] at clean
  obtain ⟨networkType, policy, _, started, unexpired, _⟩ := clean
  refine ⟨{
    configured := List.mem_of_find?_eq_some found
    network := by simpa using List.find?_some found
    enabled := enabled
    networkType := networkType
    policy := fun allowed listed => ?_
    asset := asset }, valid, expires, window.validFrom, window.expiresAt, started, unexpired⟩
  rw [listed] at policy
  simpa using policy

/-! ## The protocol of one call -/

/-- The signer is asked for the canonical bytes of the candidate, after a transcript that
justifies it. -/
def ValidatorService.asks (platform : Platform) (service : ValidatorService)
    (attestation : UnsignedAttestation) (exchanges : List (Exchange validatorInterface)) :
    ValidatorCall → Prop
  | .sign signed bytes => signed = attestation ∧
      canonicalAttestationBytes platform attestation = .ok bytes ∧
      ∃ observation, service.SignsAfter platform attestation observation exchanges
  | _ => True

/-- A SIGNED decision carries the digest of the candidate, the observation, and what the
signer returned for the canonical bytes. -/
def ValidatorService.decides (platform : Platform) (service : ValidatorService)
    (attestation : UnsignedAttestation) (exchanges : List (Exchange validatorInterface)) :
    Except Thrown ValidatorDecision → Prop
  | .ok (.signed validatorId digest signature evidence) =>
      attestationDigest platform attestation = .ok digest ∧
      validatorId = service.signer.validatorId ∧
      signature.validatorId = service.signer.validatorId ∧
      signature.algorithm = service.signer.algorithm ∧
      signature.publicKeyId = service.signer.publicKeyId ∧
      ∃ bytes consulted, canonicalAttestationBytes platform attestation = .ok bytes ∧
        exchanges = consulted ++ [⟨.sign attestation bytes, .ok signature.signature⟩] ∧
        service.SignsAfter platform attestation evidence consulted
  | _ => True

variable {service : ValidatorService} {attestation : UnsignedAttestation}

theorem signAttestation_asks {observation : IndependentSourceObservation} (signedAt : JsString)
    {exchanges : List (Exchange validatorInterface)}
    (justified : service.SignsAfter platform attestation observation exchanges) :
    (signAttestation platform attestation service.signer signedAt).Follows
      (transcriptProtocol (service.asks platform attestation))
      (fun there outcome => ∀ signature, outcome = .ok signature →
        signature.validatorId = service.signer.validatorId ∧
        signature.algorithm = service.signer.algorithm ∧
        signature.publicKeyId = service.signer.publicKeyId ∧
        ∃ bytes, canonicalAttestationBytes platform attestation = .ok bytes ∧
          there = exchanges ++ [⟨.sign attestation bytes, .ok signature.signature⟩]) exchanges := by
  refine .ofExcept_seq (fun time _ => ?_) fun error _ signature same => nomatch same
  split
  · exact fun signature same => nomatch same
  · split
    · exact fun signature same => nomatch same
    · refine .ofExcept_seq (fun bytes rendered => ?_) fun error _ signature same => nomatch same
      refine .call_seq ⟨rfl, rendered, observation, justified⟩ (fun value _ => ?_)
        fun error _ signature same => nomatch same
      intro signature same
      cases same
      exact ⟨rfl, rfl, rfl, bytes, rendered, rfl⟩

/-- What the `try` block returns is what the provider answered. -/
theorem ValidatorService.observeSource_asks (configuration : ValidatorNetworkConfiguration)
    (expected : SourceAssetLocator) (now : Int) :
    (observeSource configuration attestation expected).Follows
      (transcriptProtocol (service.asks platform attestation))
      (fun there outcome => ∀ observation, outcome = .ok (some observation) →
        there = consultation configuration attestation expected now observation)
      [⟨.now, .ok now⟩] := by
  refine .call_seq trivial (fun _ _ => ?_) fun _ _ _ same => nomatch same
  refine ⟨trivial, fun answer _ observation same => ?_⟩
  subst same
  rfl

theorem ValidatorService.signObserved_asks {configuration : ValidatorNetworkConfiguration}
    {expected : SourceAssetLocator} (admits : service.Admits attestation configuration expected)
    {now : Int} (valid : attestation.ValidAt platform now)
    (observation : IndependentSourceObservation) :
    (service.signObserved platform attestation observation expected).Follows
      (transcriptProtocol (service.asks platform attestation))
      (service.decides platform attestation)
      (consultation configuration attestation expected now observation) := by
  rw [signObserved]
  split
  · trivial
  · rename_i clean
    have borneOut := UnsignedAttestation.BorneOut.of_reasons (not_not.mp clean)
    refine .call_seq trivial (fun signedAt _ => ?_) fun _ _ => trivial
    have justified : service.SignsAfter platform attestation observation
        (consultation configuration attestation expected now observation ++
          [⟨.now, .ok signedAt⟩]) :=
      ⟨configuration, expected, now, signedAt, rfl, admits, valid, borneOut⟩
    refine .seq (signAttestation_asks _ justified) (fun there signature signed => ?_)
      fun _ _ _ => trivial
    obtain ⟨validatorId, algorithm, publicKeyId, bytes, rendered, same⟩ := signed signature rfl
    refine .ofExcept_seq (fun digest digested => ?_) fun _ _ => trivial
    exact ⟨digested, rfl, validatorId, algorithm, publicKeyId, bytes, _, rendered, same, justified⟩

theorem ValidatorService.verifyAndSign_asks (platform : Platform) (service : ValidatorService)
    (attestation : UnsignedAttestation) :
    (service.verifyAndSign platform attestation).Follows
      (transcriptProtocol (service.asks platform attestation))
      (service.decides platform attestation) [] := by
  refine .ofExcept_seq (fun _ accepted => ?_) fun _ _ => trivial
  split
  · trivial
  · rename_i configuration found
    split
    · trivial
    · rename_i enabled
      refine .call_seq trivial (fun now _ => ?_) fun _ _ => trivial
      split
      · rename_i clean asset
        obtain ⟨admits, valid⟩ := ValidatorService.Admits.of_reasons accepted found
          (by simpa using enabled) asset clean
        refine .attempt_seq (observeSource_asks configuration _ now) fun there outcome asked => ?_
        match outcome with
        | .error _ => trivial
        | .ok none => trivial
        | .ok (some observation) =>
            obtain rfl := asked observation rfl
            exact signObserved_asks admits valid observation
      · trivial

/-- **When the signer is asked.** Whatever the clock, the provider and the signer answer, the
signer is asked only for the canonical bytes of the candidate, after a first clock reading in its
window and an observation that bears it out, on a network that is configured, enabled and of its
type, under an allowed policy; and a SIGNED decision carries the digest of the candidate and what
the signer returned for those bytes. -/
theorem ValidatorService.verifyAndSign_signs (platform : Platform) (service : ValidatorService)
    (attestation : UnsignedAttestation) (exchanges : List (Exchange validatorInterface)) :
    (∀ signed bytes resume, (service.verifyAndSign platform attestation).Reaches exchanges
        (.await (.sign signed bytes) resume) →
      signed = attestation ∧ canonicalAttestationBytes platform attestation = .ok bytes ∧
        ∃ observation, service.SignsAfter platform attestation observation exchanges) ∧
    (∀ validatorId digest signature evidence,
      (service.verifyAndSign platform attestation).Reaches exchanges
          (.settled (.ok (.signed validatorId digest signature evidence))) →
        attestationDigest platform attestation = .ok digest ∧
        validatorId = service.signer.validatorId ∧
        signature.validatorId = service.signer.validatorId ∧
        signature.algorithm = service.signer.algorithm ∧
        signature.publicKeyId = service.signer.publicKeyId ∧
        ∃ bytes consulted, canonicalAttestationBytes platform attestation = .ok bytes ∧
          exchanges = consulted ++ [⟨.sign attestation bytes, .ok signature.signature⟩] ∧
          service.SignsAfter platform attestation evidence consulted) := by
  have follows := service.verifyAndSign_asks platform attestation
  exact ⟨fun signed bytes resume reaches => follows.admits_of_reaches reaches,
    fun validatorId digest signature evidence reaches => follows.post_of_reaches reaches⟩

end InterWeave
