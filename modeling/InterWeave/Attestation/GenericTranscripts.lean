import InterWeave.Async.Transcript
import InterWeave.Attestation.GenericService
import InterWeave.Attestation.GenericThreshold
import InterWeave.Core.CanonicalText
import Mathlib.Data.List.Forall2

/-! # Transcripts of generic attestations

What a transcript of `request` shows of the record that is saved after it: whom it has asked,
what they have observed and signed, and from when on the attestation verifies.
-/

namespace InterWeave

open Async Atomic

variable {platform : Platform} {numbers : Rat → Prop}

/-! ## Observations -/

/-- The claims have no numbers but some. -/
def GenericClaims.Over (numbers : Rat → Prop) (claims : GenericClaims) : Prop :=
  ∀ key value, (key, .number (.finite value)) ∈ claims.entries → numbers value

/-- An observation of exactly what was requested. -/
structure GenericSourceObservation.Confirms (numbers : Rat → Prop)
    (observation : GenericSourceObservation) (request : GenericAttestationRequest) : Prop where
  networkId : observation.networkId = request.sourceNetworkId
  networkType : observation.networkType = request.sourceNetworkType
  transactionId : observation.transactionId = request.sourceTransactionId
  eventPosition : observation.eventPosition = request.sourceEventPosition
  predicateType : observation.predicateType = request.predicateType
  claims : request.claims.Over numbers → observation.claims.Over numbers →
    observation.claims.entries.Perm request.claims.entries
  canonical : observation.canonical = true
  finalitySatisfied : observation.finalitySatisfied = true
  finalityEvidence : observation.finalityEvidence ≠ []

theorem GenericClaimValue.toJs_injective : Function.Injective GenericClaimValue.toJs := by
  intro first second same
  cases first <;> cases second <;> cases same <;> rfl

theorem GenericClaimValue.sorted_toJs (value : GenericClaimValue) : value.toJs.sorted = value.toJs := by
  cases value <;> rfl

theorem GenericClaims.over_toJs {claims : GenericClaims} (within : claims.Over numbers) :
    claims.toJs.Over numbers := by
  rw [toJs, JsValue.Over, JsValue.propertiesOver_iff]
  intro property member
  obtain ⟨⟨key, value⟩, listed, rfl⟩ := List.mem_map.mp member
  cases value with
  | number value =>
      cases value with
      | finite value => exact within key value listed
      | _ => trivial
  | _ => trivial

/-- Claims with the same canonical text are the same, whatever their order. -/
theorem GenericClaims.perm_of_canonicalJson (formats : platform.Formats numbers)
    {claims others : GenericClaims} {text : JsString} (within : claims.Over numbers)
    (further : others.Over numbers) (rendered : canonicalJson platform claims.toJs = .ok text)
    (renders : canonicalJson platform others.toJs = .ok text) :
    claims.entries.Perm others.entries := by
  have same := sorted_eq_of_canonicalJson formats (over_toJs within) (over_toJs further) rendered
    renders
  have plain : ∀ claims : GenericClaims, claims.toJs.sorted = .object
      ((claims.entries.map fun entry => (entry.1, entry.2.toJs)).insertionSort entryLe) := by
    intro claims
    rw [toJs, JsValue.sorted, JsValue.sortedProperties_eq_map, List.map_map]
    congr 3
    funext entry
    exact Prod.ext rfl entry.2.sorted_toJs
  rw [plain, plain, JsValue.object.injEq] at same
  have permuted := ((List.perm_insertionSort entryLe _).symm.trans (List.Perm.of_eq same)).trans
    (List.perm_insertionSort entryLe _)
  refine (List.map_perm_map_iff fun first second equal => ?_).mp permuted
  obtain ⟨key, value⟩ := Prod.mk.inj equal
  exact Prod.ext key (GenericClaimValue.toJs_injective value)

/-- An observation that meets no objection. -/
structure GenericSourceObservation.Accepted (platform : Platform)
    (observation : GenericSourceObservation) (input : GenericAttestationRequest) : Prop where
  confirms : ∀ numbers, platform.Formats numbers → observation.Confirms numbers input
  position : observation.observedStatePosition.isBlank = false
  observedAt : (platform.dateParse observation.observedAt).isSome = true

theorem GenericSourceObservation.Accepted.of_mismatch {observation : GenericSourceObservation}
    {input : GenericAttestationRequest}
    (fine : observationMismatch platform input observation = .ok none) :
    observation.Accepted platform input := by
  rw [observationMismatch] at fine
  split at fine
  · cases fine
  rename_i network
  split at fine
  · cases fine
  rename_i event
  obtain ⟨observed, rendered, fine⟩ := ok_of_bind fine
  obtain ⟨requested, renders, fine⟩ := ok_of_bind fine
  split at fine
  · cases fine
  rename_i claims
  split at fine
  · cases fine
  rename_i canonical
  split at fine
  · cases fine
  rename_i final
  split at fine
  · cases fine
  rename_i valid
  simp only [not_or, not_not] at network event
  simp only [Bool.or_eq_true, Bool.not_eq_true', not_or, Bool.not_eq_false, Bool.not_eq_true,
    List.isEmpty_eq_false_iff] at canonical final
  simp only [Bool.or_eq_true, not_or, Bool.not_eq_true, Option.isNone_eq_false_iff] at valid
  obtain rfl := not_not.mp claims
  exact {
    confirms := fun numbers formats => {
      networkId := network.1
      networkType := network.2
      transactionId := event.1
      eventPosition := event.2.1
      predicateType := event.2.2
      claims := fun within further =>
        GenericClaims.perm_of_canonicalJson formats further within rendered renders
      canonical := canonical
      finalitySatisfied := final.1
      finalityEvidence := final.2 }
    position := valid.1
    observedAt := valid.2 }

/-! ## The transcript of one call -/

/-- The validator gave an observation that was counted. -/
def AcceptedObservation.HeardIn (platform : Platform) (input : GenericAttestationRequest)
    (exchanges : List (Exchange genericInterface)) (item : AcceptedObservation) : Prop :=
  ⟨.observe item.validator input, .ok (some item.observation)⟩ ∈ exchanges ∧
    observationMismatch platform input item.observation = .ok none

/-- The signature of an accepted validator over some bytes. -/
def AcceptedObservation.SignedIn (bytes : List UInt8)
    (exchanges : List (Exchange genericInterface)) (item : AcceptedObservation)
    (signature : ValidatorSignature) : Prop :=
  signature.validatorId = item.validator.validatorId ∧
    signature.algorithm = item.validator.algorithm ∧
    signature.publicKeyId = item.validator.publicKeyId ∧
    ⟨.sign item.validator bytes, .ok signature.signature⟩ ∈ exchanges

/-- What a verified record rests on. -/
structure GenericAttestationService.Issues (platform : Platform)
    (service : GenericAttestationService) (input : GenericAttestationRequest)
    (exchanges : List (Exchange genericInterface)) (attestation : GenericStateAttestation)
    (accepted : List AcceptedObservation) (first : GenericSourceObservation) : Prop where
  valid : validateRequest platform input = .ok ()
  among : (accepted.map AcceptedObservation.validator).Sublist service.validators
  heard : ∀ item ∈ accepted, item.HeardIn platform input exchanges
  enough : (JsNumber.ofNat accepted.length).lt input.threshold = false
  leads : ∃ item ∈ accepted, item.observation = first
  agree : ∀ item ∈ accepted, item.observation.positionText = first.positionText
  statement : attestation.statement = statement input first
  status : attestation.status = js "VERIFIED_EVIDENCE_ONLY"
  evidenceOnly : attestation.destinationMutationAuthorized = false
  digest : genericAttestationDigest platform attestation.statement = .ok attestation.digest
  signed : ∃ bytes signatures,
    canonicalGenericAttestationBytes platform attestation.statement = .ok bytes ∧
      List.Forall₂ (AcceptedObservation.SignedIn bytes exchanges) accepted signatures ∧
      attestation.signatures.Perm signatures

/-- A record is rejected and has no attestation, or it is verified and rests on the
transcript. -/
def GenericAttestationService.Bears (platform : Platform) (service : GenericAttestationService)
    (exchanges : List (Exchange genericInterface)) (record : GenericAttestationRecord) : Prop :=
  record.outcome = .rejected ∧ record.attestation = none ∨
    record.outcome = .verified ∧ ∃ attestation accepted first,
      record.attestation = some attestation ∧ service.Issues platform record.request exchanges
        attestation.toGenericStateAttestation accepted first

/-- What may be saved after a transcript. -/
def GenericAttestationService.asks (platform : Platform) (service : GenericAttestationService)
    (input : GenericAttestationRequest) (exchanges : List (Exchange genericInterface)) :
    GenericCall → Prop
  | .save record => record.request = input ∧ service.Bears platform exchanges record
  | _ => True

/-- What is returned was saved or found. -/
def GenericAttestationService.decides (input : GenericAttestationRequest)
    (exchanges : List (Exchange genericInterface)) :
    Except Thrown GenericAttestationRecord → Prop
  | .ok record => record.request.id = input.id ∧ ⟨.save record, .ok ()⟩ ∈ exchanges ∨
      ⟨.get input.id, .ok (some record)⟩ ∈ exchanges
  | .error _ => True

namespace GenericAttestationService

variable {service : GenericAttestationService} {input : GenericAttestationRequest}
  {exchanges : List (Exchange genericInterface)} {hash : JsString}

theorem of_refusal {outcome : Except Thrown (Option GenericSourceObservation)}
    {observation : GenericSourceObservation}
    (counted : refusal platform input outcome = .ok observation) :
    outcome = .ok (some observation) ∧ observationMismatch platform input observation = .ok none := by
  unfold refusal at counted
  split at counted
  · cases counted
  · cases counted
  · split at counted
    · cases counted
    · cases counted
    · rename_i fine
      cases counted
      exact ⟨rfl, fine⟩

theorem persist_asks (reasons : List JsString) :
    (persist platform input hash reasons).Follows
      (transcriptProtocol (service.asks platform input)) (decides input) exchanges := by
  refine .call_seq trivial (fun recordedAt _ => ?_) fun _ _ => trivial
  refine .call_seq ⟨rfl, .inl ⟨rfl, rfl⟩⟩ (fun _ _ => ?_) fun _ _ => trivial
  exact .inl ⟨rfl, List.mem_append_right _ (List.mem_singleton_self _)⟩

theorem observeAll_asks (input : GenericAttestationRequest)
    (validators : List GenericAttestationValidator) (accepted : List AcceptedObservation)
    (reasons : List JsString) (exchanges : List (Exchange genericInterface))
    (heard : ∀ item ∈ accepted, item.HeardIn platform input exchanges) :
    (observeAll platform input validators accepted reasons).Follows
      (transcriptProtocol (service.asks platform input))
      (fun there outcome => ∀ value, outcome = .ok value →
        (value.1.map AcceptedObservation.validator).Sublist
          (accepted.map AcceptedObservation.validator ++ validators) ∧
        ∀ item ∈ value.1, item.HeardIn platform input there) exchanges := by
  induction validators generalizing accepted reasons exchanges with
  | nil =>
      intro value same
      cases same
      rw [List.append_nil]
      exact ⟨List.Sublist.refl _, heard⟩
  | cons validator rest ih =>
      rw [observeAll]
      refine .attempt_seq (.asked trivial) fun there outcome asked => ?_
      subst asked
      have kept : ∀ item ∈ accepted, item.HeardIn platform input
          (exchanges ++ [⟨.observe validator input, outcome⟩]) :=
        fun item member => ⟨List.mem_append_left _ (heard item member).1, (heard item member).2⟩
      cases judged : refusal platform input outcome with
      | error reason =>
          refine (ih accepted _ _ kept).imp fun there outcome holds value same => ?_
          obtain ⟨among, all⟩ := holds value same
          exact ⟨among.trans ((List.Sublist.refl _).append (List.sublist_cons_self _ _)), all⟩
      | ok observation =>
          obtain ⟨rfl, fine⟩ := of_refusal judged
          have heardLast : ∀ item ∈ accepted ++ [⟨validator, observation⟩],
              item.HeardIn platform input
                (exchanges ++ [⟨.observe validator input, .ok (some observation)⟩]) := by
            intro item member
            rcases List.mem_append.mp member with earlier | last
            · exact kept item earlier
            · rw [List.mem_singleton.mp last]
              exact ⟨List.mem_append_right _ (List.mem_singleton_self _), fine⟩
          refine (ih _ reasons _ heardLast).imp fun there outcome holds value same => ?_
          obtain ⟨among, all⟩ := holds value same
          rw [List.map_append, List.append_assoc] at among
          exact ⟨among, all⟩

theorem signAll_asks (bytes : List UInt8) (rest accepted : List AcceptedObservation)
    (signatures : List ValidatorSignature) (exchanges : List (Exchange genericInterface))
    (signed : List.Forall₂ (AcceptedObservation.SignedIn bytes exchanges) accepted signatures) :
    (signAll platform bytes rest signatures).Follows
      (transcriptProtocol (service.asks platform input))
      (fun there outcome => ∀ value, outcome = .ok value →
        List.Forall₂ (AcceptedObservation.SignedIn bytes there) (accepted ++ rest) value)
      exchanges := by
  induction rest generalizing accepted signatures exchanges with
  | nil =>
      intro value same
      cases same
      rwa [List.append_nil]
  | cons item rest ih =>
      obtain ⟨validator, observation⟩ := item
      rw [signAll]
      refine .call_seq trivial (fun signature _ => ?_) fun _ _ _ same => by cases same
      refine .call_seq trivial (fun signedAt _ => ?_) fun _ _ _ same => by cases same
      refine (ih (accepted ++ [⟨validator, observation⟩]) _ _ ?_).imp
        fun there outcome holds value same => ?_
      · refine List.rel_append (signed.imp fun item signature holds => ?_)
          (.cons ⟨rfl, rfl, rfl, ?_⟩ .nil)
        · obtain ⟨named, algorithm, key, answered⟩ := holds
          exact ⟨named, algorithm, key, List.mem_append_left _ (List.mem_append_left _ answered)⟩
        · exact List.mem_append_left _ (List.mem_append_right _ (List.mem_singleton_self _))
      · have all := holds value same
        rwa [List.append_assoc] at all

/-- Once the accepted observations have one position text, what is saved rests on them. -/
theorem issue_asks (localeCompare : LocaleCompare) {accepted : List AcceptedObservation}
    {first : GenericSourceObservation} (reasons : List JsString)
    (valid : validateRequest platform input = .ok ())
    (among : (accepted.map AcceptedObservation.validator).Sublist service.validators)
    (heard : ∀ item ∈ accepted, item.HeardIn platform input exchanges)
    (enough : (JsNumber.ofNat accepted.length).lt input.threshold = false)
    (leads : ∃ item ∈ accepted, item.observation = first)
    (agree : ∀ item ∈ accepted, item.observation.positionText = first.positionText) :
    (issue platform localeCompare input hash accepted reasons first).Follows
      (transcriptProtocol (service.asks platform input)) (decides input) exchanges := by
  refine .ofExcept_seq (fun bytes rendered => ?_) fun _ _ => trivial
  refine .seq (signAll_asks bytes accepted [] [] exchanges .nil).grows
    (fun there signatures signed => ?_) fun _ _ _ => trivial
  obtain ⟨grown, signed⟩ := signed
  have signed := signed signatures rfl
  rw [List.nil_append] at signed
  refine .ofExcept_seq (fun digest digested => ?_) fun _ _ => trivial
  refine .call_seq trivial (fun attestedAt _ => ?_) fun _ _ => trivial
  refine .call_seq trivial (fun recordedAt _ => ?_) fun _ _ => trivial
  have later : ∀ exchange ∈ there, exchange ∈ there ++ [⟨.now, .ok attestedAt⟩] ++
      [⟨.now, .ok recordedAt⟩] :=
    fun exchange member => List.mem_append_left _ (List.mem_append_left _ member)
  refine .call_seq ⟨rfl, .inr ⟨rfl, _, accepted, first, rfl, {
    valid := valid
    among := among
    heard := fun item member => ⟨later _ (grown.subset (heard item member).1), (heard item member).2⟩
    enough := enough
    leads := leads
    agree := agree
    statement := rfl
    status := rfl
    evidenceOnly := rfl
    digest := digested
    signed := ⟨bytes, signatures, rendered, signed.imp fun item signature holds =>
      ⟨holds.1, holds.2.1, holds.2.2.1, later _ holds.2.2.2⟩, List.mergeSort_perm _ _⟩ }⟩⟩
    (fun _ _ => ?_) fun _ _ => trivial
  exact .inl ⟨rfl, List.mem_append_right _ (List.mem_singleton_self _)⟩

theorem attest_asks (localeCompare : LocaleCompare)
    (valid : validateRequest platform input = .ok ()) :
    (attest platform localeCompare service input hash).Follows
      (transcriptProtocol (service.asks platform input)) (decides input) exchanges := by
  refine .seq (observeAll_asks input service.validators [] [] exchanges fun _ member =>
    (List.not_mem_nil member).elim) (fun there value holds => ?_) fun _ _ _ => trivial
  obtain ⟨accepted, reasons⟩ := value
  obtain ⟨among, heard⟩ := holds (accepted, reasons) rfl
  rw [List.map_nil, List.nil_append] at among
  dsimp only
  split
  · exact persist_asks _
  rename_i enough
  split
  · rename_i first rest
    split
    · exact persist_asks _
    rename_i single
    refine issue_asks localeCompare reasons valid among heard (Bool.eq_false_iff.mpr enough)
      ⟨first, List.mem_cons_self, rfl⟩ fun item member => ?_
    obtain ⟨text, only⟩ := List.length_eq_one_iff.mp (not_not.mp single)
    have known : ∀ item ∈ first :: rest, item.observation.positionText = text := by
      intro item member
      rw [← List.mem_singleton, ← only, List.mem_dedup]
      exact List.mem_map_of_mem member
    rw [known item member, known first List.mem_cons_self]
  · exact persist_asks _

/-- A call saves what its transcript bears out, and returns what it saved or found. -/
theorem request_asks (localeCompare : LocaleCompare) (service : GenericAttestationService)
    (input : GenericAttestationRequest) :
    (service.request platform localeCompare input).Follows
      (transcriptProtocol (service.asks platform input)) (decides input) [] := by
  rw [request]
  generalize requestFingerprint platform input.toJs = fingerprint
  refine .ofExcept_seq (fun _ valid => ?_) fun _ _ => trivial
  refine .ofExcept_seq (fun hash _ => ?_) fun _ _ => trivial
  refine .call_seq trivial (fun existing _ => ?_) fun _ _ => trivial
  cases existing with
  | some existing =>
      dsimp only
      split
      · trivial
      · exact .inr (List.mem_singleton_self _)
  | none =>
      refine .call_seq trivial (fun opening _ => ?_) fun _ _ => trivial
      split
      · exact persist_asks _
      refine .call_seq trivial (fun closing _ => ?_) fun _ _ => trivial
      split
      · exact persist_asks _
      split
      · exact persist_asks _
      · exact attest_asks localeCompare valid

end GenericAttestationService

/-! ## What a verified record shows -/

theorem validateRequest_threshold {value : GenericAttestationRequest}
    (valid : validateRequest platform value = .ok ()) :
    ∃ count : Nat, value.threshold = .ofNat count ∧ 1 ≤ count := by
  rw [validateRequest] at valid
  split at valid
  · cases valid
  split at valid
  · cases valid
  split at valid
  · cases valid
  split at valid
  · cases valid
  rename_i threshold
  rw [Bool.or_eq_true, not_or, Bool.not_eq_true', Bool.not_eq_false, Bool.not_eq_true] at threshold
  exact JsNumber.eq_ofNat_of_isSafeInteger threshold.1 threshold.2

/-- Signatures under distinct labels that are all accepted are all counted. -/
theorem countValid_of_accepted {verifier : AttestationSignatureVerifier} {bytes : List UInt8}
    {signatures : List ValidatorSignature} {seen : List JsString}
    (distinct : (signatures.map ValidatorSignature.validatorId).Nodup)
    (fresh : ∀ signature ∈ signatures, signature.validatorId ∉ seen)
    (accepted : ∀ signature ∈ signatures,
      verifier signature.algorithm signature.publicKeyId signature.signature bytes = .ok true) :
    countValid verifier bytes seen signatures = .ok signatures.length := by
  induction signatures generalizing seen with
  | nil => rfl
  | cons signature rest ih =>
      rw [List.map_cons, List.nodup_cons] at distinct
      obtain ⟨new, others⟩ := List.forall_mem_cons.mp fresh
      obtain ⟨holds, all⟩ := List.forall_mem_cons.mp accepted
      have unseen : ∀ other ∈ rest, other.validatorId ∉ signature.validatorId :: seen := by
        intro other member
        rw [List.mem_cons, not_or]
        exact ⟨fun same => distinct.1 (same ▸ List.mem_map_of_mem member), others other member⟩
      have further := ih distinct.2 unseen all
      rw [countValid, if_neg new, holds, further]
      rfl

namespace GenericAttestationService.Issues

variable {service : GenericAttestationService} {input : GenericAttestationRequest}
  {exchanges : List (Exchange genericInterface)} {attestation : GenericStateAttestation}
  {accepted : List AcceptedObservation} {first : GenericSourceObservation}

theorem identities (issues : service.Issues platform input exchanges attestation accepted first) :
    (accepted.map fun item => item.validator.validatorId).Nodup := by
  have distinct := service.identities.sublist (issues.among.map _)
  rwa [List.map_map] at distinct

/-- Distinct key texts are distinct keys. -/
theorem keys (issues : service.Issues platform input exchanges attestation accepted first) :
    (accepted.map fun item => (item.validator.algorithm, item.validator.publicKeyId)).Nodup := by
  have distinct := service.keys.sublist (issues.among.map _)
  rw [List.map_map] at distinct
  refine List.Nodup.of_map (fun key => key.1 ++ js "|" ++ key.2) ?_
  rwa [List.map_map]

theorem threshold (issues : service.Issues platform input exchanges attestation accepted first) :
    ∃ count : Nat, input.threshold = .ofNat count ∧ 1 ≤ count ∧ count ≤ accepted.length := by
  obtain ⟨count, same, positive⟩ := validateRequest_threshold issues.valid
  have enough := issues.enough
  rw [same, JsNumber.lt_ofNat, decide_eq_false_iff_not, not_lt] at enough
  exact ⟨count, same, positive, enough⟩

/-- Whoever accepts what the validators signed accepts the attestation until it expires. -/
theorem verifies (issues : service.Issues platform input exchanges attestation accepted first)
    {verifier : AttestationSignatureVerifier}
    (sound : ∀ validator bytes signature,
      ⟨.sign validator bytes, .ok signature⟩ ∈ exchanges →
      verifier validator.algorithm validator.publicKeyId signature bytes = .ok true)
    {now : Int} (unexpired : numberLt (some now) (platform.dateParse input.expiresAt) = true) :
    verifyGenericAttestation platform attestation input.threshold verifier now = .ok true := by
  obtain ⟨bytes, signatures, rendered, signed, permuted⟩ := issues.signed
  obtain ⟨count, same, positive, enough⟩ := issues.threshold
  obtain ⟨_, stated, _⟩ := ok_of_bind rendered
  have labels : signatures.map ValidatorSignature.validatorId =
      accepted.map fun item => item.validator.validatorId := by
    refine (List.forall₂_eq_eq_eq ▸ List.rel_map (fun item signature holds => ?_) signed).symm
    exact holds.1.symm
  have length : attestation.signatures.length = accepted.length :=
    permuted.length_eq.trans signed.length_eq.symm
  have counted : countValid verifier bytes [] attestation.signatures =
      .ok attestation.signatures.length := by
    refine countValid_of_accepted ?_ (fun _ _ => List.not_mem_nil) fun signature member => ?_
    · rw [(permuted.map _).nodup_iff, labels]
      exact issues.identities
    · have each := forall_mem_of_forall₂ signed fun item _ signature holds => by
        obtain ⟨_, algorithm, key, answered⟩ := holds
        have accepts := sound _ _ _ answered
        rwa [← algorithm, ← key] at accepts
      exact each signature (permuted.mem_iff.mp member)
  refine verifyGenericAttestation_eq_true_iff.mpr ⟨{
    statement := stated
    status := issues.status
    evidenceOnly := issues.evidenceOnly
    unexpired := ?_
    positive := ?_
    digest := issues.digest }, bytes, _, rendered, counted, ?_⟩
  · rw [issues.statement]
    obtain ⟨expires, parsed, before⟩ := numberLt_some_left.mp unexpired
    change numberLe (platform.dateParse input.expiresAt) _ = false
    rw [parsed, numberLe, decide_eq_false_iff_not, not_le]
    exact before
  · rw [same, JsNumber.lt_ofNat, decide_eq_false_iff_not, not_lt]
    exact positive
  · rw [same, JsNumber.le_ofNat, decide_eq_true_eq, length]
    exact enough

end GenericAttestationService.Issues

end InterWeave
