import InterWeave.Attestation.ThresholdVerification

/-! # Aggregated artifacts

`aggregate` gives its verdict on the supplied signatures and returns an attestation
that carries only those that count. Whoever verifies that attestation sees nothing
of the others: an invalid signature that made the aggregation fail does not make
the verification fail.
-/

namespace InterWeave

open Atomic

variable {platform : Platform}

def ThresholdVerification.reason : ThresholdVerification → Option ThresholdRejection
  | .satisfied .. => none
  | .rejected _ _ _ _ reason => some reason

namespace AttestationAggregator

variable {aggregator : AttestationAggregator platform}

/-- The first votes that count. -/
def kept (aggregator : AttestationAggregator platform) (unsigned : UnsignedAttestation)
    (set : ValidatorSet) (signatures : List ValidatorSignature) : List ValidatorSignature :=
  (firstVotes ValidatorSignature.validatorId [] signatures).filter fun signature =>
    (aggregator.rejection unsigned set signature).isNone

/-- Signatures under distinct labels can all be attached. -/
theorem attach_all (localeCompare : LocaleCompare) {unsigned : UnsignedAttestation}
    (accepted : assertUnsignedAttestation platform unsigned = .ok ())
    (attached rest : List ValidatorSignature)
    (labels : ((attached ++ rest).map ValidatorSignature.validatorId).Nodup) :
    ∃ signatures, rest.foldlM (attachAttestationSignature platform localeCompare)
        ⟨unsigned, attached⟩ = .ok ⟨unsigned, signatures⟩ ∧
      signatures.Perm (attached ++ rest) := by
  induction rest generalizing attached with
  | nil => exact ⟨attached, rfl, by rw [List.append_nil]⟩
  | cons signature rest ih =>
      have moved : (sortSignatures localeCompare (attached ++ [signature]) ++ rest).Perm
          (attached ++ signature :: rest) := by
        rw [List.append_cons attached signature rest]
        exact (sortSignatures_perm _ _).append_right rest
      obtain ⟨signatures, folded, perm⟩ := ih (sortSignatures localeCompare (attached ++ [signature]))
        ((moved.map ValidatorSignature.validatorId).nodup_iff.mpr labels)
      refine ⟨signatures, ?_, perm.trans moved⟩
      have unlabelled : attached.any
          (fun item => item.validatorId = signature.validatorId) = false := by
        rw [List.any_eq_false]
        intro item member same
        rw [List.map_append, List.map_cons, List.nodup_append] at labels
        exact labels.2.2 item.validatorId (List.mem_map_of_mem member) signature.validatorId
          List.mem_cons_self (of_decide_eq_true same)
      have here : attachAttestationSignature platform localeCompare ⟨unsigned, attached⟩ signature =
          .ok ⟨unsigned, sortSignatures localeCompare (attached ++ [signature])⟩ := by
        simp only [attachAttestationSignature, accepted, unlabelled, bind, Except.bind,
          Bool.false_eq_true, if_false]
      rw [List.foldlM_cons, here]
      exact folded

theorem kept_labels_nodup (unsigned : UnsignedAttestation) (set : ValidatorSet)
    (signatures : List ValidatorSignature) :
    ((aggregator.kept unsigned set signatures).map ValidatorSignature.validatorId).Nodup :=
  (firstVotes_labels_nodup [] signatures).sublist (List.filter_sublist.map _)

/-- What `aggregate` returns: its verdict on all signatures, and an attestation with
those it kept. -/
theorem aggregate_eq_ok {unsigned : UnsignedAttestation} {validatorSetId : JsString}
    {set : ValidatorSet} (accepted : assertUnsignedAttestation platform unsigned = .ok ())
    (resolved : aggregator.sets.resolve validatorSetId unsigned.validFrom = .ok set)
    (signatures : List ValidatorSignature) (now : Int) :
    ∃ attached, aggregator.aggregate unsigned validatorSetId signatures now =
        .ok (⟨unsigned, attached⟩, result set (aggregator.check unsigned set signatures)
          (expired platform unsigned now)) ∧
      attached.Perm (aggregator.kept unsigned set signatures) := by
  have sorted : (aggregator.check unsigned set signatures).validSignatures.Perm
      (aggregator.kept unsigned set signatures) := by
    rw [check, checkFrom_validSignatures, kept]
    exact sortSignatures_perm _ _
  obtain ⟨attached, folded, perm⟩ := attach_all aggregator.localeCompare
    accepted [] (aggregator.check unsigned set signatures).validSignatures
    ((sorted.map ValidatorSignature.validatorId).nodup_iff.mpr
      (kept_labels_nodup unsigned set signatures))
  refine ⟨attached, ?_, perm.trans sorted⟩
  simp only [aggregate, accepted, resolved, bind, Except.bind, folded, pure, Except.pure]

theorem aggregate_ok {unsigned : UnsignedAttestation} {validatorSetId : JsString}
    {signatures : List ValidatorSignature} {now : Int} {artifact : Attestation}
    {verification : ThresholdVerification}
    (returned : aggregator.aggregate unsigned validatorSetId signatures now =
      .ok (artifact, verification)) :
    assertUnsignedAttestation platform unsigned = .ok () ∧
      ∃ set, aggregator.sets.resolve validatorSetId unsigned.validFrom = .ok set := by
  rw [aggregate] at returned
  obtain ⟨_, accepted, returned⟩ := ok_of_bind returned
  obtain ⟨set, resolved, _⟩ := ok_of_bind returned
  exact ⟨accepted, set, resolved⟩

/-- Enough of the first signatures under their labels count, whatever the others are. -/
def EnoughCount (aggregator : AttestationAggregator platform) (unsigned : UnsignedAttestation)
    (set : ValidatorSet) (signatures : List ValidatorSignature) : Prop :=
  ∃ counted : List ValidatorSignature,
    counted.Sublist (firstVotes ValidatorSignature.validatorId [] signatures) ∧
      (∀ signature ∈ counted, signature.Counts platform aggregator.verifier unsigned set) ∧
      set.threshold.le (.ofNat counted.length) = true

theorem enoughCount_iff {unsigned : UnsignedAttestation}
    (accepted : assertUnsignedAttestation platform unsigned = .ok ()) {set : ValidatorSet}
    (sound : set.Sound platform) {signatures : List ValidatorSignature} :
    aggregator.EnoughCount unsigned set signatures ↔
      set.threshold.le (.ofNat (aggregator.kept unsigned set signatures).length) = true := by
  obtain ⟨count, threshold, _⟩ := sound.threshold
  rw [EnoughCount, threshold]
  constructor
  · rintro ⟨counted, firsts, counts, enough⟩
    have all : (counted.filter fun signature =>
        (aggregator.rejection unsigned set signature).isNone) = counted :=
      List.filter_eq_self.mpr fun signature member => by
        rw [(rejection_eq_none_iff accepted sound).mpr (counts signature member)]
        rfl
    have within := (firsts.filter fun signature =>
      (aggregator.rejection unsigned set signature).isNone).length_le
    rw [all] at within
    rw [JsNumber.le_ofNat, decide_eq_true_eq] at enough ⊢
    exact enough.trans within
  · intro enough
    refine ⟨_, List.filter_sublist, fun signature member => ?_, enough⟩
    refine (rejection_eq_none_iff accepted sound).mp ?_
    simpa using (List.mem_filter.mp member).2

/-- The returned attestation verifies as SATISFIED before expiry, if enough signatures
were kept. -/
theorem artifact_satisfies_iff {unsigned : UnsignedAttestation} {validatorSetId : JsString}
    {signatures attached : List ValidatorSignature} {set : ValidatorSet}
    (accepted : assertUnsignedAttestation platform unsigned = .ok ())
    (resolved : aggregator.sets.resolve validatorSetId unsigned.validFrom = .ok set)
    (perm : attached.Perm (aggregator.kept unsigned set signatures)) (later : Int) :
    aggregator.Satisfies ⟨unsigned, attached⟩ validatorSetId later ↔
      (∃ expires, platform.dateParse unsigned.expiresAt = some expires ∧ later < expires) ∧
        aggregator.EnoughCount unsigned set signatures := by
  have sound := ValidatorSetRegistry.sound_of_get
    (ValidatorSetRegistry.resolve_eq_ok_iff.mp resolved).1
  have supported : aggregator.Supported unsigned set attached := by
    refine ⟨(perm.map ValidatorSignature.validatorId).nodup_iff.mpr
      (kept_labels_nodup unsigned set signatures), fun signature member => ?_⟩
    have listed := (List.mem_filter.mp (perm.mem_iff.mp member)).2
    exact (rejection_eq_none_iff accepted sound).mp (by simpa using listed)
  rw [satisfies_iff accepted resolved, enoughCount_iff accepted sound, perm.length_eq]
  exact ⟨fun ⟨unexpired, _, enough⟩ => ⟨unexpired, enough⟩,
    fun ⟨unexpired, enough⟩ => ⟨unexpired, supported, enough⟩⟩

/-- Signatures that support an attestation are all first votes that count. -/
theorem Supported.enoughCount_iff {unsigned : UnsignedAttestation} {set : ValidatorSet}
    (sound : set.Sound platform) {signatures : List ValidatorSignature}
    (supported : aggregator.Supported unsigned set signatures) :
    aggregator.EnoughCount unsigned set signatures ↔
      set.threshold.le (.ofNat signatures.length) = true := by
  have all : firstVotes ValidatorSignature.validatorId [] signatures = signatures :=
    firstVotes_eq_self_iff.mpr ⟨supported.labels, fun _ _ => List.not_mem_nil⟩
  obtain ⟨count, threshold, _⟩ := sound.threshold
  rw [EnoughCount, all, threshold]
  constructor
  · rintro ⟨counted, firsts, _, enough⟩
    rw [JsNumber.le_ofNat, decide_eq_true_eq] at enough ⊢
    exact enough.trans firsts.length_le
  · exact fun enough => ⟨signatures, List.Sublist.refl _, supported.count, enough⟩

/-- A verdict names invalid signatures only before expiry, for something rejected. -/
theorem result_reason {set : ValidatorSet} {checked : CheckedSignatures} {expired : Bool}
    (invalid : (result set checked expired).reason = some .invalidSignatures) :
    expired = false ∧ checked.rejected ≠ [] := by
  rw [result] at invalid
  cases expired with
  | true => cases invalid
  | false =>
      refine ⟨rfl, fun none => ?_⟩
      simp only [none, Bool.false_eq_true, if_false, List.isEmpty_nil, Bool.not_true] at invalid
      split at invalid <;> cases invalid

/-- The verdict of an aggregation is that of verifying what it returned, and one that
rests on invalid signatures is not overturned later. -/
def VerdictStands (aggregator : AttestationAggregator platform) (unsigned : UnsignedAttestation)
    (validatorSetId : JsString) (signatures : List ValidatorSignature) (now : Int) : Prop :=
  ∀ artifact verification,
    aggregator.aggregate unsigned validatorSetId signatures now = .ok (artifact, verification) →
      (∃ again, aggregator.verify artifact validatorSetId now = .ok again ∧
        again.isSatisfied = verification.isSatisfied) ∧
      (verification.reason = some .invalidSignatures →
        ∀ later, now ≤ later → ¬ aggregator.Satisfies artifact validatorSetId later)

/-- **When the verdict stands.** Verifying the returned attestation gives the verdict of its
aggregation exactly when every supplied signature counts under a label of its own, the
attestation has expired, or too few of the signatures count. -/
theorem verdictStands_iff (aggregator : AttestationAggregator platform)
    (unsigned : UnsignedAttestation) (validatorSetId : JsString)
    (signatures : List ValidatorSignature) (now : Int) :
    aggregator.VerdictStands unsigned validatorSetId signatures now ↔
      ∀ set, assertUnsignedAttestation platform unsigned = .ok () →
        aggregator.sets.resolve validatorSetId unsigned.validFrom = .ok set →
          aggregator.Supported unsigned set signatures ∨
            (¬ ∃ expires, platform.dateParse unsigned.expiresAt = some expires ∧ now < expires) ∨
              ¬ aggregator.EnoughCount unsigned set signatures := by
  constructor
  · intro stands set accepted resolved
    have sound := ValidatorSetRegistry.sound_of_get
      (ValidatorSetRegistry.resolve_eq_ok_iff.mp resolved).1
    obtain ⟨attached, returned, perm⟩ := aggregator.aggregate_eq_ok accepted resolved _ _
    obtain ⟨⟨again, verified, same⟩, _⟩ := stands _ _ returned
    by_contra neither
    simp only [not_or, not_not] at neither
    obtain ⟨unsupported, unexpired, enough⟩ := neither
    have satisfied : again.isSatisfied = true := by
      obtain ⟨other, otherVerified, holds⟩ :=
        (artifact_satisfies_iff accepted resolved perm _).mpr ⟨unexpired, enough⟩
      rw [verified, Except.ok.injEq] at otherVerified
      rw [otherVerified]
      exact holds
    rw [satisfied] at same
    exact unsupported ((verdict_isSatisfied_iff accepted sound).mp same.symm).2.1
  · intro settled artifact verification returned
    obtain ⟨accepted, set, resolved⟩ := aggregate_ok returned
    have sound := ValidatorSetRegistry.sound_of_get
      (ValidatorSetRegistry.resolve_eq_ok_iff.mp resolved).1
    obtain ⟨attached, same, perm⟩ :=
      aggregator.aggregate_eq_ok accepted resolved signatures now
    rw [returned, Except.ok.injEq, Prod.mk.injEq] at same
    obtain ⟨rfl, rfl⟩ := same
    have artifact := fun later => aggregator.artifact_satisfies_iff accepted resolved
      perm later
    constructor
    · refine ⟨_, verify_eq_ok_iff.mpr ⟨accepted, set, resolved, rfl⟩, ?_⟩
      rw [Bool.eq_iff_iff, verdict_isSatisfied_iff accepted sound,
        verdict_isSatisfied_iff accepted sound, ← satisfies_iff accepted resolved, artifact now]
      refine and_congr_right fun unexpired => ?_
      rcases settled set accepted resolved with supported | expired | few
      · rw [supported.enoughCount_iff sound]
        exact ⟨fun enough => ⟨supported, enough⟩, fun both => both.2⟩
      · exact (expired unexpired).elim
      · refine ⟨fun enough => (few enough).elim, fun ⟨supported, enough⟩ => ?_⟩
        exact (supported.enoughCount_iff sound).mpr enough
    · intro invalid later _ satisfied
      obtain ⟨notExpired, rejected⟩ := result_reason invalid
      rcases settled set accepted resolved with supported | expired | few
      · exact rejected ((check_rejected_eq_nil_iff accepted sound).mpr supported)
      · exact expired ((expired_eq_false_iff accepted).mp notExpired)
      · exact few ((artifact later).mp satisfied).2

end AttestationAggregator

namespace TwoMembers

def honest : ValidatorSignature :=
  signature (js "validator-2") (js "key-2") (js "2026-08-11T12:10:00.000Z")

/-- No member has this label. -/
def foreign : ValidatorSignature :=
  signature (js "validator-3") (js "key-3") (js "2026-08-11T12:10:00.000Z")

theorem rejected_aggregation_verifies :
    ¬ aggregator.VerdictStands unsigned set.id [honest, foreign] halfPastNoon := by
  have disagree : ((aggregator.aggregate unsigned set.id [honest, foreign] halfPastNoon).bind
      fun returned => (aggregator.verify returned.1 set.id halfPastNoon).map fun again =>
        (returned.2.isSatisfied, again.isSatisfied)) = .ok (false, true) := by decide +kernel
  intro stands
  obtain ⟨⟨artifact, verification⟩, returned, disagree⟩ := ok_of_bind disagree
  obtain ⟨⟨again, verified, same⟩, _⟩ := stands artifact verification returned
  simp only [verified, Except.map, same, Except.ok.injEq, Prod.mk.injEq] at disagree
  rw [disagree.1] at disagree
  cases disagree.2

end TwoMembers
end InterWeave
