import InterWeave.Attestation.ThresholdVerification

/-! # The times that signatures claim

The instant in `signedAt` is not among the signed bytes, and only that instant is
held against the interval of a member. Whoever passes a signature on can choose it
again: a rejection that rests on nothing but such instants can be undone without
any key.
-/

namespace InterWeave

variable {platform : Platform}

/-- The same signatures with other claimed times. -/
def Retimed (before after : List ValidatorSignature) : Prop :=
  List.Forall₂ (fun signature other => ∃ signedAt, other = { signature with signedAt }) before after

theorem Retimed.labels {before after : List ValidatorSignature} (retimed : Retimed before after) :
    after.map ValidatorSignature.validatorId = before.map ValidatorSignature.validatorId := by
  induction retimed with
  | nil => rfl
  | cons same _ ih =>
      obtain ⟨signedAt, rfl⟩ := same
      rw [List.map_cons, List.map_cons, ih]

theorem Retimed.exists_of_mem {before after : List ValidatorSignature}
    (retimed : Retimed before after) {signature : ValidatorSignature}
    (member : signature ∈ before) : ∃ signedAt, { signature with signedAt } ∈ after := by
  induction retimed with
  | nil => cases member
  | cons same _ ih =>
      obtain ⟨signedAt, rfl⟩ := same
      rcases List.mem_cons.mp member with rfl | later
      · exact ⟨signedAt, List.mem_cons_self⟩
      · obtain ⟨other, listed⟩ := ih later
        exact ⟨other, List.mem_cons_of_mem _ listed⟩

theorem Retimed.map (retime : ValidatorSignature → JsString)
    (signatures : List ValidatorSignature) :
    Retimed signatures
      (signatures.map fun signature => { signature with signedAt := retime signature }) := by
  rw [Retimed, List.forall₂_map_right_iff, List.forall₂_same]
  exact fun signature _ => ⟨retime signature, rfl⟩

namespace ValidatorSignature

/-- A signature that counts once its claimed time is right: its member can sign at
some instant of the window, with that key, and the value verifies. -/
structure CountsInTime (platform : Platform) (verifier : AttestationSignatureVerifier)
    (attestation : UnsignedAttestation) (set : ValidatorSet) (signature : ValidatorSignature) :
    Prop where
  member : ∃ member ∈ set.members, member.validatorId = signature.validatorId ∧
    signature.key = member.key ∧ ∃ time, member.SignsAt platform attestation time
  verifies : signature.Verifies platform verifier attestation

/-- The claimed time is right: both intervals hold it. -/
def Timely (platform : Platform) (attestation : UnsignedAttestation) (set : ValidatorSet)
    (signature : ValidatorSignature) : Prop :=
  ∃ member ∈ set.members, member.validatorId = signature.validatorId ∧
    ∃ signedAt, platform.dateParse signature.signedAt = some signedAt ∧
      member.SignsAt platform attestation signedAt

variable {verifier : AttestationSignatureVerifier} {attestation : UnsignedAttestation}
  {set : ValidatorSet} {signature : ValidatorSignature}

theorem Counts.countsInTime (counts : signature.Counts platform verifier attestation set) :
    signature.CountsInTime platform verifier attestation set := by
  obtain ⟨⟨member, listed, named, key, signedAt, _, admitted⟩, verifies⟩ := counts
  exact ⟨⟨member, listed, named, key, signedAt, admitted⟩, verifies⟩

/-- The claimed time is no part of what `CountsInTime` asks. -/
theorem CountsInTime.retime {signedAt : JsString}
    (counts : { signature with signedAt }.CountsInTime platform verifier attestation set) :
    signature.CountsInTime platform verifier attestation set :=
  ⟨counts.member, counts.verifies⟩

theorem CountsInTime.counts_of_timely (sound : set.Sound platform)
    (counts : signature.CountsInTime platform verifier attestation set)
    (timely : signature.Timely platform attestation set) :
    signature.Counts platform verifier attestation set := by
  obtain ⟨⟨member, listed, named, key, _⟩, verifies⟩ := counts
  obtain ⟨other, otherListed, otherNamed, signedAt, parsed, admitted⟩ := timely
  have same : member = other :=
    List.inj_on_of_nodup_map sound.ids listed otherListed (named.trans otherNamed.symm)
  subst same
  exact ⟨⟨member, listed, named, key, signedAt, parsed, admitted⟩, verifies⟩

/-- The later of the beginnings of the two intervals lies in both, if any instant does;
and it is the instant of a text. -/
theorem CountsInTime.exists_counts
    (counts : signature.CountsInTime platform verifier attestation set) :
    ∃ signedAt, { signature with signedAt }.Counts platform verifier attestation set := by
  obtain ⟨⟨member, listed, named, key, time, ⟨⟨enabled, parsedEnabled, since⟩, until_⟩,
    ⟨observed, parsedObserved, after⟩, expires, parsedExpires, before⟩, verifies⟩ := counts
  have earlier : ∀ start, start ≤ time → BeforeEnd platform member.disabledAt start := by
    intro start early text present
    obtain ⟨disabled, parsedDisabled, below⟩ := until_ text present
    exact ⟨disabled, parsedDisabled, by omega⟩
  rcases le_total enabled observed with first | first
  · exact ⟨attestation.observedAt, ⟨member, listed, named, key, observed, parsedObserved,
      ⟨⟨enabled, parsedEnabled, first⟩, earlier observed after⟩,
      ⟨observed, parsedObserved, le_refl _⟩, expires, parsedExpires, by omega⟩, verifies⟩
  · exact ⟨member.enabledFrom, ⟨member, listed, named, key, enabled, parsedEnabled,
      ⟨⟨enabled, parsedEnabled, le_refl _⟩, earlier enabled since⟩,
      ⟨observed, parsedObserved, first⟩, expires, parsedExpires, by omega⟩, verifies⟩

end ValidatorSignature

namespace AttestationAggregator

variable {aggregator : AttestationAggregator platform}

/-- No choice of other times turns the rejection of an attestation into SATISFIED. -/
def RejectionStands (aggregator : AttestationAggregator platform) (attestation : Attestation)
    (validatorSetId : JsString) (now : Int) : Prop :=
  (∃ verification, aggregator.verify attestation validatorSetId now = .ok verification ∧
      verification.isSatisfied = false) →
    ∀ signatures, Retimed attestation.signatures signatures →
      ¬ aggregator.Satisfies { attestation with signatures } validatorSetId now

/-- A fault that no claimed time mends: the attestation has expired, the signatures are
too few, a label repeats, or some signature would not count in time either. -/
def LastingFault (aggregator : AttestationAggregator platform) (attestation : Attestation)
    (set : ValidatorSet) (now : Int) : Prop :=
  (¬ ∃ expires, platform.dateParse attestation.expiresAt = some expires ∧ now < expires) ∨
    set.threshold.le (.ofNat attestation.signatures.length) = false ∨
    ¬ (attestation.signatures.map ValidatorSignature.validatorId).Nodup ∨
    ∃ signature ∈ attestation.signatures, ¬ signature.CountsInTime platform aggregator.verifier
      attestation.toUnsignedAttestation set

/-- Without a lasting fault, some choice of times makes the attestation SATISFIED. -/
theorem exists_retimed_satisfies {attestation : Attestation} {validatorSetId : JsString}
    {now : Int} {set : ValidatorSet}
    (accepted : assertUnsignedAttestation platform attestation.toUnsignedAttestation = .ok ())
    (resolved : aggregator.sets.resolve validatorSetId attestation.validFrom = .ok set)
    (faultless : ¬ aggregator.LastingFault attestation set now) :
    ∃ signatures, Retimed attestation.signatures signatures ∧
      aggregator.Satisfies { attestation with signatures } validatorSetId now := by
  simp only [LastingFault, not_or, not_not, Bool.not_eq_false] at faultless
  obtain ⟨unexpired, enough, labels, unbroken⟩ := faultless
  have mended : ∀ signature ∈ attestation.signatures, signature.CountsInTime platform
      aggregator.verifier attestation.toUnsignedAttestation set := fun signature member =>
    by_contra fun broken => unbroken ⟨signature, member, broken⟩
  have chosen : ∀ signature, ∃ signedAt, signature ∈ attestation.signatures →
      { signature with signedAt }.Counts platform aggregator.verifier
        attestation.toUnsignedAttestation set := by
    intro signature
    by_cases member : signature ∈ attestation.signatures
    · obtain ⟨signedAt, counts⟩ := (mended signature member).exists_counts
      exact ⟨signedAt, fun _ => counts⟩
    · exact ⟨[], fun listed => (member listed).elim⟩
  choose retime counts using chosen
  have retimed := Retimed.map retime attestation.signatures
  refine ⟨_, retimed, (satisfies_iff accepted resolved).mpr ⟨unexpired, ⟨?_, ?_⟩, ?_⟩⟩
  · rw [retimed.labels]
    exact labels
  · intro signature member
    obtain ⟨original, listed, rfl⟩ := List.mem_map.mp member
    exact counts original listed
  · rw [List.length_map]
    exact enough

/-- A lasting fault outlives every choice of times. -/
theorem LastingFault.not_satisfies {attestation : Attestation} {validatorSetId : JsString}
    {now : Int} {set : ValidatorSet}
    (accepted : assertUnsignedAttestation platform attestation.toUnsignedAttestation = .ok ())
    (resolved : aggregator.sets.resolve validatorSetId attestation.validFrom = .ok set)
    (fault : aggregator.LastingFault attestation set now) {signatures : List ValidatorSignature}
    (retimed : Retimed attestation.signatures signatures) :
    ¬ aggregator.Satisfies { attestation with signatures } validatorSetId now := by
  intro satisfied
  obtain ⟨unexpired, supported, enough⟩ := (satisfies_iff accepted resolved).mp satisfied
  rcases fault with expired | few | repeated | ⟨signature, member, broken⟩
  · exact expired unexpired
  · rw [← retimed.length_eq, few] at enough
    cases enough
  · rw [← retimed.labels] at repeated
    exact repeated supported.labels
  · obtain ⟨signedAt, listed⟩ := retimed.exists_of_mem member
    exact broken (supported.count _ listed).countsInTime.retime

/-- **When a rejection stands.** Choosing other times never turns a rejection into SATISFIED
exactly when the attestation has a fault that no claimed time mends, or every claimed time is
right already (and attestations that are refused with an error have no verdict). -/
theorem rejectionStands_iff (aggregator : AttestationAggregator platform)
    (attestation : Attestation) (validatorSetId : JsString) (now : Int) :
    aggregator.RejectionStands attestation validatorSetId now ↔
      ∀ set, assertUnsignedAttestation platform attestation.toUnsignedAttestation = .ok () →
        aggregator.sets.resolve validatorSetId attestation.validFrom = .ok set →
          aggregator.LastingFault attestation set now ∨
            ∀ signature ∈ attestation.signatures,
              signature.Timely platform attestation.toUnsignedAttestation set := by
  constructor
  · intro stands set accepted resolved
    by_contra neither
    obtain ⟨faultless, late⟩ := not_or.mp neither
    obtain ⟨signatures, retimed, satisfied⟩ :=
      exists_retimed_satisfies accepted resolved faultless
    refine stands ⟨_, verify_eq_ok_iff.mpr ⟨accepted, set, resolved, rfl⟩, ?_⟩ signatures retimed
      satisfied
    rw [Bool.eq_false_iff]
    intro already
    obtain ⟨_, supported, _⟩ := (satisfies_iff accepted resolved).mp
      ⟨_, verify_eq_ok_iff.mpr ⟨accepted, set, resolved, rfl⟩, already⟩
    refine late fun signature member => ?_
    obtain ⟨owner, listed, named, _, signedAt, parsed, admitted⟩ :=
      (supported.count signature member).member
    exact ⟨owner, listed, named, signedAt, parsed, admitted⟩
  · rintro settled ⟨verification, returned, rejected⟩ signatures retimed satisfied
    obtain ⟨accepted, set, resolved, rfl⟩ := verify_eq_ok_iff.mp returned
    have sound := ValidatorSetRegistry.sound_of_get
      (ValidatorSetRegistry.resolve_eq_ok_iff.mp resolved).1
    rcases settled set accepted resolved with fault | timely
    · exact fault.not_satisfies accepted resolved retimed satisfied
    · obtain ⟨unexpired, supported, enough⟩ := (satisfies_iff accepted resolved).mp satisfied
      have already : aggregator.Satisfies attestation validatorSetId now := by
        refine (satisfies_iff accepted resolved).mpr ⟨unexpired, ⟨?_, fun signature member => ?_⟩, ?_⟩
        · rw [← retimed.labels]
          exact supported.labels
        · obtain ⟨signedAt, listed⟩ := retimed.exists_of_mem member
          exact (supported.count _ listed).countsInTime.retime.counts_of_timely sound
            (timely signature member)
        · rw [retimed.length_eq]
          exact enough
      obtain ⟨other, otherReturned, holds⟩ := already
      rw [returned, Except.ok.injEq] at otherReturned
      rw [← otherReturned, rejected] at holds
      cases holds

end AttestationAggregator

namespace TwoMembers

/-- Signed by the first member a minute after it was disabled, and the same signature
with an instant of the minute before. -/
def late : ValidatorSignature :=
  signature (js "validator-1") (js "key-1") (js "2026-08-11T12:01:00.000Z")

def backdated : ValidatorSignature := { late with signedAt := js "2026-08-11T11:59:00.000Z" }

theorem backdating_undoes_rejection :
    ¬ aggregator.RejectionStands ⟨unsigned, [late]⟩ set.id halfPastNoon := by
  have rejected : (aggregator.verify ⟨unsigned, [late]⟩ set.id halfPastNoon).map
      (·.isSatisfied) = .ok false := by decide +kernel
  have satisfied : (aggregator.verify ⟨unsigned, [backdated]⟩ set.id halfPastNoon).map
      (·.isSatisfied) = .ok true := by decide +kernel
  intro stands
  exact stands (AttestationAggregator.verify_verdict_iff.mp rejected) [backdated]
    (.cons ⟨_, rfl⟩ .nil) (AttestationAggregator.verify_verdict_iff.mp satisfied)

end TwoMembers
end InterWeave
