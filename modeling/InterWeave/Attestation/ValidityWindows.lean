import InterWeave.Attestation.GenericThreshold
import InterWeave.Canton.Releases
import InterWeave.Ethereum.Contracts

/-! # The validity window off and on the chains

Both destinations take an attestation from `validFrom` to just before `expiresAt`. The
two verifiers off the chains look at the end of that window only: an attestation whose
window lies ahead is accepted by them and refused by either destination.
-/

namespace InterWeave

open Atomic

/-! ## The destinations -/

namespace AttestationVerifier

theorem signers_ne_invalidAttestationTime {evm : Evm} {verifier : AttestationVerifier}
    {digest : Bytes32} {previous : Address} {signatures : List (List UInt8)} :
    verifier.signers evm digest previous signatures ≠ .error .invalidAttestationTime := by
  induction signatures generalizing previous with
  | nil => exact nofun
  | cons signature rest ih =>
      rw [signers]
      split
      · exact nofun
      · rename_i signer _
        split
        · exact nofun
        · split
          · exact nofun
          · cases others : verifier.signers evm digest signer rest with
            | ok found => exact nofun
            | error error =>
                intro same
                exact ih (others.trans same)

/-- The time check on EVM fails outside the window only. -/
theorem verify_eq_invalidAttestationTime_iff {evm : Evm} {verifier : AttestationVerifier}
    {self : Address} {timestamp : Uint256} {authorization : Authorization}
    {signatures : List (List UInt8)} :
    verifier.verify evm self timestamp authorization signatures = .error .invalidAttestationTime ↔
      ¬ (authorization.validFrom.toNat ≤ timestamp.toNat ∧
        timestamp.toNat < authorization.expiresAt.toNat) := by
  rw [verify]
  split
  · rename_i outside
    refine ⟨fun _ inside => ?_, fun _ => rfl⟩
    omega
  · rename_i inside
    have window : authorization.validFrom.toNat ≤ timestamp.toNat ∧
        timestamp.toNat < authorization.expiresAt.toNat := by omega
    simp only [window, and_self, not_true_eq_false, iff_false]
    split
    · exact nofun
    · exact signers_ne_invalidAttestationTime

end AttestationVerifier

section Canton

open Daml Daml.Update Interop

variable {Party : Type} {context : Context Party} {ledger : Interop.Ledger Party} {α : Type}

theorem error_of_bind {β : Type} {first : Interop.Update Party β}
    {next : β → Interop.Update Party α} {error : Error}
    (failed : (first >>= next) context ledger = .error error) :
    first context ledger = .error error ∨ ∃ value middle,
      first context ledger = .ok (value, middle) ∧ next value context middle = .error error := by
  cases returned : first context ledger with
  | error other =>
      left
      have same : (first >>= next) context ledger = .error other := by
        show (first context ledger >>= fun found => next found.1 context found.2) = _
        rw [returned]
        rfl
      cases same.symm.trans failed
      rfl
  | ok found =>
      right
      refine ⟨found.1, found.2, rfl, ?_⟩
      have same : (first >>= next) context ledger = next found.1 context found.2 := by
        show (first context ledger >>= fun found => next found.1 context found.2) = _
        rw [returned]
        rfl
      rw [← same, failed]

theorem error_of_assertMsg {message : String} {condition : Bool}
    {next : Unit → Interop.Update Party α} {error : Error}
    (failed : (assertMsg message condition >>= next) context ledger = .error error) :
    condition = false ∧ error = .assertionFailed message ∨
      condition = true ∧ next () context ledger = .error error := by
  cases condition with
  | true => exact Or.inr ⟨rfl, failed⟩
  | false =>
      cases failed
      exact Or.inl ⟨rfl, rfl⟩

variable [DecidableEq Party]

/-- The two messages of the time check on Canton. -/
def timeMessages : List String := ["attestation is not yet valid", "attestation has expired"]

theorem create_error {payload : Payload Party} {error : Error}
    (failed : create (templates Party) payload context ledger = .error error) :
    ∀ message, error ≠ .assertionFailed message := by
  intro message same
  rw [create] at failed
  split at failed
  · cases failed
    cases same
  · split at failed
    · cases failed
    · cases failed
      cases same

theorem fetchAttestation_of_active (context : Context Party) {attestationCid : ContractId}
    {record : AttestationRecord Party}
    (active : ledger.active attestationCid = some (.attestationRecord record)) :
    fetchAttestation attestationCid context ledger = .ok (record, ledger) ∨
      fetchAttestation attestationCid context ledger = .error .authorizationMissing := by
  have fetched : fetch (templates Party) attestationCid context ledger =
        .ok (.attestationRecord record, ledger) ∨
      fetch (templates Party) attestationCid context ledger = .error .authorizationMissing := by
    simp only [fetch, active]
    split
    · exact Or.inl rfl
    · exact Or.inr rfl
  rcases fetched with known | missing
  · left
    show (fetch (templates Party) attestationCid context ledger >>= _) = _
    rw [known]
    rfl
  · right
    show (fetch (templates Party) attestationCid context ledger >>= _) = _
    rw [missing]
    rfl

/-- Once a record is fetched, the time check on Canton fails outside its window only. -/
theorem authorizeRelease_time {locked : LockedAsset Party} {attestationCid : ContractId}
    {record : AttestationRecord Party} {message : String}
    (active : ledger.active attestationCid = some (.attestationRecord record))
    (about : message ∈ timeMessages)
    (failed : locked.authorizeRelease attestationCid context ledger =
      .error (.assertionFailed message)) :
    ¬ (record.validFrom ≤ context.time ∧ context.time < record.expiresAt) := by
  rintro ⟨started, unexpired⟩
  have other : ∀ text, text ∉ timeMessages → ∀ {condition : Bool},
      ¬ (condition = false ∧ Error.assertionFailed message = .assertionFailed text) := by
    rintro text foreign _ ⟨_, same⟩
    cases same
    exact foreign about
  rcases error_of_bind failed with unfetched | ⟨attestation, middle, fetched, failed⟩
  · rcases fetchAttestation_of_active context active with known | missing
    · rw [known] at unfetched
      cases unfetched
    · rw [missing] at unfetched
      cases unfetched
  obtain ⟨known, rfl⟩ := fetchAttestation_ok fetched
  rw [active, Option.some.injEq, Payload.attestationRecord.injEq] at known
  subst known
  rcases error_of_bind failed with impossible | ⟨now, _, read, failed⟩
  · cases impossible
  cases read
  have failed := (error_of_assertMsg failed).resolve_left (other _ (by decide))
  have failed := (error_of_assertMsg failed.2).resolve_left (other _ (by decide))
  have failed := (error_of_assertMsg failed.2).resolve_left (other _ (by decide))
  have failed := (error_of_assertMsg failed.2).resolve_left (other _ (by decide))
  have failed := (error_of_assertMsg failed.2).resolve_left (other _ (by decide))
  have failed := (error_of_assertMsg failed.2).resolve_left fun early =>
    of_decide_eq_false early.1 started
  have failed := (error_of_assertMsg failed.2).resolve_left fun late =>
    of_decide_eq_false late.1 unexpired
  have failed := (error_of_assertMsg failed.2).resolve_left (other _ (by decide))
  exact create_error failed.2 message rfl

end Canton

/-! ## Windows -/

/-- The time check on EVM refuses a window, in whole seconds, at an instant. -/
def EvmRefusesTime (valid expires now : Int) : Prop :=
  ∃ (evm : Evm) (verifier : AttestationVerifier) (self : Address) (timestamp : Uint256)
    (authorization : AttestationVerifier.Authorization) (signatures : List (List UInt8)),
    (authorization.validFrom.toNat : Int) * 1000 = valid ∧
      (authorization.expiresAt.toNat : Int) * 1000 = expires ∧
      (timestamp.toNat : Int) = now / 1000 ∧
      verifier.verify evm self timestamp authorization signatures = .error .invalidAttestationTime

/-- The time check on Canton refuses a window, in microseconds, at an instant. -/
def CantonRefusesTime (valid expires now : Int) : Prop :=
  ∃ (Party : Type) (_ : DecidableEq Party) (context : Daml.Context Party)
    (ledger : Interop.Ledger Party) (locked : Interop.LockedAsset Party)
    (attestationCid : Daml.ContractId) (record : Interop.AttestationRecord Party),
    ledger.active attestationCid = some (.attestationRecord record) ∧
      record.validFrom = valid * 1000 ∧ record.expiresAt = expires * 1000 ∧
      context.time / 1000 = now ∧
      ∃ message ∈ timeMessages, locked.authorizeRelease attestationCid context ledger =
        .error (.assertionFailed message)

variable {platform : Platform}

/-- An instant in the window of two texts, at which no destination refuses that window. -/
def InWindow (platform : Platform) (validFrom expiresAt : JsString) (now : Int) : Prop :=
  ∃ valid expires, platform.dateParse validFrom = some valid ∧
    platform.dateParse expiresAt = some expires ∧ (valid ≤ now ∧ now < expires) ∧
      ¬ EvmRefusesTime valid expires now ∧ ¬ CantonRefusesTime valid expires now

theorem InWindow.of_times {validFrom expiresAt : JsString} {valid expires now : Int}
    (parsedFrom : platform.dateParse validFrom = some valid)
    (parsedUntil : platform.dateParse expiresAt = some expires) (started : valid ≤ now)
    (unexpired : now < expires) : InWindow platform validFrom expiresAt now := by
  refine ⟨valid, expires, parsedFrom, parsedUntil, ⟨started, unexpired⟩, ?_, ?_⟩
  · rintro ⟨evm, verifier, self, timestamp, authorization, signatures, sameFrom, sameUntil, clock,
      refused⟩
    refine AttestationVerifier.verify_eq_invalidAttestationTime_iff.mp refused ⟨?_, ?_⟩
    · omega
    · omega
  · rintro ⟨Party, _, context, ledger, locked, attestationCid, record, active, sameFrom, sameUntil,
      clock, message, about, refused⟩
    refine authorizeRelease_time active about refused ?_
    rw [sameFrom, sameUntil]
    have inside : ∀ time : Int, time / 1000 = now →
        valid * 1000 ≤ time ∧ time < expires * 1000 := by
      intro time same
      omega
    exact inside context.time clock

/-! ## The threshold verifier -/

/-- A verifier to which every signature is a valid one. -/
def acceptAll : AttestationSignatureVerifier := fun _ _ _ _ => .ok true

/-- The members that are enabled when an attestation becomes valid, signing at that
instant. -/
def enabledSignatures (platform : Platform) (unsigned : UnsignedAttestation) (set : ValidatorSet)
    (valid : Int) : List ValidatorSignature :=
  (set.members.filter (·.available platform valid)).map fun member =>
    ⟨member.validatorId, member.algorithm, member.publicKeyId, [], unsigned.validFrom⟩

/-- Members that sign for the instant at which an attestation becomes valid satisfy the
threshold at every instant before it expires. -/
theorem enabledSignatures_satisfy {aggregator : AttestationAggregator platform}
    (accepting : aggregator.verifier = acceptAll) {unsigned : UnsignedAttestation}
    {validatorSetId : JsString} {set : ValidatorSet} {valid expires now : Int}
    (accepted : assertUnsignedAttestation platform unsigned = .ok ())
    (resolved : aggregator.sets.resolve validatorSetId unsigned.validFrom = .ok set)
    (parsedFrom : platform.dateParse unsigned.validFrom = some valid)
    (parsedUntil : platform.dateParse unsigned.expiresAt = some expires) (unexpired : now < expires) :
    aggregator.Satisfies ⟨unsigned, enabledSignatures platform unsigned set valid⟩ validatorSetId
      now := by
  obtain ⟨known, time, parsedTime, validAt⟩ := ValidatorSetRegistry.resolve_eq_ok_iff.mp resolved
  rw [parsedFrom] at parsedTime
  cases parsedTime
  have sound := ValidatorSetRegistry.sound_of_get known
  obtain ⟨observed, _, _, window⟩ := assertUnsignedAttestation_window accepted
  have ordered := window.ordered
  rw [window.validFrom] at parsedFrom
  cases parsedFrom
  rw [window.expiresAt] at parsedUntil
  cases parsedUntil
  obtain ⟨bytes, rendered⟩ := canonicalAttestationBytes_ok accepted
  refine (AttestationAggregator.satisfies_iff accepted resolved).mpr
    ⟨⟨expires, window.expiresAt, unexpired⟩, ⟨?_, fun signature member => ?_⟩, ?_⟩
  · rw [enabledSignatures, List.map_map]
    exact sound.ids.sublist (List.filter_sublist.map _)
  · obtain ⟨owner, listed, rfl⟩ := List.mem_map.mp member
    obtain ⟨registered, enabled⟩ := List.mem_filter.mp listed
    refine ⟨⟨owner, registered, rfl, rfl, valid, window.validFrom,
      ValidatorMember.available_iff.mp enabled, ⟨observed, window.observedAt, ordered.1⟩, expires,
      window.expiresAt, ordered.2⟩, bytes, rendered, ?_⟩
    rw [accepting]
    rfl
  · obtain ⟨count, threshold, enough⟩ := sound.enough_enabled validAt
    rw [threshold, JsNumber.le_ofNat, enabledSignatures, List.length_map,
      ← List.countP_eq_length_filter]
    exact decide_eq_true enough

/-! ## The generic verifier -/

/-- One signature is enough for a caller who asks for one. -/
theorem acceptAll_verifies {attestation : GenericStateAttestation} {now : Int}
    (opens : attestation.Opens platform (.ofNat 1) now) {signature : ValidatorSignature}
    (signed : attestation.signatures = [signature]) :
    verifyGenericAttestation platform attestation (.ofNat 1) acceptAll now = .ok true := by
  obtain ⟨bytes, rendered, _⟩ := ok_of_bind opens.digest
  refine verifyGenericAttestation_eq_true_iff.mpr ⟨opens, bytes, 1, rendered, ?_, ?_⟩
  · rw [signed, countValid, if_neg List.not_mem_nil]
    rfl
  · rw [JsNumber.le_ofNat]
    rfl

/-- An attestation of a statement that its checks let through. -/
theorem exists_opens (now : Int) {statement : GenericAttestationStatement} {bytes : List UInt8}
    (rendered : canonicalGenericAttestationBytes platform statement = .ok bytes)
    (unexpired : numberLe (platform.dateParse statement.expiresAt) (some now) = false)
    (signature : ValidatorSignature) :
    ∃ attestation : GenericStateAttestation, attestation.statement = statement ∧
      attestation.signatures = [signature] ∧ attestation.Opens platform (.ofNat 1) now := by
  obtain ⟨_, accepted, _⟩ := ok_of_bind rendered
  have digested : genericAttestationDigest platform statement =
      .ok (js "sha256:" ++ platform.sha256Hex bytes) := by
    rw [genericAttestationDigest, rendered]
    rfl
  exact ⟨⟨statement, [signature], _, js "VERIFIED_EVIDENCE_ONLY", false⟩, rfl, rfl,
    ⟨accepted, rfl, rfl, unexpired, by rw [JsNumber.lt_ofNat]; rfl, digested⟩⟩

theorem validateStatement_times {statement : GenericAttestationStatement}
    (accepted : validateStatement platform statement = .ok ()) :
    ∃ valid expires, platform.dateParse statement.validFrom = some valid ∧
      platform.dateParse statement.expiresAt = some expires := by
  obtain ⟨_, accepted, _⟩ := ok_of_bind accepted
  rw [validateRequest] at accepted
  split at accepted
  · cases accepted
  split at accepted
  · cases accepted
  split at accepted
  · cases accepted
  split at accepted
  · cases accepted
  split at accepted
  · cases accepted
  split at accepted
  · rename_i created valid expires _ parsedFrom parsedUntil
    exact ⟨valid, expires, parsedFrom, parsedUntil⟩
  · cases accepted

/-! ## Both verifiers -/

/-- **When acceptance keeps to the window.** Whatever the signatures and the verifier, an
attestation is accepted only at instants of its window, which no destination refuses, exactly
when it is refused with an error, its window has begun, or it has expired; and so for a
generic statement. -/
theorem accepted_in_window_iff (platform : Platform) (registry : ValidatorSetRegistry platform)
    (unsigned : UnsignedAttestation) (validatorSetId : JsString)
    (statement : GenericAttestationStatement) (now : Int) :
    ((∀ aggregator : AttestationAggregator platform, aggregator.sets = registry →
        ∀ signatures, aggregator.Satisfies ⟨unsigned, signatures⟩ validatorSetId now →
          InWindow platform unsigned.validFrom unsigned.expiresAt now) ↔
      ∀ set valid expires, assertUnsignedAttestation platform unsigned = .ok () →
        registry.resolve validatorSetId unsigned.validFrom = .ok set →
          platform.dateParse unsigned.validFrom = some valid →
            platform.dateParse unsigned.expiresAt = some expires →
              valid ≤ now ∨ expires ≤ now) ∧
    ((∀ attestation : GenericStateAttestation, attestation.statement = statement →
        ∀ threshold verifier,
          verifyGenericAttestation platform attestation threshold verifier now = .ok true →
            InWindow platform statement.validFrom statement.expiresAt now) ↔
      ∀ bytes valid expires, canonicalGenericAttestationBytes platform statement = .ok bytes →
        platform.dateParse statement.validFrom = some valid →
          platform.dateParse statement.expiresAt = some expires →
            valid ≤ now ∨ expires ≤ now) := by
  refine ⟨⟨?_, ?_⟩, ?_, ?_⟩
  · intro inWindow set valid expires accepted resolved parsedFrom parsedUntil
    by_contra outside
    have early : now < valid ∧ now < expires := by omega
    obtain ⟨started, _, parsedStart, _, inside, _⟩ :=
      inWindow ⟨registry, acceptAll, fun _ _ => .eq⟩ rfl _
        (enabledSignatures_satisfy rfl accepted resolved parsedFrom parsedUntil early.2)
    rw [parsedFrom] at parsedStart
    cases parsedStart
    omega
  · rintro begun aggregator rfl signatures satisfied
    have ⟨_, returned, _⟩ := satisfied
    obtain ⟨accepted, set, resolved, _⟩ := AttestationAggregator.verify_eq_ok_iff.mp returned
    obtain ⟨⟨expires, parsedUntil, unexpired⟩, _⟩ :=
      (AttestationAggregator.satisfies_iff accepted resolved).mp satisfied
    obtain ⟨_, valid, _, window⟩ := assertUnsignedAttestation_window accepted
    refine .of_times window.validFrom parsedUntil ?_ unexpired
    have started := begun set valid expires accepted resolved window.validFrom parsedUntil
    omega
  · intro inWindow bytes valid expires rendered parsedFrom parsedUntil
    by_contra outside
    have early : now < valid ∧ now < expires := by omega
    obtain ⟨attestation, same, signed, opens⟩ := exists_opens now rendered
      (by simpa [parsedUntil, numberLe] using early.2) ⟨[], [], [], [], []⟩
    obtain ⟨started, _, parsedStart, _, inside, _⟩ :=
      inWindow attestation same _ _ (acceptAll_verifies opens signed)
    rw [parsedFrom] at parsedStart
    cases parsedStart
    omega
  · rintro begun attestation rfl threshold verifier returned
    obtain ⟨opens, bytes, _, rendered, _⟩ := verifyGenericAttestation_eq_true_iff.mp returned
    obtain ⟨valid, expires, parsedFrom, parsedUntil⟩ := validateStatement_times opens.statement
    have unexpired := opens.unexpired
    rw [parsedUntil, numberLe, decide_eq_false_iff_not, not_le] at unexpired
    refine .of_times parsedFrom parsedUntil ?_ unexpired
    have started := begun bytes valid expires rendered parsedFrom parsedUntil
    omega

theorem InWindow.started {validFrom expiresAt : JsString} {now : Int}
    (inWindow : InWindow platform validFrom expiresAt now) (valid : Int)
    (parsed : platform.dateParse validFrom = some valid) : valid ≤ now := by
  obtain ⟨other, _, otherParsed, _, inside, _⟩ := inWindow
  rw [parsed] at otherParsed
  cases otherParsed
  exact inside.1

namespace TwoMembers

/-- 2026-08-11T11:52:00.000Z, before either window. -/
def early : Int := 1786449120000

def ahead : ValidatorSignature :=
  signature (js "validator-2") (js "key-2") (js "2026-08-11T11:51:00.000Z")

theorem accepted_before_window :
    (aggregator.Satisfies ⟨unsigned, [ahead]⟩ set.id early ∧
      ¬ InWindow isoPlatform unsigned.validFrom unsigned.expiresAt early) ∧
    (verifyGenericAttestation isoPlatform (RelabelledKey.attestation [ahead]) (.ofNat 1) acceptAll
        early = .ok true ∧
      ¬ InWindow isoPlatform RelabelledKey.statement.validFrom RelabelledKey.statement.expiresAt
        early) := by
  refine ⟨⟨AttestationAggregator.verify_verdict_iff.mp (by decide +kernel), fun inWindow => ?_⟩,
    acceptAll_verifies (RelabelledKey.opens _ (by rw [JsNumber.lt_ofNat]; rfl)
      (by decide +kernel)) rfl, fun inWindow => ?_⟩
  · have started := inWindow.started 1786449300000 (by decide +kernel)
    rw [early] at started
    omega
  · have started := inWindow.started 1786449600000 (by decide +kernel)
    rw [early] at started
    omega

end TwoMembers
end InterWeave
