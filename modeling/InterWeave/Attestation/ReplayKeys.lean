import InterWeave.Attestation.SignedBytes
import InterWeave.Core.Fingerprints
import InterWeave.Text.Separators

/-! # Replay keys

`attestationReplayKey` hashes four fields joined by bars. The nonce has no bar, the identifiers
around it may: an operation identifier that goes on with the nonce and the network of another
attestation takes its key.
-/

namespace InterWeave

open Atomic JsString

variable {platform : Platform} {first second : UnsignedAttestation}

/-- The bytes whose hash is the replay key. -/
def replayBytes (attestation : UnsignedAttestation) : List UInt8 :=
  JsString.encode (attestation.version ++ js "|" ++ attestation.operationId ++ js "|" ++
    attestation.nonce ++ js "|" ++ attestation.destinationNetworkId)

/-- `attestationReplayKey(attestation)`. -/
def attestationReplayKey (platform : Platform) (attestation : UnsignedAttestation) : JsString :=
  platform.sha256Hex (replayBytes attestation)

/-! ## Accepted fields -/

/-- A loop of checks passes only if each of them does. -/
theorem checked_of_forIn {Item : Type} {check : Item → Except Thrown Unit} {items : List Item}
    {result : PUnit} (passed : (forIn items PUnit.unit fun item _ => do
      check item
      pure (ForInStep.yield PUnit.unit)) = Except.ok result) :
    ∀ item ∈ items, check item = .ok () := by
  induction items with
  | nil => exact fun _ none => (List.not_mem_nil none).elim
  | cons item rest ih =>
      rw [List.forIn_cons] at passed
      obtain ⟨_, own, passed⟩ := ok_of_bind passed
      obtain ⟨_, checked, stepped⟩ := ok_of_bind own
      cases stepped
      exact List.forall_mem_cons.mpr ⟨checked, ih passed⟩

/-- What the checks say of the fields that the replay key binds. -/
structure UnsignedAttestation.Bound (attestation : UnsignedAttestation) : Prop where
  version : attestation.version = attestationProtocolVersion
  nonce : isNonce attestation.nonce = true
  destination : ∃ network, attestation.destinationNetworkId = js "IW:NETWORK:" ++ network

theorem assertUnsignedAttestation_bound {attestation : UnsignedAttestation}
    (accepted : assertUnsignedAttestation platform attestation = .ok ()) : attestation.Bound := by
  rw [assertUnsignedAttestation] at accepted
  dsimp only at accepted
  split at accepted
  · cases accepted
  rename_i version
  obtain ⟨_, identified, accepted⟩ := ok_of_bind accepted
  split at accepted
  · cases accepted
  obtain ⟨_, _, accepted⟩ := ok_of_bind accepted
  split at accepted
  · cases accepted
  rename_i nonce
  refine ⟨not_not.mp version, by simpa using nonce, ?_⟩
  have destination := checked_of_forIn identified
    (attestation.destinationNetworkId, js "IW:NETWORK:", js "destination network")
    (by simp [UnsignedAttestation.identifiers])
  dsimp only at destination
  rw [assertId] at destination
  split at destination
  · cases destination
  rename_i named
  rw [Bool.or_eq_true, not_or, Bool.not_eq_true', Bool.not_eq_false, startsWith,
    List.isPrefixOf_iff_prefix] at named
  obtain ⟨network, same⟩ := named.1
  exact ⟨network, same.symm⟩

theorem nonce_ascii {value : JsString} (nonce : isNonce value = true) :
    ∀ unit ∈ value, 45 ≤ unit.toNat ∧ unit.toNat ≤ 122 ∧ unit.toNat ≠ 58 := by
  intro unit member
  rw [isNonce, Bool.and_eq_true, List.all_eq_true] at nonce
  have safe := nonce.2 unit member
  simp only [Bool.or_eq_true, Bool.and_eq_true, decide_eq_true_eq, beq_iff_eq,
    UInt16.le_iff_toNat_le, ← UInt16.toNat_inj, UInt16.reduceToNat] at safe
  omega

theorem nonce_bytes {value : JsString} (nonce : isNonce value = true) :
    value.encode = value.map (fun unit => unit.toNat.toUInt8) ∧ 16 ≤ value.encode.length ∧
      ∀ byte ∈ value.encode, byte ≠ 124 ∧ byte ≠ 58 := by
  have ascii := nonce_ascii nonce
  have bytes := encode_ascii (fun unit member => by have := ascii unit member; omega) []
  rw [List.append_nil, encode, List.append_nil] at bytes
  refine ⟨bytes, ?_, ?_⟩
  · rw [bytes, List.length_map]
    rw [isNonce, Bool.and_eq_true, Bool.and_eq_true, decide_eq_true_eq] at nonce
    exact nonce.1.1
  · rw [bytes]
    intro byte member
    obtain ⟨unit, among, rfl⟩ := List.mem_map.mp member
    have bounds := ascii unit among
    have value : unit.toNat.toUInt8.toNat = unit.toNat := Nat.mod_eq_of_lt (by omega)
    simp only [Ne, ← UInt8.toNat_inj, value, UInt8.reduceToNat]
    omega

theorem eq_of_nonce_bytes {value other : JsString} (nonce : isNonce value = true)
    (another : isNonce other = true) (same : value.encode = other.encode) : value = other := by
  have isText : ∀ {value : JsString}, isNonce value = true → value.IsText := by
    intro value nonce
    apply isText_of_ascii
    intro unit member
    have bounds := nonce_ascii nonce unit member
    simp only [UInt16.lt_iff_toNat_lt, UInt16.reduceToNat]
    omega
  exact (isText nonce).eq_of_encode (isText another) same

/-! ## Keys -/

/-- The fields that the key is to bind are the same. -/
structure SameReplay (first second : UnsignedAttestation) : Prop where
  version : first.version = second.version
  operationId : first.operationId = second.operationId
  nonce : first.nonce = second.nonce
  destinationNetworkId : first.destinationNetworkId = second.destinationNetworkId

/-- The operation of the second attestation goes on, in UTF-8, with the nonce of the first and with
the start of its network, which ends in the nonce and the network of the second. -/
def ReplayMoved (first second : UnsignedAttestation) : Prop :=
  ∃ inner : List UInt8,
    second.operationId.encode =
      first.operationId.encode ++ 124 :: (first.nonce.encode ++ 124 :: inner) ∧
    first.destinationNetworkId.encode =
      inner ++ 124 :: (second.nonce.encode ++ 124 :: second.destinationNetworkId.encode)

/-- The identifiers differ in lone surrogates only, which UTF-8 replaces. -/
structure SurrogatesDiffer (first second : UnsignedAttestation) : Prop where
  nonce : first.nonce = second.nonce
  operationId : first.operationId.encode = second.operationId.encode
  destinationNetworkId : first.destinationNetworkId.encode = second.destinationNetworkId.encode
  differ : first.operationId ≠ second.operationId ∨
    first.destinationNetworkId ≠ second.destinationNetworkId

/-- No other attestation is read into the fields. -/
structure ReplayApart (first second : UnsignedAttestation) : Prop where
  forth : ¬ ReplayMoved first second
  back : ¬ ReplayMoved second first
  written : ¬ SurrogatesDiffer first second

theorem replayBytes_eq (attestation : UnsignedAttestation) : replayBytes attestation =
    attestation.version.encode ++ 124 :: (attestation.operationId.encode ++
      124 :: (attestation.nonce.encode ++ 124 :: attestation.destinationNetworkId.encode)) := by
  have bar : js "|" = [124] := by decide
  have joined : ∀ value rest : JsString,
      JsString.encode (value ++ 124 :: rest) = value.encode ++ 124 :: rest.encode :=
    encode_separated (by decide)
  rw [replayBytes, bar]
  simp only [List.append_assoc, List.cons_append, List.nil_append, joined]

/-- A nonce does not start a network. -/
theorem UnsignedAttestation.Bound.not_nonce {attestation : UnsignedAttestation}
    (bound : attestation.Bound) {value : JsString} (nonce : isNonce value = true)
    (rest : List UInt8) : attestation.destinationNetworkId.encode ≠ value.encode ++ rest := by
  obtain ⟨network, destination⟩ := bound.destination
  obtain ⟨_, length, safe⟩ := nonce_bytes nonce
  have start : attestation.destinationNetworkId.encode =
      [73, 87, 58, 78, 69, 84, 87, 79, 82, 75, 58] ++ network.encode := by
    have ascii : ∀ unit ∈ js "IW:NETWORK:", 0 < unit ∧ unit < 0x80 := ascii_of_all (by decide)
    rw [destination, encode_ascii fun unit member => (ascii unit member).2]
    rfl
  intro same
  have third : value.encode[2]? = some 58 := by
    have within : (value.encode ++ rest)[2]? = value.encode[2]? :=
      List.getElem?_append_left (by omega)
    rw [← within, ← same, start]
    rfl
  exact (safe 58 (List.mem_of_getElem? third)).2 rfl

theorem replayBytes_eq_iff (bound : first.Bound) (other : second.Bound) :
    replayBytes first = replayBytes second ↔
      (first.operationId.encode = second.operationId.encode ∧ first.nonce = second.nonce ∧
        first.destinationNetworkId.encode = second.destinationNetworkId.encode) ∨
      ReplayMoved first second ∨ ReplayMoved second first := by
  have apart : ∀ {attestation : UnsignedAttestation}, attestation.Bound →
      124 ∉ attestation.nonce.encode :=
    fun bound member => ((nonce_bytes bound.nonce).2.2 124 member).1 rfl
  have moved : ∀ {first second : UnsignedAttestation}, first.Bound → second.Bound →
      Text.ReadsOn 124 first.operationId.encode first.nonce.encode
        first.destinationNetworkId.encode second.operationId.encode second.nonce.encode
        second.destinationNetworkId.encode → ReplayMoved first second := by
    rintro first second bound other (⟨_, last⟩ | moved)
    · exact (bound.not_nonce other.nonce _ last).elim
    · exact moved
  rw [replayBytes_eq, replayBytes_eq, bound.version, other.version, List.append_cancel_left_eq,
    List.cons.injEq, and_iff_right rfl]
  constructor
  · intro same
    rcases Text.split_middle (apart bound) (apart other) same with same | reads | reads
    · exact .inl ⟨same.1, eq_of_nonce_bytes bound.nonce other.nonce same.2.1, same.2.2⟩
    · exact .inr (.inl (moved bound other reads))
    · exact .inr (.inr (moved other bound reads))
  · rintro (⟨operation, nonce, network⟩ | reads | reads)
    · rw [operation, nonce, network]
    · exact Text.ReadsOn.joined (.inr reads)
    · exact (Text.ReadsOn.joined (.inr reads)).symm

theorem ReplayMoved.operation_ne (moved : ReplayMoved first second) :
    first.operationId ≠ second.operationId :=
  fun same => Text.ReadsOn.ne (.inr moved) (congrArg JsString.encode same)

/-- **Replay keys.** With a hash without collisions, the keys of two accepted attestations are the
same exactly for the same version, operation, nonce and destination, if and only if neither
operation goes on with the nonce and the network of the other attestation into its network and the
identifiers do not differ in lone surrogates only. Among attestations that are apart in this way, a
recorded key is that of a recorded attestation with the same fields. -/
theorem attestationReplayKey_binds_iff (collisionFree : Function.Injective platform.sha256Hex)
    (accepted : assertUnsignedAttestation platform first = .ok ())
    (admitted : assertUnsignedAttestation platform second = .ok ()) :
    ((attestationReplayKey platform first = attestationReplayKey platform second ↔
      SameReplay first second) ↔ ReplayApart first second) ∧
    ∀ recorded : List UnsignedAttestation,
      (∀ one ∈ recorded, assertUnsignedAttestation platform one = .ok () ∧
        ReplayApart one second) →
      (attestationReplayKey platform second ∈ recorded.map (attestationReplayKey platform) ↔
        ∃ one ∈ recorded, SameReplay one second) := by
  have other := assertUnsignedAttestation_bound admitted
  have same : ∀ {first : UnsignedAttestation}, SameReplay first second →
      attestationReplayKey platform first = attestationReplayKey platform second := by
    rintro first ⟨version, operation, nonce, network⟩
    rw [attestationReplayKey, attestationReplayKey, replayBytes, replayBytes, version, operation,
      nonce, network]
  have binds : ∀ {first : UnsignedAttestation},
      assertUnsignedAttestation platform first = .ok () → ReplayApart first second →
      (attestationReplayKey platform first = attestationReplayKey platform second ↔
        SameReplay first second) := by
    intro first accepted apart
    have bound := assertUnsignedAttestation_bound accepted
    refine ⟨fun keys => ?_, same⟩
    rcases (replayBytes_eq_iff bound other).mp (collisionFree keys) with fields | moved | moved
    · obtain ⟨operation, nonce, network⟩ := fields
      have written : ¬ (first.operationId ≠ second.operationId ∨
          first.destinationNetworkId ≠ second.destinationNetworkId) :=
        fun differ => apart.written ⟨nonce, operation, network, differ⟩
      rw [not_or, not_not, not_not] at written
      exact ⟨bound.version.trans other.version.symm, written.1, nonce, written.2⟩
    · exact (apart.forth moved).elim
    · exact (apart.back moved).elim
  have bound := assertUnsignedAttestation_bound accepted
  have keys := fun joined => congrArg platform.sha256Hex ((replayBytes_eq_iff bound other).mpr joined)
  refine ⟨⟨fun claim => ⟨fun moved => ?_, fun moved => ?_, fun written => ?_⟩, binds accepted⟩,
    fun recorded known => ?_⟩
  · exact moved.operation_ne (claim.mp (keys (.inr (.inl moved)))).operationId
  · exact moved.operation_ne (claim.mp (keys (.inr (.inr moved)))).operationId.symm
  · have fields := claim.mp (keys (.inl ⟨written.operationId, written.nonce,
      written.destinationNetworkId⟩))
    exact written.differ.elim (absurd fields.operationId) (absurd fields.destinationNetworkId)
  · rw [List.mem_map]
    refine exists_congr fun one => and_congr_right fun member => ?_
    exact binds (known one member).1 (known one member).2

namespace MovedReplay

open TwoMembers

/-- An attestation to a network whose identifier holds a nonce and another network. -/
def short : UnsignedAttestation :=
  { unsigned with
    nonce := js "nonce-of-the-first"
    destinationNetworkId := js "IW:NETWORK:a|nonce-of-the-other|IW:NETWORK:b" }

/-- An attestation of an operation whose identifier holds the nonce and the start of the network. -/
def long : UnsignedAttestation :=
  { unsigned with
    operationId := js "IW:BRIDGE:o1|nonce-of-the-first|IW:NETWORK:a"
    nonce := js "nonce-of-the-other"
    destinationNetworkId := js "IW:NETWORK:b" }

/-- The attestation under a fresh nonce. -/
def renewed : UnsignedAttestation := { unsigned with nonce := js "nonce_of_the_second_run" }

theorem accepted : ∀ attestation ∈ [unsigned, renewed, short, long],
    assertUnsignedAttestation isoPlatform attestation = .ok () := by
  intro attestation member
  have fine : (assertUnsignedAttestation isoPlatform attestation).isOk = true := by
    revert attestation
    decide +kernel
  cases returned : assertUnsignedAttestation isoPlatform attestation with
  | ok _ => rfl
  | error error =>
      rw [returned] at fine
      cases fine

/-- Two operations to two networks have one replay key, under every hash. -/
theorem one_key : assertUnsignedAttestation isoPlatform short = .ok () ∧
    assertUnsignedAttestation isoPlatform long = .ok () ∧
    short.operationId ≠ long.operationId ∧ short.nonce ≠ long.nonce ∧
    short.destinationNetworkId ≠ long.destinationNetworkId ∧
    ∀ platform : Platform, attestationReplayKey platform short = attestationReplayKey platform long := by
  refine ⟨accepted short (by decide), accepted long (by decide), by decide, by decide, by decide, ?_⟩
  intro platform
  have same : replayBytes short = replayBytes long := by decide +kernel
  exact congrArg platform.sha256Hex same

/-- A fresh nonce gives a fresh key. -/
theorem renewed_key :
    attestationReplayKey isoPlatform unsigned ≠ attestationReplayKey isoPlatform renewed := by
  have differ : ¬ SameReplay unsigned renewed := fun same => absurd same.nonce (by decide)
  have apart : ReplayApart unsigned renewed := by
    refine ⟨fun moved => ?_, fun moved => ?_, fun written => ?_⟩
    · exact moved.operation_ne rfl
    · exact moved.operation_ne rfl
    · exact absurd written.nonce (by decide)
  exact ((attestationReplayKey_binds_iff isoPlatform_sha256Hex_injective
    (accepted unsigned (by decide)) (accepted renewed (by decide))).1.mpr apart).not.mpr differ

end MovedReplay

end InterWeave
