import InterWeave.Attestation.GenericThreshold
import InterWeave.Core.CanonicalText

/-! # What signed bytes say

The bytes behind the last NUL are those of a canonical text, whatever the identifiers in
front of it contain; and a canonical text tells the values of the signed fields. The two kinds
of signed artifacts differ before the first identifier.
-/

namespace InterWeave

open Atomic

variable {platform : Platform}

/-- The signed fields, under the names they are rendered with. -/
def UnsignedAttestation.fields (attestation : UnsignedAttestation) : List (JsString × JsString) := [
  (js "amount", attestation.amount),
  (js "assetId", attestation.assetId),
  (js "attestationId", attestation.id),
  (js "destinationNetworkId", attestation.destinationNetworkId),
  (js "destinationNetworkType", attestation.destinationNetworkType),
  (js "eventType", attestation.eventType),
  (js "expiresAt", attestation.expiresAt),
  (js "nonce", attestation.nonce),
  (js "observedAt", attestation.observedAt),
  (js "observedStatePosition", attestation.observedStatePosition),
  (js "operationId", attestation.operationId),
  (js "policyVersion", attestation.policyVersion),
  (js "receiver", attestation.receiver),
  (js "sender", attestation.sender),
  (js "sourceEventPosition", attestation.sourceEventPosition),
  (js "sourceNetworkId", attestation.sourceNetworkId),
  (js "sourceNetworkType", attestation.sourceNetworkType),
  (js "sourceTransactionId", attestation.sourceTransactionId),
  (js "validFrom", attestation.validFrom),
  (js "version", attestation.version)]

/-- An object whose properties are strings. -/
def stringProperties (fields : List (JsString × JsString)) : List (JsString × JsValue) :=
  fields.map fun field => (field.1, .string field.2)

theorem canonicalAttestationBytes_inv {attestation : UnsignedAttestation} {bytes : List UInt8}
    (rendered : canonicalAttestationBytes platform attestation = .ok bytes) :
    ∃ text, canonicalJson platform (.object (stringProperties attestation.fields)) = .ok text ∧
      bytes = JsString.encode (attestationDomain attestation ++ 0 :: text) := by
  obtain ⟨object, built, rendered⟩ := ok_of_bind rendered
  obtain ⟨text, payload, rendered⟩ := ok_of_bind rendered
  obtain ⟨_, _, built⟩ := ok_of_bind built
  have same : .object (stringProperties attestation.fields) = object := Except.ok.inj built
  refine ⟨text, same ▸ payload, ?_⟩
  rw [← Except.ok.inj rendered, List.append_assoc, List.singleton_append]

theorem stringProperties_over (fields : List (JsString × JsString)) :
    (JsValue.object (stringProperties fields)).Over fun _ => False := by
  rw [JsValue.Over, JsValue.propertiesOver_iff]
  intro property member
  obtain ⟨field, _, rfl⟩ := List.mem_map.mp member
  trivial

/-- Objects of strings under the same names have the same canonical text only if they are
the same. -/
theorem stringProperties_inj {first second : List (JsString × JsString)} {text : JsString}
    (distinct : (first.map Prod.fst).Nodup) (names : first.map Prod.fst = second.map Prod.fst)
    (rendered : canonicalJson platform (.object (stringProperties first)) = .ok text)
    (renders : canonicalJson platform (.object (stringProperties second)) = .ok text) :
    first.map Prod.snd = second.map Prod.snd := by
  have keys : ∀ fields, (stringProperties fields).map Prod.fst = fields.map Prod.fst :=
    fun fields => List.map_map
  have same := sorted_eq_of_canonicalJson platform.formats_none (stringProperties_over first)
    (stringProperties_over second) rendered renders
  have values := JsValue.values_eq_of_sorted (by rwa [keys]) (by rwa [keys, keys]) same
  rw [stringProperties, stringProperties, List.map_map, List.map_map] at values
  have injective : Function.Injective JsValue.string := fun _ _ same => JsValue.string.inj same
  refine List.map_injective_iff.mpr injective ?_
  rw [List.map_map, List.map_map]
  exact values

theorem UnsignedAttestation.distinct_fields (attestation : UnsignedAttestation) :
    (attestation.fields.map Prod.fst).Nodup := by
  have names : (fields attestation).map Prod.fst = [js "amount", js "assetId",
      js "attestationId", js "destinationNetworkId", js "destinationNetworkType", js "eventType",
      js "expiresAt", js "nonce", js "observedAt", js "observedStatePosition", js "operationId",
      js "policyVersion", js "receiver", js "sender", js "sourceEventPosition",
      js "sourceNetworkId", js "sourceNetworkType", js "sourceTransactionId", js "validFrom",
      js "version"] := rfl
  rw [names]
  decide +kernel

theorem UnsignedAttestation.eq_of_fields {first second : UnsignedAttestation}
    (same : first.fields.map Prod.snd = second.fields.map Prod.snd) : first = second := by
  cases first
  cases second
  simp only [fields, List.map_cons, List.map_nil, List.cons.injEq] at same
  simp only [same]

/-! ## The two kinds of artifacts -/

theorem JsString.IsText.encode_append {start : JsString} (text : start.IsText) (rest : JsString) :
    (start ++ rest).encode = start.encode ++ rest.encode := by
  obtain ⟨scalars, valid, rfl⟩ := text
  induction scalars with
  | nil => rfl
  | cons scalar scalars ih =>
      obtain ⟨first, others⟩ := List.forall_mem_cons.mp valid
      rw [List.flatMap_cons, List.append_assoc, encode_units first, encode_units first, ih others,
        List.append_assoc]

/-- The names of the two kinds of artifacts differ in a unit that both have. -/
theorem encode_ne_of_domain (more rest : JsString) :
    JsString.encode (js "INTERWEAVE_A" ++ more) ≠ JsString.encode (js "INTERWEAVE_G" ++ rest) := by
  intro same
  have ascii : ∀ start ∈ [js "INTERWEAVE_A", js "INTERWEAVE_G"], start.IsText := by
    have units : ∀ start ∈ [js "INTERWEAVE_A", js "INTERWEAVE_G"],
        (start.all fun unit => 0 < unit && unit < 0x80) = true := by
      decide
    exact fun start member => JsString.isText_of_ascii (JsString.ascii_of_all (units start member))
  rw [(ascii _ (by decide)).encode_append, (ascii _ (by decide)).encode_append] at same
  exact absurd (List.append_inj_left same (by decide)) (by decide)

theorem attestation_ne_generic {attestation : UnsignedAttestation}
    {statement : GenericAttestationStatement} {bytes other : List UInt8}
    (rendered : canonicalAttestationBytes platform attestation = .ok bytes)
    (renders : canonicalGenericAttestationBytes platform statement = .ok other) : bytes ≠ other := by
  obtain ⟨text, _, rfl⟩ := canonicalAttestationBytes_inv rendered
  obtain ⟨_, _, renders⟩ := ok_of_bind renders
  obtain ⟨payload, _, renders⟩ := ok_of_bind renders
  cases renders
  exact encode_ne_of_domain _ _

theorem eq_of_canonicalAttestationBytes {first second : UnsignedAttestation} {bytes : List UInt8}
    (rendered : canonicalAttestationBytes platform first = .ok bytes)
    (renders : canonicalAttestationBytes platform second = .ok bytes) : first = second := by
  obtain ⟨text, payload, same⟩ := canonicalAttestationBytes_inv rendered
  obtain ⟨reading, content, equal⟩ := canonicalAttestationBytes_inv renders
  have isText := isText_canonicalJson platform.formats_none _ _ (stringProperties_over _) payload
  have isReading := isText_canonicalJson platform.formats_none _ _ (stringProperties_over _) content
  obtain rfl := isText.eq_of_encode_nul isReading (same.symm.trans equal)
  exact UnsignedAttestation.eq_of_fields (stringProperties_inj first.distinct_fields rfl payload content)

/-- A verifier that accepts a signature under a key for one artifact at most. -/
def AttestationSignatureVerifier.Binds (verifier : AttestationSignatureVerifier) : Prop :=
  ∀ algorithm publicKeyId signature bytes other,
    verifier algorithm publicKeyId signature bytes = .ok true →
      verifier algorithm publicKeyId signature other = .ok true → bytes = other

/-- **Signed bytes.** Two accepted attestations have the same bytes only if all their fields are
the same, no generic statement has the bytes of an attestation, and so a signature over one
artifact verifies no other. -/
theorem canonicalAttestationBytes_eq_iff {first second : UnsignedAttestation}
    (accepted : assertUnsignedAttestation platform first = .ok ())
    (admitted : assertUnsignedAttestation platform second = .ok ()) :
    (canonicalAttestationBytes platform first = canonicalAttestationBytes platform second ↔
      first = second) ∧
    (∀ statement, validateStatement platform statement = .ok () →
      canonicalAttestationBytes platform first ≠
        canonicalGenericAttestationBytes platform statement) ∧
    ∀ verifier : AttestationSignatureVerifier, verifier.Binds →
      ∀ algorithm publicKeyId signature bytes other,
        canonicalAttestationBytes platform first = .ok bytes →
        verifier algorithm publicKeyId signature bytes = .ok true →
        verifier algorithm publicKeyId signature other = .ok true →
        (canonicalAttestationBytes platform second = .ok other → first = second) ∧
          ∀ statement, canonicalGenericAttestationBytes platform statement ≠ .ok other := by
  obtain ⟨bytes, rendered⟩ := canonicalAttestationBytes_ok accepted
  obtain ⟨other, renders⟩ := canonicalAttestationBytes_ok admitted
  refine ⟨⟨fun same => ?_, fun same => by rw [same]⟩, fun statement _ same => ?_, ?_⟩
  · exact eq_of_canonicalAttestationBytes rendered (same ▸ rendered)
  · exact attestation_ne_generic rendered (same ▸ rendered) rfl
  · intro verifier binds algorithm publicKeyId signature bytes other rendered verifies verified
    obtain rfl := binds _ _ _ _ _ verifies verified
    exact ⟨fun reads => eq_of_canonicalAttestationBytes rendered reads,
      fun statement reads => attestation_ne_generic rendered reads rfl⟩

namespace QuotedPosition

open TwoMembers

/-- The attestation at a position that looks like the end of a rendered field. -/
def quoted : UnsignedAttestation :=
  { unsigned with sourceEventPosition := js "block:10\",\"sourceNetworkId\":\"|" ++ [0] }

theorem accepted : ∀ attestation ∈ [unsigned, quoted],
    assertUnsignedAttestation isoPlatform attestation = .ok () := by
  intro attestation member
  have fine : (assertUnsignedAttestation isoPlatform attestation).isOk = true := by
    revert attestation
    decide +kernel
  cases returned : assertUnsignedAttestation isoPlatform attestation with
  | ok _ => rfl
  | error error =>
      rw [returned] at fine
      cases fine

theorem quoted_bytes_differ :
    canonicalAttestationBytes isoPlatform unsigned ≠
      canonicalAttestationBytes isoPlatform quoted := by
  have differ : unsigned ≠ quoted := by decide
  exact (canonicalAttestationBytes_eq_iff (accepted unsigned (by decide))
    (accepted quoted (by decide))).1.not.mpr differ

end QuotedPosition
end InterWeave
