import InterWeave.Audit.AuditService
import InterWeave.Core.IsoDate

/-! # Recorded histories

What has been recorded of a transaction is found again, and its chain holds, if the table gives
back what was hashed. That is so for every payload that `JSON.stringify` writes as `canonicalJson`
reads it. A date, and any other object with `toJSON`, is hashed by its own properties and written
as what `toJSON` returns; a boxed value is written as what it holds, and a hole as `null`.
-/

namespace InterWeave

variable {platform : Platform}

/-! ## Plain payloads -/

theorem sourceDigest_of_plain {source : JsonSource} (plain : source.plain = true) :
    sourceDigest platform source = payloadDigest platform source.seen := by
  rw [sourceDigest, source.canonical_eq_seen plain, payloadDigest]

namespace AuditDraft

variable {draft : AuditDraft} {payload : JsonSource}

theorem source_plain (plain : payload.plain = true) : (draft.source payload).plain = true := by
  simp only [source, fields, JsonSource.plain, JsonSource.plainProperties, plain, Bool.and_true]

theorem source_seen (draft : AuditDraft) (payload : JsonSource) :
    (draft.source payload).seen = .object (draft.fields .string .number payload.seen) := by
  simp only [source, fields, JsonSource.seen, JsonSource.seenProperties]

end AuditDraft

/-! ## Chains -/

theorem checkChain_append (index : Nat) (previous : JsString) (first second : List AuditRecord) :
    checkChain platform index previous (first ++ second) = (do
      checkChain platform index previous first
      checkChain platform (index + first.length)
        (first.getLast?.elim previous AuditRecord.recordHash) second) := by
  induction first generalizing index previous with
  | nil => rfl
  | cons record rest ih =>
      have last : ((record :: rest).getLast?.elim previous AuditRecord.recordHash) =
          rest.getLast?.elim record.recordHash AuditRecord.recordHash := by
        cases rest with
        | nil => rfl
        | cons other more => rw [List.getLast?_cons_cons]; rfl
      have place : index + 1 + rest.length = index + (rest.length + 1) := by omega
      rw [List.cons_append, checkChain, checkChain, ih, last, List.length_cons, bind_assoc, place]

/-- A chain as `append` builds it. -/
structure Linked (platform : Platform) (chain : List AuditRecord) : Prop where
  numbered : chain.map (fun record => record.sequence) =
    (List.range chain.length).map (Nat.cast : Nat → Rat)
  verified : checkChain platform 0 (js "GENESIS") chain = .ok ()

namespace Linked

variable {chain : List AuditRecord} {record : AuditRecord}

theorem nil : Linked platform [] := ⟨rfl, rfl⟩

theorem snoc (linked : Linked platform chain) (next : record.sequence = chain.length)
    (checks : checkLink platform chain.length
      (chain.getLast?.elim (js "GENESIS") AuditRecord.recordHash) record = .ok ()) :
    Linked platform (chain ++ [record]) where
  numbered := by
    rw [List.map_append, linked.numbered, List.length_append, List.length_singleton,
      List.range_succ, List.map_append, List.map_singleton, List.map_singleton, next]
  verified := by
    rw [checkChain_append, linked.verified, Nat.zero_add]
    change checkChain platform chain.length _ [record] = .ok ()
    rw [checkChain, checks]
    rfl

/-- The records are listed as they were appended. -/
theorem insertionSort_eq (linked : Linked platform chain) :
    chain.insertionSort (fun record other => record.sequence ≤ other.sequence) = chain := by
  apply List.Pairwise.insertionSort_eq
  have ascending : (chain.map fun record => record.sequence).Pairwise (· ≤ ·) := by
    rw [linked.numbered, List.pairwise_map]
    exact List.pairwise_le_range.imp fun below => by exact_mod_cast below
  exact List.pairwise_map.mp ascending

/-- A chain without its last record. -/
theorem numbered_of_concat (numbered : (chain ++ [record]).map (fun record => record.sequence) =
      (List.range (chain ++ [record]).length).map (Nat.cast : Nat → Rat)) :
    chain.map (fun record => record.sequence) =
        (List.range chain.length).map (Nat.cast : Nat → Rat) ∧
      record.sequence = chain.length := by
  rw [List.map_append, List.length_append, List.length_singleton, List.range_succ,
    List.map_append] at numbered
  obtain ⟨front, last⟩ := List.append_inj numbered (by rw [List.length_map, List.length_map,
    List.length_range])
  exact ⟨front, (List.cons.inj last).1⟩

/-- The record with the greatest sequence is the last one. -/
theorem argmax_eq (linked : Linked platform chain) :
    chain.argmax (fun record => record.sequence) = chain.getLast? := by
  have numbered := linked.numbered
  clear linked
  induction chain using List.reverseRecOn with
  | nil => rfl
  | append_singleton front last ih =>
      obtain ⟨before, next⟩ := numbered_of_concat numbered
      rw [List.argmax_concat, ih before, List.getLast?_append_of_ne_nil _ (List.cons_ne_nil _ _),
        List.getLast?_singleton]
      cases greatest : front.getLast? with
      | none => rfl
      | some record =>
          have among : record.sequence ∈ front.map fun record => record.sequence :=
            List.mem_map_of_mem (List.mem_of_getLast? greatest)
          rw [before] at among
          obtain ⟨index, below, same⟩ := List.mem_map.mp among
          have less : record.sequence < last.sequence := by
            rw [← same, next]
            exact_mod_cast List.mem_range.mp below
          exact if_pos less

/-- The sequence that is next. -/
theorem next_sequence (linked : Linked platform chain) :
    (chain.getLast?.elim (-1) fun record => record.sequence) + 1 = (chain.length : Rat) := by
  have numbered := linked.numbered
  cases chain using List.reverseRecOn with
  | nil => exact Rat.neg_add_cancel 1
  | append_singleton front last =>
      obtain ⟨_, next⟩ := numbered_of_concat numbered
      rw [List.getLast?_append_of_ne_nil _ (List.cons_ne_nil _ _), List.getLast?_singleton,
        List.length_append, List.length_singleton]
      change last.sequence + 1 = _
      rw [next]
      exact (Rat.natCast_add front.length 1).symm

end Linked

/-! ## Recorded entries -/

/-- What a successful call of `record` returns and writes. -/
structure Appended (platform : Platform) (rows : AuditRows) (context : TenantContext)
    (input : AppendAuditInput) (record : AuditRecord) (next : AuditRows) : Prop where
  tenant : record.toTenant = context.toTenant
  transaction : record.transactionId = input.transactionId
  payload : record.payload = input.payload.seen
  sequence : record.sequence =
    ((rows.last context.toTenant input.transactionId).elim (-1) fun last => last.sequence) + 1
  previous : record.previousHash =
    (rows.last context.toTenant input.transactionId).elim (js "GENESIS") AuditRecord.recordHash
  hashed : sourceDigest platform input.payload = .ok record.payloadHash
  digested : sourceDigest platform (record.toAuditDraft.source input.payload) =
    .ok record.recordHash
  written : ∃ written, input.payload.json = .ok written ∧
    next = rows ++ [{ record with payload := written.getD .undefined }]

theorem appended_of_record {rows next : AuditRows} {context : TenantContext}
    {input : AppendAuditInput} {record : AuditRecord}
    (recorded : recordAudit platform rows context input = .ok (record, next)) :
    Appended platform rows context input record next := by
  obtain ⟨_, _, recorded⟩ := Atomic.ok_of_bind recorded
  obtain ⟨_, _, recorded⟩ := Atomic.ok_of_bind recorded
  obtain ⟨payloadHash, hashed, recorded⟩ := Atomic.ok_of_bind recorded
  obtain ⟨recordHash, digested, recorded⟩ := Atomic.ok_of_bind recorded
  obtain ⟨written, writes, recorded⟩ := Atomic.ok_of_bind recorded
  dsimp only at recorded
  split at recorded
  · cases recorded
  · cases recorded
    exact ⟨rfl, rfl, rfl, rfl, rfl, hashed, digested, written, writes, rfl⟩

/-- The hash of a payload renders it. -/
theorem canonicalJson_of_payloadDigest {payload : JsValue} {hash : JsString}
    (hashed : payloadDigest platform payload = .ok hash) :
    ∃ text, canonicalJson platform payload = .ok text := by
  obtain ⟨text, rendered, _⟩ := Atomic.ok_of_bind hashed
  exact ⟨text, rendered⟩

/-- The chain of a tenant's transaction. -/
abbrev AuditRows.chain (rows : AuditRows) (tenant : Tenant) (transactionId : JsString) :
    List AuditRecord :=
  rows.filter (AuditRecord.isOf tenant transactionId)

theorem AuditRows.chain_append (rows more : AuditRows) (tenant : Tenant)
    (transactionId : JsString) : AuditRows.chain (rows ++ more) tenant transactionId =
      rows.chain tenant transactionId ++ more.chain tenant transactionId :=
  List.filter_append ..

theorem AuditRows.chain_own {record : AuditRecord} {tenant : Tenant} {transactionId : JsString}
    (own : record.isOf tenant transactionId = true) :
    AuditRows.chain [record] tenant transactionId = [record] := by
  rw [AuditRows.chain, List.filter_cons_of_pos own, List.filter_nil]

theorem AuditRows.chain_foreign {record : AuditRecord} {tenant : Tenant}
    {transactionId : JsString} (foreign : record.isOf tenant transactionId = false) :
    AuditRows.chain [record] tenant transactionId = [] := by
  rw [AuditRows.chain, List.filter_cons_of_neg (by rw [foreign]; exact Bool.false_ne_true),
    List.filter_nil]

namespace Appended

variable {rows next : AuditRows} {context : TenantContext} {input : AppendAuditInput}
  {record : AuditRecord}

theorem isOf_iff (appended : Appended platform rows context input record next) (tenant : Tenant)
    (transactionId : JsString) : record.isOf tenant transactionId = true ↔
      context.toTenant = tenant ∧ input.transactionId = transactionId := by
  rw [AuditRecord.isOf, Bool.and_eq_true, decide_eq_true_eq, decide_eq_true_eq, appended.tenant,
    appended.transaction]

/-- Other transactions are left alone. -/
theorem chain_other (appended : Appended platform rows context input record next) {tenant : Tenant}
    {transactionId : JsString} (other : record.isOf tenant transactionId = false) :
    next.chain tenant transactionId = rows.chain tenant transactionId := by
  obtain ⟨written, _, rfl⟩ := appended.written
  rw [AuditRows.chain_append, AuditRows.chain_foreign, List.append_nil]
  exact other

/-- The payload of a plain record is hashed as it reads. -/
theorem hashed_seen (appended : Appended platform rows context input record next)
    (plain : input.payload.plain = true) :
    payloadDigest platform record.payload = .ok record.payloadHash := by
  rw [appended.payload, ← sourceDigest_of_plain plain]
  exact appended.hashed

/-- A plain record is hashed as it reads. -/
theorem digested_json (appended : Appended platform rows context input record next)
    (plain : input.payload.plain = true) :
    recordDigest platform record.toAuditDraft = .ok record.recordHash := by
  have digested := appended.digested
  rw [sourceDigest_of_plain (AuditDraft.source_plain plain), AuditDraft.source_seen,
    ← appended.payload] at digested
  exact digested

/-- A plain payload is in the table as it was hashed. -/
theorem rows_eq (appended : Appended platform rows context input record next)
    (plain : input.payload.plain = true) : next = rows ++ [record] := by
  obtain ⟨written, writes, rfl⟩ := appended.written
  have hashed := appended.hashed
  rw [sourceDigest_of_plain plain] at hashed
  obtain ⟨text, rendered⟩ := canonicalJson_of_payloadDigest hashed
  cases writes.symm.trans (input.payload.json_eq_seen plain text rendered)
  rw [Option.getD_some, ← appended.payload]

theorem linked (appended : Appended platform rows context input record next)
    (plain : input.payload.plain = true)
    (chain : Linked platform (rows.chain context.toTenant input.transactionId)) :
    Linked platform (rows.chain context.toTenant input.transactionId ++ [record]) := by
  have last : rows.last context.toTenant input.transactionId =
      (rows.chain context.toTenant input.transactionId).getLast? := chain.argmax_eq
  have sequence := appended.sequence
  have previous := appended.previous
  rw [last] at sequence previous
  rw [chain.next_sequence] at sequence
  apply chain.snoc sequence
  rw [checkLink, if_neg (not_or.mpr ⟨not_not.mpr sequence, not_not.mpr previous⟩),
    appended.hashed_seen plain, appended.digested_json plain]
  simp only [bind, Except.bind, pure, Except.pure, ne_eq, not_true_eq_false, ↓reduceIte]

end Appended

/-- A call either records its input or leaves the table alone. -/
theorem auditService_cases (platform : Platform) (call : AuditCall) (rows : AuditRows) :
    (∃ error, ((auditService platform).execute call rows).1 = .error error ∧
      (auditService platform).next call rows = rows) ∨
    ∃ record, ((auditService platform).execute call rows).1 = .ok record ∧
      Appended platform rows call.context call.input record
        ((auditService platform).next call rows) := by
  rw [Atomic.Machine.next, auditService]
  dsimp only
  cases call.refused with
  | some error => exact .inl ⟨error, rfl, rfl⟩
  | none =>
      dsimp only
      cases outcome : recordAudit platform rows call.context call.input with
      | error error =>
          rw [Atomic.commit_of_error outcome]
          exact .inl ⟨error, rfl, rfl⟩
      | ok result =>
          obtain ⟨record, next⟩ := result
          rw [Atomic.commit_of_ok outcome]
          exact .inr ⟨record, rfl, appended_of_record outcome⟩

/-- The payloads that a run records of a tenant's transaction are built from scalars, arrays
without holes and objects without `toJSON`. -/
def RecordsPlain (platform : Platform) (tenant : Tenant) (transactionId : JsString)
    (run : List AuditCall) (rows : AuditRows) : Prop :=
  ∀ recording ∈ recordings platform run rows, recording.1.context.toTenant = tenant →
    recording.1.input.transactionId = transactionId → recording.1.input.payload.plain = true

section Runs

variable {tenant : Tenant} {transactionId : JsString} {run : List AuditCall} {rows : AuditRows}

theorem recordings_of_error {call : AuditCall} {error : Thrown} (rest : List AuditCall)
    (failed : ((auditService platform).execute call rows).1 = .error error)
    (same : (auditService platform).next call rows = rows) :
    recordings platform (call :: rest) rows = recordings platform rest rows := by
  rw [recordings, failed, same]
  rfl

theorem recordings_of_ok {call : AuditCall} {record : AuditRecord} (rest : List AuditCall)
    (returned : ((auditService platform).execute call rows).1 = .ok record) :
    recordings platform (call :: rest) rows =
      (call, record) :: recordings platform rest ((auditService platform).next call rows) := by
  rw [recordings, returned]
  rfl

/-- What was recorded is in the table, and linked. -/
theorem chain_run (plain : RecordsPlain platform tenant transactionId run rows)
    (linked : Linked platform (rows.chain tenant transactionId)) :
    AuditRows.chain ((auditService platform).run run rows) tenant transactionId =
        rows.chain tenant transactionId ++
          AuditRows.chain (recordedBy platform run rows) tenant transactionId ∧
      Linked platform
        (AuditRows.chain ((auditService platform).run run rows) tenant transactionId) := by
  induction run generalizing rows with
  | nil => exact ⟨(List.append_nil _).symm, linked⟩
  | cons call rest ih =>
      rw [Atomic.Machine.run_cons, recordedBy]
      rw [RecordsPlain] at plain
      rcases auditService_cases platform call rows with
        ⟨error, failed, same⟩ | ⟨record, returned, appended⟩
      · rw [recordings_of_error rest failed same] at plain ⊢
        rw [same]
        exact ih plain linked
      · rw [recordings_of_ok rest returned] at plain ⊢
        obtain ⟨first, others⟩ := List.forall_mem_cons.mp plain
        change _ = _ ++ AuditRows.chain ([record] ++ recordedBy platform rest _) tenant
          transactionId ∧ _
        rw [AuditRows.chain_append]
        cases own : record.isOf tenant transactionId with
        | false =>
            have kept := appended.chain_other own
            rw [AuditRows.chain_foreign own, List.nil_append, ← kept]
            rw [← kept] at linked
            exact ih others linked
        | true =>
            rw [AuditRows.chain_own own, ← List.append_assoc]
            obtain ⟨rfl, rfl⟩ := (appended.isOf_iff tenant transactionId).mp own
            have step : AuditRows.chain ((auditService platform).next call rows)
                call.context.toTenant call.input.transactionId =
                rows.chain call.context.toTenant call.input.transactionId ++ [record] := by
              rw [appended.rows_eq (first rfl rfl), AuditRows.chain_append,
                AuditRows.chain_own own]
            have chained := appended.linked (first rfl rfl) linked
            rw [← step] at chained ⊢
            exact ih others chained

/-- A recording is a call of the run, and its record has the payload that was asked for. -/
theorem mem_recordings {recording : AuditCall × AuditRecord}
    (member : recording ∈ recordings platform run rows) :
    recording.1 ∈ run ∧ recording.2.payload = recording.1.input.payload.seen := by
  induction run generalizing rows with
  | nil => cases member
  | cons call rest ih =>
      rcases auditService_cases platform call rows with
        ⟨error, failed, same⟩ | ⟨record, returned, appended⟩
      · rw [recordings_of_error rest failed same] at member
        exact ⟨List.mem_cons_of_mem _ (ih member).1, (ih member).2⟩
      · rw [recordings_of_ok rest returned] at member
        rcases List.mem_cons.mp member with rfl | later
        · exact ⟨List.mem_cons_self, appended.payload⟩
        · exact ⟨List.mem_cons_of_mem _ (ih later).1, (ih later).2⟩

/-- A record has the payload that it was asked for. -/
theorem payload_of_recorded {record : AuditRecord} (member : record ∈ recordedBy platform run rows) :
    ∃ call ∈ run, record.payload = call.input.payload.seen := by
  obtain ⟨recording, among, rfl⟩ := List.mem_map.mp member
  exact ⟨recording.1, mem_recordings among⟩

/-- What is listed was recorded. -/
theorem list_run (platform : Platform) (plain : RecordsPlain platform tenant transactionId run []) :
    AuditRows.list ((auditService platform).run run []) tenant transactionId =
        AuditRows.chain (recordedBy platform run []) tenant transactionId ∧
      Linked platform (AuditRows.chain (recordedBy platform run []) tenant transactionId) := by
  have chained : AuditRows.chain ((auditService platform).run run []) tenant transactionId =
      [] ++ AuditRows.chain (recordedBy platform run []) tenant transactionId ∧ _ :=
    chain_run plain Linked.nil
  obtain ⟨same, linked⟩ := chained
  rw [List.nil_append] at same
  rw [AuditRows.list, linked.insertionSort_eq, ← same]
  exact ⟨rfl, linked⟩

end Runs

/-! ## Reading the table back -/

/-- A record as a `jsonb` column returns it: the properties of its payload may come in another
order. -/
def ReadBack (stored read : AuditRecord) : Prop :=
  ∃ payload : JsValue, payload.sorted = stored.payload.sorted ∧
    read = { stored with payload := payload }

theorem payloadDigest_of_sorted {first second : JsValue} (same : first.sorted = second.sorted) :
    payloadDigest platform first = payloadDigest platform second := by
  rw [payloadDigest, payloadDigest, ← canonicalJson_sorted first, same, canonicalJson_sorted]

theorem AuditDraft.json_sorted_of_payload (draft : AuditDraft) {payload : JsValue}
    (same : payload.sorted = draft.payload.sorted) :
    ({ draft with payload := payload } : AuditDraft).json.sorted = draft.json.sorted := by
  simp only [AuditDraft.json, AuditDraft.fields, JsValue.sorted, JsValue.sortedProperties_eq_map,
    List.map_cons, same]

/-- A link that holds still does after it was read back. -/
theorem checkLink_of_readBack {stored read : AuditRecord} (back : ReadBack stored read)
    (index : Nat) (previous : JsString) :
    checkLink platform index previous read = checkLink platform index previous stored := by
  obtain ⟨payload, same, rfl⟩ := back
  have digests : recordDigest platform { stored.toAuditDraft with payload := payload } =
      recordDigest platform stored.toAuditDraft := by
    rw [recordDigest, recordDigest, ← canonicalJson_sorted, stored.json_sorted_of_payload same,
      canonicalJson_sorted]
  rw [checkLink, checkLink]
  dsimp only
  rw [payloadDigest_of_sorted same, digests]

theorem checkChain_of_readBack {stored read : List AuditRecord}
    (back : List.Forall₂ ReadBack stored read) (index : Nat) (previous : JsString) :
    checkChain platform index previous read = checkChain platform index previous stored := by
  induction back generalizing index previous with
  | nil => rfl
  | cons first _ ih =>
      rw [checkChain, checkChain, checkLink_of_readBack first, ih]
      obtain ⟨payload, _, rfl⟩ := first
      rfl

theorem sequences_of_readBack {stored read : List AuditRecord}
    (back : List.Forall₂ ReadBack stored read) :
    read.map (fun record => record.sequence) = stored.map fun record => record.sequence := by
  induction back with
  | nil => rfl
  | cons first _ ih =>
      obtain ⟨payload, _, rfl⟩ := first
      rw [List.map_cons, List.map_cons, ih]

theorem Linked.of_readBack {stored read : List AuditRecord} (linked : Linked platform stored)
    (back : List.Forall₂ ReadBack stored read) : Linked platform read where
  numbered := by rw [sequences_of_readBack back, linked.numbered, back.length_eq]
  verified := by rw [checkChain_of_readBack back, linked.verified]

/-- A chain that is linked is reconstructed. -/
theorem Linked.reconstruct {chain : List AuditRecord} (linked : Linked platform chain)
    (nonempty : chain ≠ []) (transactionId : JsString) :
    ∃ result, InterWeave.reconstruct platform transactionId chain = .ok result ∧
      result.records = chain ∧ result.chainVerified = true := by
  rw [InterWeave.reconstruct, linked.insertionSort_eq]
  cases chain with
  | nil => exact absurd rfl nonempty
  | cons first rest =>
      dsimp only
      rw [linked.verified]
      exact ⟨_, rfl, rfl, rfl⟩

/-- **Recorded histories are reconstructed.** In every run from an empty table, the records of a
tenant's transaction, if their payloads are plain, are found again in the order in which they were
made, and their chain holds. -/
theorem recorded_histories_reconstructed {tenant : Tenant} {transactionId : JsString}
    {run : List AuditCall} (plain : RecordsPlain platform tenant transactionId run [])
    (nonempty : AuditRows.chain (recordedBy platform run []) tenant transactionId ≠ [])
    {listed : List AuditRecord} (read : List.Forall₂ ReadBack
      (AuditRows.list ((auditService platform).run run []) tenant transactionId) listed) :
    ∃ result, reconstruct platform transactionId listed = .ok result ∧
      result.chainVerified = true ∧
      List.Forall₂ ReadBack (AuditRows.chain (recordedBy platform run []) tenant transactionId)
        result.records ∧
      result.records.map (fun record => record.sequence) =
        (List.range result.records.length).map (Nat.cast : Nat → Rat) := by
  obtain ⟨same, linked⟩ := list_run platform plain
  rw [same] at read
  have back := linked.of_readBack read
  have present : listed ≠ [] := by
    rintro rfl
    exact nonempty (List.forall₂_nil_right_iff.mp read)
  obtain ⟨result, returned, records, verified⟩ := back.reconstruct present transactionId
  refine ⟨result, returned, verified, ?_, ?_⟩
  · rw [records]
    exact read
  · rw [records]
    exact back.numbered

theorem ReadBack.refl (rows : List AuditRecord) : List.Forall₂ ReadBack rows rows := by
  induction rows with
  | nil => exact .nil
  | cons record rest ih => exact .cons ⟨record.payload, rfl, rfl⟩ ih

namespace OneTransaction

def auditor : TenantContext where
  organizationId := js "IW:ORGANIZATION:one"
  projectId := js "IW:PROJECT:one"
  environmentId := js "IW:ENVIRONMENT:prod"
  subjectId := js "operator"
  scopes := [.transactionsRead]

def transactionId : JsString := js "IW:TRANSACTION:one"

/-- Record a payload. -/
def record (id : JsString) (payload : List (JsString × JsonSource)) : AuditCall where
  context := auditor
  input := { id, transactionId, operationId := js "IW:BRIDGE:one", category := .request,
             actor := js "user", action := js "created", payload := .object payload
             occurredAt := js "2026-08-13T12:00:00.000Z" }
  refused := none

def plain : List AuditCall :=
  [record (js "IW:AUDIT:0") [(js "reference", .string (js "r")), (js "legs", .array [some .null])],
    record (js "IW:AUDIT:1") [(js "amount", .number (.finite 5)), (js "final", .boolean true)]]

def dated : List AuditCall :=
  [record (js "IW:AUDIT:0") [(js "finalizedAt", .date isoPlatform (some 1786622400000))]]

theorem plain_recorded : RecordsPlain isoPlatform auditor.toTenant transactionId plain [] := by
  intro recording member _ _
  have checked : plain.all (fun call => call.input.payload.plain) = true := by decide +kernel
  exact List.all_eq_true.mp checked recording.1 (mem_recordings member).1

theorem plain_reconstructed : ∃ result, reconstruct isoPlatform transactionId
    (AuditRows.list ((auditService isoPlatform).run plain []) auditor.toTenant transactionId) =
      .ok result ∧ result.chainVerified = true := by
  have nonempty : AuditRows.chain (recordedBy isoPlatform plain []) auditor.toTenant
      transactionId ≠ [] := by
    have found : (AuditRows.chain (recordedBy isoPlatform plain []) auditor.toTenant
        transactionId).isEmpty = false := by decide +kernel
    exact List.isEmpty_eq_false_iff.mp found
  obtain ⟨result, returned, verified, _⟩ :=
    recorded_histories_reconstructed plain_recorded nonempty (ReadBack.refl _)
  exact ⟨result, returned, verified⟩

/-- **A date breaks its chain.** The record is accepted, and its history cannot be reconstructed
any more. -/
theorem dated_rejected : ¬ ∀ (run : List AuditCall) (tenant : Tenant) (transactionId : JsString),
    AuditRows.chain (recordedBy isoPlatform run []) tenant transactionId ≠ [] →
      ∃ result, reconstruct isoPlatform transactionId
        (AuditRows.list ((auditService isoPlatform).run run []) tenant transactionId) =
          .ok result := by
  intro claim
  have found : (AuditRows.chain (recordedBy isoPlatform dated []) auditor.toTenant
      transactionId).isEmpty = false := by decide +kernel
  obtain ⟨result, returned⟩ := claim dated auditor.toTenant transactionId
    (List.isEmpty_eq_false_iff.mp found)
  have rejected : (reconstruct isoPlatform transactionId (AuditRows.list
      ((auditService isoPlatform).run dated []) auditor.toTenant transactionId)).toBool = false := by
    decide +kernel
  rw [returned] at rejected
  cases rejected

end OneTransaction
end InterWeave
