import InterWeave.Audit.RecordedHistories

/-! # Chain heads

The hash of a record covers the hash of the record before it and its own place in the chain. A
verified chain is therefore known by its last hash, if the hash has no collision among the records
at hand: its length is the place of the last record, and the rest follows backwards.
-/

namespace InterWeave

variable {platform : Platform} {numbers : Rat → Prop}

theorem AuditCategory.text_injective {first second : AuditCategory}
    (same : first.text = second.text) : first = second := by
  cases first <;> cases second <;> first | rfl | exact absurd same (by decide)

/-- Records with one JSON value differ in the order of properties of their payloads only. -/
theorem AuditDraft.eq_of_sorted {first second : AuditDraft}
    (same : first.json.sorted = second.json.sorted) :
    ∃ payload : JsValue, payload.sorted = first.payload.sorted ∧
      second = { first with payload := payload } := by
  have values := JsValue.values_eq_of_names same
    [js "id", js "transactionId", js "operationId", js "category", js "actor", js "action",
      js "payload", js "occurredAt", js "organizationId", js "projectId", js "environmentId",
      js "payloadHash", js "sequence", js "previousHash"] (by decide +kernel) rfl rfl
  simp only [AuditDraft.fields, List.map_cons, List.map_nil, List.cons.injEq, and_true] at values
  obtain ⟨id, transaction, operation, category, actor, action, payload, occurred, organization,
    project, environment, hash, sequence, previous⟩ := values
  simp only [JsValue.sorted, JsValue.string.injEq] at id transaction operation category actor action
  simp only [JsValue.sorted, JsValue.string.injEq, JsValue.number.injEq,
    JsNumber.finite.injEq] at occurred organization project environment hash sequence previous
  refine ⟨second.payload, payload.symm, ?_⟩
  obtain ⟨⟨_, _, _⟩, _, _, _, _, _, _, _, _, _, _, _⟩ := first
  obtain ⟨⟨_, _, _⟩, _, _, _, _, _, _, _, _, _, _, _⟩ := second
  dsimp only at id transaction operation category actor action
  dsimp only at occurred organization project environment hash sequence previous
  rw [id, transaction, operation, AuditCategory.text_injective category, actor, action, occurred,
    organization, project, environment, hash, sequence, previous]

/-- The numbers of a record are those of its payload, and its sequence. -/
theorem AuditDraft.json_over {draft : AuditDraft} (payload : draft.payload.Over numbers)
    (sequence : numbers draft.sequence) : draft.json.Over numbers := by
  simp only [json, fields, JsValue.Over, JsValue.propertiesOver, and_true, true_and]
  exact ⟨payload, sequence⟩

/-- What `reconstruct` has checked of a record. -/
structure LinkHolds (platform : Platform) (index : Nat) (previous : JsString)
    (record : AuditRecord) : Prop where
  sequence : record.sequence = index
  previous : record.previousHash = previous
  digested : recordDigest platform record.toAuditDraft = .ok record.recordHash

theorem linkHolds_of_checkLink {index : Nat} {previous : JsString} {record : AuditRecord}
    (checked : checkLink platform index previous record = .ok ()) :
    LinkHolds platform index previous record := by
  rw [checkLink] at checked
  dsimp only at checked
  by_cases misplaced : record.sequence ≠ index ∨ record.previousHash ≠ previous
  · rw [if_pos misplaced] at checked
    cases checked
  · rw [if_neg misplaced] at checked
    obtain ⟨payloadHash, _, checked⟩ := Atomic.ok_of_bind checked
    by_cases altered : record.payloadHash ≠ payloadHash
    · rw [if_pos altered] at checked
      cases checked
    · rw [if_neg altered] at checked
      obtain ⟨recordHash, digested, checked⟩ := Atomic.ok_of_bind checked
      by_cases rehashed : record.recordHash ≠ recordHash
      · rw [if_pos rehashed] at checked
        cases checked
      · rw [not_or, not_not, not_not] at misplaced
        rw [not_not] at rehashed
        exact ⟨misplaced.1, misplaced.2, rehashed ▸ digested⟩

/-- A chain without its last record is a chain, and the last record is linked to it. -/
theorem checkChain_concat {front : List AuditRecord} {record : AuditRecord}
    (verified : checkChain platform 0 (js "GENESIS") (front ++ [record]) = .ok ()) :
    checkChain platform 0 (js "GENESIS") front = .ok () ∧ LinkHolds platform front.length
      (front.getLast?.elim (js "GENESIS") AuditRecord.recordHash) record := by
  rw [checkChain_append, Nat.zero_add] at verified
  obtain ⟨⟨⟩, before, last⟩ := Atomic.ok_of_bind verified
  obtain ⟨⟨⟩, checked, _⟩ := Atomic.ok_of_bind last
  exact ⟨before, linkHolds_of_checkLink checked⟩

/-- Records that were verified under one hash are the same. -/
theorem readBack_of_recordHash {values : JsValue → Prop} (formats : platform.Formats numbers)
    (free : platform.CollisionFree values) {index place : Nat} {previous before : JsString}
    {first second : AuditRecord} (holds : LinkHolds platform index previous first)
    (further : LinkHolds platform place before second)
    (within : first.json.Over numbers) (among : second.json.Over numbers)
    (chosen : values first.json) (chooses : values second.json)
    (same : first.recordHash = second.recordHash) : ReadBack first second := by
  have sorted := sorted_eq_of_requestFingerprint formats free chosen chooses within among
    holds.digested (same ▸ further.digested)
  obtain ⟨payload, alike, equal⟩ := AuditDraft.eq_of_sorted sorted
  refine ⟨payload, alike, ?_⟩
  obtain ⟨draft, hash⟩ := second
  dsimp only at equal same
  rw [equal, ← same]

/-- The records are plain, as far as the number formatter and the hash are relied on. -/
structure PlainRecord (numbers : Rat → Prop) (values : JsValue → Prop) (record : AuditRecord) :
    Prop where
  numbers : record.json.Over numbers
  values : values record.json

theorem chains_eq_of_heads {values : JsValue → Prop} (formats : platform.Formats numbers)
    (free : platform.CollisionFree values) {first second : List AuditRecord}
    (plain : ∀ record ∈ first, PlainRecord numbers values record)
    (further : ∀ record ∈ second, PlainRecord numbers values record)
    (verified : checkChain platform 0 (js "GENESIS") first = .ok ())
    (holds : checkChain platform 0 (js "GENESIS") second = .ok ())
    (nonempty : first ≠ []) (some : second ≠ [])
    (heads : first.getLast?.map AuditRecord.recordHash =
      second.getLast?.map AuditRecord.recordHash) :
    List.Forall₂ ReadBack first second := by
  induction first using List.reverseRecOn generalizing second with
  | nil => exact absurd rfl nonempty
  | append_singleton front record ih =>
      cases second using List.reverseRecOn with
      | nil => exact absurd rfl some
      | append_singleton back other =>
          rw [List.getLast?_concat, List.getLast?_concat, Option.map_some, Option.map_some,
            Option.some.injEq] at heads
          obtain ⟨before, link⟩ := checkChain_concat verified
          obtain ⟨after, linked⟩ := checkChain_concat holds
          rw [List.forall_mem_append, List.forall_mem_singleton] at plain further
          have last := readBack_of_recordHash formats free link linked plain.2.numbers
            further.2.numbers plain.2.values further.2.values heads
          have step : List.Forall₂ ReadBack front back := by
            obtain ⟨payload, _, rfl⟩ := last
            have place : front.length = back.length := by
              have same := link.sequence.symm.trans linked.sequence
              exact_mod_cast same
            have previous := link.previous.symm.trans linked.previous
            cases latest : front.getLast? with
            | none =>
                obtain rfl := List.getLast?_eq_none_iff.mp latest
                obtain rfl := List.length_eq_zero_iff.mp place.symm
                exact .nil
            | some last =>
                have filled : front ≠ [] := by
                  rintro rfl
                  cases latest
                have present : back ≠ [] := by
                  rintro rfl
                  exact filled (List.length_eq_zero_iff.mp place)
                apply ih plain.1 further.1 before after filled present
                rw [latest, List.getLast?_eq_some_getLast present] at previous ⊢
                exact congrArg Option.some previous
          exact List.rel_append step (.cons last .nil)

/-- What a reconstruction has verified. -/
theorem checkChain_of_reconstruct {transactionId : JsString} {listed : List AuditRecord}
    {result : OperationReconstruction}
    (returned : reconstruct platform transactionId listed = .ok result) :
    result.records.Perm listed ∧ result.records ≠ [] ∧
      checkChain platform 0 (js "GENESIS") result.records = .ok () := by
  have sorts := List.perm_insertionSort
    (fun record other : AuditRecord => record.sequence ≤ other.sequence) listed
  rw [reconstruct] at returned
  split at returned
  · cases returned
  · rename_i first rest same
    obtain ⟨⟨⟩, verified, returned⟩ := Atomic.ok_of_bind returned
    cases returned
    rw [same] at sorts
    exact ⟨sorts, List.cons_ne_nil _ _, verified⟩

/-- A linked chain is reconstructed from its rows in any order. -/
theorem Linked.reconstruct_perm {chain other : List AuditRecord} (linked : Linked platform chain)
    (same : other.Perm chain) {transactionId : JsString} :
    InterWeave.reconstruct platform transactionId other =
      InterWeave.reconstruct platform transactionId chain := by
  let below : AuditRecord → AuditRecord → Prop := fun first second =>
    first.sequence ≤ second.sequence
  have total : Std.Total below := ⟨fun first second => le_total first.sequence second.sequence⟩
  have transitive : IsTrans AuditRecord below := ⟨fun _ _ _ => le_trans⟩
  have distinct : (chain.map fun record => record.sequence).Nodup := by
    rw [linked.numbered]
    exact List.nodup_range.map fun _ _ same => by exact_mod_cast same
  have sorted : other.insertionSort below = chain.insertionSort below := by
    have permuted := ((List.perm_insertionSort below other).trans same).trans
      (List.perm_insertionSort below chain).symm
    refine permuted.eq_of_pairwise (fun first second here there lower upper => ?_)
      (List.pairwise_insertionSort below other) (List.pairwise_insertionSort below chain)
    apply List.inj_on_of_nodup_map distinct
    · exact (same.mem_iff.mp ((List.perm_insertionSort below other).mem_iff.mp here))
    · exact (List.perm_insertionSort below chain).mem_iff.mp there
    · exact le_antisymm lower upper
  unfold InterWeave.reconstruct
  rw [sorted]

/-- A verified record stands at its sequence. -/
theorem sequence_of_checkChain {index : Nat} {previous : JsString} {chain : List AuditRecord}
    (verified : checkChain platform index previous chain = .ok ()) :
    ∀ record ∈ chain, ∃ place : Nat, record.sequence = place := by
  induction chain generalizing index previous with
  | nil => exact fun _ member => (List.not_mem_nil member).elim
  | cons record rest ih =>
      obtain ⟨⟨⟩, checked, verified⟩ := Atomic.ok_of_bind verified
      exact List.forall_mem_cons.mpr ⟨⟨index, (linkHolds_of_checkLink checked).sequence⟩,
        ih verified⟩

/-- **A chain head determines its history.** Where the hash has no collision among the records at
hand, two lists of records that are reconstructed with the same last hash hold the same records,
in the order of their sequences, up to the order of properties in a payload. -/
theorem chain_head_determines_history (formats : platform.Formats numbers)
    (naturals : ∀ index : Nat, numbers index) {first second : List AuditRecord}
    (free : platform.CollisionFree fun value => ∃ record ∈ first ++ second, record.json = value)
    (plain : ∀ record ∈ first ++ second, record.payload.Over numbers)
    {transactionId : JsString} {result other : OperationReconstruction}
    (returned : reconstruct platform transactionId first = .ok result)
    (returns : reconstruct platform transactionId second = .ok other)
    (heads : result.records.getLast?.map AuditRecord.recordHash =
      other.records.getLast?.map AuditRecord.recordHash) :
    List.Forall₂ ReadBack result.records other.records := by
  obtain ⟨sorts, nonempty, verified⟩ := checkChain_of_reconstruct returned
  obtain ⟨sorted, present, holds⟩ := checkChain_of_reconstruct returns
  apply chains_eq_of_heads formats free _ _ verified holds nonempty present heads
  · intro record member
    have among := List.mem_append_left second (sorts.mem_iff.mp member)
    obtain ⟨place, sequence⟩ := sequence_of_checkChain verified record member
    exact ⟨AuditDraft.json_over (plain record among) (sequence ▸ naturals place),
      record, among, rfl⟩
  · intro record member
    have among := List.mem_append_right first (sorted.mem_iff.mp member)
    obtain ⟨place, sequence⟩ := sequence_of_checkChain holds record member
    exact ⟨AuditDraft.json_over (plain record among) (sequence ▸ naturals place),
      record, among, rfl⟩

namespace OneTransaction

/-- What the table lists of a run. -/
def listed : List AuditRecord :=
  AuditRows.list ((auditService isoPlatform).run plain []) auditor.toTenant transactionId

theorem listed_over : ∀ record ∈ listed,
    record.payload.Over fun value => ∃ number : Nat, value = number := by
  intro record member
  rw [listed, (list_run isoPlatform plain_recorded).1] at member
  obtain ⟨call, asked, same⟩ := payload_of_recorded (List.mem_filter.mp member).1
  rw [same]
  simp only [plain, List.mem_cons, List.not_mem_nil, or_false] at asked
  rcases asked with rfl | rfl
  · simp [OneTransaction.record, JsonSource.seen, JsonSource.seenProperties,
      JsonSource.seenItems, JsValue.Over, JsValue.propertiesOver, JsValue.itemsOver]
  · simp only [OneTransaction.record, JsonSource.seen, JsonSource.seenProperties, JsValue.Over,
      JsValue.propertiesOver, and_true]
    exact ⟨5, rfl⟩

theorem listed_linked : Linked isoPlatform listed := by
  obtain ⟨same, linked⟩ := list_run isoPlatform plain_recorded
  rw [listed, same]
  exact linked

theorem listed_ne_nil : listed ≠ [] := by
  have found : listed.isEmpty = false := by decide +kernel
  exact List.isEmpty_eq_false_iff.mp found

/-- The rows may be listed in any order. -/
theorem reversed_rows_same : ∃ result other,
    reconstruct isoPlatform transactionId listed = .ok result ∧
      reconstruct isoPlatform transactionId listed.reverse = .ok other ∧
      List.Forall₂ ReadBack result.records other.records := by
  obtain ⟨result, returned, _⟩ := listed_linked.reconstruct listed_ne_nil transactionId
  have returns : reconstruct isoPlatform transactionId listed.reverse = .ok result := by
    rw [listed_linked.reconstruct_perm (List.reverse_perm listed)]
    exact returned
  refine ⟨result, result, returned, returns, chain_head_determines_history isoPlatform_formats
    (fun index => ⟨index, rfl⟩) (isoPlatform_collisionFree _) ?_ returned returns rfl⟩
  intro record member
  rw [List.mem_append, List.mem_reverse, or_self] at member
  exact listed_over record member

end OneTransaction
end InterWeave
