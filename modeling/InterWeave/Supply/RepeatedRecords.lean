import InterWeave.Core.CanonicalText
import InterWeave.Core.IsoDate
import InterWeave.Supply.LedgerRuns

/-! # Records that are recorded again

The store compares the texts of the stored record and of the new one. The text of an object tells
its fields and the order in which they were created, and a stored record comes back in the order of
`jsonb`. A record of the same fields is therefore recognized if its writer created them in that
order, and a record of other fields is always refused.
-/

namespace InterWeave

open Text

/-! ## The text of an object -/

/-- A property with its name, as `JSON.stringify` renders it. -/
def RendersEntry (entry : JsString × JsString) (text : JsString) : Prop :=
  text = entry.1.quote ++ 0x3A :: entry.2.quote

theorem rendersEntry_unmistakable (entry : JsString × JsString) :
    Unmistakable RendersEntry (fun _ => True) entry (entry.1.quote ++ 0x3A :: entry.2.quote) := by
  obtain ⟨name, value⟩ := entry
  rintro ⟨other, second⟩ _ rest remainder rfl _ _ same
  rw [List.append_assoc, List.append_assoc] at same
  obtain ⟨rfl, left⟩ := JsString.quote_unmistakable name other _ _ _ ⟨trivial, rfl⟩ trivial trivial
    same
  obtain ⟨rfl, ending⟩ := JsString.quote_unmistakable value second _ _ _ ⟨trivial, rfl⟩ trivial
    trivial (List.cons.inj left).2
  exact ⟨rfl, ending⟩

theorem rendersEntry_ne_close (entry : JsString × JsString) (text : JsString)
    (renders : RendersEntry entry text) (more after : JsString) : text ++ more ≠ 0x7D :: after := by
  subst renders
  intro same
  cases (List.cons.inj same).1

theorem SupplyEffectField.name_injective : Function.Injective SupplyEffectField.name := by
  intro left right same
  cases left <;> cases right <;> first | rfl | exact absurd same (by decide)

/-- A record is its fields. -/
theorem SupplyEffectRecord.eq_of_get {record other : SupplyEffectRecord}
    (fields : ∀ field, record.get field = other.get field) : record = other := by
  have effect := SupplyEffect.text_injective (fields .effect)
  have operation := fields .operationId
  have asset := fields .assetId
  have representation := fields .representationId
  have amount := fields .amount
  have evidence := fields .evidenceId
  have finalized := fields .finalizedAt
  cases record
  cases other
  rw [SupplyEffectRecord.mk.injEq]
  exact ⟨operation, effect, asset, representation, amount, evidence, finalized⟩

namespace SupplyEffectObject

/-- The properties of an object. -/
def entries (object : SupplyEffectObject) : List (JsString × JsString) :=
  object.order.map fun field => (field.name, object.toSupplyEffectRecord.get field)

theorem stringify_eq (object : SupplyEffectObject) : object.stringify = 0x7B :: (joined 0x2C
    (object.entries.map fun entry => entry.1.quote ++ 0x3A :: entry.2.quote) ++ [0x7D]) := by
  have comma : js "," = [0x2C] := by decide
  have fields : object.order.map (fun field => field.name.quote ++ js ":" ++
      (object.toSupplyEffectRecord.get field).quote) =
      object.entries.map fun entry => entry.1.quote ++ 0x3A :: entry.2.quote := by
    rw [entries, List.map_map]
    apply List.map_congr_left
    intro field _
    rw [List.append_assoc]
    rfl
  rw [stringify, comma, join_eq_joined, fields]
  rfl

/-- **The text of an object** tells its fields and their order. -/
theorem stringify_inj {object other : SupplyEffectObject}
    (same : object.stringify = other.stringify) :
    object.order = other.order ∧ object.toSupplyEffectRecord = other.toSupplyEffectRecord := by
  have renders : ∀ entries : List (JsString × JsString), List.Forall₂ RendersEntry entries
      (entries.map fun entry => entry.1.quote ++ 0x3A :: entry.2.quote) :=
    fun entries => List.forall₂_map_right_iff.mpr (List.forall₂_same.mpr fun _ _ => rfl)
  have alone : List.Forall₂ (Unmistakable RendersEntry fun _ => True) object.entries
      (object.entries.map fun entry => entry.1.quote ++ 0x3A :: entry.2.quote) :=
    List.forall₂_map_right_iff.mpr
      (List.forall₂_same.mpr fun entry _ => rendersEntry_unmistakable entry)
  rw [stringify_eq, stringify_eq] at same
  obtain ⟨equal, _⟩ := eq_of_joined (by decide) (fun _ => trivial) (fun _ => trivial)
    rendersEntry_ne_close alone (renders _) (renders _) (List.cons.inj same).2
  have order : object.order = other.order := by
    apply List.map_injective_iff.mpr SupplyEffectField.name_injective
    have names := congrArg (List.map Prod.fst) equal
    rw [entries, entries, List.map_map, List.map_map] at names
    exact names
  have fields : ∀ field,
      object.toSupplyEffectRecord.get field = other.toSupplyEffectRecord.get field := by
    intro field
    have among : field ∈ object.order := by
      rw [object.complete.mem_iff]
      cases field <;> decide
    rw [entries, entries, ← order] at equal
    exact congrArg Prod.snd (List.map_inj_left.mp equal field among)
  exact ⟨order, SupplyEffectRecord.eq_of_get fields⟩

/-- A stored record has the text of an object of the same fields in the order of `jsonb`. -/
theorem stringify_parsed_iff (record : SupplyEffectRecord) (object : SupplyEffectObject) :
    record.parsed.stringify = object.stringify ↔
      object.order = SupplyEffectField.stored ∧ object.toSupplyEffectRecord = record := by
  constructor
  · intro same
    obtain ⟨order, fields⟩ := stringify_inj same
    exact ⟨order.symm, fields.symm⟩
  · rintro ⟨order, rfl⟩
    rw [stringify, stringify, order]
    rfl

end SupplyEffectObject

/-! ## Runs of the store -/

/-- One call of `appendValidated`. -/
structure SupplyAppend where
  record : SupplyEffectObject
  assessedAt : JsString

/-- The store with its table. -/
def postgresSupplyEffectStore (platform : Platform) : Atomic.Machine SupplyEffects SupplyAppend
    (Except Thrown (SupplyPersistence × List SupplyEffectObject)) where
  execute append := Atomic.commit (appendValidated platform append.record append.assessedAt)

/-- Every row is the row of its record, whose amount can be read. -/
def SupplyEffects.Written (platform : Platform) (table : SupplyEffects) : Prop :=
  ∀ row ∈ table.rows, supplyRow platform row.record = .ok row ∧ isAtomicAmount row.record.amount

/-- Records that were assessed have an amount, if none of them repeats another. -/
theorem atomic_of_tallyRecords {records : List SupplyEffectRecord} {record : SupplyEffectRecord}
    {tally final : SupplyTally} (fresh : record.seenKey ∉ tally.seen)
    (other : ∀ earlier ∈ records, earlier.seenKey ≠ record.seenKey)
    (runs : tallyRecords (records ++ [record]) tally = .ok final) :
    isAtomicAmount record.amount := by
  induction records generalizing tally with
  | nil =>
      rw [List.nil_append, tallyRecords, if_neg fresh] at runs
      obtain ⟨amount, parsed, _⟩ := Atomic.ok_of_bind runs
      by_contra malformed
      rw [parseAtomicAmount, if_neg malformed] at parsed
      cases parsed
  | cons first rest ih =>
      obtain ⟨here, later⟩ := List.forall_mem_cons.mp other
      rw [List.cons_append, tallyRecords] at runs
      split at runs
      · refine ih ?_ later runs
        exact fresh
      · obtain ⟨amount, _, more⟩ := Atomic.ok_of_bind runs
        refine ih ?_ later more
        have seen : (SupplyTally.add { tally with seen := tally.seen ++ [first.seenKey] }
            first.effect amount).seen = tally.seen ++ [first.seenKey] := by
          cases first.effect <;> rfl
        rw [seen, List.mem_append, List.mem_singleton, not_or]
        exact ⟨fresh, Ne.symm here⟩

section Store

variable {platform : Platform} {table next : SupplyEffects} {record : SupplyEffectObject}
  {assessedAt : JsString}

theorem Inserted.written_after {row : SupplyRow} {assessment : SupplyInvariantAssessment}
    (inserted : Inserted platform record assessedAt table next row assessment)
    (written : table.Written platform) : next.Written platform := by
  obtain ⟨operation, effect, _, _, stored⟩ := supplyRow_ok inserted.written
  intro other member
  rw [inserted.rows] at member
  rcases List.mem_append.mp member with earlier | added
  · exact written other earlier
  · obtain rfl := List.mem_singleton.mp added
    rw [stored]
    refine ⟨inserted.written, ?_⟩
    have assessed := inserted.assessed
    rw [List.map_append, List.map_singleton, assess] at assessed
    obtain ⟨tally, runs, _⟩ := Atomic.ok_of_bind assessed
    refine atomic_of_tallyRecords List.not_mem_nil (fun earlier listed same => ?_) runs
    have recorded := (table.list_perm platform _ _).mem_iff.mp listed
    obtain ⟨before, among, rfl⟩ := List.mem_map.mp recorded
    have held : before ∈ table.rows := List.mem_of_mem_filter among
    obtain ⟨named, kind, _, _, _⟩ := supplyRow_ok (written before held).1
    obtain ⟨sameOperation, sameEffect⟩ := (SupplyEffectRecord.seenKey_eq_iff _ _).mp same
    apply (SupplyEffects.insert_ok inserted.inserted).1
    refine List.mem_map.mpr ⟨before, held, Prod.ext ?_ ?_⟩
    · exact named.trans (sameOperation.trans operation.symm)
    · exact kind.trans (sameEffect.trans effect.symm)

/-- Every call keeps the rows with their records. -/
theorem SupplyEffects.written_preserved (platform : Platform) :
    (postgresSupplyEffectStore platform).Preserves (SupplyEffects.Written platform) := by
  intro append table written
  cases outcome : appendValidated platform append.record append.assessedAt table with
  | error error =>
      simp only [Atomic.Machine.next, postgresSupplyEffectStore, Atomic.commit_of_error outcome]
      exact written
  | ok result =>
      obtain ⟨committed, next⟩ := result
      simp only [Atomic.Machine.next, postgresSupplyEffectStore, Atomic.commit_of_ok outcome]
      rcases appendValidated_ok outcome with ⟨rfl, _⟩ | ⟨_, row, assessment, inserted⟩
      · exact written
      · exact inserted.written_after written

/-! ## The same operation and effect -/

/-- What is wrong with a record that differs from the stored one. -/
def SupplyEffectRecord.reusedMessage (record : SupplyEffectRecord) : JsString :=
  js "operation effect was reused with different evidence: " ++ record.operationId ++ js "/" ++
    record.effect.text

/-- How a call takes a record of an operation and effect that are recorded: a duplicate if the
fields are the same, a conflict otherwise. The table stays as it is. -/
structure Recognizes {α : Type} (duplicate : α → Prop) (prior : SupplyEffectRecord)
    (record : SupplyEffectRecord) (table : SupplyEffects)
    (result : Except Thrown α × SupplyEffects) : Prop where
  repeated : record = prior → ∃ value, result = (.ok value, table) ∧ duplicate value
  different : record ≠ prior →
    ∃ message, result = (.error (.registryError .conflict message), table)

/-- The record of a row is the only one of its scope with its operation and effect. -/
theorem SupplyEffects.find_of_mem (written : table.Written platform) {row : SupplyRow}
    (member : row ∈ table.rows) {operationId : JsString} {effect : SupplyEffect}
    (operation : operationId = row.record.operationId) (kind : effect = row.record.effect) :
    (table.list platform row.record.assetId row.record.representationId).find? (fun item =>
      item.operationId == operationId && item.effect == effect) = some row.record.parsed := by
  subst operation kind
  obtain ⟨_, _, asset, representation, _⟩ := supplyRow_ok (written row member).1
  have listed : row ∈ (table.scope row.record.assetId row.record.representationId).mergeSort
      (rowLe platform) := by
    rw [List.mem_mergeSort, scope, List.mem_filter]
    simp [member, asset, representation]
  have found : ((table.list platform row.record.assetId row.record.representationId).find?
      fun item => item.operationId == row.record.operationId &&
        item.effect == row.record.effect).isSome := by
    rw [List.find?_isSome]
    exact ⟨row.record.parsed, List.mem_map_of_mem listed, by simp [SupplyEffectRecord.parsed]⟩
  obtain ⟨item, finds⟩ := Option.isSome_iff_exists.mp found
  have same := List.find?_some finds
  obtain ⟨other, among, rfl⟩ := List.mem_map.mp (List.mem_of_find?_eq_some finds)
  have held : other ∈ table.rows :=
    List.mem_of_mem_filter (List.mem_mergeSort.mp among)
  obtain ⟨named, kind, _, _, _⟩ := supplyRow_ok (written row member).1
  obtain ⟨otherNamed, otherKind, _, _, _⟩ := supplyRow_ok (written other held).1
  rw [Bool.and_eq_true, beq_iff_eq, beq_iff_eq] at same
  have keys : other.key = row.key :=
    Prod.ext (otherNamed.trans (same.1.trans named.symm)) (otherKind.trans (same.2.trans kind.symm))
  rw [finds, List.inj_on_of_nodup_map table.primaryKey held member keys]

/-- The store compares the texts. -/
theorem appendValidated_of_mem (written : table.Written platform) {row : SupplyRow}
    (member : row ∈ table.rows) (operation : record.operationId = row.record.operationId)
    (effect : record.effect = row.record.effect) (asset : record.assetId = row.record.assetId)
    (representation : record.representationId = row.record.representationId)
    (assessedAt : JsString) :
    appendValidated platform record assessedAt table =
      if record.order = SupplyEffectField.stored ∧ record.toSupplyEffectRecord = row.record then
        .ok ((.duplicate, table.list platform record.assetId record.representationId), table)
      else .error (.registryError .conflict record.reusedMessage) := by
  have finds := table.find_of_mem written member operation effect
  rw [← asset, ← representation] at finds
  rw [appendValidated]
  dsimp only
  rw [finds]
  dsimp only
  by_cases same : row.record.parsed.stringify = record.stringify
  · rw [if_pos ((SupplyEffectObject.stringify_parsed_iff _ _).mp same), if_neg (not_not.mpr same)]
    rfl
  · rw [if_neg fun equal => same ((SupplyEffectObject.stringify_parsed_iff _ _).mpr equal),
      if_pos same]
    rfl

/-- A call that gives a duplicate for the fields and their order, and a conflict otherwise,
recognizes records in that order. -/
theorem recognizes_iff {α : Type} {duplicate : α → Prop} {prior : SupplyEffectRecord}
    {result : Except Thrown α × SupplyEffects}
    (same : record.order = SupplyEffectField.stored ∧ record.toSupplyEffectRecord = prior →
      ∃ value, result = (.ok value, table) ∧ duplicate value)
    (other : ¬ (record.order = SupplyEffectField.stored ∧ record.toSupplyEffectRecord = prior) →
      ∃ message, result = (.error (.registryError .conflict message), table)) :
    Recognizes duplicate prior record.toSupplyEffectRecord table result ↔
      (record.toSupplyEffectRecord = prior → record.order = SupplyEffectField.stored) := by
  constructor
  · intro recognizes repeated
    by_contra order
    obtain ⟨message, refused⟩ := other fun both => order both.1
    obtain ⟨value, accepted, _⟩ := recognizes.repeated repeated
    cases refused.symm.trans accepted
  · intro ordered
    exact ⟨fun repeated => same ⟨ordered repeated, repeated⟩,
      fun different => other fun both => different both.2⟩

/-- The records of a scope are assessed without an error. -/
theorem assess_of_written (written : table.Written platform)
    (assetId representationId assessedAt : JsString) :
    ∃ assessment, assess assetId representationId ((table.list platform assetId
      representationId).map SupplyEffectObject.toSupplyEffectRecord) assessedAt =
        .ok assessment := by
  have faithful : ∀ row ∈ table.rows, row.Faithful := by
    intro row member
    obtain ⟨row_written, atomic⟩ := written row member
    obtain ⟨operation, effect, _, _, _⟩ := supplyRow_ok row_written
    exact ⟨operation.symm, effect.symm, atomic⟩
  have assessable := (SupplyEffects.records_assessable faithful assetId representationId).perm
    (table.list_perm platform assetId representationId).symm
  obtain ⟨assessment, returned, _⟩ := assess_of_assessable assessable assetId representationId
    assessedAt
  exact ⟨assessment, returned⟩

/-- **Records that are recorded again.** After any run of the store, a record of an operation,
effect and scope that are recorded gives a duplicate for the same fields and a conflict for others,
and leaves the table as it is, if and only if it has other fields or has them in the order of
`jsonb`. The same holds of the ledger for the records that it hands on to the store. -/
theorem repeated_records (platform : Platform) (appends : List SupplyAppend) :
    let table := (postgresSupplyEffectStore platform).run appends .empty
    ∀ row ∈ table.rows, ∀ record : SupplyEffectObject,
      record.operationId = row.record.operationId → record.effect = row.record.effect →
      record.assetId = row.record.assetId →
      record.representationId = row.record.representationId →
      (∀ assessedAt, Recognizes (fun committed => committed.1 = .duplicate) row.record
          record.toSupplyEffectRecord table
          ((postgresSupplyEffectStore platform).execute ⟨record, assessedAt⟩ table) ↔
        (record.toSupplyEffectRecord = row.record → record.order = SupplyEffectField.stored)) ∧
      ∀ now, assertRecord platform record.toSupplyEffectRecord = .ok () →
        (Recognizes (fun recorded => recorded.1 = .duplicate) row.record
          record.toSupplyEffectRecord table
          ((supplyInvariantLedger platform).execute ⟨record, now⟩ table) ↔
        (record.toSupplyEffectRecord = row.record → record.order = SupplyEffectField.stored)) := by
  intro table row member record operation effect asset representation
  have written : table.Written platform :=
    (SupplyEffects.written_preserved platform).run appends
      fun _ none => (List.not_mem_nil none).elim
  have compared := appendValidated_of_mem written member operation effect asset representation
  constructor
  · intro assessedAt
    refine recognizes_iff (fun same => ?_) fun other => ?_
    · have done := (compared assessedAt).trans (if_pos same)
      exact ⟨_, Atomic.commit_of_ok done, rfl⟩
    · have refused := (compared assessedAt).trans (if_neg other)
      exact ⟨_, Atomic.commit_of_error refused⟩
  · intro now accepted
    refine recognizes_iff (fun same => ?_) fun other => ?_
    · have done := (compared (platform.toISOString now)).trans (if_pos same)
      obtain ⟨assessment, assessed⟩ := assess_of_written written record.assetId
        record.representationId (platform.toISOString now)
      refine ⟨(.duplicate, assessment), ?_, rfl⟩
      simp only [supplyInvariantLedger, SupplyRecordCall.execute, accepted,
        Atomic.commit_of_ok done, assessed, Except.map]
    · have refused := (compared (platform.toISOString now)).trans (if_neg other)
      refine ⟨record.reusedMessage, ?_⟩
      simp only [supplyInvariantLedger, SupplyRecordCall.execute, accepted,
        Atomic.commit_of_error refused]

end Store

/-! ## A lock that is recorded twice -/

namespace RepeatedLock

def lock : SupplyEffectRecord :=
  ⟨js "IW:BRIDGE:forward", .lock, js "IW:ASSET:rwa", js "IW:REPRESENTATION:evm-rwa", js "100",
    js "evidence:forward:LOCK", js "2026-08-12T12:00:00.000Z"⟩

/-- The lock as its writer creates it. -/
def object : SupplyEffectObject where
  toSupplyEffectRecord := lock
  order := [.operationId, .effect, .assetId, .representationId, .amount, .evidenceId, .finalizedAt]
  complete := by decide

def append (object : SupplyEffectObject) : SupplyAppend := ⟨object, js "2026-08-12T12:00:00.000Z"⟩

def row : SupplyRow where
  operationId := lock.operationId
  effect := lock.effect
  assetId := lock.assetId
  representationId := lock.representationId
  record := lock
  finalizedAt := 1786536000000

def table : SupplyEffects := (postgresSupplyEffectStore isoPlatform).run [append object] .empty

theorem row_mem : row ∈ table.rows := by decide +kernel

/-- In the order of `jsonb` it is recognized. -/
theorem parsed_recognized : Recognizes (fun committed => committed.1 = .duplicate) lock lock table
    ((postgresSupplyEffectStore isoPlatform).execute (append lock.parsed) table) :=
  ((repeated_records isoPlatform [append object] row row_mem lock.parsed rfl
    rfl rfl rfl).1 _).mpr fun _ => rfl

/-- **In the order of its writer it is refused.** -/
theorem object_refused : ¬ ∀ appends : List SupplyAppend,
    let table := (postgresSupplyEffectStore isoPlatform).run appends .empty
    ∀ row ∈ table.rows, ∀ append : SupplyAppend,
      append.record.toSupplyEffectRecord = row.record →
      Recognizes (fun committed => committed.1 = .duplicate) row.record
        append.record.toSupplyEffectRecord table
        ((postgresSupplyEffectStore isoPlatform).execute append table) := by
  intro claim
  have recognizes := claim [append object] row row_mem (append object) rfl
  obtain ⟨value, accepted, _⟩ := recognizes.repeated rfl
  have refused : ((postgresSupplyEffectStore isoPlatform).execute (append object) table).1.toBool =
      false := by
    decide +kernel
  have returned := congrArg (fun result => result.1.toBool) accepted
  cases refused.symm.trans returned

end RepeatedLock

end InterWeave
