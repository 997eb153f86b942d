import InterWeave.Core.IsoDate
import InterWeave.Supply.LedgerRuns

/-! # Effects in another order

Without repeated operations and effects, the loop of `assess` throws at an amount that does not
parse wherever it stands, and otherwise sums the amounts of each effect. Its result does not depend
on the order of the effects. The assessment that a recording returns, with the new effect last, is
therefore the one that the ordered list of the store gives after it.
-/

namespace InterWeave

section Permuted

variable {records others : List SupplyEffectRecord} {tally other : SupplyTally}
  {assetId representationId assessedAt : JsString}

/-- The operation and the effect of a record. -/
def SupplyEffectRecord.pair (record : SupplyEffectRecord) : JsString × SupplyEffect :=
  (record.operationId, record.effect)

/-- The keys of the loop are as distinct as the operations and effects that they join. -/
theorem seenKeys_nodup_iff : (records.map SupplyEffectRecord.seenKey).Nodup ↔
    (records.map SupplyEffectRecord.pair).Nodup := by
  have same (left right : SupplyEffectRecord) : left.seenKey = right.seenKey ↔
      left.pair = right.pair := by
    rw [SupplyEffectRecord.seenKey_eq_iff, SupplyEffectRecord.pair, SupplyEffectRecord.pair,
      Prod.mk.injEq]
  induction records with
  | nil => simp
  | cons record rest ih =>
      rw [List.map_cons, List.map_cons, List.nodup_cons, List.nodup_cons]
      refine and_congr (not_congr ?_) ih
      rw [List.mem_map, List.mem_map]
      exact exists_congr fun later => and_congr_right fun _ => same later record

/-- The checks and the totals read the sums only. -/
theorem SupplyTally.assessed_congr (violations : tally.violations = other.violations)
    (total : tally.total = other.total) :
    tally.checks = other.checks ∧ tally.totals = other.totals := by
  have locked : tally.locked = other.locked := congrFun total .lock
  have minted : tally.minted = other.minted := congrFun total .mint
  have burned : tally.burned = other.burned := congrFun total .burn
  have released : tally.released = other.released := congrFun total .release
  cases tally
  cases other
  dsimp only at violations locked minted burned released
  subst violations locked minted burned released
  exact ⟨rfl, rfl⟩

/-- Among distinct keys, an amount that does not parse stops the loop. -/
theorem tallyRecords_of_malformed (distinct : (records.map SupplyEffectRecord.seenKey).Nodup)
    (fresh : ∀ record ∈ records, record.seenKey ∉ tally.seen)
    (malformed : ∃ record ∈ records, isAtomicAmount record.amount = false) :
    tallyRecords records tally =
      .error (.error (js "amount must be a non-negative base-10 integer string")) := by
  induction records generalizing tally with
  | nil =>
      obtain ⟨_, member, _⟩ := malformed
      exact absurd member List.not_mem_nil
  | cons record rest ih =>
      obtain ⟨single, later⟩ := List.nodup_cons.mp distinct
      rw [tallyRecords, if_neg (fresh record List.mem_cons_self), parseAtomicAmount]
      cases parses : isAtomicAmount record.amount with
      | false => rfl
      | true =>
          refine ih later (fun following member => ?_) ?_
          · have seen : (SupplyTally.add { tally with seen := tally.seen ++ [record.seenKey] }
                record.effect (decimalValue record.amount)).seen =
                  tally.seen ++ [record.seenKey] := by
              cases record.effect <;> rfl
            rw [seen, List.mem_append, List.mem_singleton, not_or]
            refine ⟨fresh following (List.mem_cons_of_mem _ member), fun same => single ?_⟩
            exact List.mem_map.mpr ⟨following, member, same⟩
          · obtain ⟨broken, member, wrong⟩ := malformed
            rcases List.mem_cons.mp member with rfl | member
            · cases parses.symm.trans wrong
            · exact ⟨broken, member, wrong⟩

/-- The assessment of distinct effects does not depend on their order. -/
theorem assess_perm (same : records.Perm others)
    (distinct : (records.map SupplyEffectRecord.pair).Nodup) :
    assess assetId representationId records assessedAt =
      assess assetId representationId others assessedAt := by
  rw [← seenKeys_nodup_iff] at distinct
  have permuted := (same.map SupplyEffectRecord.seenKey).nodup_iff.mp distinct
  by_cases malformed : ∃ record ∈ records, isAtomicAmount record.amount = false
  · have other : ∃ record ∈ others, isAtomicAmount record.amount = false := by
      obtain ⟨record, member, wrong⟩ := malformed
      exact ⟨record, same.mem_iff.mp member, wrong⟩
    rw [assess, assess, tallyRecords_of_malformed distinct (fun _ _ => List.not_mem_nil) malformed,
      tallyRecords_of_malformed permuted (fun _ _ => List.not_mem_nil) other]
  · have assessable : Assessable records := by
      refine ⟨fun record member => ?_, distinct⟩
      by_contra wrong
      exact malformed ⟨record, member, Bool.eq_false_iff.mpr wrong⟩
    obtain ⟨first, runs, clean, sums⟩ :=
      tallyRecords_of_assessable assessable .empty fun _ _ => List.not_mem_nil
    obtain ⟨second, again, empty, totals⟩ :=
      tallyRecords_of_assessable (assessable.perm same) .empty fun _ _ => List.not_mem_nil
    obtain ⟨checks, totalled⟩ := SupplyTally.assessed_congr (clean.trans empty.symm)
      (sums.trans (by rw [totalOf_perm same, totals]))
    rw [assess, assess, runs, again]
    change Except.ok _ = Except.ok _
    rw [checks, totalled]

/-- The instant of an assessment is handed on. -/
theorem assess_assessedAt {assessment : SupplyInvariantAssessment}
    (assessed : assess assetId representationId records assessedAt = .ok assessment)
    (later : JsString) : assess assetId representationId records later =
      .ok { assessment with assessedAt := later } := by
  obtain ⟨tally, runs, returned⟩ := Atomic.ok_of_bind assessed
  cases returned
  rw [assess, runs]
  rfl

end Permuted

section Recorded

variable {platform : Platform} {table : SupplyEffects} {call : SupplyRecordCall}
  {persistence : SupplyPersistence} {assessment : SupplyInvariantAssessment}

theorem SupplyEffects.assess_of_named {assetId representationId : JsString}
    (named : representationId.isBlank = false) (now : Int) :
    table.assess platform assetId representationId now =
      InterWeave.assess assetId representationId
        ((table.list platform assetId representationId).map
          SupplyEffectObject.toSupplyEffectRecord) (platform.toISOString now) := by
  rw [assess, named]
  rfl

theorem assertRecord_named {record : SupplyEffectRecord}
    (accepted : assertRecord platform record = .ok ()) :
    record.representationId.isBlank = false := by
  simp only [assertRecord, bind, Except.bind] at accepted
  split at accepted
  · cases accepted
  · rename_i identified
    simp only [Bool.or_eq_true, not_or, Bool.not_eq_true] at identified
    exact identified.1.2

/-- What is returned of a value is returned of a computation that has it. -/
theorem map_ok {α β : Type} {computed : Except Thrown α} {change : α → β} {result : β}
    (returned : computed.map change = .ok result) :
    ∃ value, computed = .ok value ∧ change value = result := by
  cases computed with
  | error error => cases returned
  | ok value => exact ⟨value, rfl, Except.ok.inj returned⟩

/-- What a call returns is assessed of the list of the store before it, or of that list and the
new record, which is then inserted. -/
theorem SupplyRecordCall.execute_assessed
    (returned : (call.execute platform table).1 = .ok (persistence, assessment)) :
    call.record.representationId.isBlank = false ∧
      ((InterWeave.assess call.record.assetId call.record.representationId
          ((table.list platform call.record.assetId call.record.representationId).map
            SupplyEffectObject.toSupplyEffectRecord) (platform.toISOString call.now) =
            .ok assessment ∧ (call.execute platform table).2 = table) ∨
        isAtomicAmount call.record.amount ∧ ∃ row,
          Inserted platform call.record (platform.toISOString call.now) table
            (call.execute platform table).2 row assessment) := by
  cases accepted : assertRecord platform call.record.toSupplyEffectRecord with
  | error error =>
      rw [execute, accepted] at returned
      cases returned
  | ok _ =>
      refine ⟨assertRecord_named accepted, ?_⟩
      cases committed : appendValidated platform call.record
          (platform.toISOString call.now) table with
      | error error =>
          simp only [execute, accepted, Atomic.commit_of_error committed] at returned
          cases returned
      | ok result =>
          obtain ⟨⟨kind, listed⟩, next⟩ := result
          have left : (call.execute platform table).2 = next := by
            simp only [execute, accepted, Atomic.commit_of_ok committed]
          simp only [execute, accepted, Atomic.commit_of_ok committed] at returned
          rcases appendValidated_ok committed with ⟨rfl, known⟩ | ⟨known, row, valid, inserted⟩
          · cases known
            obtain ⟨_, assessed, same⟩ := map_ok returned
            cases same
            exact .inl ⟨assessed, left⟩
          · cases known
            obtain ⟨_, assessed, same⟩ := map_ok returned
            cases same
            rw [inserted.assessed] at assessed
            cases assessed
            exact .inr ⟨assertRecord_ok accepted, row, left ▸ inserted⟩

/-- **Orders of effects.** Effects with distinct operations and effects are assessed alike in every
order, and after every run of the ledger, what a recording returns is what an assessment of its
scope returns next, up to its instant. -/
theorem assessments_agree (platform : Platform) :
    (∀ (assetId representationId assessedAt : JsString) (records others : List SupplyEffectRecord),
      records.Perm others →
      (records.map fun record => (record.operationId, record.effect)).Nodup →
      assess assetId representationId records assessedAt =
        assess assetId representationId others assessedAt) ∧
    ∀ (calls : List SupplyRecordCall) (call : SupplyRecordCall) (persistence : SupplyPersistence)
      (assessment : SupplyInvariantAssessment),
      (call.execute platform (SupplyEffects.after platform calls)).1 =
        .ok (persistence, assessment) →
      ∀ now, (call.execute platform (SupplyEffects.after platform calls)).2.assess platform
        call.record.assetId call.record.representationId now =
          .ok { assessment with assessedAt := platform.toISOString now } := by
  refine ⟨fun _ _ _ records others same distinct => assess_perm same distinct, ?_⟩
  intro calls call persistence assessment returned now
  obtain ⟨movements, agrees⟩ :=
    (supplyInvariantLedger_refines platform).run calls SupplyEffects.empty_agrees
  change (SupplyEffects.after platform calls).Agrees _ at agrees
  generalize SupplyEffects.after platform calls = table at returned agrees ⊢
  obtain ⟨named, ⟨assessed, same⟩ | ⟨atomic, row, inserted⟩⟩ :=
    SupplyRecordCall.execute_assessed returned
  · rw [same, SupplyEffects.assess_of_named named]
    exact assess_assessedAt assessed _
  · rw [SupplyEffects.assess_of_named named]
    generalize (call.execute platform table).2 = next at inserted ⊢
    have faithful := inserted.faithful atomic agrees.faithful
    have permuted : ((table.list platform call.record.assetId call.record.representationId ++
        [call.record]).map SupplyEffectObject.toSupplyEffectRecord).Perm
        ((next.list platform call.record.assetId call.record.representationId).map
          SupplyEffectObject.toSupplyEffectRecord) := by
      refine List.Perm.trans ?_ (next.list_perm platform _ _).symm
      rw [inserted.records_self, List.map_append]
      exact (table.list_perm platform _ _).append_right _
    have assessable := (SupplyEffects.records_assessable faithful call.record.assetId
      call.record.representationId).perm (next.list_perm platform _ _).symm
    rw [← assess_perm permuted]
    · exact assess_assessedAt inserted.assessed _
    · rw [← seenKeys_nodup_iff]
      exact (assessable.perm permuted.symm).distinct

end Recorded

namespace LateLock

/-- A lock with its time of finality. -/
def lock (operationId finalizedAt : JsString) : SupplyRecordCall where
  record :=
    { operationId, effect := .lock, assetId := js "IW:ASSET:rwa"
      representationId := js "IW:REPRESENTATION:evm-rwa", amount := js "100"
      evidenceId := js "evidence", finalizedAt
      order := SupplyEffectField.stored, complete := .refl _ }
  now := 1786536000000

def noon : SupplyRecordCall := lock (js "IW:BRIDGE:a") (js "2026-08-12T12:00:00.000Z")

/-- Recorded later, but final before the other. -/
def morning : SupplyRecordCall := lock (js "IW:BRIDGE:b") (js "2026-08-12T09:00:00.000Z")

theorem assessed_again : ∃ persistence assessment,
    (morning.execute isoPlatform (SupplyEffects.after isoPlatform [noon])).1 =
      .ok (persistence, assessment) ∧
    (morning.execute isoPlatform (SupplyEffects.after isoPlatform [noon])).2.assess isoPlatform
      (js "IW:ASSET:rwa") (js "IW:REPRESENTATION:evm-rwa") 1786539600000 =
      .ok { assessment with assessedAt := isoPlatform.toISOString 1786539600000 } := by
  have succeeds : (morning.execute isoPlatform (SupplyEffects.after isoPlatform [noon])).1.toBool =
      true := by decide +kernel
  cases returned : (morning.execute isoPlatform (SupplyEffects.after isoPlatform [noon])).1 with
  | error error =>
      rw [returned] at succeeds
      cases succeeds
  | ok result =>
      refine ⟨result.1, result.2, rfl, ?_⟩
      apply (assessments_agree isoPlatform).2 [noon] morning result.1 result.2
      exact returned

end LateLock
end InterWeave
