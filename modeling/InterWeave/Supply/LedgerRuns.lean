import InterWeave.Supply.Backing
import InterWeave.Text.Separators
import Mathlib.Algebra.BigOperators.Group.List.Basic
import Mathlib.Algebra.GroupWithZero.Nat

/-! # Runs of the supply ledger

The assessment of records with distinct keys is the comparison of their totals.
A call that inserts a record therefore moves the book of its scope, every other
call leaves the table alone, and the table refines the book. The operation and
effect of a record are consumed by the primary key alone when they were recorded
in another scope: the duplicate lookup of a call sees its own scope only.
-/

namespace InterWeave

/-! ## Totals of records -/

def SupplyEffectRecord.quantity (record : SupplyEffectRecord) : Nat :=
  decimalValue record.amount

/-- The sum of the amounts recorded with an effect. -/
def totalOf (records : List SupplyEffectRecord) (effect : SupplyEffect) : Nat :=
  (records.map fun record => if record.effect = effect then record.quantity else 0).sum

theorem totalOf_cons (record : SupplyEffectRecord) (rest : List SupplyEffectRecord) :
    totalOf (record :: rest) =
      fun effect => (if record.effect = effect then record.quantity else 0) + totalOf rest effect :=
  by
  funext effect
  simp only [totalOf, List.map_cons, List.sum_cons]

theorem totalOf_concat (records : List SupplyEffectRecord) (record : SupplyEffectRecord) :
    totalOf (records ++ [record]) =
      Function.update (totalOf records) record.effect
        (totalOf records record.effect + record.quantity) := by
  funext effect
  simp only [totalOf, List.map_append, List.sum_append, List.map_singleton, List.sum_singleton]
  by_cases same : effect = record.effect
  · subst same
    rw [Function.update_self, if_pos rfl]
  · rw [Function.update_of_ne same, if_neg (fun equal => same equal.symm), Nat.add_zero]
    rfl

theorem totalOf_perm {first second : List SupplyEffectRecord} (same : first.Perm second) :
    totalOf first = totalOf second := by
  funext effect
  exact (same.map _).sum_eq

/-- The totals of a tally, by effect. -/
def SupplyTally.total (tally : SupplyTally) : SupplyEffect → Nat
  | .lock => tally.locked
  | .mint => tally.minted
  | .burn => tally.burned
  | .release => tally.released

/-! ## Keys -/

theorem SupplyEffect.text_injective : Function.Injective SupplyEffect.text := by
  intro left right same
  cases left <;> cases right <;> first | rfl | exact absurd same (by decide)

theorem SupplyEffect.separator_not_mem_text (effect : SupplyEffect) :
    (124 : UInt16) ∉ effect.text := by
  cases effect <;> decide

/-- The key of the duplicate check determines operation and effect: no effect
contains the separator. -/
theorem SupplyEffectRecord.seenKey_eq_iff (left right : SupplyEffectRecord) :
    left.seenKey = right.seenKey ↔
      left.operationId = right.operationId ∧ left.effect = right.effect := by
  constructor
  · intro same
    have separator : js "|" = [124] := by decide
    have split : left.operationId ++ 124 :: left.effect.text =
        right.operationId ++ 124 :: right.effect.text := by
      simpa only [seenKey, separator, List.append_assoc, List.singleton_append] using same
    obtain ⟨operation, effect⟩ := Text.split_last
      left.effect.separator_not_mem_text right.effect.separator_not_mem_text split
    exact ⟨operation, SupplyEffect.text_injective effect⟩
  · rintro ⟨operation, effect⟩
    simp only [seenKey, operation, effect]

/-! ## Assessment of distinct records -/

/-- Amounts that parse, under keys that do not repeat. -/
structure Assessable (records : List SupplyEffectRecord) : Prop where
  atomic : ∀ record ∈ records, isAtomicAmount record.amount
  distinct : (records.map SupplyEffectRecord.seenKey).Nodup

theorem Assessable.perm {first second : List SupplyEffectRecord} (assessable : Assessable first)
    (same : first.Perm second) : Assessable second where
  atomic record member := assessable.atomic record (same.mem_iff.mpr member)
  distinct := (same.map _).nodup_iff.mp assessable.distinct

/-- Without repeated keys the loop of `assess` sums the amounts of each effect. -/
theorem tallyRecords_of_assessable {records : List SupplyEffectRecord}
    (assessable : Assessable records) (tally : SupplyTally)
    (fresh : ∀ record ∈ records, record.seenKey ∉ tally.seen) :
    ∃ final, tallyRecords records tally = .ok final ∧ final.violations = tally.violations ∧
      final.total = fun effect => tally.total effect + totalOf records effect := by
  induction records generalizing tally with
  | nil => exact ⟨tally, rfl, rfl, rfl⟩
  | cons record rest ih =>
      have unseen : record.seenKey ∉ tally.seen := fresh record (List.mem_cons_self ..)
      have parses : parseAtomicAmount record.amount = .ok record.quantity :=
        if_pos (assessable.atomic record (List.mem_cons_self ..))
      obtain ⟨single, others⟩ := List.nodup_cons.mp assessable.distinct
      have later : Assessable rest :=
        ⟨fun other member => assessable.atomic other (List.mem_cons_of_mem _ member), others⟩
      let extended := SupplyTally.add { tally with seen := tally.seen ++ [record.seenKey] }
        record.effect record.quantity
      have seen : extended.seen = tally.seen ++ [record.seenKey] := by
        cases effect : record.effect <;> simp only [extended, effect, SupplyTally.add]
      have violations : extended.violations = tally.violations := by
        cases effect : record.effect <;> simp only [extended, effect, SupplyTally.add]
      have totals : extended.total = fun effect =>
          tally.total effect + if record.effect = effect then record.quantity else 0 := by
        funext other
        cases effect : record.effect <;> cases other <;>
          simp only [extended, effect, SupplyTally.add, SupplyTally.total, ↓reduceIte,
            reduceCtorEq, Nat.add_zero]
      obtain ⟨final, runs, kept, sums⟩ := ih later extended (by
        intro other member
        rw [seen]
        intro either
        rcases List.mem_append.mp either with earlier | now
        · exact fresh other (List.mem_cons_of_mem _ member) earlier
        · exact single (List.mem_map.mpr ⟨other, member, List.mem_singleton.mp now⟩))
      refine ⟨final, ?_, kept.trans violations, ?_⟩
      · rw [tallyRecords, if_neg unseen, parses]
        exact runs
      · rw [sums, totals, totalOf_cons]
        funext effect
        exact Nat.add_assoc ..

/-- The checks find nothing exactly when the totals are bounded. -/
theorem SupplyTally.checks_eq_nil_iff (tally : SupplyTally) (clean : tally.violations = []) :
    tally.checks = [] ↔ Backing.Bounded tally.total := by
  simp only [checks, clean, List.append_eq_nil_iff, List.nil_append, ite_eq_right_iff,
    List.cons_ne_nil, imp_false, Nat.not_lt, gt_iff_lt, Backing.Bounded, total,
    representationSupply, verifiedBacking, Int.not_lt]
  omega

/-- **The assessment of distinct records.** It never throws, and it is valid
exactly when the totals of the records are bounded. -/
theorem assess_of_assessable {records : List SupplyEffectRecord} (assessable : Assessable records)
    (assetId representationId assessedAt : JsString) :
    ∃ assessment, assess assetId representationId records assessedAt = .ok assessment ∧
      (assessment.outcome = .valid ↔ Backing.Bounded (totalOf records)) := by
  obtain ⟨tally, runs, clean, sums⟩ :=
    tallyRecords_of_assessable assessable .empty fun _ _ => List.not_mem_nil
  have totals : tally.total = totalOf records := by
    rw [sums]
    funext effect
    cases effect <;> exact Nat.zero_add _
  refine ⟨_, by rw [assess, runs]; rfl, ?_⟩
  rw [← totals, ← tally.checks_eq_nil_iff clean]
  cases found : tally.checks with
  | nil => simp only [List.isEmpty_nil, ↓reduceIte]
  | cons first rest => simp only [List.isEmpty_cons, Bool.false_eq_true, ↓reduceIte, reduceCtorEq]

/-! ## What a call does to the table -/

theorem SupplyEffects.insert_ok {table next : SupplyEffects} {row : SupplyRow}
    (inserted : table.insert row = .ok next) :
    row.key ∉ table.keys ∧ next.rows = table.rows ++ [row] := by
  by_cases fresh : row.key ∉ table.rows.map SupplyRow.key
  · rw [insert, dif_pos fresh] at inserted
    cases inserted
    exact ⟨fresh, rfl⟩
  · rw [insert, dif_neg fresh] at inserted
    cases inserted

/-- A record that a call has inserted: its scope was assessed as valid with it. -/
structure Inserted (platform : Platform) (record : SupplyEffectObject) (assessedAt : JsString)
    (table next : SupplyEffects) (row : SupplyRow) (assessment : SupplyInvariantAssessment) :
    Prop where
  written : supplyRow platform record.toSupplyEffectRecord = .ok row
  inserted : table.insert row = .ok next
  assessed : assess record.assetId record.representationId
    ((table.list platform record.assetId record.representationId ++ [record]).map
      SupplyEffectObject.toSupplyEffectRecord) assessedAt = .ok assessment
  valid : assessment.outcome = .valid

theorem appendValidated_ok {platform : Platform} {record : SupplyEffectObject}
    {assessedAt : JsString} {table next : SupplyEffects}
    {committed : SupplyPersistence × List SupplyEffectObject}
    (done : appendValidated platform record assessedAt table = .ok (committed, next)) :
    (next = table ∧ committed =
      (.duplicate, table.list platform record.assetId record.representationId)) ∨
      committed = (.inserted,
        table.list platform record.assetId record.representationId ++ [record]) ∧
      ∃ row assessment, Inserted platform record assessedAt table next row assessment := by
  simp only [appendValidated] at done
  split at done
  · split at done
    · cases done
    · cases done
      exact .inl ⟨rfl, rfl⟩
  · cases assessed : assess record.assetId record.representationId
        ((table.list platform record.assetId record.representationId ++ [record]).map
          SupplyEffectObject.toSupplyEffectRecord) assessedAt with
    | error error =>
        rw [assessed] at done
        cases done
    | ok assessment =>
        simp only [assessed, bind, Except.bind] at done
        cases outcome : assessment.outcome with
        | violation =>
            rw [outcome, if_pos rfl] at done
            cases done
        | valid =>
            simp only [outcome, reduceCtorEq, ↓reduceIte] at done
            cases written : supplyRow platform record.toSupplyEffectRecord with
            | error error => simp only [written, reduceCtorEq] at done
            | ok row =>
                simp only [written, pure, Except.pure] at done
                cases inserted : table.insert row with
                | error error => simp only [inserted, reduceCtorEq] at done
                | ok extended =>
                    simp only [inserted, Except.ok.injEq, Prod.mk.injEq] at done
                    obtain ⟨rfl, rfl⟩ := done
                    exact .inr ⟨rfl, row, assessment, written, inserted, assessed, outcome⟩

theorem assertRecord_ok {platform : Platform} {record : SupplyEffectRecord}
    (accepted : assertRecord platform record = .ok ()) : isAtomicAmount record.amount := by
  simp only [assertRecord, parseAtomicAmount, bind, Except.bind] at accepted
  split at accepted
  · cases accepted
  · by_cases atomic : isAtomicAmount record.amount
    · exact atomic
    · simp only [atomic, Bool.false_eq_true, ↓reduceIte, reduceCtorEq] at accepted

/-- A call leaves the table alone, or it inserts its record and returns. -/
theorem SupplyRecordCall.execute_cases (platform : Platform) (call : SupplyRecordCall)
    (table : SupplyEffects) :
    (call.execute platform table).2 = table ∨
      isAtomicAmount call.record.amount ∧ ∃ row assessment,
        Inserted platform call.record (platform.toISOString call.now) table
          (call.execute platform table).2 row assessment ∧
        (call.execute platform table).1 = .ok (.inserted, assessment) := by
  cases accepted : assertRecord platform call.record.toSupplyEffectRecord with
  | error error => exact .inl (by simp only [execute, accepted])
  | ok _ =>
      cases committed : appendValidated platform call.record
          (platform.toISOString call.now) table with
      | error error =>
          exact .inl (by simp only [execute, accepted, Atomic.commit_of_error committed])
      | ok result =>
          obtain ⟨⟨persistence, records⟩, next⟩ := result
          rcases appendValidated_ok committed with ⟨rfl, _⟩ | ⟨appended, row, assessment, inserted⟩
          · exact .inl (by simp only [execute, accepted, Atomic.commit_of_ok committed])
          · cases appended
            have left : (call.execute platform table).2 = next := by
              simp only [execute, accepted, Atomic.commit_of_ok committed]
            refine .inr ⟨assertRecord_ok accepted, row, assessment, left ▸ inserted, ?_⟩
            simp only [execute, accepted, Atomic.commit_of_ok committed, inserted.assessed,
              Except.map]

/-- **A call that throws leaves the table as it was.** The assessment after the
commit repeats one that did not throw. -/
theorem SupplyRecordCall.unchanged_of_error {platform : Platform} {call : SupplyRecordCall}
    {table : SupplyEffects} {error : Thrown}
    (threw : (call.execute platform table).1 = .error error) :
    (call.execute platform table).2 = table := by
  rcases call.execute_cases platform table with same | ⟨_, row, assessment, _, returned⟩
  · exact same
  · rw [returned] at threw
    cases threw

/-! ## The table refines the book -/

namespace SupplyEffects

def records (table : SupplyEffects) (assetId representationId : JsString) :
    List SupplyEffectRecord :=
  (table.scope assetId representationId).map SupplyRow.record

/-- The committed amounts of a scope, by effect. -/
def total (table : SupplyEffects) (assetId representationId : JsString) : SupplyEffect → Nat :=
  totalOf (table.records assetId representationId)

theorem list_perm (platform : Platform) (table : SupplyEffects)
    (assetId representationId : JsString) :
    ((table.list platform assetId representationId).map
      SupplyEffectObject.toSupplyEffectRecord).Perm (table.records assetId representationId) := by
  rw [list, List.map_map]
  exact (List.mergeSort_perm ..).map _

end SupplyEffects

/-- What an inserted row has in common with its record. -/
structure SupplyRow.Faithful (row : SupplyRow) : Prop where
  operationId : row.record.operationId = row.operationId
  effect : row.record.effect = row.effect
  amount : isAtomicAmount row.record.amount

/-- The table and the book have the same totals and consumed the same keys. -/
structure SupplyEffects.Agrees (table : SupplyEffects) (book : SupplyBook) : Prop where
  faithful : ∀ row ∈ table.rows, row.Faithful
  totals : ∀ assetId representationId,
    table.total assetId representationId = (book.accounts (assetId, representationId)).total
  consumed : book.consumed = table.keys

theorem SupplyEffects.empty_agrees : SupplyEffects.empty.Agrees .empty where
  faithful _ member := (List.not_mem_nil member).elim
  totals assetId representationId := by
    funext effect
    cases effect <;> rfl
  consumed := rfl

/-- The primary key keeps the records of every scope apart. -/
theorem SupplyEffects.records_assessable {table : SupplyEffects}
    (faithful : ∀ row ∈ table.rows, row.Faithful) (assetId representationId : JsString) :
    Assessable (table.records assetId representationId) := by
  have within : ∀ row ∈ table.scope assetId representationId, row ∈ table.rows :=
    fun row member => List.mem_of_mem_filter member
  constructor
  · intro record member
    obtain ⟨row, selected, rfl⟩ := List.mem_map.mp member
    exact (faithful row (within row selected)).amount
  · rw [records, List.map_map]
    have keys : ((table.scope assetId representationId).map SupplyRow.key).Nodup :=
      table.primaryKey.sublist (List.filter_sublist.map _)
    refine (List.nodup_map_iff_inj_on keys.of_map).mpr fun left leftScoped right rightScoped same =>
      List.inj_on_of_nodup_map keys leftScoped rightScoped ?_
    obtain ⟨operation, effect⟩ := (SupplyEffectRecord.seenKey_eq_iff _ _).mp same
    have leftFaithful := faithful left (within left leftScoped)
    have rightFaithful := faithful right (within right rightScoped)
    rw [leftFaithful.operationId, rightFaithful.operationId] at operation
    rw [leftFaithful.effect, rightFaithful.effect] at effect
    exact Prod.ext operation effect

/-- The movement that a record stands for. -/
def SupplyEffectRecord.movement (record : SupplyEffectRecord) : SupplyMovement :=
  ⟨record.assetId, record.representationId, record.operationId, record.effect, record.quantity⟩

/-- What the row of an inserted record contains. -/
theorem supplyRow_ok {platform : Platform} {record : SupplyEffectRecord} {row : SupplyRow}
    (written : supplyRow platform record = .ok row) :
    row.operationId = record.operationId ∧ row.effect = record.effect ∧
      row.assetId = record.assetId ∧ row.representationId = record.representationId ∧
      row.record = record := by
  unfold supplyRow at written
  split at written
  · cases written
    exact ⟨rfl, rfl, rfl, rfl, rfl⟩
  · cases written

section Inserted

variable {platform : Platform} {record : SupplyEffectObject} {assessedAt : JsString}
  {table next : SupplyEffects} {row : SupplyRow} {assessment : SupplyInvariantAssessment}

theorem Inserted.rows (inserted : Inserted platform record assessedAt table next row assessment) :
    next.rows = table.rows ++ [row] :=
  (SupplyEffects.insert_ok inserted.inserted).2

theorem Inserted.records_self
    (inserted : Inserted platform record assessedAt table next row assessment) :
    next.records record.assetId record.representationId =
      table.records record.assetId record.representationId ++ [record.toSupplyEffectRecord] := by
  obtain ⟨_, _, asset, representation, stored⟩ := supplyRow_ok inserted.written
  simp only [SupplyEffects.records, SupplyEffects.scope, inserted.rows, List.filter_append,
    List.filter_cons, asset, representation, beq_self_eq_true, Bool.and_self, ↓reduceIte,
    List.filter_nil, List.map_append, List.map_cons, stored, List.map_nil]

theorem Inserted.records_other
    (inserted : Inserted platform record assessedAt table next row assessment)
    {assetId representationId : JsString}
    (other : (assetId, representationId) ≠ (record.assetId, record.representationId)) :
    next.records assetId representationId = table.records assetId representationId := by
  obtain ⟨_, _, asset, representation, _⟩ := supplyRow_ok inserted.written
  have elsewhere : (row.assetId == assetId && row.representationId == representationId) = false :=
    by
    rw [asset, representation, Bool.and_eq_false_iff, beq_eq_false_iff_ne, beq_eq_false_iff_ne]
    by_cases same : record.assetId = assetId
    · exact .inr fun equal => other (Prod.ext same.symm equal.symm)
    · exact .inl same
  simp only [SupplyEffects.records, SupplyEffects.scope, inserted.rows, List.filter_append,
    List.filter_cons, elsewhere, Bool.false_eq_true, ↓reduceIte, List.filter_nil,
    List.append_nil]

theorem Inserted.faithful
    (inserted : Inserted platform record assessedAt table next row assessment)
    (atomic : isAtomicAmount record.amount) (known : ∀ row ∈ table.rows, row.Faithful) :
    ∀ row ∈ next.rows, row.Faithful := by
  obtain ⟨operation, effect, _, _, stored⟩ := supplyRow_ok inserted.written
  intro other member
  rw [inserted.rows] at member
  rcases List.mem_append.mp member with earlier | added
  · exact known other earlier
  · obtain rfl := List.mem_singleton.mp added
    exact ⟨by rw [stored, operation], by rw [stored, effect], by rwa [stored]⟩

/-- The assessed candidate has the totals of the scope after the insertion. -/
theorem Inserted.bounded
    (inserted : Inserted platform record assessedAt table next row assessment)
    (faithful : ∀ row ∈ next.rows, row.Faithful) :
    Backing.Bounded (next.total record.assetId record.representationId) := by
  have same : ((table.list platform record.assetId record.representationId ++ [record]).map
      SupplyEffectObject.toSupplyEffectRecord).Perm
        (next.records record.assetId record.representationId) := by
    rw [inserted.records_self, List.map_append]
    exact (table.list_perm platform _ _).append_right _
  have assessable := (SupplyEffects.records_assessable faithful record.assetId
    record.representationId).perm same.symm
  obtain ⟨other, assessed, valid⟩ := assess_of_assessable assessable record.assetId
    record.representationId assessedAt
  rw [inserted.assessed] at assessed
  cases assessed
  rw [SupplyEffects.total, ← totalOf_perm same]
  exact valid.mp inserted.valid

/-- An inserted record moves the book of its scope. -/
theorem Inserted.agrees
    (inserted : Inserted platform record assessedAt table next row assessment)
    (atomic : isAtomicAmount record.amount) {book : SupplyBook} (agrees : table.Agrees book) :
    ∃ moved, book.move record.movement = some moved ∧ next.Agrees moved := by
  obtain ⟨operation, effect, _, _, _⟩ := supplyRow_ok inserted.written
  have key : row.key = (record.operationId, record.effect) := Prod.ext operation effect
  have fresh : (record.operationId, record.effect) ∉ book.consumed := by
    rw [agrees.consumed, ← key]
    exact (SupplyEffects.insert_ok inserted.inserted).1
  have faithful := inserted.faithful atomic agrees.faithful
  have totals : next.total record.assetId record.representationId =
      Function.update (book.accounts (record.assetId, record.representationId)).total
        record.effect ((book.accounts (record.assetId, record.representationId)).total
          record.effect + record.quantity) := by
    rw [SupplyEffects.total, inserted.records_self, totalOf_concat, ← agrees.totals]
    rfl
  obtain ⟨account, moved, accounted⟩ := Backing.move_of_bounded
    (book.accounts (record.assetId, record.representationId)) record.effect record.quantity
    (totals ▸ inserted.bounded faithful)
  refine ⟨book.post (record.assetId, record.representationId) account
    (record.operationId, record.effect), ?_, faithful, ?_, ?_⟩
  · simp only [SupplyBook.move, SupplyEffectRecord.movement, fresh, ↓reduceIte, moved,
      Option.map_some]
  · intro assetId representationId
    simp only [SupplyBook.post]
    by_cases same : (assetId, representationId) = (record.assetId, record.representationId)
    · cases same
      rw [Function.update_self, accounted, totals]
    · rw [Function.update_of_ne same, ← agrees.totals, SupplyEffects.total,
        inserted.records_other same]
      rfl
  · rw [SupplyBook.post, agrees.consumed, SupplyEffects.keys, SupplyEffects.keys, inserted.rows,
      List.map_append, List.map_singleton, key]

end Inserted

/-- **Refinement.** Every call is matched by at most one movement of the book. -/
theorem supplyInvariantLedger_refines (platform : Platform) :
    (supplyInvariantLedger platform).Refines SupplyBook.machine SupplyEffects.Agrees := by
  intro call table book agrees
  rcases call.execute_cases platform table with same | ⟨atomic, row, assessment, inserted, _⟩
  · refine ⟨[], ?_⟩
    rw [Atomic.Machine.run_nil]
    simpa only [Atomic.Machine.next, supplyInvariantLedger, same] using agrees
  · obtain ⟨moved, moves, matched⟩ := inserted.agrees atomic agrees
    refine ⟨[call.record.movement], ?_⟩
    rw [Atomic.Machine.run_cons, Atomic.Machine.run_nil]
    simpa only [Atomic.Machine.next, SupplyBook.machine, supplyInvariantLedger, moves] using matched

/-- The table after a run of the ledger. -/
def SupplyEffects.after (platform : Platform) (calls : List SupplyRecordCall) : SupplyEffects :=
  (supplyInvariantLedger platform).run calls .empty

/-- The committed totals of every scope are ordered after every run. -/
theorem SupplyEffects.bounded_after (platform : Platform) (calls : List SupplyRecordCall)
    (assetId representationId : JsString) :
    Backing.Bounded ((SupplyEffects.after platform calls).total assetId representationId) := by
  obtain ⟨movements, agrees⟩ :=
    (supplyInvariantLedger_refines platform).run calls SupplyEffects.empty_agrees
  change (SupplyEffects.after platform calls).Agrees _ at agrees
  rw [agrees.totals]
  exact Backing.bounded _

/-- **Supply safety.** After any run of calls the committed totals of every
scope are ordered and its circulation is backed, its assessment is valid, no
operation and effect is committed twice in the table, and the next call leaves
the table as it is if it throws. -/
theorem supplyInvariantLedger_safe (platform : Platform) (calls : List SupplyRecordCall) :
    (∀ assetId representationId assessedAt,
      let total := (SupplyEffects.after platform calls).total assetId representationId
      (total .release ≤ total .burn ∧ total .burn ≤ total .mint ∧ total .mint ≤ total .lock) ∧
      ((0 : Int) ≤ total .mint - total .burn ∧
        (total .mint - total .burn : Int) ≤ total .lock - total .release) ∧
      ∃ assessment, assess assetId representationId
        (((SupplyEffects.after platform calls).list platform assetId representationId).map
          SupplyEffectObject.toSupplyEffectRecord) assessedAt = .ok assessment ∧
        assessment.outcome = .valid) ∧
    (∀ assetId representationId now, representationId.isBlank = false →
      ∃ assessment, (SupplyEffects.after platform calls).assess platform assetId
        representationId now = .ok assessment ∧ assessment.outcome = .valid) ∧
    (SupplyEffects.after platform calls).keys.Nodup ∧
    ∀ (call : SupplyRecordCall) (error : Thrown),
      (call.execute platform (SupplyEffects.after platform calls)).1 = .error error →
        (call.execute platform (SupplyEffects.after platform calls)).2 =
          SupplyEffects.after platform calls := by
  obtain ⟨movements, agrees⟩ :=
    (supplyInvariantLedger_refines platform).run calls SupplyEffects.empty_agrees
  change (SupplyEffects.after platform calls).Agrees _ at agrees
  have bounded := SupplyEffects.bounded_after platform calls
  have assessed : ∀ assetId representationId assessedAt, ∃ assessment,
      assess assetId representationId
        (((SupplyEffects.after platform calls).list platform assetId representationId).map
          SupplyEffectObject.toSupplyEffectRecord) assessedAt = .ok assessment ∧
        assessment.outcome = .valid := by
    intro assetId representationId assessedAt
    have same := (SupplyEffects.after platform calls).list_perm platform assetId representationId
    have assessable := (SupplyEffects.records_assessable agrees.faithful assetId
      representationId).perm same.symm
    obtain ⟨assessment, returned, valid⟩ :=
      assess_of_assessable assessable assetId representationId assessedAt
    refine ⟨assessment, returned, valid.mpr ?_⟩
    rw [totalOf_perm same]
    exact bounded assetId representationId
  refine ⟨fun assetId representationId assessedAt => ⟨bounded assetId representationId,
    (bounded assetId representationId).circulation, assessed assetId representationId assessedAt⟩,
    ?_, (SupplyEffects.after platform calls).primaryKey,
    fun call error threw => SupplyRecordCall.unchanged_of_error threw⟩
  intro assetId representationId now named
  obtain ⟨assessment, returned, valid⟩ :=
    assessed assetId representationId (platform.toISOString now)
  refine ⟨assessment, ?_, valid⟩
  simp only [SupplyEffects.assess, named, Bool.false_eq_true, ↓reduceIte]
  exact returned

end InterWeave
