import InterWeave.Core.IsoDate
import InterWeave.Supply.LedgerRuns
import InterWeave.Supply.ReconciliationService

/-! # Reconciled ledgers

Reconciliation and the supply ledger compare amounts on their own. A snapshot that tells the truth
about a ledger is reconciled as a match, and one that is wrong in a single amount that both sides
know of is not.
-/

namespace InterWeave

open Async

/-- The amounts of a snapshot have these values. -/
def IndependentSupplySnapshot.Reports (snapshot : IndependentSupplySnapshot)
    (values : SnapshotAmount → Nat) : Prop :=
  ∀ amount, parseAtomicAmount (snapshot.amount amount) = .ok (values amount)

/-- What `evaluate` accepts. -/
structure Reconciled (values : SnapshotAmount → Nat) : Prop where
  canonical : values .sourceCirculatingSupply + values .sourceLockedBacking =
    values .canonicalSupply
  backed : values .destinationRepresentationSupply ≤ values .sourceLockedBacking
  accounted : values .destinationRepresentationSupply + values .completedBurnAmount =
    values .completedMintAmount
  released : values .completedReleaseAmount ≤ values .completedBurnAmount
  locks : values .pendingLockAmount ≤ values .canonicalSupply
  burns : values .pendingBurnAmount ≤ values .destinationRepresentationSupply

section Snapshots

variable {platform : Platform} {input : ReconciliationRequest}
  {snapshot : IndependentSupplySnapshot} {values : SnapshotAmount → Nat}

/-- The comparison finds nothing exactly in what it accepts. -/
theorem IndependentSupplySnapshot.Reports.evaluate (reports : snapshot.Reports values) :
    ∃ mismatchCodes, snapshot.evaluate = .ok mismatchCodes ∧
      (mismatchCodes = [] ↔ Reconciled values) := by
  have canonical := reports .canonicalSupply
  have circulating := reports .sourceCirculatingSupply
  have locked := reports .sourceLockedBacking
  have destination := reports .destinationRepresentationSupply
  have pendingLocks := reports .pendingLockAmount
  have pendingBurns := reports .pendingBurnAmount
  have minted := reports .completedMintAmount
  have burned := reports .completedBurnAmount
  have released := reports .completedReleaseAmount
  simp only [amount] at canonical circulating locked destination pendingLocks pendingBurns minted
  simp only [amount] at burned released
  simp only [IndependentSupplySnapshot.evaluate, canonical, circulating, locked, destination,
    pendingLocks, pendingBurns, minted, burned, released, bind, Except.bind, pure, Except.pure,
    Except.ok.injEq, exists_eq_left']
  simp only [List.append_eq_nil_iff, ite_eq_right_iff, List.cons_ne_nil, imp_false, not_or,
    Nat.not_lt, ne_eq, not_not, gt_iff_lt]
  constructor
  · rintro ⟨⟨⟨⟨⟨canonical, backed⟩, _, accounted⟩, released⟩, locks⟩, burns⟩
    exact ⟨canonical, backed, by omega, released, locks, burns⟩
  · intro reconciled
    obtain ⟨canonical, backed, accounted, released, locks, burns⟩ := reconciled
    exact ⟨⟨⟨⟨⟨canonical, backed⟩, by omega, by omega⟩, released⟩, locks⟩, burns⟩

/-- A snapshot for the input's scope with positions, evidence and a timestamp. -/
structure IndependentSupplySnapshot.Observed (snapshot : IndependentSupplySnapshot)
    (platform : Platform) (input : ReconciliationRequest) : Prop where
  assetId : snapshot.assetId = input.assetId
  representationId : snapshot.representationId = input.representationId
  sourcePosition : snapshot.sourcePosition.isBlank = false
  destinationPosition : snapshot.destinationPosition.isBlank = false
  sourceEvidence : snapshot.sourceEvidence ≠ []
  destinationEvidence : snapshot.destinationEvidence ≠ []
  observedAt : platform.dateParse snapshot.observedAt ≠ none

/-- The identifiers that a reconciliation requires. -/
structure ReconciliationRequest.Identified (input : ReconciliationRequest) : Prop where
  id : input.id.startsWith (js "IW:RECONCILIATION:") = true
  representationId : input.representationId.startsWith (js "IW:REPRESENTATION:") = true

theorem IndependentSupplySnapshot.Reports.assertFor (reports : snapshot.Reports values)
    (observed : snapshot.Observed platform input) : snapshot.assertFor platform input = .ok () := by
  have parses : (SnapshotAmount.all.forM fun amount => do
      let _ ← parseAtomicAmount (snapshot.amount amount)) = Except.ok () := by
    induction SnapshotAmount.all with
    | nil => rfl
    | cons amount rest ih =>
        simp only [List.forM, reports amount]
        exact ih
  obtain ⟨asset, representation, source, destination, sources, destinations, observedAt⟩ := observed
  have timed := Option.isNone_eq_false_iff.mpr (Option.isSome_iff_ne_none.mpr observedAt)
  have sourced := List.isEmpty_eq_false_iff.mpr sources
  have destined := List.isEmpty_eq_false_iff.mpr destinations
  simp only [IndependentSupplySnapshot.assertFor, asset, representation, ne_eq, not_true_eq_false,
    or_self, ↓reduceIte, parses, source, destination, sourced, destined, timed, Bool.or_self,
    Bool.false_eq_true]
  rfl

/-- The calls by which a mismatch is made safe. -/
def ReconciliationCheck.safetyCalls (record : ReconciliationCheck)
    (blockIssuanceOnMismatch : Option Bool) : List (Exchange reconciliationInterface) :=
  if record.outcome ≠ .mismatch then []
  else
    [⟨.degrade record.assetId record.mismatches record.id, .ok ()⟩] ++
      (if blockIssuanceOnMismatch ≠ some false then
        [⟨.blockBridgeIssuance record.assetId record.mismatches record.id, .ok ()⟩] else []) ++
      [⟨.critical record, .ok ()⟩]

/-- A reconciliation under a fresh identifier, with this snapshot read, stores and returns a record
with this outcome. -/
def Reconciles (platform : Platform) (input : ReconciliationRequest)
    (snapshot : IndependentSupplySnapshot) (now : Int) (outcome : ReconciliationOutcome) : Prop :=
  ∃ record : ReconciliationCheck, record.outcome = outcome ∧
    (IndependentReconciliationService.reconcile platform input).Reaches
      ([⟨.get input.id, .ok none⟩, ⟨.read input.assetId input.representationId, .ok snapshot⟩,
        ⟨.now, .ok now⟩, ⟨.save record, .ok ()⟩] ++
        record.safetyCalls input.blockIssuanceOnMismatch) (.settled (.ok record))

/-- Once its safety calls have returned, a reconciliation returns its record. -/
theorem applySafety_reaches (record : ReconciliationCheck) (blockIssuanceOnMismatch : Option Bool)
    (left : ReconciliationProgram ReconciliationCheck) :
    (IndependentReconciliationService.applySafety record blockIssuanceOnMismatch >>=
      fun _ => left).Reaches (record.safetyCalls blockIssuanceOnMismatch) left := by
  rw [IndependentReconciliationService.applySafety, ReconciliationCheck.safetyCalls]
  by_cases mismatch : record.outcome ≠ .mismatch
  · rw [if_pos mismatch, if_pos mismatch]
    exact .refl _
  · rw [if_neg mismatch, if_neg mismatch]
    by_cases blocks : blockIssuanceOnMismatch ≠ some false
    · rw [if_pos blocks, if_pos blocks]
      refine .answer _ ?_
      refine .answer _ ?_
      exact .answer _ (.refl _)
    · rw [if_neg blocks, if_neg blocks]
      refine .answer _ ?_
      exact .answer _ (.refl _)

/-- A reconciliation finds a match exactly in what the comparison accepts. -/
theorem reconciles (identified : input.Identified) (observed : snapshot.Observed platform input)
    (reports : snapshot.Reports values) (now : Int) {outcome : ReconciliationOutcome}
    (decided : outcome = .matched ↔ Reconciled values) :
    Reconciles platform input snapshot now outcome := by
  obtain ⟨mismatchCodes, evaluated, finds⟩ := reports.evaluate
  refine ⟨snapshot.checked platform input mismatchCodes now, ?_, ?_⟩
  · rw [IndependentSupplySnapshot.checked]
    by_cases agrees : mismatchCodes = []
    · rw [decided.mpr (finds.mp agrees), agrees]
      rfl
    · rw [if_pos (List.length_pos_iff.mpr agrees)]
      cases outcome with
      | matched => exact absurd (finds.mpr (decided.mp rfl)) agrees
      | mismatch => rfl
  · rw [IndependentReconciliationService.reconcile, identified.id, identified.representationId]
    refine .answer _ ?_
    refine .answer _ ?_
    change Program.Reaches (Program.ofExcept (I := reconciliationInterface) (snapshot.assertFor platform input) >>= _) _ _
    rw [reports.assertFor observed]
    change Program.Reaches (Program.ofExcept (I := reconciliationInterface) snapshot.evaluate >>= _) _ _
    rw [evaluated]
    refine .answer _ ?_
    refine .answer _ ?_
    exact applySafety_reaches _ _ _

end Snapshots

/-! ## Snapshots of a ledger -/

/-- The amounts in the two equations of the comparison. -/
def SnapshotAmount.compared : List SnapshotAmount :=
  [.canonicalSupply, .sourceCirculatingSupply, .sourceLockedBacking,
    .destinationRepresentationSupply, .completedMintAmount, .completedBurnAmount]

/-- Each of these amounts is determined by the others. -/
theorem Reconciled.not_update {values : SnapshotAmount → Nat} (reconciled : Reconciled values)
    {amount : SnapshotAmount} (compared : amount ∈ SnapshotAmount.compared) {value : Nat}
    (different : value ≠ values amount) : ¬ Reconciled (Function.update values amount value) := by
  intro changed
  have canonical := reconciled.canonical
  have accounted := reconciled.accounted
  have balance := changed.canonical
  have account := changed.accounted
  cases amount with
  | pendingLockAmount | pendingBurnAmount | completedReleaseAmount =>
      simp [SnapshotAmount.compared] at compared
  | _ =>
      simp only [Function.update_apply, reduceCtorEq, ↓reduceIte] at balance account
      omega

/-- What a snapshot says of a scope with these totals. -/
def truthfulAmount (total : SupplyEffect → Nat) (canonicalSupply pendingLocks pendingBurns : Nat) :
    SnapshotAmount → Nat
  | .canonicalSupply => canonicalSupply
  | .sourceCirculatingSupply => canonicalSupply - (total .lock - total .release)
  | .sourceLockedBacking => total .lock - total .release
  | .destinationRepresentationSupply => total .mint - total .burn
  | .pendingLockAmount => pendingLocks
  | .pendingBurnAmount => pendingBurns
  | .completedMintAmount => total .mint
  | .completedBurnAmount => total .burn
  | .completedReleaseAmount => total .release

/-- Whatever is backed is reconciled. -/
theorem Backing.Bounded.reconciled {total : SupplyEffect → Nat} (bounded : Backing.Bounded total)
    {canonicalSupply pendingLocks pendingBurns : Nat}
    (covers : total .lock - total .release ≤ canonicalSupply)
    (locks : pendingLocks ≤ canonicalSupply) (burns : pendingBurns ≤ total .mint - total .burn) :
    Reconciled (truthfulAmount total canonicalSupply pendingLocks pendingBurns) := by
  obtain ⟨releases, burned, minted⟩ := bounded
  constructor <;> simp only [truthfulAmount] <;> omega

section Ledgers

variable {platform : Platform} {input : ReconciliationRequest}
  {snapshot : IndependentSupplySnapshot}

/-- **Reconciliation and the ledger agree.** After any run of the ledger, a snapshot that tells the
truth about a scope is reconciled as a match, and one that is wrong in exactly one compared amount
is reconciled as a mismatch. -/
theorem ledger_reconciled (calls : List SupplyRecordCall) (identified : input.Identified)
    (observed : snapshot.Observed platform input)
    {total : SupplyEffect → Nat} {canonicalSupply pendingLocks pendingBurns : Nat} (now : Int)
    (recorded : total =
      (SupplyEffects.after platform calls).total input.assetId input.representationId)
    (covers : total .lock - total .release ≤ canonicalSupply)
    (locks : pendingLocks ≤ canonicalSupply) (burns : pendingBurns ≤ total .mint - total .burn) :
    (snapshot.Reports (truthfulAmount total canonicalSupply pendingLocks pendingBurns) →
      Reconciles platform input snapshot now .matched) ∧
    ∀ amount ∈ SnapshotAmount.compared, ∀ value,
      value ≠ truthfulAmount total canonicalSupply pendingLocks pendingBurns amount →
      snapshot.Reports (Function.update
        (truthfulAmount total canonicalSupply pendingLocks pendingBurns) amount value) →
      Reconciles platform input snapshot now .mismatch := by
  have bounded := SupplyEffects.bounded_after platform calls input.assetId input.representationId
  rw [← recorded] at bounded
  have reconciled := bounded.reconciled covers locks burns
  constructor
  · intro reports
    exact reconciles identified observed reports now (iff_of_true rfl reconciled)
  · intro amount compared value different reports
    apply reconciles identified observed reports now
    exact iff_of_false (by decide) (reconciled.not_update compared different)

end Ledgers

/-! ## An issuance -/

namespace Issuance

def effect (effect : SupplyEffect) : SupplyRecordCall where
  record := SupplyEffectRecord.parsed
    ⟨js "IW:BRIDGE:out", effect, js "IW:ASSET:rwa", js "IW:REPRESENTATION:evm-rwa", js "60",
      js "IW:EVIDENCE:one", js "2026-08-12T12:00:00.000Z"⟩
  now := 1786536000000

/-- Sixty units are locked and minted. -/
def history : List SupplyRecordCall := [effect .lock, effect .mint]

def request : ReconciliationRequest where
  id := js "IW:RECONCILIATION:one"
  assetId := js "IW:ASSET:rwa"
  representationId := js "IW:REPRESENTATION:evm-rwa"
  blockIssuanceOnMismatch := none

/-- What is read after the issuance, with some representation supply. -/
def observation (destinationRepresentationSupply : JsString) : IndependentSupplySnapshot where
  assetId := js "IW:ASSET:rwa"
  representationId := js "IW:REPRESENTATION:evm-rwa"
  canonicalSupply := js "1000"
  sourceCirculatingSupply := js "940"
  sourceLockedBacking := js "60"
  destinationRepresentationSupply
  pendingLockAmount := js "0"
  pendingBurnAmount := js "0"
  completedMintAmount := js "60"
  completedBurnAmount := js "0"
  completedReleaseAmount := js "0"
  sourcePosition := js "canton:offset:100"
  destinationPosition := js "evm:finalized:200"
  sourceEvidence := [js "canton-query:abc"]
  destinationEvidence := [js "evm-call:def"]
  observedAt := js "2026-08-12T12:00:00.000Z"

theorem request_identified : request.Identified := ⟨by decide, by decide⟩

theorem observation_observed (supply : JsString) :
    (observation supply).Observed isoPlatform request where
  assetId := rfl
  representationId := rfl
  sourcePosition := by
    change (js "canton:offset:100").isBlank = false
    decide
  destinationPosition := by
    change (js "evm:finalized:200").isBlank = false
    decide
  sourceEvidence := List.cons_ne_nil _ _
  destinationEvidence := List.cons_ne_nil _ _
  observedAt := by
    have observedAt : (observation supply).observedAt = js "2026-08-12T12:00:00.000Z" := rfl
    rw [observedAt]
    decide +kernel

/-- The totals of the scope. -/
def total : SupplyEffect → Nat
  | .lock => 60
  | .mint => 60
  | .burn => 0
  | .release => 0

theorem total_eq : total =
    (SupplyEffects.after isoPlatform history).total request.assetId request.representationId := by
  funext effect
  cases effect <;> decide +kernel

theorem truth_reported : (observation (js "60")).Reports (truthfulAmount total 1000 0 0) := by
  intro amount
  cases amount <;> decide +kernel

theorem excess_reported : (observation (js "61")).Reports
    (Function.update (truthfulAmount total 1000 0 0) .destinationRepresentationSupply 61) := by
  intro amount
  cases amount <;> decide +kernel

/-- The true supply matches, and one unit more does not. -/
theorem sixty_reconciled :
    Reconciles isoPlatform request (observation (js "60")) 1786536060000 .matched ∧
      Reconciles isoPlatform request (observation (js "61")) 1786536060000 .mismatch := by
  constructor
  · apply (ledger_reconciled history request_identified (observation_observed (js "60"))
      1786536060000 total_eq (by decide) (Nat.zero_le 1000) (Nat.zero_le _)).1
    exact truth_reported
  · apply (ledger_reconciled history request_identified (observation_observed (js "61"))
      1786536060000 total_eq (by decide) (Nat.zero_le 1000) (Nat.zero_le _)).2
      .destinationRepresentationSupply (by decide) 61 (by decide)
    exact excess_reported

end Issuance
end InterWeave
