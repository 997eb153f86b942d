import InterWeave.Atomic.Machine
import InterWeave.Core.Platform
import Mathlib.Data.List.Nodup

/-! # The supply ledger

`supply-invariants.ts` over the table `supply_effects`. Rows are kept in the
order of their insertion; the primary key is part of the table. A stored record
comes back with the key order of `jsonb`, which need not be the order in which
its writer created the properties, and `JSON.stringify` shows the difference.
-/

namespace InterWeave

inductive SupplyEffect where
  | lock
  | mint
  | burn
  | release
  deriving DecidableEq, Repr

instance : LawfulBEq (JsString × SupplyEffect) := inferInstance

def SupplyEffect.text : SupplyEffect → JsString
  | .lock => js "LOCK"
  | .mint => js "MINT"
  | .burn => js "BURN"
  | .release => js "RELEASE"

structure SupplyEffectRecord where
  operationId : JsString
  effect : SupplyEffect
  assetId : JsString
  representationId : JsString
  amount : JsString
  evidenceId : JsString
  finalizedAt : JsString
  deriving DecidableEq, Repr

inductive SupplyEffectField where
  | operationId
  | effect
  | assetId
  | representationId
  | amount
  | evidenceId
  | finalizedAt
  deriving DecidableEq, Repr

namespace SupplyEffectField

def name : SupplyEffectField → JsString
  | .operationId => js "operationId"
  | .effect => js "effect"
  | .assetId => js "assetId"
  | .representationId => js "representationId"
  | .amount => js "amount"
  | .evidenceId => js "evidenceId"
  | .finalizedAt => js "finalizedAt"

/-- The key order of a `jsonb` object: shorter keys first, then bytewise. -/
def stored : List SupplyEffectField :=
  [.amount, .effect, .assetId, .evidenceId, .finalizedAt, .operationId, .representationId]

end SupplyEffectField

def SupplyEffectRecord.get (record : SupplyEffectRecord) : SupplyEffectField → JsString
  | .operationId => record.operationId
  | .effect => record.effect.text
  | .assetId => record.assetId
  | .representationId => record.representationId
  | .amount => record.amount
  | .evidenceId => record.evidenceId
  | .finalizedAt => record.finalizedAt

/-- A record as an object: its properties in the order of their creation. -/
structure SupplyEffectObject extends SupplyEffectRecord where
  order : List SupplyEffectField
  complete : order.Perm SupplyEffectField.stored

/-- `JSON.stringify(record)`. -/
def SupplyEffectObject.stringify (object : SupplyEffectObject) : JsString :=
  js "\x7b" ++
    JsString.join (js ",")
      (object.order.map fun field =>
        field.name.quote ++ js ":" ++ (object.toSupplyEffectRecord.get field).quote) ++
    js "\x7d"

/-- A record read back from its `jsonb` column. -/
def SupplyEffectRecord.parsed (record : SupplyEffectRecord) : SupplyEffectObject :=
  { record with order := SupplyEffectField.stored, complete := .refl _ }

/-! ## Assessment -/

inductive SupplyViolation where
  | duplicateOperationEffect
  | mintExceedsLockedBacking
  | burnExceedsMintedSupply
  | releaseExceedsVerifiedBurn
  | releaseExceedsLockedBacking
  | representationSupplyExceedsBacking
  deriving DecidableEq, Repr

def SupplyViolation.text : SupplyViolation → JsString
  | .duplicateOperationEffect => js "DUPLICATE_OPERATION_EFFECT"
  | .mintExceedsLockedBacking => js "MINT_EXCEEDS_LOCKED_BACKING"
  | .burnExceedsMintedSupply => js "BURN_EXCEEDS_MINTED_SUPPLY"
  | .releaseExceedsVerifiedBurn => js "RELEASE_EXCEEDS_VERIFIED_BURN"
  | .releaseExceedsLockedBacking => js "RELEASE_EXCEEDS_LOCKED_BACKING"
  | .representationSupplyExceedsBacking => js "REPRESENTATION_SUPPLY_EXCEEDS_BACKING"

inductive SupplyOutcome where
  | valid
  | violation
  deriving DecidableEq, Repr

structure SupplyTotals where
  locked : JsString
  minted : JsString
  burned : JsString
  released : JsString
  verifiedBacking : JsString
  representationSupply : JsString
  deriving DecidableEq, Repr

structure SupplyInvariantAssessment where
  assetId : JsString
  representationId : JsString
  totals : SupplyTotals
  outcome : SupplyOutcome
  violations : List SupplyViolation
  assessedAt : JsString
  deriving DecidableEq, Repr

/-- The loop variables of `assess`. -/
structure SupplyTally where
  seen : List JsString
  violations : List SupplyViolation
  locked : Nat
  minted : Nat
  burned : Nat
  released : Nat
  deriving DecidableEq, Repr

namespace SupplyTally

def empty : SupplyTally := ⟨[], [], 0, 0, 0, 0⟩

def add (tally : SupplyTally) (effect : SupplyEffect) (amount : Nat) : SupplyTally :=
  match effect with
  | .lock => { tally with locked := tally.locked + amount }
  | .mint => { tally with minted := tally.minted + amount }
  | .burn => { tally with burned := tally.burned + amount }
  | .release => { tally with released := tally.released + amount }

def verifiedBacking (tally : SupplyTally) : Int := tally.locked - tally.released

def representationSupply (tally : SupplyTally) : Int := tally.minted - tally.burned

end SupplyTally

/-- `${record.operationId}|${record.effect}`. -/
def SupplyEffectRecord.seenKey (record : SupplyEffectRecord) : JsString :=
  record.operationId ++ js "|" ++ record.effect.text

/-- The loop of `assess`. -/
def tallyRecords : List SupplyEffectRecord → SupplyTally → Except Thrown SupplyTally
  | [], tally => .ok tally
  | record :: rest, tally =>
      if record.seenKey ∈ tally.seen then
        tallyRecords rest
          { tally with violations := tally.violations ++ [.duplicateOperationEffect] }
      else do
        let amount ← parseAtomicAmount record.amount
        tallyRecords rest
          (SupplyTally.add { tally with seen := tally.seen ++ [record.seenKey] }
            record.effect amount)

open SupplyViolation in
/-- The checks after the loop. -/
def SupplyTally.checks (tally : SupplyTally) : List SupplyViolation :=
  tally.violations ++
    (if tally.minted > tally.locked then [mintExceedsLockedBacking] else []) ++
    (if tally.burned > tally.minted then [burnExceedsMintedSupply] else []) ++
    (if tally.released > tally.burned then [releaseExceedsVerifiedBurn] else []) ++
    (if tally.released > tally.locked then [releaseExceedsLockedBacking] else []) ++
    (if tally.representationSupply > tally.verifiedBacking then
      [representationSupplyExceedsBacking] else [])

def SupplyTally.totals (tally : SupplyTally) : SupplyTotals where
  locked := bigintText tally.locked
  minted := bigintText tally.minted
  burned := bigintText tally.burned
  released := bigintText tally.released
  verifiedBacking := bigintText tally.verifiedBacking
  representationSupply := bigintText tally.representationSupply

def assess (assetId representationId : JsString) (records : List SupplyEffectRecord)
    (assessedAt : JsString) : Except Thrown SupplyInvariantAssessment := do
  let tally ← tallyRecords records .empty
  let violations := tally.checks
  return { assetId, representationId, totals := tally.totals,
           outcome := if violations.isEmpty then .valid else .violation,
           violations := violations.eraseDups, assessedAt }

/-! ## The table -/

/-- A row of `supply_effects`. -/
structure SupplyRow where
  operationId : JsString
  effect : SupplyEffect
  assetId : JsString
  representationId : JsString
  record : SupplyEffectRecord
  finalizedAt : Int
  deriving DecidableEq, Repr

def SupplyRow.key (row : SupplyRow) : JsString × SupplyEffect := (row.operationId, row.effect)

/-- The table `supply_effects` with its primary key `(operation_id, effect)`. -/
structure SupplyEffects where
  rows : List SupplyRow
  primaryKey : (rows.map SupplyRow.key).Nodup

namespace SupplyEffects

def empty : SupplyEffects := ⟨[], List.nodup_nil⟩

def keys (table : SupplyEffects) : List (JsString × SupplyEffect) := table.rows.map SupplyRow.key

/-- `WHERE asset_id=$1 AND representation_id=$2`. -/
def scope (table : SupplyEffects) (assetId representationId : JsString) : List SupplyRow :=
  table.rows.filter fun row =>
    row.assetId == assetId && row.representationId == representationId

/-- `ORDER BY finalized_at,operation_id,effect`. -/
def rowLe (platform : Platform) (left right : SupplyRow) : Bool :=
  if left.finalizedAt = right.finalizedAt then
    if left.operationId = right.operationId then
      platform.collates left.effect.text right.effect.text
    else platform.collates left.operationId right.operationId
  else left.finalizedAt ≤ right.finalizedAt

/-- `PostgresSupplyEffectStore.list`. -/
def list (platform : Platform) (table : SupplyEffects) (assetId representationId : JsString) :
    List SupplyEffectObject :=
  ((table.scope assetId representationId).mergeSort (rowLe platform)).map fun row =>
    row.record.parsed

/-- `INSERT INTO supply_effects`. -/
def insert (table : SupplyEffects) (row : SupplyRow) : Except Thrown SupplyEffects :=
  if fresh : row.key ∉ table.rows.map SupplyRow.key then
    .ok ⟨table.rows ++ [row], by
      rw [List.map_append, List.map_singleton, ← List.concat_eq_append]
      exact table.primaryKey.concat fresh⟩
  else
    .error (.error (js "duplicate key value violates unique constraint \"supply_effects_pkey\""))

end SupplyEffects

/-! ## Recording -/

inductive SupplyPersistence where
  | inserted
  | duplicate
  deriving DecidableEq, Repr

def assertRecord (platform : Platform) (record : SupplyEffectRecord) : Except Thrown Unit := do
  if !record.operationId.startsWith (js "IW:BRIDGE:") ||
      !record.assetId.startsWith (js "IW:ASSET:") ||
      record.representationId.isBlank || record.evidenceId.isBlank then
    throw (.registryError .invalidArgument
      (js "supply effect identifiers and evidence are required"))
  let amount ← parseAtomicAmount record.amount
  if amount ≤ 0 then
    throw (.registryError .invalidArgument (js "supply effect amount must be positive"))
  if (platform.dateParse record.finalizedAt).isNone then
    throw (.registryError .invalidArgument (js "supply effect finality timestamp is invalid"))

/-- The row an `INSERT` of a record writes; `finalized_at` may reject its text. -/
def supplyRow (platform : Platform) (record : SupplyEffectRecord) : Except Thrown SupplyRow :=
  match platform.timestamptz record.finalizedAt with
  | some finalizedAt =>
      .ok { operationId := record.operationId, effect := record.effect,
            assetId := record.assetId, representationId := record.representationId,
            record, finalizedAt }
  | none => .error (.error (js "invalid input syntax for type timestamp with time zone"))

/-- `PostgresSupplyEffectStore.appendValidated`, the body of its transaction. -/
def appendValidated (platform : Platform) (record : SupplyEffectObject) (assessedAt : JsString)
    (table : SupplyEffects) :
    Except Thrown ((SupplyPersistence × List SupplyEffectObject) × SupplyEffects) := do
  let records := table.list platform record.assetId record.representationId
  match records.find? fun item =>
      item.operationId == record.operationId && item.effect == record.effect with
  | some prior =>
      if prior.stringify ≠ record.stringify then
        throw (.registryError .conflict
          (js "operation effect was reused with different evidence: " ++ record.operationId ++
            js "/" ++ record.effect.text))
      return ((.duplicate, records), table)
  | none =>
      let candidate := records ++ [record]
      let assessment ← assess record.assetId record.representationId
        (candidate.map SupplyEffectObject.toSupplyEffectRecord) assessedAt
      if assessment.outcome = .violation then
        throw (.registryError .conflict
          (js "supply invariant violation: " ++
            JsString.join (js ",") (assessment.violations.map SupplyViolation.text)))
      let row ← supplyRow platform record.toSupplyEffectRecord
      let next ← table.insert row
      return ((.inserted, candidate), next)

/-- One call of `SupplyInvariantLedger.record` and the clock it reads. -/
structure SupplyRecordCall where
  record : SupplyEffectObject
  now : Int

/-- `SupplyInvariantLedger.record`: the assessment follows the commit. -/
def SupplyRecordCall.execute (platform : Platform) (call : SupplyRecordCall)
    (table : SupplyEffects) :
    Except Thrown (SupplyPersistence × SupplyInvariantAssessment) × SupplyEffects :=
  match assertRecord platform call.record.toSupplyEffectRecord with
  | .error error => (.error error, table)
  | .ok () =>
      let assessedAt := platform.toISOString call.now
      match Atomic.commit (appendValidated platform call.record assessedAt) table with
      | (.error error, next) => (.error error, next)
      | (.ok committed, next) =>
          ((assess call.record.assetId call.record.representationId
              (committed.2.map SupplyEffectObject.toSupplyEffectRecord) assessedAt).map
            fun assessment => (committed.1, assessment), next)

/-- `SupplyInvariantLedger.assess`. -/
def SupplyEffects.assess (platform : Platform) (table : SupplyEffects)
    (assetId representationId : JsString) (now : Int) :
    Except Thrown SupplyInvariantAssessment := do
  if representationId.isBlank then
    throw (.registryError .invalidArgument (js "representation ID is required"))
  InterWeave.assess assetId representationId
    ((table.list platform assetId representationId).map SupplyEffectObject.toSupplyEffectRecord)
    (platform.toISOString now)

/-- The ledger with its table. -/
def supplyInvariantLedger (platform : Platform) :
    Atomic.Machine SupplyEffects SupplyRecordCall
      (Except Thrown (SupplyPersistence × SupplyInvariantAssessment)) where
  execute := SupplyRecordCall.execute platform

end InterWeave
