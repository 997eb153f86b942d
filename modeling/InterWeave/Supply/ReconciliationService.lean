import InterWeave.Async.Transcript
import InterWeave.Core.Platform

/-! # Independent reconciliation

`reconciliation-service.ts`: the supply of an asset under one representation is read from both
networks, independently of the ledger, and its amounts are compared. A mismatch is stored before the
asset is degraded.
-/

namespace InterWeave

open Async (Program)

structure IndependentSupplySnapshot where
  assetId : JsString
  representationId : JsString
  canonicalSupply : JsString
  sourceCirculatingSupply : JsString
  sourceLockedBacking : JsString
  destinationRepresentationSupply : JsString
  pendingLockAmount : JsString
  pendingBurnAmount : JsString
  completedMintAmount : JsString
  completedBurnAmount : JsString
  completedReleaseAmount : JsString
  sourcePosition : JsString
  destinationPosition : JsString
  sourceEvidence : List JsString
  destinationEvidence : List JsString
  observedAt : JsString
  deriving DecidableEq, Repr

inductive ReconciliationMismatch where
  | canonicalSupplyMismatch
  | representationExceedsBacking
  | destinationSupplyDiffersFromOperationAccounting
  | releaseExceedsCompletedBurn
  | pendingLockExceedsCanonicalSupply
  | pendingBurnExceedsDestinationSupply
  deriving DecidableEq, Repr

def ReconciliationMismatch.text : ReconciliationMismatch → JsString
  | .canonicalSupplyMismatch => js "CANONICAL_SUPPLY_MISMATCH"
  | .representationExceedsBacking => js "REPRESENTATION_EXCEEDS_BACKING"
  | .destinationSupplyDiffersFromOperationAccounting =>
      js "DESTINATION_SUPPLY_DIFFERS_FROM_OPERATION_ACCOUNTING"
  | .releaseExceedsCompletedBurn => js "RELEASE_EXCEEDS_COMPLETED_BURN"
  | .pendingLockExceedsCanonicalSupply => js "PENDING_LOCK_EXCEEDS_CANONICAL_SUPPLY"
  | .pendingBurnExceedsDestinationSupply => js "PENDING_BURN_EXCEEDS_DESTINATION_SUPPLY"

inductive ReconciliationOutcome where
  | matched
  | mismatch
  deriving DecidableEq, Repr

inductive ReconciliationSeverity where
  | none
  | critical
  deriving DecidableEq, Repr

inductive ReconciliationResolution where
  | noneRequired
  | operatorRequired
  deriving DecidableEq, Repr

structure ReconciliationCheck where
  id : JsString
  assetId : JsString
  representationId : JsString
  outcome : ReconciliationOutcome
  severity : ReconciliationSeverity
  mismatchCodes : List ReconciliationMismatch
  snapshot : IndependentSupplySnapshot
  evidence : List JsString
  checkedAt : JsString
  resolution : ReconciliationResolution
  deriving DecidableEq, Repr

structure ReconciliationRequest where
  id : JsString
  assetId : JsString
  representationId : JsString
  blockIssuanceOnMismatch : Option Bool
  deriving DecidableEq, Repr

/-! ## The amounts of a snapshot -/

inductive SnapshotAmount where
  | canonicalSupply
  | sourceCirculatingSupply
  | sourceLockedBacking
  | destinationRepresentationSupply
  | pendingLockAmount
  | pendingBurnAmount
  | completedMintAmount
  | completedBurnAmount
  | completedReleaseAmount
  deriving DecidableEq, Repr

/-- The order in which `assertSnapshot` parses the amounts. -/
def SnapshotAmount.all : List SnapshotAmount :=
  [.canonicalSupply, .sourceCirculatingSupply, .sourceLockedBacking,
    .destinationRepresentationSupply, .pendingLockAmount, .pendingBurnAmount,
    .completedMintAmount, .completedBurnAmount, .completedReleaseAmount]

namespace IndependentSupplySnapshot

variable (snapshot : IndependentSupplySnapshot)

def amount : SnapshotAmount → JsString
  | .canonicalSupply => snapshot.canonicalSupply
  | .sourceCirculatingSupply => snapshot.sourceCirculatingSupply
  | .sourceLockedBacking => snapshot.sourceLockedBacking
  | .destinationRepresentationSupply => snapshot.destinationRepresentationSupply
  | .pendingLockAmount => snapshot.pendingLockAmount
  | .pendingBurnAmount => snapshot.pendingBurnAmount
  | .completedMintAmount => snapshot.completedMintAmount
  | .completedBurnAmount => snapshot.completedBurnAmount
  | .completedReleaseAmount => snapshot.completedReleaseAmount

open ReconciliationMismatch in
def evaluate : Except Thrown (List ReconciliationMismatch) := do
  let canonical ← parseAtomicAmount snapshot.canonicalSupply
  let circulating ← parseAtomicAmount snapshot.sourceCirculatingSupply
  let locked ← parseAtomicAmount snapshot.sourceLockedBacking
  let destination ← parseAtomicAmount snapshot.destinationRepresentationSupply
  let pendingLocks ← parseAtomicAmount snapshot.pendingLockAmount
  let pendingBurns ← parseAtomicAmount snapshot.pendingBurnAmount
  let minted ← parseAtomicAmount snapshot.completedMintAmount
  let burned ← parseAtomicAmount snapshot.completedBurnAmount
  let released ← parseAtomicAmount snapshot.completedReleaseAmount
  return (if circulating + locked ≠ canonical then [canonicalSupplyMismatch] else []) ++
    (if destination > locked then [representationExceedsBacking] else []) ++
    (if burned > minted ∨ (destination : Int) ≠ minted - burned then
      [destinationSupplyDiffersFromOperationAccounting] else []) ++
    (if released > burned then [releaseExceedsCompletedBurn] else []) ++
    (if pendingLocks > canonical then [pendingLockExceedsCanonicalSupply] else []) ++
    (if pendingBurns > destination then [pendingBurnExceedsDestinationSupply] else [])

/-- `assertSnapshot(input, snapshot)`. -/
def assertFor (platform : Platform) (input : ReconciliationRequest) : Except Thrown Unit := do
  if snapshot.assetId ≠ input.assetId ∨ snapshot.representationId ≠ input.representationId then
    throw (.registryError .invalidArgument
      (js "reconciliation reader returned mismatched asset scope"))
  SnapshotAmount.all.forM fun amount => do
    let _ ← parseAtomicAmount (snapshot.amount amount)
  if snapshot.sourcePosition.isBlank || snapshot.destinationPosition.isBlank ||
      snapshot.sourceEvidence.isEmpty || snapshot.destinationEvidence.isEmpty ||
      (platform.dateParse snapshot.observedAt).isNone then
    throw (.registryError .invalidArgument
      (js "reconciliation snapshot requires positions, evidence, and timestamp"))

/-- The record of a comparison. -/
def checked (platform : Platform) (input : ReconciliationRequest)
    (mismatchCodes : List ReconciliationMismatch) (now : Int) : ReconciliationCheck where
  id := input.id
  assetId := input.assetId
  representationId := input.representationId
  outcome := if mismatchCodes.length > 0 then .mismatch else .matched
  severity := if mismatchCodes.length > 0 then .critical else .none
  mismatchCodes
  snapshot
  evidence := snapshot.sourceEvidence ++ snapshot.destinationEvidence ++
    [js "sourcePosition=" ++ snapshot.sourcePosition,
      js "destinationPosition=" ++ snapshot.destinationPosition]
  checkedAt := platform.toISOString now
  resolution := if mismatchCodes.length > 0 then .operatorRequired else .noneRequired

end IndependentSupplySnapshot

/-! ## The service -/

inductive ReconciliationCall where
  | get (id : JsString)
  | read (assetId representationId : JsString)
  | save (record : ReconciliationCheck)
  | degrade (assetId reason evidenceId : JsString)
  | blockBridgeIssuance (assetId reason evidenceId : JsString)
  | critical (record : ReconciliationCheck)
  | now
  deriving DecidableEq, Repr

abbrev ReconciliationCall.Value : ReconciliationCall → Type
  | .get _ => Option ReconciliationCheck
  | .read _ _ => IndependentSupplySnapshot
  | .save _ => Unit
  | .degrade _ _ _ => Unit
  | .blockBridgeIssuance _ _ _ => Unit
  | .critical _ => Unit
  | .now => Int

abbrev reconciliationInterface : Async.Interface where
  Call := ReconciliationCall
  Value := ReconciliationCall.Value
  Error := Thrown

abbrev ReconciliationProgram := Program reconciliationInterface

namespace ReconciliationProgram

def get (id : JsString) : ReconciliationProgram (Option ReconciliationCheck) :=
  Program.call (I := reconciliationInterface) (.get id)

def read (assetId representationId : JsString) : ReconciliationProgram IndependentSupplySnapshot :=
  Program.call (I := reconciliationInterface) (.read assetId representationId)

def save (record : ReconciliationCheck) : ReconciliationProgram Unit :=
  Program.call (I := reconciliationInterface) (.save record)

def degrade (assetId reason evidenceId : JsString) : ReconciliationProgram Unit :=
  Program.call (I := reconciliationInterface) (.degrade assetId reason evidenceId)

def blockBridgeIssuance (assetId reason evidenceId : JsString) : ReconciliationProgram Unit :=
  Program.call (I := reconciliationInterface) (.blockBridgeIssuance assetId reason evidenceId)

def critical (record : ReconciliationCheck) : ReconciliationProgram Unit :=
  Program.call (I := reconciliationInterface) (.critical record)

def now : ReconciliationProgram Int := Program.call (I := reconciliationInterface) .now

end ReconciliationProgram

/-- `record.mismatchCodes.join(",")`. -/
def ReconciliationCheck.mismatches (record : ReconciliationCheck) : JsString :=
  JsString.join (js ",") (record.mismatchCodes.map ReconciliationMismatch.text)

namespace IndependentReconciliationService

def applySafety (record : ReconciliationCheck) (blockIssuanceOnMismatch : Option Bool) :
    ReconciliationProgram Unit :=
  if record.outcome ≠ .mismatch then return ()
  else do
    ReconciliationProgram.degrade record.assetId record.mismatches record.id
    if blockIssuanceOnMismatch ≠ some false then
      ReconciliationProgram.blockBridgeIssuance record.assetId record.mismatches record.id
    ReconciliationProgram.critical record

def reconcile (platform : Platform) (input : ReconciliationRequest) :
    ReconciliationProgram ReconciliationCheck :=
  if !input.id.startsWith (js "IW:RECONCILIATION:") ||
      !input.representationId.startsWith (js "IW:REPRESENTATION:") then
    Program.reject (.registryError .invalidArgument
      (js "valid reconciliation and representation IDs are required"))
  else do
    match ← ReconciliationProgram.get input.id with
    | some existing =>
        if existing.assetId ≠ input.assetId ∨
            existing.representationId ≠ input.representationId then
          Program.reject (.registryError .conflict
            (js "reconciliation ID was reused for another asset scope"))
        else
          applySafety existing input.blockIssuanceOnMismatch
          return existing
    | none =>
        let snapshot ← ReconciliationProgram.read input.assetId input.representationId
        Program.ofExcept (snapshot.assertFor platform input)
        let mismatchCodes ← Program.ofExcept snapshot.evaluate
        let now ← ReconciliationProgram.now
        let record := snapshot.checked platform input mismatchCodes now
        ReconciliationProgram.save record
        applySafety record input.blockIssuanceOnMismatch
        return record

end IndependentReconciliationService
end InterWeave
