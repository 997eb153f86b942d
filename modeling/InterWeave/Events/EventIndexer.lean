import InterWeave.Async.Transcript
import InterWeave.Events.DomainEvents

/-! # Checkpointed event processing

`domain-events.ts`: an indexer reads a batch of its network in order, stores the event of each
item, and moves its checkpoint to the item. Items that are not beyond the checkpoint are skipped.
Any number of indexers share one database, and a batch may be interrupted at every call.
-/

namespace InterWeave

open Async (Program)

structure IndexerCheckpoint where
  indexerId : JsString
  networkId : JsString
  cursor : JsString
  sequence : JsString
  updatedAt : JsString
  deriving DecidableEq, Repr

structure EventBatchItem (Source : Type) where
  source : Source
  sequence : JsString
  deriving DecidableEq, Repr

/-! ## The store -/

/-- What a processor awaits: its store and its clock. -/
inductive IndexerCall where
  | loadCheckpoint (indexerId networkId : JsString)
  | ingest (event : NormalizedDomainEvent)
  | saveCheckpoint (checkpoint : IndexerCheckpoint) (expectedSequence : Option JsString)
  | now
  deriving DecidableEq

abbrev IndexerCall.Value : IndexerCall → Type
  | .loadCheckpoint _ _ => Option IndexerCheckpoint
  | .ingest _ => IngestOutcome
  | .saveCheckpoint _ _ => IndexerCheckpoint
  | .now => Int

abbrev indexerInterface : Async.Interface where
  Call := IndexerCall
  Value := IndexerCall.Value
  Error := Thrown

abbrev IndexerProgram := Program indexerInterface

namespace IndexerProgram

def loadCheckpoint (indexerId networkId : JsString) : IndexerProgram (Option IndexerCheckpoint) :=
  Program.call (I := indexerInterface) (.loadCheckpoint indexerId networkId)

def ingest (event : NormalizedDomainEvent) : IndexerProgram IngestOutcome :=
  Program.call (I := indexerInterface) (.ingest event)

def saveCheckpoint (checkpoint : IndexerCheckpoint) (expectedSequence : Option JsString) :
    IndexerProgram IndexerCheckpoint :=
  Program.call (I := indexerInterface) (.saveCheckpoint checkpoint expectedSequence)

def now : IndexerProgram Int := Program.call (I := indexerInterface) .now

end IndexerProgram

/-- The tables `normalized_events` and `indexer_checkpoints`. -/
structure EventDatabase where
  events : NormalizedEvents
  checkpoints : JsString × JsString → Option IndexerCheckpoint

namespace EventDatabase

def empty : EventDatabase := ⟨.empty, fun _ => none⟩

/-- The checks of `saveCheckpoint` and its upsert, given the row that it has read. -/
def saveCheckpoint (platform : Platform) (database : EventDatabase)
    (current : Option IndexerCheckpoint) (checkpoint : IndexerCheckpoint)
    (expectedSequence : Option JsString) : Except Thrown IndexerCheckpoint × EventDatabase :=
  if !isAtomicAmount checkpoint.sequence then
    (.error (.registryError .invalidArgument
      (js "checkpoint sequence must be a non-negative integer string")), database)
  else if (platform.dateParse checkpoint.updatedAt).isNone then
    (.error (.registryError .invalidArgument
      (js "checkpoint timestamp must be a valid timestamp")), database)
  else if expectedSequence.isSome ∧ current.map IndexerCheckpoint.sequence ≠ expectedSequence then
    (.error (.registryError .conflict (js "stale checkpoint sequence")), database)
  else if current.any fun row => decimalValue checkpoint.sequence < decimalValue row.sequence then
    (.error (.registryError .conflict (js "checkpoint cannot move backwards")), database)
  else
    (.ok checkpoint, { database with
      checkpoints := Function.update database.checkpoints
        (checkpoint.indexerId, checkpoint.networkId) (some checkpoint) })

/-- `ingest`, with the table as a part of the database. -/
def ingest (database : EventDatabase) (event : NormalizedDomainEvent) :
    Except Thrown IngestOutcome × EventDatabase :=
  match database.events.ingest event with
  | .ok (outcome, events) => (.ok outcome, { database with events })
  | .error error => (.error error, database)

/-- The unique columns of the stored events. -/
def sources (database : EventDatabase) : List (JsString × JsString) :=
  database.events.rows.map NormalizedDomainEvent.source

end EventDatabase

/-- How a call is served. A checkpoint that is not there cannot be locked: another one may be
saved after `saveCheckpoint` has read that there is none. -/
inductive IndexerChoice where
  | served
  | unlocked
  | clock (now : Int)
  deriving DecidableEq, Repr

/-- The database and the clock. -/
abbrev servedIndexerServices (platform : Platform) : Async.Services indexerInterface where
  State := EventDatabase
  Choice := IndexerChoice
  reply call choice database :=
    match call, choice with
    | .loadCheckpoint indexerId networkId, .served =>
        some (.ok (database.checkpoints (indexerId, networkId)), database)
    | .ingest event, .served => some (database.ingest event)
    | .saveCheckpoint checkpoint expectedSequence, .served =>
        some (database.saveCheckpoint platform
          (database.checkpoints (checkpoint.indexerId, checkpoint.networkId)) checkpoint
          expectedSequence)
    | .saveCheckpoint checkpoint expectedSequence, .unlocked =>
        some (database.saveCheckpoint platform none checkpoint expectedSequence)
    | .now, .clock now => some (.ok now, database)
    | _, _ => none

/-- Each call may also fail. -/
abbrev indexerServices (platform : Platform) : Async.Services indexerInterface :=
  (servedIndexerServices platform).fallible fun _ => true

/-! ## The processor -/

structure CheckpointedEventProcessor (Source : Type) where
  indexerId : JsString
  networkId : JsString
  normalize : Source → Except Thrown (Option NormalizedDomainEvent)

structure ProcessedBatch where
  inserted : Nat
  duplicates : Nat
  checkpoint : Option IndexerCheckpoint
  deriving DecidableEq, Repr

/-- `checkpoint && BigInt(item.sequence) <= BigInt(checkpoint.sequence)`, given the sequence of
the checkpoint. -/
def EventBatchItem.skippedAt {Source : Type} (position : Option JsString)
    (item : EventBatchItem Source) : Bool :=
  position.any fun sequence => decimalValue item.sequence ≤ decimalValue sequence

namespace CheckpointedEventProcessor

variable {Source : Type} (platform : Platform) (processor : CheckpointedEventProcessor Source)

/-- `if (event) (await this.store.ingest(event)) === "INSERTED" ? inserted++ : duplicates++`. -/
def count (inserted duplicates : Nat) :
    Option NormalizedDomainEvent → IndexerProgram (Nat × Nat)
  | none => return (inserted, duplicates)
  | some event => do
      match ← IndexerProgram.ingest event with
      | .inserted => return (inserted + 1, duplicates)
      | .duplicate => return (inserted, duplicates + 1)

/-- The checkpoint at an item. -/
def checkpointAt (item : EventBatchItem Source) (event : Option NormalizedDomainEvent)
    (now : Int) : IndexerCheckpoint where
  indexerId := processor.indexerId
  networkId := processor.networkId
  cursor := (event.map NormalizedDomainEvent.sourceEventKey).getD (js "skipped:" ++ item.sequence)
  sequence := item.sequence
  updatedAt := platform.toISOString now

/-- The loop over the items that are left. -/
def processItems (inserted duplicates : Nat) (checkpoint : Option IndexerCheckpoint) :
    List (EventBatchItem Source) → IndexerProgram ProcessedBatch
  | [] => return { inserted, duplicates, checkpoint }
  | item :: rest => do
      if !isAtomicAmount item.sequence then
        Program.reject (.registryError .invalidArgument
          (js "event sequence must be an integer string"))
      else if item.skippedAt (checkpoint.map IndexerCheckpoint.sequence) then
        processItems inserted duplicates checkpoint rest
      else
        let event ← Program.ofExcept (processor.normalize item.source)
        let counts ← count inserted duplicates event
        let now ← IndexerProgram.now
        let saved ← IndexerProgram.saveCheckpoint (processor.checkpointAt platform item event now)
          (checkpoint.map IndexerCheckpoint.sequence)
        processItems counts.1 counts.2 (some saved) rest

def process (items : List (EventBatchItem Source)) : IndexerProgram ProcessedBatch := do
  let checkpoint ← IndexerProgram.loadCheckpoint processor.indexerId processor.networkId
  processor.processItems platform 0 0 checkpoint items

/-- The event that an item carries. -/
def eventOf (item : EventBatchItem Source) : Option NormalizedDomainEvent :=
  match processor.normalize item.source with
  | .ok event => event
  | .error _ => none

end CheckpointedEventProcessor

/-- A call of a processor. -/
structure ProcessCall (Source : Type) where
  processor : CheckpointedEventProcessor Source
  items : List (EventBatchItem Source)

def ProcessCall.run {Source : Type} (platform : Platform) (call : ProcessCall Source) :
    IndexerProgram ProcessedBatch :=
  call.processor.process platform call.items

end InterWeave
