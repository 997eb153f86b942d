import InterWeave.Core.Idempotency

/-! # Normalized domain events

`domain-events.ts`: the normalizers of both networks and the table of events. The
semantic decoders belong to the adapters and are parameters. The checkpoints of an
indexer are kept apart from the events and are outside this module.
-/

namespace InterWeave

inductive DomainEventType where
  | assetIssued
  | assetBurned
  | assetTransferred
  | assetLocked
  | assetReleased
  | settlementCreated
  | settlementCompleted
  | settlementFailed
  | attestationCreated
  | bridgeCompleted
  deriving DecidableEq, Repr

inductive EventNetworkType where
  | canton
  | evm
  deriving DecidableEq, Repr

inductive PayloadValue where
  | string (value : JsString)
  | boolean (value : Bool)
  | null
  | strings (values : List JsString)
  deriving DecidableEq, Repr

inductive EventPosition where
  | cantonOffset (offset eventIndex : JsString)
  | evmLog (blockNumber blockHash logIndex : JsString)
  deriving DecidableEq, Repr

inductive EventObservation where
  | canonical
  | removed
  deriving DecidableEq, Repr

structure NormalizedDomainEvent where
  schemaVersion : JsString
  id : JsString
  type : DomainEventType
  networkId : JsString
  networkType : EventNetworkType
  networkTransactionId : JsString
  assetId : JsString
  position : EventPosition
  sourceEventKey : JsString
  eventTimestamp : JsString
  payload : List (JsString × PayloadValue)
  ingestionTimestamp : JsString
  observation : EventObservation
  provenance : List (JsString × JsString)
  deriving DecidableEq, Repr

structure DecodedDomainEvent where
  type : DomainEventType
  assetId : JsString
  payload : List (JsString × PayloadValue)
  deriving DecidableEq, Repr

/-! ## Normalization -/

def stableEventId (platform : Platform) (networkId sourceEventKey : JsString) : JsString :=
  js "IW:EVENT:" ++ platform.sha256Hex (networkId ++ js "|" ++ sourceEventKey).encode

def assertTimestamp (platform : Platform) (value name : JsString) : Except Thrown Unit :=
  if (platform.dateParse value).isNone then
    .error (.registryError .invalidArgument (name ++ js " must be a valid timestamp"))
  else .ok ()

def assertDecoded (decoded : DecodedDomainEvent) : Except Thrown Unit :=
  if !decoded.assetId.startsWith (js "IW:ASSET:") || decoded.payload.isEmpty then
    .error (.registryError .invalidArgument
      (js "decoded events require a logical asset and non-empty payload"))
  else .ok ()

structure CantonEvent where
  offset : JsString
  transactionId : JsString
  kind : JsString
  templateOrInterfaceId : JsString
  payload : JsValue
  witnessedBy : List JsString

structure CantonEventInput where
  eventIndex : JsString
  eventTimestamp : JsString
  ingestionTimestamp : JsString
  participantId : JsString
  deriving DecidableEq, Repr

structure CantonEventNormalizer where
  networkId : JsString
  decode : CantonEvent → Except Thrown (Option DecodedDomainEvent)

def CantonEventNormalizer.normalize (platform : Platform) (normalizer : CantonEventNormalizer)
    (event : CantonEvent) (input : CantonEventInput) :
    Except Thrown (Option NormalizedDomainEvent) := do
  match ← normalizer.decode event with
  | none => return none
  | some decoded => do
      assertDecoded decoded
      assertTimestamp platform input.eventTimestamp (js "event timestamp")
      assertTimestamp platform input.ingestionTimestamp (js "ingestion timestamp")
      if event.transactionId.isBlank || event.offset.isBlank || input.eventIndex.isBlank then
        .error (.registryError .invalidArgument
          (js "Canton event transaction, offset, and event index are required"))
      else
        let sourceEventKey := js "canton:" ++ event.transactionId ++ js ":" ++ event.offset ++
          js ":" ++ input.eventIndex
        return some {
          schemaVersion := js "1"
          id := stableEventId platform normalizer.networkId sourceEventKey
          type := decoded.type
          networkId := normalizer.networkId
          networkType := .canton
          networkTransactionId := event.transactionId
          assetId := decoded.assetId
          position := .cantonOffset event.offset input.eventIndex
          sourceEventKey
          eventTimestamp := input.eventTimestamp
          payload := decoded.payload
          ingestionTimestamp := input.ingestionTimestamp
          observation := .canonical
          provenance := [(js "participantId", input.participantId),
            (js "templateOrInterfaceId", event.templateOrInterfaceId),
            (js "witnessedBy",
              JsString.join (js ",") (event.witnessedBy.insertionSort (· ≤ ·)))] }

structure EvmLog where
  address : JsString
  topics : List JsString
  data : JsString
  blockNumber : Int
  blockHash : JsString
  transactionHash : JsString
  logIndex : Int
  removed : Bool
  deriving DecidableEq, Repr

structure ParsedEvmEvent where
  name : JsString
  signature : JsString
  address : JsString
  arguments : List (JsString × JsValue)
  log : EvmLog

structure EvmEventInput where
  blockTimestamp : JsString
  ingestionTimestamp : JsString
  chainId : JsString
  deriving DecidableEq, Repr

structure EvmEventNormalizer where
  networkId : JsString
  decode : ParsedEvmEvent → Except Thrown (Option DecodedDomainEvent)

namespace EvmLog

/-- `evm:${log.transactionHash.toLowerCase()}:${log.logIndex.toString()}`. -/
def sourceEventKey (log : EvmLog) : JsString :=
  js "evm:" ++ log.transactionHash.toLowerCase ++ js ":" ++ bigintText log.logIndex

def position (log : EvmLog) : EventPosition :=
  .evmLog (bigintText log.blockNumber) log.blockHash (bigintText log.logIndex)

def observation (log : EvmLog) : EventObservation := if log.removed then .removed else .canonical

end EvmLog

def EvmEventNormalizer.normalize (platform : Platform) (normalizer : EvmEventNormalizer)
    (event : ParsedEvmEvent) (input : EvmEventInput) :
    Except Thrown (Option NormalizedDomainEvent) := do
  match ← normalizer.decode event with
  | none => return none
  | some decoded => do
      assertDecoded decoded
      assertTimestamp platform input.blockTimestamp (js "block timestamp")
      assertTimestamp platform input.ingestionTimestamp (js "ingestion timestamp")
      return some {
        schemaVersion := js "1"
        id := stableEventId platform normalizer.networkId event.log.sourceEventKey
        type := decoded.type
        networkId := normalizer.networkId
        networkType := .evm
        networkTransactionId := event.log.transactionHash
        assetId := decoded.assetId
        position := event.log.position
        sourceEventKey := event.log.sourceEventKey
        eventTimestamp := input.blockTimestamp
        payload := decoded.payload
        ingestionTimestamp := input.ingestionTimestamp
        observation := event.log.observation
        provenance := [(js "chainId", input.chainId), (js "contractAddress", event.address),
          (js "eventSignature", event.signature)] }

/-! ## The table of events -/

/-- The unique columns beside the primary key. -/
def NormalizedDomainEvent.source (event : NormalizedDomainEvent) : JsString × JsString :=
  (event.networkId, event.sourceEventKey)

/-- `normalized_events`. A row is its event: the other columns repeat fields of it. -/
structure NormalizedEvents where
  rows : List NormalizedDomainEvent
  ids : (rows.map NormalizedDomainEvent.id).Nodup
  sources : (rows.map NormalizedDomainEvent.source).Nodup
  deriving DecidableEq

inductive IngestOutcome where
  | inserted
  | duplicate
  deriving DecidableEq, Repr

namespace NormalizedEvents

def empty : NormalizedEvents := ⟨[], List.nodup_nil, List.nodup_nil⟩

/-- `INSERT … ON CONFLICT (network_id,source_event_key) DO NOTHING`. Another row with the
same identifier is a conflict that the clause does not cover. -/
def ingest (events : NormalizedEvents) (event : NormalizedDomainEvent) :
    Except Thrown (IngestOutcome × NormalizedEvents) :=
  if known : event.source ∈ events.rows.map NormalizedDomainEvent.source then
    .ok (.duplicate, events)
  else if taken : event.id ∈ events.rows.map NormalizedDomainEvent.id then
    .error (.error (js "duplicate key value violates unique constraint"))
  else
    .ok (.inserted, {
      rows := events.rows ++ [event]
      ids := by
        rw [List.map_append, List.nodup_append]
        refine ⟨events.ids, List.nodup_singleton _, fun id earlier other added => ?_⟩
        rw [List.map_singleton, List.mem_singleton] at added
        rintro rfl
        exact taken (added ▸ earlier)
      sources := by
        rw [List.map_append, List.nodup_append]
        refine ⟨events.sources, List.nodup_singleton _, fun source earlier other added => ?_⟩
        rw [List.map_singleton, List.mem_singleton] at added
        rintro rfl
        exact known (added ▸ earlier) })

def get (events : NormalizedEvents) (id : JsString) : Option NormalizedDomainEvent :=
  events.rows.find? fun event => event.id = id

end NormalizedEvents
end InterWeave
