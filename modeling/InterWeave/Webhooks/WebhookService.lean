import InterWeave.Async.Transcript
import InterWeave.Core.Numbers
import Mathlib.Data.List.Nodup

/-! # Webhook deliveries

`webhook-service.ts`: an event is posted to each endpoint that wants it, and every attempt is logged
once it has been answered. The number of an attempt is one more than the length of the log that was
read before the post.
-/

namespace InterWeave

open Async (Program)

inductive WebhookEventType where
  | transactionCreated
  | transactionCompleted
  | transactionFailed
  | bridgeSourceFinalized
  | bridgeAttested
  | bridgeCompleted
  | bridgeFailed
  | settlementCreated
  | settlementCompleted
  | settlementExpired
  | reconciliationFailed
  deriving DecidableEq, Repr

def WebhookEventType.text : WebhookEventType → JsString
  | .transactionCreated => js "transaction.created"
  | .transactionCompleted => js "transaction.completed"
  | .transactionFailed => js "transaction.failed"
  | .bridgeSourceFinalized => js "bridge.source_finalized"
  | .bridgeAttested => js "bridge.attested"
  | .bridgeCompleted => js "bridge.completed"
  | .bridgeFailed => js "bridge.failed"
  | .settlementCreated => js "settlement.created"
  | .settlementCompleted => js "settlement.completed"
  | .settlementExpired => js "settlement.expired"
  | .reconciliationFailed => js "reconciliation.failed"

structure WebhookEvent where
  id : JsString
  type : WebhookEventType
  subjectId : JsString
  data : List (JsString × JsValue)
  occurredAt : JsString

/-- The event as `canonicalJson` reads it. -/
def WebhookEvent.json (event : WebhookEvent) : JsValue :=
  .object [(js "id", .string event.id), (js "type", .string event.type.text),
    (js "subjectId", .string event.subjectId), (js "data", .object event.data),
    (js "occurredAt", .string event.occurredAt)]

structure WebhookEndpoint where
  id : JsString
  url : JsString
  secret : JsString
  events : List WebhookEventType
  enabled : Bool
  maxAttempts : JsNumber
  createdAt : JsString
  deriving DecidableEq

inductive WebhookDeliveryStatus where
  | pending
  | succeeded
  | retryScheduled
  | deadLetter
  deriving DecidableEq, Repr

structure WebhookDelivery where
  id : JsString
  eventId : JsString
  endpointId : JsString
  attempt : Nat
  status : WebhookDeliveryStatus
  requestTimestamp : JsString
  signature : JsString
  responseStatus : Option JsNumber
  errorCode : Option JsString
  nextAttemptAt : Option JsString
  occurredAt : JsString
  deriving DecidableEq

/-- A delivery after which none follows. -/
def WebhookDelivery.terminal (delivery : WebhookDelivery) : Bool :=
  delivery.status = .succeeded || delivery.status = .deadLetter

structure WebhookRequest where
  url : JsString
  eventId : JsString
  timestamp : JsString
  signature : JsString
  body : JsString
  deriving DecidableEq, Repr

/-- The platform, and HMAC-SHA-256 under a secret. -/
structure WebhookPlatform extends Platform where
  hmacSha256Hex : JsString → JsString → JsString

/-! ## Calls -/

inductive WebhookSaved where
  | created
  | replay
  deriving DecidableEq, Repr

inductive WebhookCall where
  | saveEvent (event : WebhookEvent) (hash : JsString)
  | getEvent (id : JsString)
  | endpointsFor (type : WebhookEventType)
  | saveDelivery (delivery : WebhookDelivery)
  | deliveries (eventId endpointId : JsString)
  | post (request : WebhookRequest)
  | now

abbrev WebhookCall.Value : WebhookCall → Type
  | .saveEvent _ _ => WebhookSaved
  | .getEvent _ => Option WebhookEvent
  | .endpointsFor _ => List WebhookEndpoint
  | .saveDelivery _ => Unit
  | .deliveries _ _ => List WebhookDelivery
  | .post _ => JsNumber
  | .now => Int

abbrev webhookInterface : Async.Interface where
  Call := WebhookCall
  Value := WebhookCall.Value
  Error := Thrown

abbrev WebhookProgram := Program webhookInterface

namespace WebhookProgram

def saveEvent (event : WebhookEvent) (hash : JsString) : WebhookProgram WebhookSaved :=
  Program.call (I := webhookInterface) (.saveEvent event hash)

def getEvent (id : JsString) : WebhookProgram (Option WebhookEvent) :=
  Program.call (I := webhookInterface) (.getEvent id)

def endpointsFor (type : WebhookEventType) : WebhookProgram (List WebhookEndpoint) :=
  Program.call (I := webhookInterface) (.endpointsFor type)

def saveDelivery (delivery : WebhookDelivery) : WebhookProgram Unit :=
  Program.call (I := webhookInterface) (.saveDelivery delivery)

def deliveries (eventId endpointId : JsString) : WebhookProgram (List WebhookDelivery) :=
  Program.call (I := webhookInterface) (.deliveries eventId endpointId)

def post (request : WebhookRequest) : WebhookProgram JsNumber :=
  Program.call (I := webhookInterface) (.post request)

def now : WebhookProgram Int := Program.call (I := webhookInterface) .now

end WebhookProgram

/-! ## The service -/

def signWebhook (platform : WebhookPlatform) (secret eventId timestamp body : JsString) :
    Except Thrown JsString :=
  if secret.isEmpty || eventId.isEmpty || !JsString.isDigits timestamp then
    .error (.registryError .invalidArgument (js "webhook signing inputs are invalid"))
  else
    .ok (js "v1=" ++ platform.hmacSha256Hex secret
      (js "v1." ++ eventId ++ js "." ++ timestamp ++ js "." ++ body))

/-- The delay after a failed attempt, in milliseconds. -/
def retryDelay (attempt : Nat) : Nat :=
  min (60 * 60 * 1000) (1000 * 2 ^ min (attempt - 1) 12)

def WebhookEvent.validate (platform : Platform) (event : WebhookEvent) : Except Thrown Unit :=
  if !event.id.startsWith (js "IW:WEBHOOK_EVENT:") || event.subjectId.isBlank ||
      (platform.dateParse event.occurredAt).isNone then
    .error (.registryError .invalidArgument (js "webhook event is invalid"))
  else .ok ()

/-- The identifier of an attempt. -/
def deliveryId (eventId endpointId : JsString) (attempt : Nat) : JsString :=
  js "IW:WEBHOOK_DELIVERY:" ++ eventId ++ js ":" ++ endpointId ++ js ":" ++ bigintText attempt

/-- The error code of an answered post; none where the endpoint has taken the event. -/
def postError (platform : Platform) : Except Thrown JsNumber → Option JsString
  | .ok status =>
      if status.lt (.ofNat 200) || (JsNumber.ofNat 300).le status then
        some (js "HTTP_" ++ status.text platform)
      else none
  | .error _ => some (js "NETWORK_ERROR")

/-- The status of an attempt. -/
def deliveryStatus (maxAttempts : JsNumber) (attempt : Nat) (errorCode : Option JsString) :
    WebhookDeliveryStatus :=
  if errorCode.isNone then .succeeded
  else if maxAttempts.le (.ofNat attempt) then .deadLetter
  else .retryScheduled

inductive WebhookCommand where
  | publish (event : WebhookEvent)
  | retry (eventId : JsString) (endpoint : WebhookEndpoint)

inductive WebhookOutcome where
  | dispatched (event : WebhookEvent) (deliveries : List WebhookDelivery)
  | delivered (delivery : WebhookDelivery)

namespace WebhookService

variable (platform : WebhookPlatform)

/-- The time of the next attempt, if there is to be one. -/
def nextAttempt (status : WebhookDeliveryStatus) (attempt : Nat) :
    WebhookProgram (Option JsString) :=
  if status ≠ .retryScheduled then return none
  else do
    let now ← WebhookProgram.now
    return some (platform.toISOString (now + retryDelay attempt))

def attempt (event : WebhookEvent) (endpoint : WebhookEndpoint) (attempt : Nat) :
    WebhookProgram WebhookDelivery := do
  let body ← Program.ofExcept (canonicalJson platform.toPlatform event.json)
  let started ← WebhookProgram.now
  let timestamp := bigintText (started / 1000)
  let signature ← Program.ofExcept
    (signWebhook platform endpoint.secret event.id timestamp body)
  let response ← (WebhookProgram.post
    { url := endpoint.url, eventId := event.id, timestamp, signature, body }).attempt
  let errorCode := postError platform.toPlatform response
  let status := deliveryStatus endpoint.maxAttempts attempt errorCode
  let answered ← WebhookProgram.now
  let nextAttemptAt ← nextAttempt platform status attempt
  let delivery : WebhookDelivery := {
    id := deliveryId event.id endpoint.id attempt
    eventId := event.id, endpointId := endpoint.id, attempt, status
    requestTimestamp := timestamp, signature
    responseStatus := response.toOption, errorCode, nextAttemptAt
    occurredAt := platform.toISOString answered }
  WebhookProgram.saveDelivery delivery
  return delivery

/-- The loop of `publish` over its endpoints. -/
def dispatch (event : WebhookEvent) :
    List WebhookEndpoint → WebhookProgram (List WebhookDelivery)
  | [] => return []
  | endpoint :: rest =>
      if !endpoint.enabled then dispatch event rest
      else do
        let history ← WebhookProgram.deliveries event.id endpoint.id
        if history.any WebhookDelivery.terminal then dispatch event rest
        else do
          let delivery ← attempt platform event endpoint (history.length + 1)
          let others ← dispatch event rest
          return delivery :: others

def publish (event : WebhookEvent) : WebhookProgram (List WebhookDelivery) := do
  Program.ofExcept (event.validate platform.toPlatform)
  let hash ← Program.ofExcept (requestFingerprint platform.toPlatform event.json)
  let _ ← WebhookProgram.saveEvent event hash
  let endpoints ← WebhookProgram.endpointsFor event.type
  dispatch platform event endpoints

def retry (eventId : JsString) (endpoint : WebhookEndpoint) : WebhookProgram WebhookDelivery := do
  match ← WebhookProgram.getEvent eventId with
  | none =>
      Program.reject (.registryError .notFound (js "webhook event not found: " ++ eventId))
  | some event =>
      let history ← WebhookProgram.deliveries eventId endpoint.id
      if history.any WebhookDelivery.terminal then
        Program.reject (.registryError .conflict (js "webhook delivery is terminal"))
      else attempt platform event endpoint (history.length + 1)

end WebhookService

/-- The program of a command. -/
def WebhookCommand.run (platform : WebhookPlatform) :
    WebhookCommand → WebhookProgram WebhookOutcome
  | .publish event => do
      let deliveries ← WebhookService.publish platform event
      return .dispatched event deliveries
  | .retry eventId endpoint => do
      let delivery ← WebhookService.retry platform eventId endpoint
      return .delivered delivery

/-! ## The stores -/

/-- `InMemoryWebhookStore` and `PostgresWebhookStore`. -/
inductive WebhookStoreKind where
  | inMemory
  | postgres
  deriving DecidableEq, Repr

/-- An event with the fingerprint it was first published with. -/
structure StoredWebhookEvent where
  event : WebhookEvent
  hash : JsString

/-- The delivery logs of all events and endpoints, in the order in which they were saved. -/
structure WebhookLogs where
  rows : List WebhookDelivery
  ids : (rows.map WebhookDelivery.id).Nodup

namespace WebhookLogs

def empty : WebhookLogs := ⟨[], List.nodup_nil⟩

/-- A delivery of an event to an endpoint. -/
def isFor (eventId endpointId : JsString) (delivery : WebhookDelivery) : Bool :=
  delivery.eventId = eventId && delivery.endpointId = endpointId

variable (logs : WebhookLogs)

/-- The log of an event and an endpoint. -/
def log (eventId endpointId : JsString) : List WebhookDelivery :=
  logs.rows.filter (isFor eventId endpointId)

/-- What the stores answer; the table is read `ORDER BY attempt`. -/
def deliveries (kind : WebhookStoreKind) (eventId endpointId : JsString) : List WebhookDelivery :=
  match kind with
  | .inMemory => logs.log eventId endpointId
  | .postgres => (logs.log eventId endpointId).mergeSort fun first second =>
      first.attempt ≤ second.attempt

/-- Deliveries are written once. The table has a second key, of event, endpoint and attempt. -/
def save (kind : WebhookStoreKind) (delivery : WebhookDelivery) :
    Except Thrown Unit × WebhookLogs :=
  if taken : delivery.id ∈ logs.rows.map WebhookDelivery.id then
    (.error (.registryError .conflict (js "delivery log is immutable")), logs)
  else if kind = .postgres ∧ ∃ row ∈ logs.rows, row.eventId = delivery.eventId ∧
      row.endpointId = delivery.endpointId ∧ row.attempt = delivery.attempt then
    (.error (.error (js "duplicate key value violates unique constraint")), logs)
  else
    (.ok (), {
      rows := logs.rows ++ [delivery]
      ids := by
        rw [List.map_append, List.nodup_append]
        refine ⟨logs.ids, List.nodup_singleton _, ?_⟩
        intro id earlier other added same
        rw [List.map_singleton, List.mem_singleton] at added
        exact taken (added ▸ same ▸ earlier) })

end WebhookLogs

structure WebhookWorld where
  events : List StoredWebhookEvent
  endpoints : List WebhookEndpoint
  logs : WebhookLogs

namespace WebhookWorld

variable (world : WebhookWorld)

/-- The endpoints that have been registered, before the first event. -/
def fresh (endpoints : List WebhookEndpoint) : WebhookWorld := ⟨[], endpoints, .empty⟩

def find (id : JsString) : Option StoredWebhookEvent :=
  world.events.find? fun stored => stored.event.id = id

def saveEvent (event : WebhookEvent) (hash : JsString) :
    Except Thrown WebhookSaved × WebhookWorld :=
  match world.find event.id with
  | some found =>
      if found.hash ≠ hash then
        (.error (.registryError .conflict (js "webhook event ID was reused")), world)
      else (.ok .replay, world)
  | none => (.ok .created, { world with events := world.events ++ [⟨event, hash⟩] })

def endpointsFor (kind : WebhookStoreKind) (type : WebhookEventType) : List WebhookEndpoint :=
  world.endpoints.filter fun endpoint => match kind with
    | .inMemory => endpoint.events.contains type
    | .postgres => endpoint.enabled && endpoint.events.contains type

end WebhookWorld

/-- What the environment decides at an answer. -/
inductive WebhookChoice where
  | served
  | instant (value : Int)
  | responded (status : JsNumber)

/-- The answers of the store, the clock and the endpoints. -/
def WebhookWorld.reply (kind : WebhookStoreKind) :
    (call : WebhookCall) → WebhookChoice → WebhookWorld →
      Option (webhookInterface.Answer call × WebhookWorld)
  | .saveEvent event hash, .served, world => some (world.saveEvent event hash)
  | .getEvent id, .served, world =>
      some (.ok ((world.find id).map StoredWebhookEvent.event), world)
  | .endpointsFor type, .served, world => some (.ok (world.endpointsFor kind type), world)
  | .saveDelivery delivery, .served, world =>
      let saved := world.logs.save kind delivery
      some (saved.1, { world with logs := saved.2 })
  | .deliveries eventId endpointId, .served, world =>
      some (.ok (world.logs.deliveries kind eventId endpointId), world)
  | .post _, .responded status, world => some (.ok status, world)
  | .now, .instant value, world => some (.ok value, world)
  | _, _, _ => none

/-- Every call may also fail, before or after it has done what it does. -/
abbrev webhookServices (kind : WebhookStoreKind) : Async.Services webhookInterface :=
  Async.Services.fallible
    { State := WebhookWorld, Choice := WebhookChoice, reply := WebhookWorld.reply kind }
    fun _ => true

end InterWeave
