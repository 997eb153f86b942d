import InterWeave.Async.Pool
import InterWeave.Core.Idempotency

/-! # The cross-network settlement saga

`cross-network-settlement.ts`. A run of `execute` awaits the store, the policy,
the external actions and the clock; any number of runs may be in progress. A
settlement is kept as its record: the columns of its row and the rows of the
transition table repeat fields of the record and are written with it.
-/

namespace InterWeave

open Async (Program)

inductive CrossNetworkSettlementState where
  | created
  | policyChecked
  | deliveryReserved
  | deliveryReservationVerified
  | paymentSubmitted
  | paymentFinalized
  | paymentAttested
  | deliveryReleased
  | deliveryFinalized
  | reconciled
  | completed
  | compensated
  | failed
  | expired
  | manualReview
  deriving DecidableEq, Repr

def CrossNetworkSettlementState.text : CrossNetworkSettlementState → JsString
  | .created => js "CREATED"
  | .policyChecked => js "POLICY_CHECKED"
  | .deliveryReserved => js "DELIVERY_RESERVED"
  | .deliveryReservationVerified => js "DELIVERY_RESERVATION_VERIFIED"
  | .paymentSubmitted => js "PAYMENT_SUBMITTED"
  | .paymentFinalized => js "PAYMENT_FINALIZED"
  | .paymentAttested => js "PAYMENT_ATTESTED"
  | .deliveryReleased => js "DELIVERY_RELEASED"
  | .deliveryFinalized => js "DELIVERY_FINALIZED"
  | .reconciled => js "RECONCILED"
  | .completed => js "COMPLETED"
  | .compensated => js "COMPENSATED"
  | .failed => js "FAILED"
  | .expired => js "EXPIRED"
  | .manualReview => js "MANUAL_REVIEW"

structure CrossNetworkLeg where
  assetId : JsString
  networkId : JsString
  sender : JsString
  receiver : JsString
  amount : JsString
  deriving DecidableEq, Repr

structure CrossNetworkSettlementRequest where
  id : JsString
  idempotencyKey : JsString
  delivery : CrossNetworkLeg
  payment : CrossNetworkLeg
  policyVersion : JsString
  createdAt : JsString
  expiresAt : JsString
  deriving DecidableEq, Repr

structure SettlementStepEvidence where
  transactionId : JsString
  position : JsString
  evidence : List JsString
  observedAt : JsString
  deriving DecidableEq, Repr

structure CrossNetworkTransition where
  sequence : Nat
  state : CrossNetworkSettlementState
  occurredAt : JsString
  evidence : List JsString
  reason : JsString
  deriving DecidableEq, Repr

structure CrossNetworkSettlementRecord where
  request : CrossNetworkSettlementRequest
  requestHash : JsString
  state : CrossNetworkSettlementState
  version : Nat
  transitions : List CrossNetworkTransition
  deriving DecidableEq, Repr

inductive PolicyOutcome where
  | allow
  | deny
  deriving DecidableEq, Repr

structure SettlementPolicyResult where
  outcome : PolicyOutcome
  evidence : List JsString
  reason : JsString
  deriving DecidableEq, Repr

inductive ReconcileOutcome where
  | match
  | mismatch
  deriving DecidableEq, Repr

structure SettlementReconciliation where
  outcome : ReconcileOutcome
  evidence : List JsString
  deriving DecidableEq, Repr

/-- The actions that return step evidence. -/
inductive SettlementAction where
  | reserveDelivery
  | verifyDeliveryReservation
  | reserveOrTransferPayment
  | verifyPaymentFinality
  | attestPayment
  | releaseDelivery
  | verifyDelivery
  | cancelDeliveryReservation
  deriving DecidableEq, Repr

/-- What a run of `execute` awaits. -/
inductive SettlementCall where
  | now
  | get (id : JsString)
  | create (request : CrossNetworkSettlementRequest) (requestHash : JsString)
      (transition : CrossNetworkTransition)
  | transition (id : JsString) (expectedVersion : Nat) (transition : CrossNetworkTransition)
  | check (request : CrossNetworkSettlementRequest)
  | act (action : SettlementAction) (request : CrossNetworkSettlementRequest)
  | reconcile (request : CrossNetworkSettlementRequest)
  deriving DecidableEq, Repr

abbrev SettlementCall.Value : SettlementCall → Type
  | .now => Int
  | .get _ => Option CrossNetworkSettlementRecord
  | .create _ _ _ => CrossNetworkSettlementRecord
  | .transition _ _ _ => CrossNetworkSettlementRecord
  | .check _ => SettlementPolicyResult
  | .act _ _ => SettlementStepEvidence
  | .reconcile _ => SettlementReconciliation

abbrev settlementInterface : Async.Interface where
  Call := SettlementCall
  Value := SettlementCall.Value
  Error := Thrown

abbrev SettlementProgram := Program settlementInterface

namespace SettlementProgram

def now : SettlementProgram Int := Program.call (I := settlementInterface) .now

def get (id : JsString) : SettlementProgram (Option CrossNetworkSettlementRecord) :=
  Program.call (I := settlementInterface) (.get id)

def create (request : CrossNetworkSettlementRequest) (requestHash : JsString)
    (transition : CrossNetworkTransition) : SettlementProgram CrossNetworkSettlementRecord :=
  Program.call (I := settlementInterface) (.create request requestHash transition)

def transition (id : JsString) (expectedVersion : Nat) (transition : CrossNetworkTransition) :
    SettlementProgram CrossNetworkSettlementRecord :=
  Program.call (I := settlementInterface) (.transition id expectedVersion transition)

def check (request : CrossNetworkSettlementRequest) : SettlementProgram SettlementPolicyResult :=
  Program.call (I := settlementInterface) (.check request)

def act (action : SettlementAction) (request : CrossNetworkSettlementRequest) :
    SettlementProgram SettlementStepEvidence :=
  Program.call (I := settlementInterface) (.act action request)

def reconcile (request : CrossNetworkSettlementRequest) :
    SettlementProgram SettlementReconciliation :=
  Program.call (I := settlementInterface) (.reconcile request)

end SettlementProgram

/-! ## Checks -/

namespace CrossNetworkSettlementState

/-- `terminal.has(state)`. -/
def terminal : CrossNetworkSettlementState → Bool
  | .completed | .compensated | .failed | .expired | .manualReview => true
  | _ => false

/-- `beforePaymentFinality(state)`. -/
def beforePaymentFinality : CrossNetworkSettlementState → Bool
  | .created | .policyChecked | .deliveryReserved | .deliveryReservationVerified
  | .paymentSubmitted => true
  | _ => false

/-- The states whose failure or expiry is compensated. -/
def cancellable (state : CrossNetworkSettlementState) : Bool :=
  state.beforePaymentFinality && state != .created && state != .policyChecked

end CrossNetworkSettlementState

def CrossNetworkLeg.json (leg : CrossNetworkLeg) : JsValue :=
  .object [(js "assetId", .string leg.assetId), (js "networkId", .string leg.networkId),
    (js "sender", .string leg.sender), (js "receiver", .string leg.receiver),
    (js "amount", .string leg.amount)]

def CrossNetworkSettlementRequest.json (request : CrossNetworkSettlementRequest) : JsValue :=
  .object [(js "id", .string request.id), (js "idempotencyKey", .string request.idempotencyKey),
    (js "delivery", request.delivery.json), (js "payment", request.payment.json),
    (js "policyVersion", .string request.policyVersion),
    (js "createdAt", .string request.createdAt), (js "expiresAt", .string request.expiresAt)]

/-- `validate(request)`. -/
def CrossNetworkSettlementRequest.validate (platform : Platform)
    (request : CrossNetworkSettlementRequest) : Except Thrown Unit := do
  if !request.id.startsWith (js "IW:SETTLEMENT:") || request.idempotencyKey.isBlank ||
      request.policyVersion.isBlank then
    throw (.registryError .invalidArgument
      (js "settlement ID, idempotency key, and policy version are required"))
  if request.delivery.networkId = request.payment.networkId then
    throw (.registryError .invalidArgument
      (js "cross-network settlement requires different networks"))
  if request.delivery.sender ≠ request.payment.receiver ∨
      request.delivery.receiver ≠ request.payment.sender ∨
      request.delivery.sender = request.delivery.receiver then
    throw (.registryError .invalidArgument
      (js "settlement legs must have reciprocal distinct counterparties"))
  let delivered ← parseAtomicAmount request.delivery.amount
  -- `||` parses the payment amount only after a positive delivery amount.
  let positive ← if delivered ≤ 0 then pure false
    else do
      let paid ← parseAtomicAmount request.payment.amount
      pure (decide (0 < paid))
  if !positive then
    throw (.registryError .invalidArgument (js "settlement amounts must be positive"))
  if (platform.dateParse request.createdAt).isNone ||
      numberLe (platform.dateParse request.expiresAt) (platform.dateParse request.createdAt) then
    throw (.registryError .invalidArgument (js "settlement validity interval is invalid"))

/-- The check of `validateEvidence`. -/
def SettlementStepEvidence.verifiable (platform : Platform) (value : SettlementStepEvidence) :
    Bool :=
  !value.transactionId.isBlank && !value.position.isBlank && !value.evidence.isEmpty &&
    (platform.dateParse value.observedAt).isSome

def validateEvidence (platform : Platform) (value : SettlementStepEvidence) :
    Except Thrown Unit :=
  if value.verifiable platform then .ok ()
  else .error (.registryError .invalidArgument (js "saga step requires verifiable evidence"))

/-- `[...result.evidence, result.transactionId, result.position]`. -/
def SettlementStepEvidence.recorded (result : SettlementStepEvidence) : List JsString :=
  result.evidence ++ [result.transactionId, result.position]

/-! ## The service -/

namespace CrossNetworkSettlementService

variable (platform : Platform)

def move (record : CrossNetworkSettlementRecord) (state : CrossNetworkSettlementState)
    (evidence : List JsString) (reason : JsString) :
    SettlementProgram CrossNetworkSettlementRecord := do
  let now ← SettlementProgram.now
  SettlementProgram.transition record.request.id record.version
    { sequence := record.version + 1, state, occurredAt := platform.toISOString now,
      evidence, reason }

def effect (record : CrossNetworkSettlementRecord) (state : CrossNetworkSettlementState)
    (work : SettlementProgram SettlementStepEvidence) :
    SettlementProgram CrossNetworkSettlementRecord := do
  let result ← work
  Program.ofExcept (validateEvidence platform result)
  move platform record state result.recorded (js "entered " ++ state.text)

def advance (record : CrossNetworkSettlementRecord) :
    SettlementProgram CrossNetworkSettlementRecord :=
  let request := record.request
  match record.state with
  | .created => do
      let result ← SettlementProgram.check request
      if result.outcome ≠ .allow then
        move platform record .failed result.evidence
          (if result.reason = [] then js "policy denied" else result.reason)
      else move platform record .policyChecked result.evidence (js "policy allowed")
  | .policyChecked =>
      effect platform record .deliveryReserved (SettlementProgram.act .reserveDelivery request)
  | .deliveryReserved =>
      effect platform record .deliveryReservationVerified
        (SettlementProgram.act .verifyDeliveryReservation request)
  | .deliveryReservationVerified =>
      effect platform record .paymentSubmitted
        (SettlementProgram.act .reserveOrTransferPayment request)
  | .paymentSubmitted =>
      effect platform record .paymentFinalized
        (SettlementProgram.act .verifyPaymentFinality request)
  | .paymentFinalized =>
      effect platform record .paymentAttested (SettlementProgram.act .attestPayment request)
  | .paymentAttested =>
      effect platform record .deliveryReleased (SettlementProgram.act .releaseDelivery request)
  | .deliveryReleased =>
      effect platform record .deliveryFinalized (SettlementProgram.act .verifyDelivery request)
  | .deliveryFinalized => do
      let result ← SettlementProgram.reconcile request
      match result.outcome with
      | .match => move platform record .reconciled result.evidence (js "reconciled")
      | .mismatch =>
          move platform record .manualReview result.evidence (js "reconciliation mismatch")
  | .reconciled => move platform record .completed [] (js "saga completed")
  | _ => return record

/-- The `try` block of both compensations, up to its `return`. -/
def cancelled (record : CrossNetworkSettlementRecord) :
    SettlementProgram SettlementStepEvidence := do
  let result ← SettlementProgram.act .cancelDeliveryReservation record.request
  Program.ofExcept (validateEvidence platform result)
  return result

/-- Cancel the reservation. The writes are returned and not awaited in the `try`
block, so the `catch` block does not see them fail. -/
def compensate (record : CrossNetworkSettlementRecord) (compensated uncertain : JsString) :
    SettlementProgram CrossNetworkSettlementRecord := do
  match ← (cancelled platform record).attempt with
  | .ok result => move platform record .compensated result.recorded compensated
  | .error _ => move platform record .manualReview [] uncertain

def expireOrCompensate (record : CrossNetworkSettlementRecord) :
    SettlementProgram CrossNetworkSettlementRecord :=
  if record.state.cancellable then
    compensate platform record (js "expired; delivery reservation cancelled")
      (js "expiry compensation uncertain")
  else if record.state.beforePaymentFinality then
    move platform record .expired [] (js "expired before reservation")
  else
    move platform record .manualReview []
      (js "expired after payment finality; automatic reversal prohibited")

def handleFailure (record : CrossNetworkSettlementRecord) (error : Thrown) :
    SettlementProgram CrossNetworkSettlementRecord :=
  let reason := error.messageOr (js "unknown saga failure")
  if record.state.cancellable then
    compensate platform record (js "failure compensated: " ++ reason)
      (js "failure and compensation uncertain: " ++ reason)
  else if record.state.beforePaymentFinality then move platform record .failed [] reason
  else move platform record .manualReview [] (js "post-payment-finality failure: " ++ reason)

/-- The loop of `execute`, for a number of iterations. -/
def drive (request : CrossNetworkSettlementRequest) :
    Nat → CrossNetworkSettlementRecord → SettlementProgram CrossNetworkSettlementRecord
  | 0, record => return record
  | bound + 1, record =>
      if record.state.terminal then return record
      else do
        let now ← SettlementProgram.now
        if numberLe (platform.dateParse request.expiresAt) (some now) then
          expireOrCompensate platform record
        else
          match ← (advance platform record).attempt with
          | .ok next => drive request bound next
          | .error error => handleFailure platform record error

/-- `execute`, with a bound on the iterations of its loop. -/
def execute (request : CrossNetworkSettlementRequest) (bound : Nat) :
    SettlementProgram CrossNetworkSettlementRecord := do
  Program.ofExcept (request.validate platform)
  let hash ← Program.ofExcept (requestFingerprint platform request.json)
  match ← SettlementProgram.get request.id with
  | none =>
      let record ← SettlementProgram.create request hash
        { sequence := 0, state := .created, occurredAt := request.createdAt, evidence := [],
          reason := js "saga created" }
      drive platform request bound record
  | some record =>
      if record.requestHash ≠ hash then
        Program.reject (.registryError .conflict
          (js "settlement ID was reused with different content: " ++ request.id))
      else drive platform request bound record

end CrossNetworkSettlementService

/-! ## The store and the outside world -/

/-- The rows of `cross_network_settlements`, by identifier, and the clock. -/
structure SettlementWorld where
  settlements : JsString → Option CrossNetworkSettlementRecord
  clock : Int

namespace SettlementWorld

def put (world : SettlementWorld) (record : CrossNetworkSettlementRecord) : SettlementWorld :=
  { world with settlements := Function.update world.settlements record.request.id (some record) }

/-- `PostgresCrossNetworkSettlementStore.create`. -/
def create (world : SettlementWorld) (request : CrossNetworkSettlementRequest)
    (requestHash : JsString) (transition : CrossNetworkTransition) :
    CrossNetworkSettlementRecord × SettlementWorld :=
  match world.settlements request.id with
  | some existing => (existing, world)
  | none =>
      let record : CrossNetworkSettlementRecord :=
        { request, requestHash, state := .created, version := 0, transitions := [transition] }
      (record, world.put record)

/-- `PostgresCrossNetworkSettlementStore.transition`. -/
def transition (world : SettlementWorld) (id : JsString) (expectedVersion : Nat)
    (transition : CrossNetworkTransition) :
    Except Thrown CrossNetworkSettlementRecord × SettlementWorld :=
  match world.settlements id with
  | none => (.error (.registryError .notFound (js "settlement not found: " ++ id)), world)
  | some record =>
      if record.version ≠ expectedVersion then
        (.error (.registryError .conflict (js "stale settlement version")), world)
      else
        let next : CrossNetworkSettlementRecord :=
          { record with state := transition.state, version := expectedVersion + 1,
                        transitions := record.transitions ++ [transition] }
        (.ok next,
          { world with settlements := Function.update world.settlements id (some next) })

end SettlementWorld

/-- What the environment decides at an answer. -/
inductive SettlementChoice where
  | instant (value : Int)
  | stored
  | policy (result : SettlementPolicyResult)
  | evidence (result : SettlementStepEvidence)
  | reconciled (result : SettlementReconciliation)
  | failure (error : Thrown)

/-- The store does what it does; every other call is free to return anything or to
throw. -/
def SettlementWorld.reply : (call : SettlementCall) → SettlementChoice → SettlementWorld →
    Option (settlementInterface.Answer call × SettlementWorld)
  | .now, .instant value, world => some (.ok value, { world with clock := value })
  | .get id, .stored, world => some (.ok (world.settlements id), world)
  | .create request requestHash transition, .stored, world =>
      let created := world.create request requestHash transition
      some (.ok created.1, created.2)
  | .transition id expectedVersion transition, .stored, world =>
      let written := world.transition id expectedVersion transition
      some (written.1, written.2)
  | .check _, .policy result, world => some (.ok result, world)
  | .check _, .failure error, world => some (.error error, world)
  | .act _ _, .evidence result, world => some (.ok result, world)
  | .act _ _, .failure error, world => some (.error error, world)
  | .reconcile _, .reconciled result, world => some (.ok result, world)
  | .reconcile _, .failure error, world => some (.error error, world)
  | _, _, _ => none

abbrev settlementServices : Async.Services settlementInterface where
  State := SettlementWorld
  Choice := SettlementChoice
  reply := SettlementWorld.reply

end InterWeave
