import InterWeave.Atomic.Reentrancy
import InterWeave.Ethereum.Contracts

/-! # The gateway on its chain

`InterWeaveGateway.sol` among the contracts it calls. A message is sent by an account
whose code is not one of these contracts: an external account, or a contract of which
nothing is known and which may be called back from the gateway's token calls. Pausing and
the reentrancy guard are OpenZeppelin's, outside the repository, and follow their documented
behaviour. An execution is recorded where the gateway marks it as processed, with the
values of its event and with what the verifier held at that moment.
-/

namespace InterWeave

/-! ## State -/

structure InterWeaveGateway where
  roles : Roles
  paused : Bool
  /-- The status of the reentrancy guard. -/
  entered : Bool
  verifier : Address
  registry : Address
  processed : Bytes32 → Effect → Bool

inductive Contract where
  | gateway (state : InterWeaveGateway)
  | verifier (state : AttestationVerifier)
  | registry (state : InterWeaveAssetRegistry)
  | representation (state : InterWeaveRepresentation)

/-- What authorized an execution: the signed values, and the verifier at that time. -/
structure Verification where
  authorization : AttestationVerifier.Authorization
  signatures : List (List UInt8)
  verifier : Address
  state : AttestationVerifier
  timestamp : Uint256

/-- An effect that a gateway has executed, on a token. -/
structure Execution where
  gateway : Address
  operationId : Bytes32
  effect : Effect
  assetId : Bytes32
  token : Address
  account : Address
  amount : Uint256
  verification : Option Verification

structure EvmWorld where
  code : Address → Option Contract
  timestamp : Uint256
  executions : List Execution

namespace EvmWorld

def set (world : EvmWorld) (address : Address) (contract : Contract) : EvmWorld :=
  { world with code := Function.update world.code address (some contract) }

def gatewayAt (world : EvmWorld) (address : Address) : Except EvmError InterWeaveGateway :=
  match world.code address with
  | some (.gateway gateway) => .ok gateway
  | _ => .error .callFailed

def verifierAt (world : EvmWorld) (address : Address) : Except EvmError AttestationVerifier :=
  match world.code address with
  | some (.verifier verifier) => .ok verifier
  | _ => .error .callFailed

/-- `registry.asset(assetId)`. -/
def assetAt (world : EvmWorld) (registry : Address) (assetId : Bytes32) :
    Except EvmError AssetConfig :=
  match world.code registry with
  | some (.registry registry) => .ok (registry.asset assetId)
  | _ => .error .callFailed

end EvmWorld

/-! ## Messages -/

/-- The arguments of `executeMint` and `executeRelease`. -/
structure ExecutionRequest where
  attestationDigest : Bytes32
  operationId : Bytes32
  assetId : Bytes32
  receiver : Address
  amount : Uint256
  validFrom : Uint48
  expiresAt : Uint48
  signatures : List (List UInt8)
  deriving DecidableEq, Repr

inductive ContractCall where
  | access (call : AccessCall)
  | setValidator (validator : Address) (enabled : Bool)
  | setThreshold (threshold : Uint256)
  | configure (assetId : Bytes32) (config : AssetConfig)
  | protocolMint (receiver : Address) (amount : Uint256)
  | protocolBurn (owner : Address) (amount : Uint256)
  | transfer (receiver : Address) (value : Uint256)
  | approve (spender : Address) (value : Uint256)
  | transferFrom (owner receiver : Address) (value : Uint256)
  | pause
  | unpause
  | executeMint (request : ExecutionRequest)
  | executeRelease (request : ExecutionRequest)
  | burnRepresentation (operationId assetId : Bytes32) (amount : Uint256)
      (destinationReceiver : Bytes32)
  deriving DecidableEq, Repr

structure Message where
  sender : Address
  target : Address
  call : ContractCall
  deriving DecidableEq, Repr

/-- A function of a contract that calls no other one. -/
def AttestationVerifier.enter (verifier : AttestationVerifier) (sender : Address) :
    ContractCall → Except EvmError AttestationVerifier
  | .access call => do
      let roles ← verifier.roles.access sender call
      return { verifier with roles }
  | .setValidator validator enabled => do
      verifier.roles.onlyRole .validatorAdmin sender
      verifier.setValidator validator enabled
  | .setThreshold threshold => do
      verifier.roles.onlyRole .validatorAdmin sender
      verifier.setThreshold threshold
  | _ => .error .callFailed

def InterWeaveAssetRegistry.enter (registry : InterWeaveAssetRegistry) (sender : Address) :
    ContractCall → Except EvmError InterWeaveAssetRegistry
  | .access call => do
      let roles ← registry.roles.access sender call
      return { registry with roles }
  | .configure assetId config => do
      registry.roles.onlyRole .registryAdmin sender
      registry.configure assetId config
  | _ => .error .callFailed

def InterWeaveRepresentation.enter (token : InterWeaveRepresentation) (sender : Address) :
    ContractCall → Except EvmError InterWeaveRepresentation
  | .access call => do
      let roles ← token.roles.access sender call
      return { token with roles }
  | .protocolMint receiver amount => token.protocolMint sender receiver amount
  | .protocolBurn owner amount => token.protocolBurn sender owner amount
  | .transfer receiver value => token.move sender receiver value.toNat
  | .approve spender value => token.allow sender spender value.toNat
  | .transferFrom owner receiver value => token.transferFrom sender owner receiver value
  | _ => .error .callFailed

/-! ## The gateway -/

namespace InterWeaveGateway

def constructor (admin pauser verifier registry : Address) : Except EvmError InterWeaveGateway :=
  if admin = 0 ∨ pauser = 0 ∨ verifier = 0 ∨ registry = 0 then
    .error .invalidGatewayConfiguration
  else .ok
    { roles := (Roles.none.set .defaultAdmin admin true).set .pauser pauser true
      paused := false, entered := false, verifier, registry
      processed := fun _ _ => false }

/-- `_processed[operationId][effect] = true`. -/
def consume (gateway : InterWeaveGateway) (operationId : Bytes32) (effect : Effect) :
    InterWeaveGateway :=
  { gateway with processed :=
      (Function.update gateway.processed operationId
        (Function.update (gateway.processed operationId) effect true)) }

end InterWeaveGateway

/-- A gateway marks and records an execution. -/
def EvmWorld.executed (world : EvmWorld) (gateway : InterWeaveGateway) (execution : Execution) :
    EvmWorld :=
  { world.set execution.gateway
      (.gateway (gateway.consume execution.operationId execution.effect)) with
    executions := execution :: world.executions }

namespace InterWeaveGateway

/-- The modifiers `whenNotPaused nonReentrant`. -/
def guarded (self : Address) (body : InterWeaveGateway → EvmWorld → Except EvmError EvmWorld)
    (world : EvmWorld) : Except EvmError EvmWorld := do
  let gateway ← world.gatewayAt self
  if gateway.paused then .error .enforcedPause
  else if gateway.entered then .error .reentrancyGuardReentrantCall
  else
    let entered := { gateway with entered := true }
    let left ← body entered (world.set self (.gateway entered))
    let after ← left.gatewayAt self
    return left.set self (.gateway { after with entered := false })

/-- A call of the gateway to a token: a representation, or unknown code. -/
def callToken (outside : EvmWorld → Except EvmError EvmWorld) (self token : Address)
    (call : ContractCall) (world : EvmWorld) : Except EvmError EvmWorld :=
  match world.code token with
  | some (.representation state) => do
      let next ← state.enter self call
      return world.set token (.representation next)
  | some _ => .error .callFailed
  | none => outside world

variable (evm : Evm) (outside : EvmWorld → Except EvmError EvmWorld) (self : Address)

/-- `_authorizeAndConsume`, for an execution on a token. -/
def authorizeAndConsume (gateway : InterWeaveGateway) (request : ExecutionRequest)
    (effect : Effect) (token : Address) (world : EvmWorld) : Except EvmError EvmWorld :=
  let authorization : AttestationVerifier.Authorization :=
    { attestationDigest := request.attestationDigest, operationId := request.operationId, effect
      assetId := request.assetId, receiver := request.receiver, amount := request.amount
      validFrom := request.validFrom, expiresAt := request.expiresAt }
  if request.amount = 0 then .error .invalidAmount
  else if gateway.processed request.operationId effect then
    .error (.operationAlreadyProcessed request.operationId effect)
  else do
    let verifier ← world.verifierAt gateway.verifier
    let _ ← verifier.verify evm gateway.verifier world.timestamp authorization request.signatures
    return world.executed gateway
      { gateway := self, operationId := request.operationId, effect, assetId := request.assetId
        token, account := request.receiver, amount := request.amount
        verification := some
          { authorization, signatures := request.signatures, verifier := gateway.verifier
            state := verifier, timestamp := world.timestamp } }

def executeMint (request : ExecutionRequest) : EvmWorld → Except EvmError EvmWorld :=
  guarded self fun gateway world => do
    let config ← world.assetAt gateway.registry request.assetId
    if !config.enabled || config.representation = 0 then .error (.assetUnavailable request.assetId)
    else
      let consumed ← authorizeAndConsume evm self gateway request .mint config.representation world
      callToken outside self config.representation (.protocolMint request.receiver request.amount)
        consumed

def executeRelease (request : ExecutionRequest) : EvmWorld → Except EvmError EvmWorld :=
  guarded self fun gateway world => do
    let config ← world.assetAt gateway.registry request.assetId
    if !config.enabled || config.underlying = 0 then .error (.assetUnavailable request.assetId)
    else
      let consumed ← authorizeAndConsume evm self gateway request .release config.underlying world
      callToken outside self config.underlying (.transfer request.receiver request.amount) consumed

def burnRepresentation (sender : Address) (operationId assetId : Bytes32) (amount : Uint256) :
    EvmWorld → Except EvmError EvmWorld :=
  guarded self fun gateway world =>
    if amount = 0 then .error .invalidAmount
    else do
      let config ← world.assetAt gateway.registry assetId
      if !config.enabled || config.representation = 0 then .error (.assetUnavailable assetId)
      else if gateway.processed operationId .burn then
        .error (.operationAlreadyProcessed operationId .burn)
      else
        let consumed := world.executed gateway
          { gateway := self, operationId, effect := .burn, assetId, token := config.representation
            account := sender, amount, verification := none }
        callToken outside self config.representation (.protocolBurn sender amount) consumed

/-- The external functions of the gateway. -/
def enter (gateway : InterWeaveGateway) (sender : Address) (call : ContractCall)
    (world : EvmWorld) : Except EvmError EvmWorld :=
  match call with
  | .access call => do
      let roles ← gateway.roles.access sender call
      return world.set self (.gateway { gateway with roles })
  | .pause => do
      gateway.roles.onlyRole .pauser sender
      if gateway.paused then .error .enforcedPause
      else return world.set self (.gateway { gateway with paused := true })
  | .unpause => do
      gateway.roles.onlyRole .pauser sender
      if !gateway.paused then .error .expectedPause
      else return world.set self (.gateway { gateway with paused := false })
  | .executeMint request => executeMint evm outside self request world
  | .executeRelease request => executeRelease evm outside self request world
  | .burnRepresentation operationId assetId amount _ =>
      burnRepresentation outside self sender operationId assetId amount world
  | _ => .error .callFailed

end InterWeaveGateway

/-! ## The chain -/

/-- What a message does. The contracts themselves send no messages of their own. -/
def EvmWorld.enter (evm : Evm) (message : Message) (outside : EvmWorld → Except EvmError EvmWorld)
    (world : EvmWorld) : Except EvmError EvmWorld :=
  if (world.code message.sender).isSome then .error .callFailed
  else
    match world.code message.target with
    | none => outside world
    | some (.gateway gateway) =>
        gateway.enter evm outside message.target message.sender message.call world
    | some (.verifier verifier) => do
        let next ← verifier.enter message.sender message.call
        return world.set message.target (.verifier next)
    | some (.registry registry) => do
        let next ← registry.enter message.sender message.call
        return world.set message.target (.registry next)
    | some (.representation token) => do
        let next ← token.enter message.sender message.call
        return world.set message.target (.representation next)

def chainContracts (evm : Evm) : Atomic.Contracts EvmWorld Message EvmError where
  enter := EvmWorld.enter evm
  rejection := .callFailed

/-- The chain: each transaction runs at the timestamp of its block. -/
def chain (evm : Evm) :
    Atomic.Machine EvmWorld (Uint256 × Atomic.CallTree Message) (Except EvmError Unit) :=
  (chainContracts evm).transactions fun timestamp world => { world with timestamp }

end InterWeave
