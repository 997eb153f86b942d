import InterWeave.Core.JsString
import Mathlib.Algebra.Group.Nat.Defs
import Mathlib.Logic.Function.Basic

/-! # The contracts around the gateway

`AttestationVerifier.sol`, `InterWeaveAssetRegistry.sol` and
`InterWeaveRepresentation.sol`, over the access control and the ERC-20 token of
OpenZeppelin. These two are not part of the repository: `Roles.access`, `Roles.onlyRole`,
`mint`, `burn`, `move`, `allow` and `spendAllowance` follow their documented behaviour. A
function takes the state of its contract and the sender and returns the next state or the
error it reverts with. Amounts in storage are natural numbers: the one addition that may
overflow, that of the total supply, is checked. Hashing and signature recovery are left
open.
-/

namespace InterWeave

abbrev Address := BitVec 160

abbrev Bytes32 := BitVec 256

abbrev Uint256 := BitVec 256

abbrev Uint48 := BitVec 48

/-- The parts of the chain that the contracts call and the model leaves open. -/
structure Evm where
  chainId : Uint256
  keccak256 : List UInt8 → Bytes32
  /-- `ECDSA.recover`; `none` where it reverts. -/
  recover : Bytes32 → List UInt8 → Option Address

/-- The replayable effects of the gateway. -/
inductive Effect where
  | mint
  | release
  | burn
  deriving DecidableEq, Repr

/-- `EFFECT_MINT`, `EFFECT_RELEASE` and `EFFECT_BURN`. -/
def Effect.code : Effect → Nat
  | .mint => 1
  | .release => 2
  | .burn => 3

inductive EvmError where
  | accessControlUnauthorizedAccount (account : Address)
  | accessControlBadConfirmation
  | enforcedPause
  | expectedPause
  | reentrancyGuardReentrantCall
  | erc20InvalidSender (sender : Address)
  | erc20InvalidReceiver (receiver : Address)
  | erc20InvalidApprover (approver : Address)
  | erc20InvalidSpender (spender : Address)
  | erc20InsufficientBalance (sender : Address) (balance needed : Nat)
  | erc20InsufficientAllowance (spender : Address) (allowance needed : Nat)
  | ecdsaInvalidSignature
  | arithmeticOverflow
  | invalidVerifierConfiguration
  | invalidThreshold
  | duplicateOrUnsortedSigner
  | unauthorizedValidator (signer : Address)
  | invalidAttestationTime
  | invalidAssetConfiguration
  | invalidRepresentationConfiguration
  | invalidGatewayConfiguration
  | operationAlreadyProcessed (operationId : Bytes32) (effect : Effect)
  | assetUnavailable (assetId : Bytes32)
  | invalidAmount
  /-- There is no such function at the address, or the code there reverts. -/
  | callFailed
  deriving DecidableEq, Repr

/-! ## Access control -/

/-- The roles of all contracts. Every role is administered by the default one. -/
inductive Role where
  | defaultAdmin
  | validatorAdmin
  | registryAdmin
  | pauser
  | gateway
  deriving DecidableEq, Repr

abbrev Roles := Role → Address → Bool

namespace Roles

def none : Roles := fun _ _ => false

def set (roles : Roles) (role : Role) (account : Address) (held : Bool) : Roles :=
  Function.update roles role (Function.update (roles role) account held)

/-- `onlyRole(role)`. -/
def onlyRole (roles : Roles) (role : Role) (sender : Address) : Except EvmError Unit :=
  if roles role sender then .ok () else .error (.accessControlUnauthorizedAccount sender)

end Roles

inductive AccessCall where
  | grantRole (role : Role) (account : Address)
  | revokeRole (role : Role) (account : Address)
  | renounceRole (role : Role) (callerConfirmation : Address)
  deriving DecidableEq, Repr

/-- The external functions of `AccessControl`. -/
def Roles.access (roles : Roles) (sender : Address) : AccessCall → Except EvmError Roles
  | .grantRole role account => do
      roles.onlyRole .defaultAdmin sender
      return roles.set role account true
  | .revokeRole role account => do
      roles.onlyRole .defaultAdmin sender
      return roles.set role account false
  | .renounceRole role callerConfirmation =>
      if callerConfirmation ≠ sender then .error .accessControlBadConfirmation
      else .ok (roles.set role sender false)

/-! ## The verifier -/

structure AttestationVerifier where
  roles : Roles
  isValidator : Address → Bool
  threshold : Uint256

/-- The 32 bytes of a word. -/
def wordBytes (word : BitVec 256) : List UInt8 :=
  (List.range 32).map fun index => (word >>> (8 * (31 - index))).toNat.toUInt8

/-- `abi.encode` of static values, as their words. -/
def abiEncode (words : List (BitVec 256)) : List UInt8 := words.flatMap wordBytes

namespace AttestationVerifier

def setValidator (verifier : AttestationVerifier) (validator : Address) (enabled : Bool) :
    Except EvmError AttestationVerifier :=
  if validator = 0 then .error .invalidVerifierConfiguration
  else .ok { verifier with isValidator := Function.update verifier.isValidator validator enabled }

def setThreshold (verifier : AttestationVerifier) (threshold : Uint256) :
    Except EvmError AttestationVerifier :=
  if threshold = 0 then .error .invalidThreshold else .ok { verifier with threshold }

def constructor (admin validatorAdmin : Address) (validators : List Address)
    (threshold : Uint256) : Except EvmError AttestationVerifier := do
  if admin = 0 ∨ validatorAdmin = 0 then throw .invalidVerifierConfiguration
  let verifier : AttestationVerifier :=
    { roles := (Roles.none.set .defaultAdmin admin true).set .validatorAdmin validatorAdmin true
      isValidator := fun _ => false, threshold := 0 }
  let verifier ← validators.foldlM (fun verifier validator => verifier.setValidator validator true)
    verifier
  verifier.setThreshold threshold

/-- What the validators of one verifier sign for an execution. -/
structure Authorization where
  attestationDigest : Bytes32
  operationId : Bytes32
  effect : Effect
  assetId : Bytes32
  receiver : Address
  amount : Uint256
  validFrom : Uint48
  expiresAt : Uint48
  deriving DecidableEq, Repr

/-- `executionDigest`, at the address of the verifier. -/
def executionDigest (evm : Evm) (self : Address) (authorization : Authorization) : Bytes32 :=
  evm.keccak256 (abiEncode
    [evm.keccak256 (js "INTERWEAVE_EVM_EXECUTION_V1").encode, evm.chainId, self.setWidth 256,
      authorization.attestationDigest, authorization.operationId,
      BitVec.ofNat 256 authorization.effect.code, authorization.assetId,
      authorization.receiver.setWidth 256, authorization.amount,
      authorization.validFrom.setWidth 256, authorization.expiresAt.setWidth 256])

/-- The loop of `verify`: the signers of the signatures, above the previous one. -/
def signers (evm : Evm) (verifier : AttestationVerifier) (digest : Bytes32) :
    Address → List (List UInt8) → Except EvmError (List Address)
  | _, [] => .ok []
  | previous, signature :: rest =>
      match evm.recover digest signature with
      | none => .error .ecdsaInvalidSignature
      | some signer =>
          if signer ≤ previous then .error .duplicateOrUnsortedSigner
          else if !verifier.isValidator signer then .error (.unauthorizedValidator signer)
          else (signers evm verifier digest signer rest).map fun others => signer :: others

/-- `verify`, with the signers it accepts. -/
def verify (evm : Evm) (verifier : AttestationVerifier) (self : Address) (timestamp : Uint256)
    (authorization : Authorization) (signatures : List (List UInt8)) :
    Except EvmError (List Address) :=
  if timestamp.toNat < authorization.validFrom.toNat ∨
      authorization.expiresAt.toNat ≤ timestamp.toNat ∨
      authorization.expiresAt.toNat ≤ authorization.validFrom.toNat then
    .error .invalidAttestationTime
  else if signatures.length < verifier.threshold.toNat then .error .invalidThreshold
  else verifier.signers evm (executionDigest evm self authorization) 0 signatures

end AttestationVerifier

/-! ## The asset registry -/

structure AssetConfig where
  representation : Address
  underlying : Address
  enabled : Bool
  deriving DecidableEq, Repr

structure InterWeaveAssetRegistry where
  roles : Roles
  asset : Bytes32 → AssetConfig

namespace InterWeaveAssetRegistry

def constructor (admin registryAdmin : Address) : Except EvmError InterWeaveAssetRegistry :=
  if admin = 0 ∨ registryAdmin = 0 then .error .invalidAssetConfiguration
  else .ok
    { roles := (Roles.none.set .defaultAdmin admin true).set .registryAdmin registryAdmin true
      asset := fun _ => ⟨0, 0, false⟩ }

def configure (registry : InterWeaveAssetRegistry) (assetId : Bytes32) (config : AssetConfig) :
    Except EvmError InterWeaveAssetRegistry :=
  if assetId = 0 ∨ (config.representation = 0 ∧ config.underlying = 0) then
    .error .invalidAssetConfiguration
  else .ok { registry with asset := Function.update registry.asset assetId config }

end InterWeaveAssetRegistry

/-! ## The representation token -/

/-- The token that represents an asset. The name, the symbol and the decimals are left
out: no function reads them. -/
structure InterWeaveRepresentation where
  roles : Roles
  balances : Address → Nat
  allowances : Address → Address → Nat
  totalSupply : Nat

namespace InterWeaveRepresentation

def constructor (admin gateway : Address) : Except EvmError InterWeaveRepresentation :=
  if admin = 0 ∨ gateway = 0 then .error .invalidRepresentationConfiguration
  else .ok
    { roles := (Roles.none.set .defaultAdmin admin true).set .gateway gateway true
      balances := fun _ => 0, allowances := fun _ _ => 0, totalSupply := 0 }

/-- `_mint(account, value)`. -/
def mint (token : InterWeaveRepresentation) (account : Address) (value : Nat) :
    Except EvmError InterWeaveRepresentation :=
  if account = 0 then .error (.erc20InvalidReceiver 0)
  else if 2 ^ 256 ≤ token.totalSupply + value then .error .arithmeticOverflow
  else .ok { token with
    balances := Function.update token.balances account (token.balances account + value)
    totalSupply := token.totalSupply + value }

/-- `_burn(account, value)`. -/
def burn (token : InterWeaveRepresentation) (account : Address) (value : Nat) :
    Except EvmError InterWeaveRepresentation :=
  if account = 0 then .error (.erc20InvalidSender 0)
  else if token.balances account < value then
    .error (.erc20InsufficientBalance account (token.balances account) value)
  else .ok { token with
    balances := Function.update token.balances account (token.balances account - value)
    totalSupply := token.totalSupply - value }

/-- `_transfer(sender, receiver, value)`. -/
def move (token : InterWeaveRepresentation) (sender receiver : Address) (value : Nat) :
    Except EvmError InterWeaveRepresentation :=
  if sender = 0 then .error (.erc20InvalidSender 0)
  else if receiver = 0 then .error (.erc20InvalidReceiver 0)
  else if token.balances sender < value then
    .error (.erc20InsufficientBalance sender (token.balances sender) value)
  else
    let debited := Function.update token.balances sender (token.balances sender - value)
    .ok { token with balances := Function.update debited receiver (debited receiver + value) }

/-- `_approve(owner, spender, value)`. -/
def allow (token : InterWeaveRepresentation) (owner spender : Address) (value : Nat) :
    Except EvmError InterWeaveRepresentation :=
  if owner = 0 then .error (.erc20InvalidApprover 0)
  else if spender = 0 then .error (.erc20InvalidSpender 0)
  else .ok { token with allowances :=
    (Function.update token.allowances owner
      (Function.update (token.allowances owner) spender value)) }

/-- `_spendAllowance(owner, spender, value)`. The largest allowance is not spent. -/
def spendAllowance (token : InterWeaveRepresentation) (owner spender : Address) (value : Nat) :
    Except EvmError InterWeaveRepresentation :=
  let allowance := token.allowances owner spender
  if 2 ^ 256 - 1 ≤ allowance then .ok token
  else if allowance < value then
    .error (.erc20InsufficientAllowance spender allowance value)
  else token.allow owner spender (allowance - value)

def protocolMint (token : InterWeaveRepresentation) (sender receiver : Address)
    (amount : Uint256) : Except EvmError InterWeaveRepresentation := do
  token.roles.onlyRole .gateway sender
  token.mint receiver amount.toNat

def protocolBurn (token : InterWeaveRepresentation) (sender owner : Address)
    (amount : Uint256) : Except EvmError InterWeaveRepresentation := do
  token.roles.onlyRole .gateway sender
  token.burn owner amount.toNat

def transferFrom (token : InterWeaveRepresentation) (sender owner receiver : Address)
    (value : Uint256) : Except EvmError InterWeaveRepresentation := do
  let spent ← token.spendAllowance owner sender value.toNat
  spent.move owner receiver value.toNat

end InterWeaveRepresentation
end InterWeave
