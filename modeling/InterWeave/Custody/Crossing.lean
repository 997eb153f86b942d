import InterWeave.Canton.Lineages
import InterWeave.Ethereum.Accounting

/-! # A crossing between two ledgers

An asset is locked on the ledger of `Interop.daml` and represented on the chain of the gateway.
Neither ledger sees the other: what passes between them are signatures of validators over
authorizations, and attestation records of a validator operator. Parties submit commands,
signers sign and accounts send transactions in any order. What those who serve the crossing
check on the one ledger before they act on the other is a condition on each command.
-/

namespace InterWeave

open Daml Atomic

/-! ## The system -/

/-- Who serves the crossing, and what stands for what. -/
structure Crossing (Party : Type) where
  evm : Evm
  gateway : Address
  verifier : Address
  registry : Address
  /-- The operator of the locked assets. -/
  operator : Party
  validatorOperator : Party
  /-- The signers that may sign anything. -/
  faulty : Finset Address
  /-- The 32 bytes that stand for an identifier on the chain. -/
  identifier : String → Bytes32
  representation : Bytes32 → Address

structure CrossingWorld (Party : Type) where
  ledger : Interop.Ledger Party
  chain : EvmWorld
  /-- Who has signed which authorization. -/
  signed : List (Address × AttestationVerifier.Authorization)

inductive CrossingCommand (Party : Type) where
  | submit (submission : Submission Party (Interop.LedgerCommand Party))
  | sign (signer : Address) (authorization : AttestationVerifier.Authorization)
  | transact (timestamp : Uint256) (call : CallTree Message)

namespace Crossing

variable {Party : Type} (crossing : Crossing Party)

/-- Both ledgers and the signers, one command after another. -/
def machine [DecidableEq Party] :
    Machine (CrossingWorld Party) (CrossingCommand Party) Unit where
  execute
    | .submit submission, world =>
        ((), { world with ledger := (Interop.openLedger Party).next submission world.ledger })
    | .sign signer authorization, world =>
        ((), { world with signed := (signer, authorization) :: world.signed })
    | .transact timestamp call, world =>
        ((), { world with chain := (InterWeave.chain crossing.evm).next (timestamp, call) world.chain })

/-! ## Conduct -/

/-- The locked asset of the operator is what the operation represents. -/
structure Stands (locked : Interop.LockedAsset Party) (operationId assetId : Bytes32)
    (amount : Uint256) : Prop where
  operator : locked.operator = crossing.operator
  operationId : crossing.identifier locked.operationId = operationId
  assetId : crossing.identifier locked.assetId = assetId
  amount : locked.amount = amount.toNat

/-- The operator holds a locked asset under the operation, which its signatories have not
archived. -/
def Locks (ledger : Interop.Ledger Party) (operationId assetId : Bytes32) (amount : Uint256) :
    Prop :=
  ∃ contract locked, ledger.payload contract = some (.lockedAsset locked) ∧
    crossing.Stands locked operationId assetId amount ∧
    ∀ archival ∈ ledger.archivals, archival.contract ≠ contract

/-- A signer that is not faulty has signed a mint under the operation. -/
def Mints (signed : List (Address × AttestationVerifier.Authorization)) (operationId : String) :
    Prop :=
  ∃ signer authorization, (signer, authorization) ∈ signed ∧ signer ∉ crossing.faulty ∧
    authorization.effect = .mint ∧ authorization.operationId = crossing.identifier operationId

/-- The gateway has burned under the operation. -/
def Burns (world : EvmWorld) (operationId assetId : String) (amount : Int) : Prop :=
  ∃ execution ∈ world.executions, execution.gateway = crossing.gateway ∧
    execution.effect = .burn ∧ execution.operationId = crossing.identifier operationId ∧
    execution.assetId = crossing.identifier assetId ∧ (execution.amount.toNat : Int) = amount

/-- Records of the validator operator are about burns, and the operator relies on such records
that are on the ledger. Where a mint has been signed for a locked asset, the operator archives it
on a burn only. -/
structure Complies (world : CrossingWorld Party)
    (submission : Submission Party (Interop.LedgerCommand Party)) : Prop where
  attests : crossing.validatorOperator ∈ submission.actAs → ∀ attestation,
    .create (.attestationRecord attestation) ∈ submission.commands →
    attestation.validatorOperator = crossing.validatorOperator →
    crossing.Burns world.chain attestation.operationId attestation.assetId attestation.amount
  relies : crossing.operator ∈ submission.actAs → ∀ contract attestationCid,
    .exercise contract (.authorizeRelease attestationCid) ∈ submission.commands →
    ∃ attestation, world.ledger.payload attestationCid = some (.attestationRecord attestation) ∧
      attestation.validatorOperator = crossing.validatorOperator
  keeps : crossing.operator ∈ submission.actAs → ∀ contract locked,
    .archive contract ∈ submission.commands →
    world.ledger.payload contract = some (.lockedAsset locked) →
    crossing.Mints world.signed locked.operationId →
    crossing.Burns world.chain locked.operationId locked.assetId locked.amount

/-- The administrators keep the role of the gateway, the representation of each asset and a
threshold above the number of faulty signers, and no signature of another signer is forged. -/
structure Admits (signed : List (Address × AttestationVerifier.Authorization))
    (message : Message) : Prop where
  restricted : InterWeaveRepresentation.Restricts crossing.gateway message
  represents : ∀ assetId config, message.target = crossing.registry →
    message.call = .configure assetId config → config.enabled = true →
    config.representation = crossing.representation assetId
  guards : ∀ threshold, message.target = crossing.verifier →
    message.call = .setThreshold threshold → crossing.faulty.card < threshold.toNat
  authentic : ∀ authorization signatures,
    message.call.presents = some (authorization, signatures) → ∀ signature ∈ signatures,
    ∀ signer, signer ∉ crossing.faulty →
    crossing.evm.recover
      (AttestationVerifier.executionDigest crossing.evm crossing.verifier authorization)
      signature = some signer →
    (signer, authorization) ∈ signed

/-- How a command follows the protocol. A signer that is not faulty signs a mint only for what
it has found locked. -/
def Follows (world : CrossingWorld Party) : CrossingCommand Party → Prop
  | .submit submission => crossing.Complies world submission
  | .sign signer authorization => signer ∉ crossing.faulty → authorization.effect = .mint →
      crossing.Locks world.ledger authorization.operationId authorization.assetId
        authorization.amount
  | .transact _ call => call.All (crossing.Admits world.signed)

variable {crossing} in
/-- A message whose call goes no further follows the protocol by what it says alone. -/
theorem follows_transact {world : CrossingWorld Party} {timestamp : Uint256} {message : Message}
    {accepts : Bool} (admits : crossing.Admits world.signed message) :
    crossing.Follows world (.transact timestamp (.node message [] accepts)) := by
  show (CallTree.node message [] accepts).All (crossing.Admits world.signed)
  exact CallTree.all_leaf admits

/-- The contracts of the crossing: the gateway with its verifier and its registry, a threshold
above the number of faulty signers, and the representation of every enabled asset. -/
structure Governed (world : EvmWorld) : Prop where
  gateway : ∃ state, world.code crossing.gateway = some (.gateway state) ∧
    state.verifier = crossing.verifier ∧ state.registry = crossing.registry
  verifier : ∃ state, world.code crossing.verifier = some (.verifier state) ∧
    crossing.faulty.card < state.threshold.toNat
  registry : ∃ state, world.code crossing.registry = some (.registry state) ∧
    ∀ assetId, (state.asset assetId).enabled = true →
      (state.asset assetId).representation = crossing.representation assetId

/-- Nothing has been locked, signed or executed. -/
structure Launched (world : CrossingWorld Party) : Prop where
  ledger : world.ledger = Daml.Ledger.empty
  signed : world.signed = []
  chain : world.chain.Launched crossing.gateway
  governed : crossing.Governed world.chain

end Crossing
end InterWeave
