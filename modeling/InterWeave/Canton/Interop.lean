import InterWeave.Daml.Ledger

/-! # Interoperability contracts on Canton

`Interop.daml`: an intent is locked, the locked asset is authorized for release on an
attestation record, and the authorization is executed. Signatories may also create and archive
their contracts without a choice. The registry of routes is left out: no other template refers
to it.
-/

namespace InterWeave.Interop

open Daml

/-! ## Templates -/

inductive TokenStandard where
  | cip0056
  | cip0112
  deriving DecidableEq, Repr

structure TokenHoldingRef where
  standard : TokenStandard
  instrumentId : String
  holdingId : String
  deriving DecidableEq, Repr

structure BridgeIntent (Party : Type) where
  operationId : String
  assetId : String
  holding : TokenHoldingRef
  amount : Int
  owner : Party
  receiver : Party
  operator : Party
  destinationNetworkId : String
  expiresAt : Time
  deriving DecidableEq, Repr

structure LockedAsset (Party : Type) where
  operationId : String
  assetId : String
  holding : TokenHoldingRef
  amount : Int
  owner : Party
  receiver : Party
  operator : Party
  destinationNetworkId : String
  lockedAt : Time
  deriving DecidableEq, Repr

structure AttestationRecord (Party : Type) where
  attestationId : String
  operationId : String
  assetId : String
  amount : Int
  receiver : Party
  destinationNetworkId : String
  digest : String
  validFrom : Time
  expiresAt : Time
  thresholdVerified : Bool
  validatorOperator : Party
  workflowOperator : Party
  deriving DecidableEq, Repr

structure ReleaseAuthorization (Party : Type) where
  operationId : String
  assetId : String
  holding : TokenHoldingRef
  amount : Int
  owner : Party
  receiver : Party
  operator : Party
  destinationNetworkId : String
  attestationDigest : String
  expiresAt : Time
  deriving DecidableEq, Repr

structure ReleasedAsset (Party : Type) where
  operationId : String
  assetId : String
  holding : TokenHoldingRef
  amount : Int
  owner : Party
  receiver : Party
  operator : Party
  destinationNetworkId : String
  attestationDigest : String
  releasedAt : Time
  deriving DecidableEq, Repr

inductive Payload (Party : Type) where
  | bridgeIntent (intent : BridgeIntent Party)
  | lockedAsset (locked : LockedAsset Party)
  | attestationRecord (attestation : AttestationRecord Party)
  | releaseAuthorization (authorization : ReleaseAuthorization Party)
  | releasedAsset (released : ReleasedAsset Party)
  deriving DecidableEq, Repr

/-- The choices that the templates declare. The choice `Archive`, which every template has, is a
command of its own. -/
inductive Choice where
  | lock
  | authorizeRelease (attestationCid : ContractId)
  | executeRelease
  deriving DecidableEq, Repr

variable {Party : Type}

def Payload.signatories : Payload Party → List Party
  | .bridgeIntent intent => [intent.owner, intent.operator]
  | .lockedAsset locked => [locked.owner, locked.operator]
  | .attestationRecord attestation => [attestation.validatorOperator]
  | .releaseAuthorization authorization => [authorization.owner, authorization.operator]
  | .releasedAsset released => [released.owner, released.operator]

def Payload.observers : Payload Party → List Party
  | .bridgeIntent intent => [intent.receiver]
  | .lockedAsset locked => [locked.receiver]
  | .attestationRecord attestation => [attestation.workflowOperator, attestation.receiver]
  | .releaseAuthorization authorization => [authorization.receiver]
  | .releasedAsset released => [released.receiver]

def Payload.ensures : Payload Party → Bool
  | .bridgeIntent intent => 0 < intent.amount && intent.operationId ≠ "" && intent.assetId ≠ ""
  | .attestationRecord attestation =>
      attestation.attestationId ≠ "" && attestation.digest ≠ "" && 0 < attestation.amount &&
        attestation.validFrom < attestation.expiresAt
  | _ => true

def templates (Party : Type) : Templates Party (Payload Party) where
  signatories := Payload.signatories
  observers := Payload.observers
  ensures := Payload.ensures

/-- The controllers of a choice, where the template has it. -/
def controllers : Payload Party → Choice → Option (List Party)
  | .bridgeIntent intent, .lock => some [intent.owner]
  | .lockedAsset locked, .authorizeRelease _ => some [locked.operator]
  | .releaseAuthorization authorization, .executeRelease => some [authorization.owner]
  | _, _ => none

/-! ## Choices -/

abbrev Ledger (Party : Type) := Daml.Ledger Party (Payload Party) Choice

abbrev Update (Party : Type) := Daml.Update Party (Payload Party) Choice

open Daml.Update

variable [DecidableEq Party]

def BridgeIntent.lock (intent : BridgeIntent Party) : Update Party ContractId := do
  let now ← getTime
  assertMsg "bridge intent has expired" (now < intent.expiresAt)
  create (templates Party) (.lockedAsset
    { operationId := intent.operationId, assetId := intent.assetId, holding := intent.holding
      amount := intent.amount, owner := intent.owner, receiver := intent.receiver
      operator := intent.operator, destinationNetworkId := intent.destinationNetworkId
      lockedAt := now })

/-- `fetch` at the type of attestation records. -/
def fetchAttestation (attestationCid : ContractId) : Update Party (AttestationRecord Party) := do
  match ← fetch (templates Party) attestationCid with
  | .attestationRecord attestation => return attestation
  | _ => fail .wrongTemplate

def LockedAsset.authorizeRelease (locked : LockedAsset Party) (attestationCid : ContractId) :
    Update Party ContractId := do
  let attestation ← fetchAttestation attestationCid
  let now ← getTime
  assertMsg "attestation operation mismatch" (attestation.operationId = locked.operationId)
  assertMsg "attestation asset mismatch" (attestation.assetId = locked.assetId)
  assertMsg "attestation amount mismatch" (attestation.amount = locked.amount)
  assertMsg "attestation receiver mismatch" (attestation.receiver = locked.receiver)
  assertMsg "attestation destination mismatch"
    (attestation.destinationNetworkId = locked.destinationNetworkId)
  assertMsg "attestation is not yet valid" (attestation.validFrom ≤ now)
  assertMsg "attestation has expired" (now < attestation.expiresAt)
  assertMsg "attestation threshold was not verified" attestation.thresholdVerified
  create (templates Party) (.releaseAuthorization
    { operationId := locked.operationId, assetId := locked.assetId, holding := locked.holding
      amount := locked.amount, owner := locked.owner, receiver := locked.receiver
      operator := locked.operator, destinationNetworkId := locked.destinationNetworkId
      attestationDigest := attestation.digest, expiresAt := attestation.expiresAt })

def ReleaseAuthorization.executeRelease (authorization : ReleaseAuthorization Party) :
    Update Party ContractId := do
  let now ← getTime
  assertMsg "release authorization has expired" (now < authorization.expiresAt)
  create (templates Party) (.releasedAsset
    { operationId := authorization.operationId, assetId := authorization.assetId
      holding := authorization.holding, amount := authorization.amount
      owner := authorization.owner, receiver := authorization.receiver
      operator := authorization.operator
      destinationNetworkId := authorization.destinationNetworkId
      attestationDigest := authorization.attestationDigest, releasedAt := now })

def body : Payload Party → Choice → Update Party ContractId
  | .bridgeIntent intent, .lock => intent.lock
  | .lockedAsset locked, .authorizeRelease attestationCid => locked.authorizeRelease attestationCid
  | .releaseAuthorization authorization, .executeRelease => authorization.executeRelease
  | _, _ => fail .wrongTemplate

/-! ## Commands -/

/-- Every command that parties submit. Signatories create any contract, also one that a choice
would create, and archive any contract. -/
inductive LedgerCommand (Party : Type) where
  | create (payload : Payload Party)
  | exercise (contract : ContractId) (choice : Choice)
  | archive (contract : ContractId)
  deriving DecidableEq, Repr

def LedgerCommand.perform : LedgerCommand Party → Update Party ContractId
  | .create payload => Daml.Update.create (templates Party) payload
  | .exercise contract choice =>
      Daml.Update.exercise (templates Party) controllers body contract choice
  | .archive contract => do
      Daml.Update.archive (templates Party) contract
      return contract

/-- The ledger, under any submissions of any parties. -/
abbrev openLedger (Party : Type) [DecidableEq Party] :
    Atomic.Machine (Ledger Party) (Submission Party (LedgerCommand Party)) (Except Error Unit) :=
  submissions LedgerCommand.perform

/-- The commands that create intents and records only: every other contract results from a
choice. -/
inductive Command (Party : Type) where
  | createBridgeIntent (intent : BridgeIntent Party)
  | createAttestationRecord (attestation : AttestationRecord Party)
  | exercise (contract : ContractId) (choice : Choice)
  | archive (contract : ContractId)
  deriving DecidableEq, Repr

def Command.submitted : Command Party → LedgerCommand Party
  | .createBridgeIntent intent => .create (.bridgeIntent intent)
  | .createAttestationRecord attestation => .create (.attestationRecord attestation)
  | .exercise contract choice => .exercise contract choice
  | .archive contract => .archive contract

def Command.perform (command : Command Party) : Update Party ContractId :=
  command.submitted.perform

/-- The ledger, under submissions of any parties. -/
abbrev ledger (Party : Type) [DecidableEq Party] :
    Atomic.Machine (Ledger Party) (Submission Party (Command Party)) (Except Error Unit) :=
  submissions Command.perform

/-- The runs of the ledger are runs of the open one. -/
theorem openLedger_run (run : List (Submission Party (Command Party))) (start : Ledger Party) :
    (openLedger Party).run (run.map (Submission.map Command.submitted)) start =
      (ledger Party).run run start :=
  submissions_run_map LedgerCommand.perform Command.submitted run start

end InterWeave.Interop
