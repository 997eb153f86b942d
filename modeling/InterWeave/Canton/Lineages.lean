import InterWeave.Canton.Releases
import InterWeave.Daml.Lineage

/-! # From an intent to its release

An intent, the asset locked from it, the authorization and the released asset are one chain of
contracts that carry the same asset. An authorization takes its expiry from the record it was
made on, so a release lies before the expiry of that record.
-/

namespace InterWeave.Interop

open Daml

/-- What the contracts of a lineage have in common. -/
structure BridgedAsset (Party : Type) where
  operationId : String
  assetId : String
  holding : TokenHoldingRef
  amount : Int
  owner : Party
  receiver : Party
  operator : Party
  destinationNetworkId : String
  deriving DecidableEq, Repr

section Assets

variable {Party : Type}

def BridgeIntent.bridged (intent : BridgeIntent Party) : BridgedAsset Party :=
  ⟨intent.operationId, intent.assetId, intent.holding, intent.amount, intent.owner,
    intent.receiver, intent.operator, intent.destinationNetworkId⟩

def LockedAsset.bridged (locked : LockedAsset Party) : BridgedAsset Party :=
  ⟨locked.operationId, locked.assetId, locked.holding, locked.amount, locked.owner,
    locked.receiver, locked.operator, locked.destinationNetworkId⟩

def ReleaseAuthorization.bridged (authorization : ReleaseAuthorization Party) :
    BridgedAsset Party :=
  ⟨authorization.operationId, authorization.assetId, authorization.holding, authorization.amount,
    authorization.owner, authorization.receiver, authorization.operator,
    authorization.destinationNetworkId⟩

def ReleasedAsset.bridged (released : ReleasedAsset Party) : BridgedAsset Party :=
  ⟨released.operationId, released.assetId, released.holding, released.amount, released.owner,
    released.receiver, released.operator, released.destinationNetworkId⟩

def Payload.bridged : Payload Party → Option (BridgedAsset Party)
  | .bridgeIntent intent => some intent.bridged
  | .lockedAsset locked => some locked.bridged
  | .attestationRecord _ => none
  | .releaseAuthorization authorization => some authorization.bridged
  | .releasedAsset released => some released.bridged

/-- A choice leaves a contract for the same asset. -/
theorem Yields.bridged {found : ContractId → Option (Payload Party)} {now : Time}
    {source target : Payload Party} {choice : Choice} (yields : Yields found now source choice target) :
    target.bridged = source.bridged := by
  cases yields <;> rfl

/-- How many choices lead to a contract. -/
def Payload.stage : Payload Party → Nat
  | .bridgeIntent _ | .attestationRecord _ => 0
  | .lockedAsset _ => 1
  | .releaseAuthorization _ => 2
  | .releasedAsset _ => 3

theorem Payload.stage_le (payload : Payload Party) : payload.stage ≤ 3 := by
  cases payload <;> simp only [stage, Nat.zero_le, Nat.reduceLeDiff, Nat.le_refl]

theorem Yields.stage {found : ContractId → Option (Payload Party)} {now : Time}
    {source target : Payload Party} {choice : Choice} (yields : Yields found now source choice target) :
    target.stage = source.stage + 1 := by
  cases yields <;> rfl

end Assets

/-! ## The invariant -/

section Invariant

variable {Party : Type} {ledger next : Ledger Party} {direct : Payload Party → Prop}

/-- The signatories of a contract have archived it. -/
def ArchivedBy (ledger : Ledger Party) (archival : Archival Party) : Prop :=
  ∃ payload, ledger.payload archival.contract = some payload ∧
    ∀ party ∈ payload.signatories, party ∈ archival.authorizers

/-- Contracts are traced and consumed, every choice has left what it yields, and no contract was
archived but by a choice or by its signatories. -/
structure Lineages (direct : Payload Party → Prop) (ledger : Ledger Party) : Prop where
  traced : Traced direct ledger
  consuming : Consuming ledger
  recorded : ∀ exercised ∈ ledger.exercised, ∃ target,
    ledger.payload exercised.result = some target ∧
      Derives ledger exercised.result target exercised
  archived : ∀ archival ∈ ledger.archivals, ArchivedBy ledger archival

theorem Lineages.empty : Lineages direct (Daml.Ledger.empty : Ledger Party) where
  traced := .empty
  consuming := .empty
  recorded exercised member := by cases member
  archived archival member := by cases member

/-- Every choice of the ledger after a command was there before, or has left the contract that
the command added. -/
theorem Lineages.recorded_step {context : Context Party} {command : LedgerCommand Party}
    (lineages : Lineages direct ledger) (step : Step context ledger command next) :
    ∀ exercised ∈ next.exercised, ∃ target, next.payload exercised.result = some target ∧
      Derives next exercised.result target exercised := by
  have kept : ∀ contract payload, ledger.payload contract = some payload →
      next.payload contract = some payload := fun _ _ => step.kept
  have earlier : ∀ exercised ∈ ledger.exercised, ∃ target,
      next.payload exercised.result = some target ∧
        Derives next exercised.result target exercised := by
    intro exercised member
    obtain ⟨target, known, derives⟩ := lineages.recorded exercised member
    exact ⟨target, kept _ _ known, derives.mono kept⟩
  cases step with
  | create signed => exact earlier
  | @exercise contract choice source target actors active controlled permitted yields signed =>
      intro exercised member
      rcases List.mem_cons.mp member with rfl | before
      · refine ⟨target, Daml.Ledger.payload_append.mpr (.inr ⟨rfl, rfl⟩), rfl, source, actors, ?_,
          controlled, permitted, yields.mono kept⟩
        exact kept _ _ (Daml.Ledger.payload_of_active active)
      · exact earlier exercised before
  | archive active signed => exact earlier

theorem Lineages.archived_step {context : Context Party} {command : LedgerCommand Party}
    (lineages : Lineages direct ledger) (step : Step context ledger command next) :
    ∀ archival ∈ next.archivals, ArchivedBy next archival := by
  have earlier : ∀ archival ∈ ledger.archivals, ArchivedBy next archival := by
    intro archival member
    obtain ⟨payload, known, signed⟩ := lineages.archived archival member
    exact ⟨payload, step.kept known, signed⟩
  cases step with
  | create signed => exact earlier
  | exercise active controlled permitted yields signed => exact earlier
  | @archive contract source active signed =>
      have known : ledger.payload contract = some source := Daml.Ledger.payload_of_active active
      exact List.forall_mem_cons.mpr ⟨⟨source, known, signed⟩, earlier⟩

theorem Lineages.step {context : Context Party} {command : LedgerCommand Party}
    (lineages : Lineages direct ledger) (step : Step context ledger command next)
    (creates : ∀ payload, command = .create payload → direct payload) : Lineages direct next := by
  refine ⟨lineages.traced.step step creates, ?_, lineages.recorded_step step,
    lineages.archived_step step⟩
  cases step with
  | create signed => exact lineages.consuming.append _
  | @exercise contract choice source target actors active controlled permitted yields signed =>
      exact lineages.consuming.exercise ⟨contract, choice, context.authorizers, context.time,
        ledger.created.length⟩ _ (Daml.Ledger.unarchived_of_active active)
  | @archive contract source active signed =>
      exact lineages.consuming.withdraw ⟨contract, context.authorizers, context.time⟩
        (Daml.Ledger.unarchived_of_active active)

theorem Lineages.run [DecidableEq Party] (lineages : Lineages Payload.Submitted ledger)
    (run : List (Submission Party (Command Party))) :
    Lineages Payload.Submitted ((Interop.ledger Party).run run ledger) := by
  refine (submissions_preserves ?_).run run lineages
  intro command context ledger result next lineages performed
  exact lineages.step (Command.perform_ok performed) fun _ => Command.submitted_of_create

theorem Lineages.open_run [DecidableEq Party] (lineages : Lineages (fun _ => True) ledger)
    (run : List (Submission Party (LedgerCommand Party))) :
    Lineages (fun _ => True) ((openLedger Party).run run ledger) := by
  refine (submissions_preserves ?_).run run lineages
  intro command context ledger result next lineages performed
  exact lineages.step (LedgerCommand.perform_ok performed) fun _ _ => trivial

/-- Descendants are contracts for the same asset. -/
theorem Lineages.bridged (lineages : Lineages direct ledger) {ancestor contract : ContractId}
    {payload : Payload Party} (known : ledger.payload ancestor = some payload)
    (descends : Descends ledger ancestor contract) :
    ∃ target, ledger.payload contract = some target ∧ target.bridged = payload.bridged := by
  induction descends with
  | refl => exact ⟨payload, known, rfl⟩
  | @choice exercised _ member ih =>
      obtain ⟨source, found, same⟩ := ih
      obtain ⟨target, left, _, there, actors, consumed, _, _, yields⟩ :=
        lineages.recorded exercised member
      cases found.symm.trans consumed
      exact ⟨target, left, yields.bridged.trans same⟩

/-- Every contract for an asset descends from an intent, where nothing else is created directly
for it. -/
theorem Lineages.origin (lineages : Lineages direct ledger) {contract : ContractId}
    {payload : Payload Party} {asset : BridgedAsset Party}
    (submitted : ∀ payload, direct payload → payload.bridged = some asset → payload.Submitted)
    (known : ledger.payload contract = some payload) (stands : payload.bridged = some asset) :
    ∃ origin intent, ledger.payload origin = some (.bridgeIntent intent) ∧
      intent.bridged = asset ∧ Descends ledger origin contract := by
  induction stage : payload.stage generalizing contract payload with
  | zero =>
      cases payload with
      | bridgeIntent intent => exact ⟨contract, intent, known, Option.some.inj stands, .refl⟩
      | attestationRecord attestation => cases stands
      | lockedAsset locked => cases stage
      | releaseAuthorization authorization => cases stage
      | releasedAsset released => cases stage
  | succ earlier ih =>
      rcases lineages.traced.derived contract payload known with created | ⟨exercised, member, derives⟩
      · have opens := submitted payload created stands
        cases payload with
        | bridgeIntent intent => cases stage
        | attestationRecord attestation => cases stage
        | lockedAsset locked => cases opens
        | releaseAuthorization authorization => cases opens
        | releasedAsset released => cases opens
      · obtain ⟨left, source, actors, consumed, _, _, yields⟩ := derives
        have before : source.stage = earlier := Nat.succ.inj (yields.stage.symm.trans stage)
        obtain ⟨origin, intent, begun, same, descends⟩ :=
          ih consumed (yields.bridged.symm.trans stands) before
        exact ⟨origin, intent, begun, same, left ▸ .choice descends member⟩

/-- A released asset has no choices. -/
theorem Lineages.released_unexercised (lineages : Lineages direct ledger) {contract : ContractId}
    {released : ReleasedAsset Party}
    (known : ledger.payload contract = some (.releasedAsset released)) :
    Unexercised ledger contract := by
  rintro exercised member rfl
  obtain ⟨_, _, _, source, actors, found, controlled, _⟩ := lineages.recorded exercised member
  cases known.symm.trans found
  cases controlled

/-- The asset is locked, authorized for release or released: the contracts that stand for it. -/
def Current (ledger : Ledger Party) (contract : ContractId) : Prop :=
  (∃ locked, ledger.active contract = some (.lockedAsset locked)) ∨
    (∃ authorization, ledger.active contract = some (.releaseAuthorization authorization)) ∨
    ∃ released, ledger.payload contract = some (.releasedAsset released)

theorem Lineages.current_unexercised (lineages : Lineages direct ledger) {contract : ContractId}
    (current : Current ledger contract) : Unexercised ledger contract := by
  rcases current with ⟨locked, active⟩ | ⟨authorization, active⟩ | ⟨released, known⟩
  · exact lineages.consuming.unexercised active
  · exact lineages.consuming.unexercised active
  · exact lineages.released_unexercised known

/-- The contract descends from an authorization of the asset on the record, at a time in its
window. -/
def AuthorizedOn (ledger : Ledger Party) (contract : ContractId) (asset : BridgedAsset Party)
    (attestation : AttestationRecord Party) : Prop :=
  ∃ exercised ∈ ledger.exercised, ∃ attestationCid locked,
    exercised.choice = .authorizeRelease attestationCid ∧
      ledger.payload attestationCid = some (.attestationRecord attestation) ∧
      ledger.payload exercised.contract = some (.lockedAsset locked) ∧
      attestation.Attests locked exercised.time ∧ locked.bridged = asset ∧
      Descends ledger exercised.result contract

theorem Lineages.authorized (lineages : Lineages Payload.Submitted ledger) {contract : ContractId}
    {authorization : ReleaseAuthorization Party}
    (known : ledger.payload contract = some (.releaseAuthorization authorization)) :
    ∃ attestation, AuthorizedOn ledger contract authorization.bridged attestation ∧
      authorization.expiresAt = attestation.expiresAt := by
  rcases lineages.traced.derived contract _ known with submitted | ⟨exercised, member, derives⟩
  · cases submitted
  · obtain ⟨locked, attestationCid, attestation, choice, source, rfl, _, recorded, attests⟩ :=
      derives.authorized
    refine ⟨attestation, ⟨exercised, member, attestationCid, locked, choice, recorded, source,
      attests, rfl, ?_⟩, rfl⟩
    rw [derives.1]
    exact .refl

/-- A released asset results from an authorization that had not expired. -/
theorem Derives.executed {contract : ContractId} {released : ReleasedAsset Party}
    {exercised : Exercised Party Choice}
    (derives : Derives ledger contract (.releasedAsset released) exercised) :
    ∃ authorization, ledger.payload exercised.contract =
        some (.releaseAuthorization authorization) ∧
      released = authorization.released exercised.time ∧
      exercised.time < authorization.expiresAt := by
  obtain ⟨_, source, actors, known, controlled, permitted, yields⟩ := derives
  generalize exercised.choice = choice at controlled yields
  cases yields with
  | @executeRelease authorization unexpired => exact ⟨authorization, known, rfl, unexpired⟩

theorem Lineages.released (lineages : Lineages Payload.Submitted ledger) {contract : ContractId}
    {released : ReleasedAsset Party}
    (known : ledger.payload contract = some (.releasedAsset released)) :
    ∃ attestation, AuthorizedOn ledger contract released.bridged attestation ∧
      released.releasedAt < attestation.expiresAt := by
  rcases lineages.traced.derived contract _ known with submitted | ⟨exercised, member, derives⟩
  · cases submitted
  · obtain ⟨authorization, source, rfl, unexpired⟩ := derives.executed
    obtain ⟨attestation, ⟨use, among, attestationCid, locked, choice, recorded, from_locked,
      attests, same, descends⟩, expiry⟩ := lineages.authorized source
    refine ⟨attestation, ⟨use, among, attestationCid, locked, choice, recorded, from_locked,
      attests, same, ?_⟩, expiry ▸ unexpired⟩
    rw [← derives.1]
    exact .choice descends member

end Invariant

/-- **Lineages.** In every ledger that parties can reach, at any ledger times, at most one locked
asset, authorization or released asset stands for an intent, with the asset of the intent, and
whatever is authorized or released was authorized on a record that agrees with it and was in
force, and released before that record expired. -/
theorem lineages_single {Party : Type} [DecidableEq Party]
    (run : List (Submission Party (Command Party))) :
    let reached := (ledger Party).run run Daml.Ledger.empty
    (∀ origin intent, reached.payload origin = some (.bridgeIntent intent) →
      (∀ first second, Descends reached origin first → Descends reached origin second →
        Current reached first → Current reached second → first = second) ∧
      ∀ contract, Descends reached origin contract →
        ∃ payload, reached.payload contract = some payload ∧
          payload.bridged = some intent.bridged) ∧
    (∀ contract authorization,
      reached.payload contract = some (.releaseAuthorization authorization) →
        ∃ attestation, AuthorizedOn reached contract authorization.bridged attestation) ∧
    ∀ contract released, reached.payload contract = some (.releasedAsset released) →
      ∃ attestation, AuthorizedOn reached contract released.bridged attestation ∧
        released.releasedAt < attestation.expiresAt := by
  intro reached
  have lineages : Lineages Payload.Submitted reached := Lineages.empty.run run
  refine ⟨fun origin intent known => ⟨?_, fun contract descends => ?_⟩, ?_, ?_⟩
  · intro first second here there current alive
    exact Descends.unique lineages.consuming here there (lineages.current_unexercised current)
      (lineages.current_unexercised alive)
  · exact lineages.bridged known descends
  · intro contract authorization known
    obtain ⟨attestation, authorized, _⟩ := lineages.authorized known
    exact ⟨attestation, authorized⟩
  · intro contract released known
    exact lineages.released known

end InterWeave.Interop
