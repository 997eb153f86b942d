import InterWeave.Canton.Interop

/-! # How assets are released

Every release authorization comes from an attestation record that its named validator
operator has signed and that agrees with the locked asset, and every released asset
comes from its owner. The record may name any party as its validator operator, the
operator of the asset included: no contract says who the validators are.
-/

namespace InterWeave.Interop

open Daml Daml.Update

/-! ## What the commands do -/

section Steps

variable {Party : Type}

/-- The record vouches for the release of the asset at this time. -/
structure AttestationRecord.Attests (attestation : AttestationRecord Party)
    (locked : LockedAsset Party) (now : Time) : Prop where
  operationId : attestation.operationId = locked.operationId
  assetId : attestation.assetId = locked.assetId
  amount : attestation.amount = locked.amount
  receiver : attestation.receiver = locked.receiver
  destinationNetworkId : attestation.destinationNetworkId = locked.destinationNetworkId
  validFrom : attestation.validFrom ≤ now
  expiresAt : now < attestation.expiresAt
  thresholdVerified : attestation.thresholdVerified = true

def BridgeIntent.locked (intent : BridgeIntent Party) (now : Time) : LockedAsset Party :=
  { operationId := intent.operationId, assetId := intent.assetId, holding := intent.holding
    amount := intent.amount, owner := intent.owner, receiver := intent.receiver
    operator := intent.operator, destinationNetworkId := intent.destinationNetworkId
    lockedAt := now }

def LockedAsset.authorized (locked : LockedAsset Party) (attestation : AttestationRecord Party) :
    ReleaseAuthorization Party :=
  { operationId := locked.operationId, assetId := locked.assetId, holding := locked.holding
    amount := locked.amount, owner := locked.owner, receiver := locked.receiver
    operator := locked.operator, destinationNetworkId := locked.destinationNetworkId
    attestationDigest := attestation.digest, expiresAt := attestation.expiresAt }

def ReleaseAuthorization.released (authorization : ReleaseAuthorization Party) (now : Time) :
    ReleasedAsset Party :=
  { operationId := authorization.operationId, assetId := authorization.assetId
    holding := authorization.holding, amount := authorization.amount
    owner := authorization.owner, receiver := authorization.receiver
    operator := authorization.operator
    destinationNetworkId := authorization.destinationNetworkId
    attestationDigest := authorization.attestationDigest, releasedAt := now }

/-- The contracts that commands create directly. -/
def Payload.Submitted : Payload Party → Prop
  | .bridgeIntent _ | .attestationRecord _ => True
  | _ => False

/-- What each choice creates from its contract, among known contracts. -/
inductive Yields (found : ContractId → Option (Payload Party)) (now : Time) :
    Payload Party → Choice → Payload Party → Prop where
  | lock {intent : BridgeIntent Party} : now < intent.expiresAt →
      Yields found now (.bridgeIntent intent) .lock (.lockedAsset (intent.locked now))
  | authorizeRelease {locked : LockedAsset Party} {attestation : AttestationRecord Party}
      {attestationCid : ContractId} :
      found attestationCid = some (.attestationRecord attestation) →
      attestation.Attests locked now →
      Yields found now (.lockedAsset locked) (.authorizeRelease attestationCid)
        (.releaseAuthorization (locked.authorized attestation))
  | executeRelease {authorization : ReleaseAuthorization Party} : now < authorization.expiresAt →
      Yields found now (.releaseAuthorization authorization) .executeRelease
        (.releasedAsset (authorization.released now))

variable [DecidableEq Party] {context : Context Party} {ledger after : Ledger Party}
  {result : ContractId}

theorem BridgeIntent.lock_ok {intent : BridgeIntent Party}
    (returned : intent.lock context ledger = .ok (result, after)) :
    Yields ledger.payload context.time (.bridgeIntent intent) .lock
        (.lockedAsset (intent.locked context.time)) ∧
      create (templates Party) (.lockedAsset (intent.locked context.time)) context ledger =
        .ok (result, after) := by
  have returned := ok_of_getTime returned
  obtain ⟨unexpired, returned⟩ := ok_of_assertMsg returned
  exact ⟨.lock (of_decide_eq_true unexpired), returned⟩

theorem fetchAttestation_ok {attestationCid : ContractId} {attestation : AttestationRecord Party}
    (returned : fetchAttestation attestationCid context ledger = .ok (attestation, after)) :
    ledger.active attestationCid = some (.attestationRecord attestation) ∧ after = ledger := by
  obtain ⟨payload, middle, fetched, returned⟩ := ok_of_bind returned
  obtain ⟨active, same, _⟩ := fetch_ok fetched
  cases payload with
  | attestationRecord found =>
      cases returned
      exact ⟨active, same⟩
  | bridgeIntent _ => cases returned
  | lockedAsset _ => cases returned
  | releaseAuthorization _ => cases returned
  | releasedAsset _ => cases returned

theorem LockedAsset.authorizeRelease_ok {locked : LockedAsset Party} {attestationCid : ContractId}
    (returned : locked.authorizeRelease attestationCid context ledger = .ok (result, after)) :
    ∃ attestation, Yields ledger.payload context.time (.lockedAsset locked)
        (.authorizeRelease attestationCid)
        (.releaseAuthorization (locked.authorized attestation)) ∧
      create (templates Party) (.releaseAuthorization (locked.authorized attestation)) context
        ledger = .ok (result, after) := by
  obtain ⟨attestation, middle, fetched, returned⟩ := ok_of_bind returned
  obtain ⟨active, same⟩ := fetchAttestation_ok fetched
  rw [same] at returned
  have returned := ok_of_getTime returned
  obtain ⟨operation, returned⟩ := ok_of_assertMsg returned
  obtain ⟨asset, returned⟩ := ok_of_assertMsg returned
  obtain ⟨amount, returned⟩ := ok_of_assertMsg returned
  obtain ⟨receiver, returned⟩ := ok_of_assertMsg returned
  obtain ⟨destination, returned⟩ := ok_of_assertMsg returned
  obtain ⟨started, returned⟩ := ok_of_assertMsg returned
  obtain ⟨unexpired, returned⟩ := ok_of_assertMsg returned
  obtain ⟨verified, returned⟩ := ok_of_assertMsg returned
  have attests : attestation.Attests locked context.time :=
    ⟨of_decide_eq_true operation, of_decide_eq_true asset, of_decide_eq_true amount,
      of_decide_eq_true receiver, of_decide_eq_true destination, of_decide_eq_true started,
      of_decide_eq_true unexpired, verified⟩
  exact ⟨attestation, .authorizeRelease (Daml.Ledger.payload_of_active active) attests, returned⟩

theorem ReleaseAuthorization.executeRelease_ok {authorization : ReleaseAuthorization Party}
    (returned : authorization.executeRelease context ledger = .ok (result, after)) :
    Yields ledger.payload context.time (.releaseAuthorization authorization) .executeRelease
        (.releasedAsset (authorization.released context.time)) ∧
      create (templates Party) (.releasedAsset (authorization.released context.time)) context
        ledger = .ok (result, after) := by
  have returned := ok_of_getTime returned
  obtain ⟨unexpired, returned⟩ := ok_of_assertMsg returned
  exact ⟨.executeRelease (of_decide_eq_true unexpired), returned⟩

/-- A choice yields one contract. -/
theorem body_ok {source : Payload Party} {choice : Choice}
    (returned : body source choice context ledger = .ok (result, after)) :
    ∃ target, Yields ledger.payload context.time source choice target ∧
      create (templates Party) target context ledger = .ok (result, after) := by
  unfold body at returned
  split at returned
  · exact ⟨_, BridgeIntent.lock_ok returned⟩
  · obtain ⟨attestation, yields⟩ := LockedAsset.authorizeRelease_ok returned
    exact ⟨_, yields⟩
  · exact ⟨_, ReleaseAuthorization.executeRelease_ok returned⟩
  · cases returned

/-- What a command does to the ledger. -/
inductive Step (context : Context Party) (ledger : Ledger Party) :
    LedgerCommand Party → Ledger Party → Prop where
  | create {payload : Payload Party} :
      (∀ party ∈ payload.signatories, party ∈ context.authorizers) →
      Step context ledger (.create payload)
        (ledger.append ⟨payload, context.authorizers, context.time⟩)
  | exercise {contract : ContractId} {choice : Choice} {source target : Payload Party}
      {actors : List Party} :
      ledger.active contract = some source → controllers source choice = some actors →
      (∀ party ∈ actors, party ∈ context.authorizers) →
      Yields ledger.payload context.time source choice target →
      (∀ party ∈ target.signatories, party ∈ source.signatories ++ actors) →
      Step context ledger (.exercise contract choice)
        (((ledger.archive contract).append
          ⟨target, source.signatories ++ actors, context.time⟩).record
            ⟨contract, choice, context.authorizers, context.time, ledger.created.length⟩)
  | archive {contract : ContractId} {source : Payload Party} :
      ledger.active contract = some source →
      (∀ party ∈ source.signatories, party ∈ context.authorizers) →
      Step context ledger (.archive contract)
        (ledger.withdraw ⟨contract, context.authorizers, context.time⟩)

theorem LedgerCommand.perform_ok {command : LedgerCommand Party}
    (returned : command.perform context ledger = .ok (result, after)) :
    Step context ledger command after := by
  cases command with
  | create payload =>
      obtain ⟨_, _, signed, rfl⟩ := create_ok returned
      exact .create signed
  | exercise contract choice =>
      obtain ⟨source, actors, middle, active, controlled, permitted, performed, rfl⟩ :=
        exercise_ok returned
      obtain ⟨target, yields, created⟩ := body_ok performed
      obtain ⟨rfl, _, signed, rfl⟩ := create_ok created
      exact .exercise active controlled permitted yields signed
  | archive contract =>
      obtain ⟨_, middle, archived, returned⟩ := ok_of_bind returned
      obtain ⟨source, active, signed, rfl⟩ := archive_ok archived
      cases returned
      exact .archive active signed

theorem Command.perform_ok {command : Command Party}
    (returned : command.perform context ledger = .ok (result, after)) :
    Step context ledger command.submitted after :=
  LedgerCommand.perform_ok returned

omit [DecidableEq Party] in
/-- What the protocol creates directly is an intent or a record. -/
theorem Command.submitted_of_create {command : Command Party} {payload : Payload Party}
    (creates : command.submitted = .create payload) : payload.Submitted := by
  cases command <;> cases creates <;> trivial

end Steps

/-! ## Where contracts come from -/

section Provenance

variable {Party : Type}

/-- The contract results from a choice of its controllers. -/
def Derives (ledger : Ledger Party) (contract : ContractId) (payload : Payload Party)
    (exercised : Exercised Party Choice) : Prop :=
  exercised.result = contract ∧ ∃ source actors, ledger.payload exercised.contract = some source ∧
    controllers source exercised.choice = some actors ∧
    (∀ party ∈ actors, party ∈ exercised.authorizers) ∧
    Yields ledger.payload exercised.time source exercised.choice payload

/-- Every contract is signed, and is one that commands create directly or results from a
choice. -/
structure Traced (direct : Payload Party → Prop) (ledger : Ledger Party) : Prop where
  signed : ∀ created ∈ ledger.created, ∀ party ∈ created.payload.signatories,
    party ∈ created.authorizers
  derived : ∀ contract payload, ledger.payload contract = some payload →
    direct payload ∨ ∃ exercised ∈ ledger.exercised, Derives ledger contract payload exercised

theorem Yields.mono {found later : ContractId → Option (Payload Party)} {now : Time}
    {source target : Payload Party} {choice : Choice} (yields : Yields found now source choice target)
    (kept : ∀ contract payload, found contract = some payload → later contract = some payload) :
    Yields later now source choice target := by
  cases yields with
  | lock unexpired => exact .lock unexpired
  | authorizeRelease known attests => exact .authorizeRelease (kept _ _ known) attests
  | executeRelease unexpired => exact .executeRelease unexpired

/-- No choice leaves an intent or a record. -/
theorem Yields.not_submitted {found : ContractId → Option (Payload Party)} {now : Time}
    {source target : Payload Party} {choice : Choice}
    (yields : Yields found now source choice target) : ¬target.Submitted := by
  cases yields <;> exact id

variable {ledger next : Ledger Party}

theorem Derives.not_submitted {contract : ContractId} {payload : Payload Party}
    {exercised : Exercised Party Choice} (derives : Derives ledger contract payload exercised) :
    ¬payload.Submitted := by
  obtain ⟨_, _, _, _, _, _, yields⟩ := derives
  exact yields.not_submitted

theorem Derives.mono {contract : ContractId} {payload : Payload Party}
    {exercised : Exercised Party Choice} (derives : Derives ledger contract payload exercised)
    (kept : ∀ contract payload, ledger.payload contract = some payload →
      next.payload contract = some payload) :
    Derives next contract payload exercised := by
  obtain ⟨result, source, actors, known, controlled, permitted, yields⟩ := derives
  exact ⟨result, source, actors, kept _ _ known, controlled, permitted, yields.mono kept⟩

variable {command : LedgerCommand Party} {context : Context Party}

/-- Every contract stays on the ledger. -/
theorem Step.kept (step : Step context ledger command next) {contract : ContractId}
    {payload : Payload Party} (known : ledger.payload contract = some payload) :
    next.payload contract = some payload := by
  cases step with
  | create signed => exact Daml.Ledger.payload_append.mpr (.inl known)
  | exercise active controlled permitted yields signed =>
      exact Daml.Ledger.payload_append.mpr (.inl known)
  | archive active signed => exact known

/-- A contract on the ledger was there before, or the command has created it or it results from
the choice of the command. -/
theorem Step.added (step : Step context ledger command next) {contract : ContractId}
    {payload : Payload Party} (known : next.payload contract = some payload) :
    ledger.payload contract = some payload ∨
      contract = ledger.created.length ∧ (command = .create payload ∨
        ∃ exercised ∈ next.exercised, Derives ledger contract payload exercised) := by
  cases step with
  | create signed =>
      rcases Daml.Ledger.payload_append.mp known with earlier | ⟨here, rfl⟩
      · exact .inl earlier
      · exact .inr ⟨here, .inl rfl⟩
  | @exercise consumed choice source target actors active controlled permitted yields signed =>
      rcases Daml.Ledger.payload_append.mp known with earlier | ⟨rfl, rfl⟩
      · exact .inl earlier
      · exact .inr ⟨rfl, .inr ⟨_, List.mem_cons_self, rfl, source, actors,
          Daml.Ledger.payload_of_active active, controlled, permitted, yields⟩⟩
  | archive active signed => exact .inl known

/-- A command creates a contract under the authority of its signatories. -/
theorem Step.signed (step : Step context ledger command next)
    {created : Created Party (Payload Party)} (member : created ∈ next.created) :
    created ∈ ledger.created ∨
      ∀ party ∈ created.payload.signatories, party ∈ created.authorizers := by
  cases step with
  | create signed =>
      refine (List.mem_append.mp member).imp_right fun new => ?_
      rw [List.mem_singleton.mp new]
      exact signed
  | exercise active controlled permitted yields signed =>
      refine (List.mem_append.mp member).imp_right fun new => ?_
      rw [List.mem_singleton.mp new]
      exact signed
  | archive active signed => exact .inl member

theorem Step.exercised (step : Step context ledger command next)
    {exercised : Exercised Party Choice} (member : exercised ∈ ledger.exercised) :
    exercised ∈ next.exercised := by
  cases step with
  | create signed => exact member
  | exercise active controlled permitted yields signed => exact List.mem_cons_of_mem _ member
  | archive active signed => exact member

theorem Step.archivals (step : Step context ledger command next) {archival : Archival Party}
    (member : archival ∈ ledger.archivals) : archival ∈ next.archivals := by
  cases step with
  | create signed => exact member
  | exercise active controlled permitted yields signed => exact member
  | archive active signed => exact List.mem_cons_of_mem _ member

variable {direct : Payload Party → Prop}

theorem Traced.step (traced : Traced direct ledger) (step : Step context ledger command next)
    (creates : ∀ payload, command = .create payload → direct payload) : Traced direct next := by
  constructor
  · intro created member
    rcases step.signed member with earlier | signed
    · exact traced.signed created earlier
    · exact signed
  · intro contract payload known
    rcases step.added known with earlier | ⟨rfl, created | ⟨exercised, member, derives⟩⟩
    · rcases traced.derived contract payload earlier with here | ⟨exercised, member, derives⟩
      · exact .inl here
      · exact .inr ⟨exercised, step.exercised member, derives.mono fun _ _ => step.kept⟩
    · exact .inl (creates payload created)
    · exact .inr ⟨exercised, member, derives.mono fun _ _ => step.kept⟩

theorem Traced.empty : Traced direct (Daml.Ledger.empty : Ledger Party) := by
  constructor
  · intro created member
    cases member
  · intro contract payload found
    cases found

theorem Traced.run [DecidableEq Party] (traced : Traced Payload.Submitted ledger)
    (run : List (Submission Party (Command Party))) :
    Traced Payload.Submitted ((Interop.ledger Party).run run ledger) := by
  refine (submissions_preserves ?_).run run traced
  intro command context ledger result next traced performed
  exact traced.step (Command.perform_ok performed) fun _ => Command.submitted_of_create

/-- The choice that a release authorization results from. -/
theorem Derives.authorized {contract : ContractId} {authorization : ReleaseAuthorization Party}
    {exercised : Exercised Party Choice}
    (derives : Derives ledger contract (.releaseAuthorization authorization) exercised) :
    ∃ locked attestationCid attestation, exercised.choice = .authorizeRelease attestationCid ∧
      ledger.payload exercised.contract = some (.lockedAsset locked) ∧
      authorization = locked.authorized attestation ∧
      locked.operator ∈ exercised.authorizers ∧
      ledger.payload attestationCid = some (.attestationRecord attestation) ∧
      attestation.Attests locked exercised.time := by
  obtain ⟨_, source, actors, known, controlled, permitted, yields⟩ := derives
  generalize same : exercised.choice = choice at controlled yields
  cases yields with
  | @authorizeRelease locked attestation attestationCid recorded attests =>
      cases controlled
      exact ⟨locked, attestationCid, attestation, rfl, known, rfl,
        permitted locked.operator List.mem_cons_self, recorded, attests⟩

/-- A released asset results from a choice of its owner. -/
theorem Derives.released {contract : ContractId} {released : ReleasedAsset Party}
    {exercised : Exercised Party Choice}
    (derives : Derives ledger contract (.releasedAsset released) exercised) :
    released.owner ∈ exercised.authorizers := by
  obtain ⟨_, source, actors, known, controlled, permitted, yields⟩ := derives
  generalize exercised.choice = choice at controlled yields
  cases yields with
  | @executeRelease authorization unexpired =>
      cases controlled
      exact permitted authorization.owner List.mem_cons_self

end Provenance

/-- **Releases.** In every ledger that parties can reach, a release authorization was
made by its operator from a locked asset and a record that agrees with it, inside the
record's window and signed by the validator operator that the record names, and a
released asset was made by its owner. -/
theorem release_attested {Party : Type} [DecidableEq Party]
    (run : List (Submission Party (Command Party))) :
    let reached := (ledger Party).run run Daml.Ledger.empty
    (∀ contract authorization,
      reached.payload contract = some (.releaseAuthorization authorization) →
        ∃ exercised ∈ reached.exercised, exercised.result = contract ∧
          authorization.operator ∈ exercised.authorizers ∧
          ∃ locked attestationCid attestation signed,
            exercised.choice = .authorizeRelease attestationCid ∧
            reached.payload exercised.contract = some (.lockedAsset locked) ∧
            authorization = locked.authorized attestation ∧
            attestation.Attests locked exercised.time ∧
            reached.created[attestationCid]? = some signed ∧
            signed.payload = .attestationRecord attestation ∧
            attestation.validatorOperator ∈ signed.authorizers) ∧
      ∀ contract released, reached.payload contract = some (.releasedAsset released) →
        ∃ exercised ∈ reached.exercised, exercised.result = contract ∧
          released.owner ∈ exercised.authorizers := by
  intro reached
  have traced : Traced Payload.Submitted reached := Traced.empty.run run
  constructor
  · intro contract authorization known
    rcases traced.derived contract _ known with submitted | ⟨exercised, member, derives⟩
    · cases submitted
    · obtain ⟨locked, attestationCid, attestation, choice, source, rfl, operator, recorded,
        attests⟩ := derives.authorized
      obtain ⟨signed, created, same⟩ := Option.map_eq_some_iff.mp recorded
      refine ⟨exercised, member, derives.1, operator, locked, attestationCid, attestation, signed,
        choice, source, rfl, attests, created, same, ?_⟩
      refine traced.signed signed (List.mem_of_getElem? created) _ ?_
      rw [same]
      exact List.mem_cons_self
  · intro contract released known
    rcases traced.derived contract _ known with submitted | ⟨exercised, member, derives⟩
    · cases submitted
    · exact ⟨exercised, member, derives.1, derives.released⟩

/-! ## An operator that attests for itself -/

namespace SelfAttested

def intent : BridgeIntent String :=
  { operationId := "op-1", assetId := "IW:ASSET:rwa", holding := ⟨.cip0056, "instrument", "holding"⟩
    amount := 100, owner := "Alice", receiver := "Bob", operator := "Operator"
    destinationNetworkId := "IW:NETWORK:canton", expiresAt := 3600 }

def attestation : AttestationRecord String :=
  { attestationId := "att-1", operationId := "op-1", assetId := "IW:ASSET:rwa", amount := 100
    receiver := "Bob", destinationNetworkId := "IW:NETWORK:canton", digest := "sha256:abc"
    validFrom := 0, expiresAt := 1800, thresholdVerified := true, validatorOperator := "Operator"
    workflowOperator := "Operator" }

/-- Owner and operator agree on the intent, and the owner locks it. -/
def locking : List (Submission String (Command String)) :=
  [⟨["Alice", "Operator"], 1, [.createBridgeIntent intent]⟩, ⟨["Alice"], 2, [.exercise 0 .lock]⟩]

/-- The operator signs a record as validator and authorizes the release. -/
def alone : List (Submission String (Command String)) :=
  [⟨["Operator"], 3, [.createAttestationRecord attestation]⟩,
    ⟨["Operator"], 4, [.exercise 1 (.authorizeRelease 2)]⟩]

/-- The operator alone turns the locked asset into a release authorization. -/
theorem operator_authorizes_alone :
    ((ledger String).run (locking ++ alone) Daml.Ledger.empty).created.map Created.payload =
        [.bridgeIntent intent, .lockedAsset (intent.locked 2), .attestationRecord attestation,
          .releaseAuthorization ((intent.locked 2).authorized attestation)] ∧
      attestation.validatorOperator = intent.operator ∧
      ∀ submission ∈ alone, submission.actAs = [intent.operator] := by
  decide +kernel

end SelfAttested

end InterWeave.Interop
