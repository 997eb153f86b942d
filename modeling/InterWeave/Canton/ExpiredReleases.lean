import InterWeave.Canton.Lineages

/-! # Authorizations that expire

A locked asset can be authorized and released as long as someone signs a record for it. The choice
that authorizes the release consumes the locked asset, and the authorization has the expiry of its
record. No choice leads from an expired authorization, neither to a release nor back to a locked
asset, and nothing leads from a contract that owner and operator have archived.
-/

namespace InterWeave.Interop

open Daml Daml.Update

section Releases

variable {Party : Type}

/-- The contract has become a released asset. -/
def ReleasedFrom (ledger : Ledger Party) (contract : ContractId) : Prop :=
  ∃ descendant released, Descends ledger contract descendant ∧
    ledger.payload descendant = some (.releasedAsset released)

/-- The contract has become an authorization that expired before it was executed. -/
def ExpiredAt (ledger : Ledger Party) (contract : ContractId) (now : Time) : Prop :=
  ∃ descendant authorization, Descends ledger contract descendant ∧
    ledger.active descendant = some (.releaseAuthorization authorization) ∧
    authorization.expiresAt ≤ now

/-- Its signatories have archived what the contract has become. -/
def Withdrawn (ledger : Ledger Party) (contract : ContractId) : Prop :=
  ∃ archival ∈ ledger.archivals, Descends ledger contract archival.contract ∧
    ArchivedBy ledger archival

/-- A record that the operator of the asset can authorize its release on. -/
structure AttestationRecord.FreshFor (attestation : AttestationRecord Party)
    (locked : LockedAsset Party) (now : Time) : Prop where
  attests : attestation.Attests locked now
  ensures : (Payload.attestationRecord attestation).ensures = true
  workflowOperator : attestation.workflowOperator = locked.operator

/-- A record for an asset is one for every lock of it. -/
theorem AttestationRecord.FreshFor.of_bridged {attestation : AttestationRecord Party}
    {locked held : LockedAsset Party} {now : Time} (fresh : attestation.FreshFor locked now)
    (same : held.bridged = locked.bridged) : attestation.FreshFor held now where
  attests :=
    { operationId := fresh.attests.operationId.trans (congrArg BridgedAsset.operationId same.symm)
      assetId := fresh.attests.assetId.trans (congrArg BridgedAsset.assetId same.symm)
      amount := fresh.attests.amount.trans (congrArg BridgedAsset.amount same.symm)
      receiver := fresh.attests.receiver.trans (congrArg BridgedAsset.receiver same.symm)
      destinationNetworkId := fresh.attests.destinationNetworkId.trans
        (congrArg BridgedAsset.destinationNetworkId same.symm)
      validFrom := fresh.attests.validFrom
      expiresAt := fresh.attests.expiresAt
      thresholdVerified := fresh.attests.thresholdVerified }
  ensures := fresh.ensures
  workflowOperator :=
    fresh.workflowOperator.trans (congrArg BridgedAsset.operator same.symm)

/-- Owner or operator exercise choices at this time. -/
structure ByHolders (locked : LockedAsset Party) (now : Time)
    (submission : Submission Party (LedgerCommand Party)) : Prop where
  time : submission.time = now
  actAs : ∀ party ∈ submission.actAs, party = locked.owner ∨ party = locked.operator
  exercises : ∀ command ∈ submission.commands, ∃ contract choice,
    command = .exercise contract choice

variable {ledger after : Ledger Party} {contract : ContractId} {direct : Payload Party → Prop}

theorem Lineages.archived_lt (lineages : Lineages direct ledger)
    (archived : contract ∈ ledger.archived) : contract < ledger.created.length := by
  rcases (lineages.consuming.archives contract).mp archived with
    ⟨exercised, member, rfl⟩ | ⟨archival, member, rfl⟩
  · obtain ⟨_, _, _, source, _, known, _⟩ := lineages.recorded exercised member
    exact Daml.Ledger.lt_of_payload known
  · obtain ⟨_, known, _⟩ := lineages.archived archival member
    exact Daml.Ledger.lt_of_payload known

/-- The contract that was just created is active. -/
theorem Lineages.active_created (lineages : Lineages direct ledger)
    (created : Created Party (Payload Party)) :
    (ledger.append created).active ledger.created.length = some created.payload := by
  have unarchived : ledger.created.length ∉ (ledger.append created).archived :=
    fun archived => Nat.lt_irrefl _ (lineages.archived_lt archived)
  have known : (ledger.append created).payload ledger.created.length = some created.payload :=
    Daml.Ledger.payload_append.mpr (.inr ⟨rfl, rfl⟩)
  unfold Daml.Ledger.active
  rw [if_neg unarchived]
  exact known

/-- The lineage of a contract ends in an active one, unless its signatories have archived it. -/
theorem Lineages.live (lineages : Lineages direct ledger) {payload : Payload Party}
    (known : ledger.payload contract = some payload) (kept : ¬Withdrawn ledger contract) :
    ∃ live current, Descends ledger contract live ∧ ledger.active live = some current ∧
      payload.stage ≤ current.stage := by
  induction left : 3 - payload.stage using Nat.strongRecOn
    generalizing contract payload with
  | _ left ih =>
      by_cases archived : contract ∈ ledger.archived
      · rcases (lineages.consuming.archives contract).mp archived with
          ⟨exercised, member, rfl⟩ | ⟨archival, member, rfl⟩
        · obtain ⟨target, result, _, source, _, consumed, _, _, yields⟩ :=
            lineages.recorded exercised member
          cases known.symm.trans consumed
          have stage := yields.stage
          have below := Descends.of_mem member
          have rest : ¬Withdrawn ledger exercised.result := by
            rintro ⟨archival, among, further, signed⟩
            exact kept ⟨archival, among, below.trans further, signed⟩
          obtain ⟨live, current, descends, active, later⟩ :=
            ih _ (by have := target.stage_le; omega) result rest rfl
          exact ⟨live, current, below.trans descends, active, by omega⟩
        · exact absurd ⟨archival, member, .refl, lineages.archived archival member⟩ kept
      · refine ⟨contract, payload, .refl, ?_, Nat.le_refl _⟩
        unfold Daml.Ledger.active
        rw [if_neg archived]
        exact known

/-! ## Later ledgers -/

/-- The other ledger has what the ledger has. -/
structure Extends (ledger after : Ledger Party) : Prop where
  payload : ∀ contract payload, ledger.payload contract = some payload →
    after.payload contract = some payload
  exercised : ∀ exercised ∈ ledger.exercised, exercised ∈ after.exercised
  archivals : ∀ archival ∈ ledger.archivals, archival ∈ after.archivals

theorem Extends.step {start : Ledger Party} {context : Context Party}
    {command : LedgerCommand Party} (grows : Extends start ledger)
    (step : Step context ledger command after) : Extends start after where
  payload contract payload known := step.kept (grows.payload contract payload known)
  exercised exercised member := step.exercised (grows.exercised exercised member)
  archivals archival member := step.archivals (grows.archivals archival member)

theorem Extends.run [DecidableEq Party] (ledger : Ledger Party)
    (run : List (Submission Party (LedgerCommand Party))) :
    Extends ledger ((openLedger Party).run run ledger) := by
  have preserves : (openLedger Party).Preserves (Extends ledger) := by
    refine submissions_preserves ?_
    intro command context middle result next grows performed
    exact grows.step (LedgerCommand.perform_ok performed)
  exact preserves.run run ⟨fun _ _ known => known, fun _ member => member, fun _ member => member⟩

/-- What was archived by its signatories is not released later. -/
theorem Withdrawn.not_released (withdrawn : Withdrawn ledger contract)
    (unreleased : ¬ReleasedFrom ledger contract) (grows : Extends ledger after)
    (lineages : Lineages direct after) : ¬ReleasedFrom after contract := by
  rintro ⟨there, released, below, known⟩
  obtain ⟨archival, member, descends, payload, stands, _⟩ := withdrawn
  obtain rfl := Descends.unique lineages.consuming (descends.mono grows.exercised) below
    (lineages.consuming.final archival (grows.archivals archival member))
    (lineages.released_unexercised known)
  cases known.symm.trans (grows.payload _ _ stands)
  exact unreleased ⟨_, released, descends, stands⟩

/-- An authorization of the lineage that expired and was not executed, archived or not. -/
def Unexecuted (ledger : Ledger Party) (contract : ContractId) (now : Time) : Prop :=
  ∃ descendant authorization, Descends ledger contract descendant ∧
    ledger.payload descendant = some (.releaseAuthorization authorization) ∧
    Unexercised ledger descendant ∧ authorization.expiresAt ≤ now

theorem ExpiredAt.unexecuted {now : Time} (expired : ExpiredAt ledger contract now)
    (lineages : Lineages direct ledger) : Unexecuted ledger contract now := by
  obtain ⟨here, authorization, descends, active, expiry⟩ := expired
  exact ⟨here, authorization, descends, Daml.Ledger.payload_of_active active,
    lineages.consuming.unexercised active, expiry⟩

/-- An authorization that was not executed excludes that its lineage was released. -/
theorem Unexecuted.not_released {now : Time} (unexecuted : Unexecuted ledger contract now)
    (lineages : Lineages direct ledger) : ¬ReleasedFrom ledger contract := by
  rintro ⟨there, released, below, known⟩
  obtain ⟨here, authorization, descends, stands, unexercised, _⟩ := unexecuted
  obtain rfl := Descends.unique lineages.consuming descends below unexercised
    (lineages.released_unexercised known)
  cases known.symm.trans stands

/-- A command at a later time does not execute the expired authorization. -/
theorem Unexecuted.step {now : Time} {context : Context Party} {command : LedgerCommand Party}
    (unexecuted : Unexecuted ledger contract now) (step : Step context ledger command after)
    (later : now ≤ context.time) : Unexecuted after contract now := by
  obtain ⟨here, authorization, descends, known, unexercised, expiry⟩ := unexecuted
  refine ⟨here, authorization, descends.mono fun _ member => step.exercised member,
    step.kept known, ?_, expiry⟩
  cases step with
  | create signed => exact unexercised
  | @exercise consumed choice source target actors active controlled permitted yields signed =>
      refine List.forall_mem_cons.mpr ⟨?_, unexercised⟩
      rintro rfl
      cases known.symm.trans (Daml.Ledger.payload_of_active active)
      cases yields with
      | executeRelease unexpired =>
          exact absurd (Int.lt_of_lt_of_le unexpired expiry) (Int.not_lt.mpr later)
  | archive active signed => exact unexercised

variable [DecidableEq Party]

/-- The ledger after the validator has signed the record. -/
def signed (ledger : Ledger Party) (attestation : AttestationRecord Party) (now : Time) :
    Ledger Party :=
  (openLedger Party).next
    ⟨[attestation.validatorOperator], now, [.create (.attestationRecord attestation)]⟩ ledger

theorem Unexecuted.next {now : Time} {submission : Submission Party (LedgerCommand Party)}
    (unexecuted : Unexecuted ledger contract now) (later : now ≤ submission.time) :
    Unexecuted ((openLedger Party).next submission ledger) contract now := by
  have commands : ∀ command ledger result next, Unexecuted ledger contract now →
      LedgerCommand.perform command ⟨submission.actAs, submission.time⟩ ledger =
        .ok (result, next) → Unexecuted next contract now :=
    fun command ledger result next unexecuted performed =>
      unexecuted.step (LedgerCommand.perform_ok performed) later
  exact submission_preserves commands unexecuted

/-- **An expired authorization stays unexecuted.** No later commands release its asset. -/
theorem Unexecuted.run {now : Time} {later : List (Submission Party (LedgerCommand Party))}
    (unexecuted : Unexecuted ledger contract now)
    (times : ∀ submission ∈ later, now ≤ submission.time) :
    Unexecuted ((openLedger Party).run later ledger) contract now := by
  induction later generalizing ledger with
  | nil => exact unexecuted
  | cons submission rest ih =>
      exact ih (unexecuted.next (times submission List.mem_cons_self))
        fun other member => times other (List.mem_cons_of_mem _ member)

/-! ## What the holders can do -/

theorem signed_eq {attestation : AttestationRecord Party} {now : Time}
    (ensured : (Payload.attestationRecord attestation).ensures = true) :
    signed ledger attestation now = ledger.append
      ⟨.attestationRecord attestation, [attestation.validatorOperator], now⟩ :=
  submissions_next (create_of ensured fun _ member => member)

theorem LockedAsset.authorizeRelease_of {locked : LockedAsset Party} {attestationCid : ContractId}
    {attestation : AttestationRecord Party} {context : Context Party}
    (active : ledger.active attestationCid = some (.attestationRecord attestation))
    (fresh : attestation.FreshFor locked context.time)
    (owner : locked.owner ∈ context.authorizers) (operator : locked.operator ∈ context.authorizers) :
    locked.authorizeRelease attestationCid context ledger = .ok (ledger.created.length,
      ledger.append ⟨.releaseAuthorization (locked.authorized attestation), context.authorizers,
        context.time⟩) := by
  have fetched : fetchAttestation attestationCid context ledger = .ok (attestation, ledger) := by
    have stakeholder : attestation.workflowOperator ∈
        (Payload.attestationRecord attestation).signatories ++
          (Payload.attestationRecord attestation).observers := by
      simp only [Payload.signatories, Payload.observers, List.cons_append, List.nil_append,
        List.mem_cons, true_or, or_true]
    have found : fetch (templates Party) attestationCid context ledger = _ :=
      fetch_of active stakeholder (fresh.workflowOperator ▸ operator)
    exact bind_of found rfl
  have created : create (templates Party) (.releaseAuthorization (locked.authorized attestation))
      context ledger = .ok (ledger.created.length, ledger.append
        ⟨.releaseAuthorization (locked.authorized attestation), context.authorizers,
          context.time⟩) := by
    refine create_of rfl fun party member => ?_
    rcases List.mem_cons.mp member with rfl | member
    · exact owner
    · rw [List.mem_singleton.mp member]
      exact operator
  have attests := fresh.attests
  refine bind_of fetched (bind_of_getTime ?_)
  refine bind_of_assertMsg (decide_eq_true attests.operationId) ?_
  refine bind_of_assertMsg (decide_eq_true attests.assetId) ?_
  refine bind_of_assertMsg (decide_eq_true attests.amount) ?_
  refine bind_of_assertMsg (decide_eq_true attests.receiver) ?_
  refine bind_of_assertMsg (decide_eq_true attests.destinationNetworkId) ?_
  refine bind_of_assertMsg (decide_eq_true attests.validFrom) ?_
  refine bind_of_assertMsg (decide_eq_true attests.expiresAt) ?_
  exact bind_of_assertMsg attests.thresholdVerified created

theorem ReleaseAuthorization.executeRelease_of {authorization : ReleaseAuthorization Party}
    {context : Context Party} (unexpired : context.time < authorization.expiresAt)
    (owner : authorization.owner ∈ context.authorizers)
    (operator : authorization.operator ∈ context.authorizers) :
    authorization.executeRelease context ledger = .ok (ledger.created.length,
      ledger.append ⟨.releasedAsset (authorization.released context.time), context.authorizers,
        context.time⟩) := by
  refine bind_of_getTime (bind_of_assertMsg (decide_eq_true unexpired) (create_of rfl ?_))
  intro party member
  rcases List.mem_cons.mp member with rfl | member
  · exact owner
  · rw [List.mem_singleton.mp member]
    exact operator

/-- The owner executes an authorization that has not expired. -/
theorem released_next {authorization : ReleaseAuthorization Party} {now : Time}
    (active : ledger.active contract = some (.releaseAuthorization authorization))
    (unexpired : now < authorization.expiresAt) :
    let next := (openLedger Party).next
      ⟨[authorization.owner], now, [.exercise contract .executeRelease]⟩ ledger
    ReleasedFrom next contract ∧ ∀ exercised ∈ ledger.exercised, exercised ∈ next.exercised := by
  intro next
  have performed : (LedgerCommand.exercise contract .executeRelease).perform
      ⟨[authorization.owner], now⟩ ledger = _ :=
    exercise_of active rfl (fun _ member => member)
      (ReleaseAuthorization.executeRelease_of unexpired List.mem_cons_self
        (List.mem_cons_of_mem _ List.mem_cons_self))
  have same : next = _ := submissions_next performed
  have recorded : (⟨contract, .executeRelease, [authorization.owner], now,
      ledger.created.length⟩ : Exercised Party Choice) ∈ next.exercised := by
    rw [same]
    exact List.mem_cons_self
  refine ⟨⟨ledger.created.length, authorization.released now, Descends.of_mem recorded, ?_⟩,
    fun exercised member => ?_⟩
  · rw [same]
    exact Daml.Ledger.payload_append.mpr (.inr ⟨rfl, rfl⟩)
  · rw [same]
    exact List.mem_cons_of_mem _ member

/-- The operator authorizes the release of a locked asset on a fresh record. -/
theorem authorized_next {locked : LockedAsset Party} {attestation : AttestationRecord Party}
    {attestationCid : ContractId} {now : Time} (lineages : Lineages direct ledger)
    (active : ledger.active contract = some (.lockedAsset locked))
    (recorded : ledger.active attestationCid = some (.attestationRecord attestation))
    (fresh : attestation.FreshFor locked now) :
    let next := (openLedger Party).next
      ⟨[locked.operator], now, [.exercise contract (.authorizeRelease attestationCid)]⟩ ledger
    ∃ authorized, next.active authorized =
        some (.releaseAuthorization (locked.authorized attestation)) ∧
      Descends next contract authorized := by
  intro next
  have other : attestationCid ≠ contract := by
    rintro rfl
    cases active.symm.trans recorded
  have performed : (LedgerCommand.exercise contract (.authorizeRelease attestationCid)).perform
      ⟨[locked.operator], now⟩ ledger = _ :=
    exercise_of active rfl (fun _ member => member)
      (LockedAsset.authorizeRelease_of (Daml.Ledger.active_archive.mpr ⟨other, recorded⟩) fresh
        List.mem_cons_self (List.mem_cons_of_mem _ List.mem_cons_self))
  have same : next = _ := submissions_next performed
  have exercised : (⟨contract, .authorizeRelease attestationCid, [locked.operator], now,
      ledger.created.length⟩ : Exercised Party Choice) ∈ next.exercised := by
    rw [same]
    exact List.mem_cons_self
  refine ⟨ledger.created.length, ?_, Descends.of_mem exercised⟩
  rw [same]
  have unconsumed : ledger.created.length ≠ contract :=
    (Nat.ne_of_lt (Daml.Ledger.lt_of_payload (Daml.Ledger.payload_of_active active))).symm
  exact Daml.Ledger.active_archive.mpr ⟨unconsumed, lineages.active_created _⟩

/-- A contract of the lineage of a locked asset leads to its release, unless the asset has become
an authorization that expired, or what it has become was archived. -/
theorem Lineages.releasable (lineages : Lineages (fun _ => True) ledger)
    {locked : LockedAsset Party} {now : Time}
    (known : ledger.payload contract = some (.lockedAsset locked))
    (unexpired : ¬ExpiredAt ledger contract now) (kept : ¬Withdrawn ledger contract) :
    ∃ live payload, Descends ledger contract live ∧ ledger.active live = some payload ∧
      ∀ attestation, attestation.FreshFor locked now →
        ∃ later, (∀ submission ∈ later, ByHolders locked now submission) ∧
          ReleasedFrom ((openLedger Party).run later (signed ledger attestation now)) live := by
  obtain ⟨live, current, descends, active, stage⟩ := lineages.live known kept
  refine ⟨live, current, descends, active, fun attestation fresh => ?_⟩
  obtain ⟨target, found, bridged⟩ := lineages.bridged known descends
  obtain rfl := Option.some.inj (found.symm.trans (Daml.Ledger.payload_of_active active))
  have recorded : signed ledger attestation now = _ := signed_eq fresh.ensures
  have stays : (signed ledger attestation now).active live = some target := by
    rw [recorded]
    exact Daml.Ledger.active_append_of_active active _
  have after : Lineages (fun _ => True) (signed ledger attestation now) := lineages.open_run [_]
  cases target with
  | bridgeIntent intent => cases stage
  | attestationRecord attestation => cases bridged
  | lockedAsset held =>
      have same := Option.some.inj bridged
      have owner : held.owner = locked.owner := congrArg BridgedAsset.owner same
      have operator : held.operator = locked.operator := congrArg BridgedAsset.operator same
      have vouches := fresh.of_bridged same
      have created : (signed ledger attestation now).active ledger.created.length =
          some (.attestationRecord attestation) := by
        rw [recorded]
        exact lineages.active_created _
      obtain ⟨authorized, granted, below⟩ := authorized_next after stays created vouches
      obtain ⟨⟨released, asset, above, final⟩, kept⟩ :=
        released_next granted fresh.attests.expiresAt
      refine ⟨[⟨[held.operator], now, [.exercise live (.authorizeRelease ledger.created.length)]⟩,
        ⟨[held.owner], now, [.exercise authorized .executeRelease]⟩], ?_,
        released, asset, (below.mono kept).trans above, final⟩
      intro submission member
      rcases List.mem_cons.mp member with rfl | member
      · exact ⟨rfl, fun party one => .inr ((List.mem_singleton.mp one).trans operator),
          fun command one => ⟨_, _, List.mem_singleton.mp one⟩⟩
      · rw [List.mem_singleton.mp member]
        exact ⟨rfl, fun party one => .inl ((List.mem_singleton.mp one).trans owner),
          fun command one => ⟨_, _, List.mem_singleton.mp one⟩⟩
  | releaseAuthorization authorization =>
      have owner : authorization.owner = locked.owner :=
        congrArg BridgedAsset.owner (Option.some.inj bridged)
      have inForce : now < authorization.expiresAt :=
        Int.not_le.mp fun expiry => unexpired ⟨live, authorization, descends, active, expiry⟩
      refine ⟨[⟨[authorization.owner], now, [.exercise live .executeRelease]⟩], ?_,
        (released_next stays inForce).1⟩
      intro submission member
      rw [List.mem_singleton.mp member]
      exact ⟨rfl, fun party one => .inl ((List.mem_singleton.mp one).trans owner),
        fun command one => ⟨_, _, List.mem_singleton.mp one⟩⟩
  | releasedAsset released =>
      refine ⟨[], ?_, live, released, .refl, Daml.Ledger.payload_of_active stays⟩
      intro submission member
      cases member

end Releases

/-- **Releases stay possible until an authorization expires.** In every ledger that parties can
reach, at every time, a locked asset has an active contract in its lineage from which owner and
operator reach its release on any fresh record, unless it has become an authorization that has
expired, or owner and operator have archived what it has become. From then on no commands release
it. -/
theorem releasable_until_expiry {Party : Type} [DecidableEq Party]
    (run : List (Submission Party (LedgerCommand Party))) :
    let reached := (openLedger Party).run run Daml.Ledger.empty
    (∀ contract locked now, reached.payload contract = some (.lockedAsset locked) →
      ¬ExpiredAt reached contract now → ¬Withdrawn reached contract →
      ∃ live payload, Descends reached contract live ∧ reached.active live = some payload ∧
        ∀ attestation, attestation.FreshFor locked now →
          ∃ later, (∀ submission ∈ later, ByHolders locked now submission) ∧
            ReleasedFrom ((openLedger Party).run later (signed reached attestation now)) live) ∧
    (∀ contract now, ExpiredAt reached contract now →
      ∀ later, (∀ submission ∈ later, now ≤ submission.time) →
        ¬ReleasedFrom ((openLedger Party).run later reached) contract) ∧
    ∀ contract, Withdrawn reached contract → ¬ReleasedFrom reached contract →
      ∀ later, ¬ReleasedFrom ((openLedger Party).run later reached) contract := by
  intro reached
  have lineages : Lineages (fun _ => True) reached := Lineages.empty.open_run run
  refine ⟨?_, ?_, ?_⟩
  · intro contract locked now known unexpired kept
    exact lineages.releasable known unexpired kept
  · intro contract now expired later times
    exact ((expired.unexecuted lineages).run times).not_released (lineages.open_run later)
  · intro contract withdrawn unreleased later
    exact withdrawn.not_released unreleased (.run reached later) (lineages.open_run later)

namespace ExpiredAuthorization

open SelfAttested

/-- A record for the same asset, signed after the first one expired. -/
def renewed : AttestationRecord String :=
  { attestation with attestationId := "att-2", validFrom := 1800, expiresAt := 3600 }

/-- The authorization of `SelfAttested` has the expiry of its record. -/
def authorized : ReleaseAuthorization String :=
  (intent.locked 2).authorized attestation

theorem renewed_fresh : renewed.FreshFor (intent.locked 2) 1800 where
  attests := ⟨rfl, rfl, rfl, rfl, rfl, by decide, by decide, rfl⟩
  ensures := by decide
  workflowOperator := rfl

/-- The intent is locked and authorized for release. -/
def authorizing : List (Submission String (LedgerCommand String)) :=
  (locking ++ alone).map (.map Command.submitted)

/-- **A locked asset that cannot be released.** The operator authorizes the release, and the owner
has not executed it when the record expires. -/
theorem authorization_expires :
    ¬ ∀ (run : List (Submission String (LedgerCommand String))) (contract : ContractId)
      (locked : LockedAsset String) (now : Time),
      let reached := (openLedger String).run run Daml.Ledger.empty
      reached.payload contract = some (.lockedAsset locked) → ¬ReleasedFrom reached contract →
      ∃ live payload, Descends reached contract live ∧ reached.active live = some payload ∧
        ∀ attestation, attestation.FreshFor locked now →
          ∃ later, (∀ submission ∈ later, ByHolders locked now submission) ∧
            ReleasedFrom ((openLedger String).run later (signed reached attestation now)) live := by
  intro claim
  let reached := (openLedger String).run authorizing Daml.Ledger.empty
  have lineages : Lineages (fun _ => True) reached := Lineages.empty.open_run _
  have active : reached.active 3 = some (.releaseAuthorization authorized) := by decide +kernel
  have descends : Descends reached 1 3 := by
    have result : (1, 3) ∈ reached.exercised.map fun exercised =>
        (exercised.contract, exercised.result) := by
      decide +kernel
    obtain ⟨exercised, member, same⟩ := List.mem_map.mp result
    obtain ⟨consumed, left⟩ := Prod.mk.inj same
    exact consumed ▸ left ▸ .of_mem member
  have expired : ∀ contract, Descends reached contract 3 → Unexecuted reached contract 1800 := by
    intro contract descends
    have expired : ExpiredAt reached contract 1800 :=
      ⟨3, authorized, descends, active, by decide⟩
    exact expired.unexecuted lineages
  obtain ⟨live, payload, below, alive, reach⟩ := claim authorizing 1 (intent.locked 2) 1800
    (by decide +kernel) ((expired 1 descends).not_released lineages)
  obtain rfl := Descends.unique lineages.consuming below descends
    (lineages.consuming.unexercised alive) (lineages.consuming.unexercised active)
  obtain ⟨later, holders, released⟩ := reach renewed renewed_fresh
  have still : Unexecuted (signed reached renewed 1800) 3 1800 :=
    (expired 3 .refl).next (Int.le_refl _)
  have stuck := still.run
    fun submission member => Int.le_of_eq (holders submission member).time.symm
  exact stuck.not_released ((lineages.open_run [_]).open_run later) released

end ExpiredAuthorization
end InterWeave.Interop
