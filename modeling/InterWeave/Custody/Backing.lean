import InterWeave.Accounts.Matching
import InterWeave.Custody.Executions

/-! # The backing of a representation

A locked asset is released on a burn under its operation only, and so it is archived once a mint
has been signed for it; and a mint needs a locked asset. So a mint whose asset is no longer locked
has been burned, whichever of the ledgers was quicker, and the supply of a representation never
exceeds the assets that are locked for it.
-/

namespace InterWeave.Crossing

open Daml Atomic Interop

variable {Party : Type} {crossing : Crossing Party}

/-! ## What holds between the ledgers -/

theorem Burns.mono {chain next : EvmWorld} {operationId assetId : String} {amount : Int}
    (burns : crossing.Burns chain operationId assetId amount)
    (kept : ∀ execution ∈ chain.executions, execution ∈ next.executions) :
    crossing.Burns next operationId assetId amount := by
  obtain ⟨execution, member, values⟩ := burns
  exact ⟨execution, kept _ member, values⟩

/-- The records of the validator operator are about burns, and the operator has authorized
releases on such records only. -/
structure Evidenced (crossing : Crossing Party) (chain : EvmWorld) (ledger : Interop.Ledger Party) :
    Prop where
  lineages : Lineages (fun _ => True) ledger
  attested : ∀ contract attestation,
    ledger.payload contract = some (.attestationRecord attestation) →
    attestation.validatorOperator = crossing.validatorOperator →
    crossing.Burns chain attestation.operationId attestation.assetId attestation.amount
  relied : ∀ exercised ∈ ledger.exercised, crossing.operator ∈ exercised.authorizers →
    ∀ attestationCid, exercised.choice = .authorizeRelease attestationCid →
    ∃ attestation, ledger.payload attestationCid = some (.attestationRecord attestation) ∧
      attestation.validatorOperator = crossing.validatorOperator

/-- A locked asset of the operator stands for the operation, and was not archived by its
signatories before a burn of it. -/
def Secured (crossing : Crossing Party) (chain : EvmWorld) (ledger : Interop.Ledger Party)
    (operationId assetId : Bytes32) (amount : Uint256) : Prop :=
  ∃ contract locked, ledger.payload contract = some (.lockedAsset locked) ∧
    crossing.Stands locked operationId assetId amount ∧
    ((∀ archival ∈ ledger.archivals, archival.contract ≠ contract) ∨
      crossing.Burns chain locked.operationId locked.assetId locked.amount)

structure Holds (crossing : Crossing Party) (world : CrossingWorld Party) : Prop where
  evidenced : crossing.Evidenced world.chain world.ledger
  checked : ∀ signer authorization, (signer, authorization) ∈ world.signed →
    signer ∉ crossing.faulty → authorization.effect = .mint →
    crossing.Secured world.chain world.ledger authorization.operationId authorization.assetId
      authorization.amount
  executes : crossing.Executes world.signed world.chain

theorem Launched.holds {world : CrossingWorld Party} (launched : crossing.Launched world) :
    crossing.Holds world := by
  have executions := launched.chain.executions
  refine ⟨?_, ?_, ?_⟩
  · rw [launched.ledger]
    refine ⟨Lineages.empty, fun contract attestation known => ?_, fun exercised member => ?_⟩
    · cases known
    · cases member
  · rw [launched.signed]
    intro signer authorization member
    cases member
  · refine ⟨?_, launched.chain.accounted, launched.governed, ?_, ?_, ?_⟩
    · constructor <;> simp only [executions, List.map_nil, List.nodup_nil, List.not_mem_nil,
        false_implies, implies_true]
    all_goals
      rw [executions]
      intro execution member
      cases member

/-! ## Submissions -/

section Submissions

variable [DecidableEq Party] {world : CrossingWorld Party}
  {submission : Submission Party (LedgerCommand Party)} {ledger next : Interop.Ledger Party}
  {result : ContractId} {command : LedgerCommand Party}

/-- What a submission has made of the ledger. -/
structure Submits (crossing : Crossing Party) (world : CrossingWorld Party)
    (submission : Submission Party (LedgerCommand Party)) (ledger : Interop.Ledger Party) :
    Prop where
  evidenced : crossing.Evidenced world.chain ledger
  kept : ∀ contract payload, world.ledger.payload contract = some payload →
    ledger.payload contract = some payload
  archived : ∀ archival ∈ ledger.archivals, archival ∈ world.ledger.archivals ∨
    .archive archival.contract ∈ submission.commands ∧ ∃ payload,
      ledger.payload archival.contract = some payload ∧
      ∀ party ∈ payload.signatories, party ∈ submission.actAs

omit [DecidableEq Party] in
/-- A command of a submission that complies keeps what the records and the choices are about. -/
theorem Submits.evidenced_step (submits : crossing.Submits world submission ledger)
    (complies : crossing.Complies world submission) (member : command ∈ submission.commands)
    (step : Step ⟨submission.actAs, submission.time⟩ ledger command next) :
    crossing.Evidenced world.chain next := by
  refine ⟨submits.evidenced.lineages.step step fun _ _ => trivial, ?_, ?_⟩
  · intro contract attestation known named
    rcases step.added known with earlier | ⟨_, rfl | ⟨exercised, _, derives⟩⟩
    · exact submits.evidenced.attested contract attestation earlier named
    · cases step with
      | create signed =>
          refine complies.attests ?_ attestation member named
          rw [← named]
          exact signed _ List.mem_cons_self
    · exact absurd trivial derives.not_submitted
  · have earlier : ∀ exercised ∈ ledger.exercised, crossing.operator ∈ exercised.authorizers →
        ∀ attestationCid, exercised.choice = .authorizeRelease attestationCid →
        ∃ attestation, next.payload attestationCid = some (.attestationRecord attestation) ∧
          attestation.validatorOperator = crossing.validatorOperator := by
      intro exercised among acting attestationCid choice
      obtain ⟨attestation, known, named⟩ :=
        submits.evidenced.relied exercised among acting attestationCid choice
      exact ⟨attestation, step.kept known, named⟩
    have kept : ∀ contract payload, world.ledger.payload contract = some payload →
        next.payload contract = some payload :=
      fun contract payload known => step.kept (submits.kept contract payload known)
    cases step with
    | create signed => exact earlier
    | @exercise contract choice source target actors active controlled permitted yields signed =>
        refine List.forall_mem_cons.mpr ⟨fun acting attestationCid same => ?_, earlier⟩
        subst same
        obtain ⟨attestation, known, named⟩ := complies.relies acting contract attestationCid member
        exact ⟨attestation, kept _ _ known, named⟩
    | archive active signed => exact earlier

omit [DecidableEq Party] in
theorem Submits.step (submits : crossing.Submits world submission ledger)
    (complies : crossing.Complies world submission) (member : command ∈ submission.commands)
    (step : Step ⟨submission.actAs, submission.time⟩ ledger command next) :
    crossing.Submits world submission next := by
  refine ⟨submits.evidenced_step complies member step,
    fun contract payload known => step.kept (submits.kept contract payload known), ?_⟩
  have earlier : ∀ archival ∈ ledger.archivals, archival ∈ world.ledger.archivals ∨
      .archive archival.contract ∈ submission.commands ∧ ∃ payload,
        next.payload archival.contract = some payload ∧
        ∀ party ∈ payload.signatories, party ∈ submission.actAs := by
    intro archival among
    rcases submits.archived archival among with before | ⟨archives, payload, known, signed⟩
    · exact .inl before
    · exact .inr ⟨archives, payload, step.kept known, signed⟩
  cases step with
  | create signed => exact earlier
  | exercise active controlled permitted yields signed => exact earlier
  | @archive contract source active signed =>
      have known : ledger.payload contract = some source := Daml.Ledger.payload_of_active active
      exact List.forall_mem_cons.mpr ⟨.inr ⟨member, source, known, signed⟩, earlier⟩

theorem Evidenced.submit (evidenced : crossing.Evidenced world.chain world.ledger)
    (complies : crossing.Complies world submission) :
    crossing.Submits world submission ((Interop.openLedger Party).next submission world.ledger) := by
  have commands : ∀ command ∈ submission.commands, ∀ ledger result next,
      crossing.Submits world submission ledger →
      command.perform ⟨submission.actAs, submission.time⟩ ledger = .ok (result, next) →
      crossing.Submits world submission next :=
    fun command member ledger result next submits performed =>
      submits.step complies member (LedgerCommand.perform_ok performed)
  exact submission_preserves_of_mem commands ⟨evidenced, fun _ _ known => known, fun _ => .inl⟩

omit [DecidableEq Party] in
/-- What a mint has been signed for stays secured under submissions that comply. -/
theorem Submits.secured (submits : crossing.Submits world submission ledger)
    (complies : crossing.Complies world submission) {operationId assetId : Bytes32}
    {amount : Uint256}
    (secured : crossing.Secured world.chain world.ledger operationId assetId amount)
    (mints : ∀ locked, crossing.Stands locked operationId assetId amount →
      crossing.Mints world.signed locked.operationId) :
    crossing.Secured world.chain ledger operationId assetId amount := by
  obtain ⟨contract, locked, known, stands, unarchived | burns⟩ := secured
  · refine ⟨contract, locked, submits.kept _ _ known, stands, ?_⟩
    by_cases archived : ∃ archival ∈ ledger.archivals, archival.contract = contract
    · right
      obtain ⟨archival, among, rfl⟩ := archived
      rcases submits.archived archival among with before | ⟨archives, payload, found, signed⟩
      · exact absurd rfl (unarchived archival before)
      · cases found.symm.trans (submits.kept _ _ known)
        have acting : locked.operator ∈ submission.actAs :=
          signed _ (List.mem_cons_of_mem _ List.mem_cons_self)
        rw [stands.operator] at acting
        exact complies.keeps acting _ locked archives known (mints locked stands)
    · exact .inl fun archival among same => archived ⟨archival, among, same⟩
  · exact ⟨contract, locked, submits.kept _ _ known, stands, .inr burns⟩

/-! ## Runs -/

/-- A command that follows the protocol keeps what holds between the ledgers. -/
theorem Holds.step (holds : crossing.Holds world) {command : CrossingCommand Party}
    (follows : crossing.Follows world command) :
    crossing.Holds (crossing.machine.next command world) := by
  cases command with
  | submit submission =>
      have submits := holds.evidenced.submit follows
      refine ⟨submits.evidenced, fun signer authorization member sound minted => ?_,
        holds.executes⟩
      refine submits.secured follows (holds.checked signer authorization member sound minted) ?_
      intro locked stands
      exact ⟨signer, authorization, member, sound, minted, stands.operationId.symm⟩
  | sign signer authorization =>
      refine ⟨holds.evidenced, ?_, ?_⟩
      · intro other signed member sound minted
        rcases List.mem_cons.mp member with same | earlier
        · cases same
          obtain ⟨contract, locked, known, stands, unarchived⟩ := follows sound minted
          exact ⟨contract, locked, known, stands, .inl unarchived⟩
        · exact holds.checked other signed earlier sound minted
      · refine { holds.executes with signed := fun execution member here minted => ?_ }
        obtain ⟨other, signed, sound, given, values⟩ :=
          holds.executes.signed execution member here minted
        exact ⟨other, signed, sound, List.mem_cons_of_mem _ given, values⟩
  | transact timestamp call =>
      obtain ⟨executes, kept⟩ := holds.executes.transact timestamp follows
      refine ⟨⟨holds.evidenced.lineages, fun contract attestation known named => ?_,
        holds.evidenced.relied⟩, fun signer authorization member sound minted => ?_, executes⟩
      · exact (holds.evidenced.attested contract attestation known named).mono kept
      · obtain ⟨contract, locked, known, stands, secure⟩ :=
          holds.checked signer authorization member sound minted
        exact ⟨contract, locked, known, stands, secure.imp_right fun burns => burns.mono kept⟩

theorem Holds.run (holds : crossing.Holds world) (commands : List (CrossingCommand Party))
    (follows : crossing.machine.Throughout crossing.Follows commands world) :
    crossing.Holds (crossing.machine.run commands world) :=
  Machine.throughout_run (fun _ _ holding meets => holding.step meets) commands follows holds

end Submissions

/-! ## Custody -/

section Custody

variable [DecidableEq Party] {world : CrossingWorld Party} {ledger : Interop.Ledger Party}
  {token : Address}

variable (crossing) in
/-- The locked asset that an active contract holds for a representation. -/
def heldFor (token : Address) : Option (Payload Party) → Option (LockedAsset Party)
  | some (.lockedAsset locked) =>
      if locked.operator = crossing.operator ∧
          crossing.representation (crossing.identifier locked.assetId) = token then
        some locked
      else none
  | _ => none

variable (crossing) in
/-- The locked assets behind a representation. -/
def held (ledger : Interop.Ledger Party) (token : Address) : List (LockedAsset Party) :=
  (List.range ledger.created.length).filterMap fun contract =>
    crossing.heldFor token (ledger.active contract)

variable (crossing) in
def custody (ledger : Interop.Ledger Party) (token : Address) : Nat :=
  ((crossing.held ledger token).map fun locked => locked.amount.toNat).sum

theorem mem_held {contract : ContractId} {locked : LockedAsset Party}
    (active : ledger.active contract = some (.lockedAsset locked))
    (operator : locked.operator = crossing.operator)
    (stands : crossing.representation (crossing.identifier locked.assetId) = token) :
    locked ∈ crossing.held ledger token := by
  refine List.mem_filterMap.mpr ⟨contract, ?_, ?_⟩
  · exact List.mem_range.mpr (Daml.Ledger.lt_of_payload (Daml.Ledger.payload_of_active active))
  · rw [active, heldFor, if_pos ⟨operator, stands⟩]

omit [DecidableEq Party] in
/-- The operator authorizes a release on a burn of what is locked. -/
theorem Evidenced.burned {chain : EvmWorld} (evidenced : crossing.Evidenced chain ledger)
    {exercised : Exercised Party Choice} (member : exercised ∈ ledger.exercised)
    (acting : crossing.operator ∈ exercised.authorizers) {attestationCid : ContractId}
    (choice : exercised.choice = .authorizeRelease attestationCid)
    {attestation : AttestationRecord Party}
    (recorded : ledger.payload attestationCid = some (.attestationRecord attestation))
    {locked : LockedAsset Party} {now : Time} (attests : attestation.Attests locked now) :
    crossing.Burns chain locked.operationId locked.assetId locked.amount := by
  obtain ⟨other, there, named⟩ := evidenced.relied exercised member acting attestationCid choice
  cases recorded.symm.trans there
  have burns := evidenced.attested attestationCid attestation recorded named
  rwa [attests.operationId, attests.assetId, attests.amount] at burns

omit [DecidableEq Party] in
/-- A locked asset of the operator that was not archived by its signatories is still there, or was
released on a burn under its operation. -/
theorem Evidenced.locked_or_burned {chain : EvmWorld} (evidenced : crossing.Evidenced chain ledger)
    {contract : ContractId} {locked : LockedAsset Party}
    (known : ledger.payload contract = some (.lockedAsset locked))
    (operator : locked.operator = crossing.operator)
    (unarchived : ∀ archival ∈ ledger.archivals, archival.contract ≠ contract) :
    ledger.active contract = some (.lockedAsset locked) ∨
      crossing.Burns chain locked.operationId locked.assetId locked.amount := by
  by_cases archived : contract ∈ ledger.archived
  · right
    obtain ⟨exercised, member, rfl⟩ := ((evidenced.lineages.consuming.archives contract).mp
      archived).resolve_right fun ⟨archival, among, same⟩ => unarchived archival among same
    obtain ⟨target, _, _, source, actors, found, controlled, permitted, yields⟩ :=
      evidenced.lineages.recorded exercised member
    cases known.symm.trans found
    generalize choice : exercised.choice = chosen at controlled yields
    cases yields with
    | authorizeRelease recorded attests =>
        cases controlled
        have acting := permitted locked.operator List.mem_cons_self
        rw [operator] at acting
        exact evidenced.burned member acting choice recorded attests
  · left
    rw [Daml.Ledger.active, if_neg archived, known]

/-- A mint is matched by a burn on the same token, or by a locked asset behind it. -/
theorem Holds.matched (holds : crossing.Holds world) {execution : Execution}
    (member : execution ∈ world.chain.executions) (here : execution.gateway = crossing.gateway)
    (minted : execution.effect = .mint) :
    (∃ burn ∈ world.chain.executions, burn.token = execution.token ∧ burn.effect = .burn ∧
      burn.operationId = execution.operationId ∧ burn.amount.toNat = execution.amount.toNat) ∨
    ∃ locked ∈ crossing.held world.ledger execution.token,
      crossing.identifier locked.operationId = execution.operationId ∧
        locked.amount.toNat = execution.amount.toNat := by
  have token := holds.executes.represented execution member here (by rw [minted]; decide)
  obtain ⟨signer, authorization, sound, given, operation, effect, asset, _, amount⟩ :=
    holds.executes.signed execution member here minted
  obtain ⟨contract, locked, known, stands, secure⟩ :=
    holds.checked signer authorization given sound (effect.trans minted)
  have operationId := stands.operationId.trans operation
  have assetId := stands.assetId.trans asset
  have locks : locked.amount = execution.amount.toNat := by rw [stands.amount, amount]
  have lockedOrBurned : world.ledger.active contract = some (.lockedAsset locked) ∨
      crossing.Burns world.chain locked.operationId locked.assetId locked.amount := by
    rcases secure with unarchived | burns
    · exact holds.evidenced.locked_or_burned known stands.operator unarchived
    · exact .inr burns
  rcases lockedOrBurned with active | burns
  · refine .inr ⟨locked, mem_held active stands.operator ?_, operationId, ?_⟩
    · rw [assetId, token]
    · rw [locks, Int.toNat_natCast]
  · obtain ⟨burn, further, there, burned, same, asset, worth⟩ := burns
    have burnt := holds.executes.represented burn further there (by rw [burned]; decide)
    refine .inl ⟨burn, further, ?_, burned, same.trans operationId, ?_⟩
    · rw [burnt, asset, assetId, token]
    · rw [locks] at worth
      exact_mod_cast worth

omit [DecidableEq Party] in
/-- The executions of an effect on a representation are under distinct operations. -/
theorem Executes.distinct_operations {signed : List (Address × AttestationVerifier.Authorization)}
    {chain : EvmWorld} (executes : crossing.Executes signed chain)
    {representation : InterWeaveRepresentation}
    (stands : chain.code token = some (.representation representation)) (effect : Effect)
    (moves : effect ≠ .release) :
    ((chain.executions.filter fun execution => execution.token = token ∧
      execution.effect = effect).map Execution.operationId).Nodup := by
  have once : ((chain.executions.filter fun execution => execution.token = token ∧
      execution.effect = effect).map Execution.key).Nodup :=
    executes.recorded.once.sublist (List.filter_sublist.map _)
  refine (List.nodup_map_iff_inj_on (once.of_map _)).mpr ?_
  intro first here second there same
  obtain ⟨member, selected⟩ := List.mem_filter.mp here
  obtain ⟨among, chosen⟩ := List.mem_filter.mp there
  obtain ⟨atToken, ofEffect⟩ := of_decide_eq_true selected
  obtain ⟨onToken, withEffect⟩ := of_decide_eq_true chosen
  refine List.inj_on_of_nodup_map once here there ?_
  have own := executes.owned first member (ofEffect ▸ moves) representation (atToken ▸ stands)
  have other := executes.owned second among (withEffect ▸ moves) representation (onToken ▸ stands)
  rw [Execution.key, Execution.key, own, other, same, ofEffect, withEffect]

/-- What has been minted on a token is burned, or held for it. -/
theorem Holds.minted_le (holds : crossing.Holds world) {representation : InterWeaveRepresentation}
    (stands : world.chain.code token = some (.representation representation)) :
    executedAmount world.chain.executions token .mint ≤
      executedAmount world.chain.executions token .burn + crossing.custody world.ledger token := by
  -- the operations and the amounts of the burns, and of the locked assets
  let burns : List (Bytes32 × Nat) :=
    (world.chain.executions.filter fun execution => execution.token = token ∧
      execution.effect = .burn).map fun burn => (burn.operationId, burn.amount.toNat)
  let locks : List (Bytes32 × Nat) :=
    (crossing.held world.ledger token).map fun locked =>
      (crossing.identifier locked.operationId, locked.amount.toNat)
  have matched : ∀ execution ∈ world.chain.executions.filter fun execution =>
      execution.token = token ∧ execution.effect = .mint, ∃ entry ∈ burns ++ locks,
        entry.1 = execution.operationId ∧ execution.amount.toNat ≤ entry.2 := by
    intro execution member
    obtain ⟨among, selected⟩ := List.mem_filter.mp member
    obtain ⟨rfl, minted⟩ := of_decide_eq_true selected
    have here := holds.executes.owned execution among (by rw [minted]; decide) representation stands
    rcases holds.matched among here minted with
      ⟨burn, further, same, burned, operation, amount⟩ | ⟨locked, kept, operation, amount⟩
    · refine ⟨(burn.operationId, burn.amount.toNat), List.mem_append_left _ ?_, operation, amount.ge⟩
      refine List.mem_map.mpr ⟨burn, List.mem_filter.mpr ⟨further, ?_⟩, rfl⟩
      exact decide_eq_true ⟨same, burned⟩
    · exact ⟨_, List.mem_append_right _ (List.mem_map.mpr ⟨locked, kept, rfl⟩), operation, amount.ge⟩
  have bounded := Accounts.sum_le_of_matched Prod.snd
    (fun execution : Execution => execution.amount.toNat)
    (holds.executes.distinct_operations stands .mint (by decide)) matched
  rw [List.map_append, List.sum_append, List.map_map, List.map_map] at bounded
  exact bounded

/-- **Backing.** However submissions, signatures and transactions interleave, the supply of every
representation is at most what its operator holds locked for it, as long as each serves the
crossing as it should. -/
theorem supply_backed (crossing : Crossing Party) {start : CrossingWorld Party}
    (launched : crossing.Launched start) (commands : List (CrossingCommand Party))
    (follows : crossing.machine.Throughout crossing.Follows commands start) :
    let reached := crossing.machine.run commands start
    ∀ token representation, reached.chain.code token = some (.representation representation) →
      representation.totalSupply ≤ crossing.custody reached.ledger token := by
  intro reached token representation stands
  have holds : crossing.Holds reached := launched.holds.run commands follows
  have supply := (holds.executes.accounted.tokens token representation stands).supply
  have minted := holds.minted_le stands
  omega

end Custody

end InterWeave.Crossing

/-! ## A mint of what is locked -/

namespace InterWeave.OneAsset

open Daml Atomic SharedVerifier Interop.SelfAttested

/-- The route of one asset through the first gateway, with one validator that is not faulty. -/
def crossing : Crossing String where
  evm := SharedVerifier.evm
  gateway := first
  verifier := SharedVerifier.verifier
  registry := SharedVerifier.registry
  operator := intent.operator
  validatorOperator := "Validators"
  faulty := ∅
  identifier text := if text = intent.operationId then authorization.operationId else request.assetId
  representation _ := SharedVerifier.token

def start : CrossingWorld String := ⟨Daml.Ledger.empty, ⟨code, 0, []⟩, []⟩

theorem launched : crossing.Launched start where
  ledger := rfl
  signed := rfl
  chain := SharedVerifier.launched
  governed :=
    { gateway := ⟨_, rfl, rfl, rfl⟩
      verifier := ⟨_, rfl, by decide⟩
      registry := ⟨_, rfl, fun _ enabled => by cases enabled⟩ }

/-- A hundred is locked, the validator signs for it, and a relayer mints it. -/
def minting : List (CrossingCommand String) :=
  locking.map (fun submission => .submit (submission.map Interop.Command.submitted)) ++
    [.sign 7 authorization,
    .transact 500 (.node ⟨admin, registry, .configure 22 ⟨SharedVerifier.token, 0, true⟩⟩ [] true),
    .transact 500 (.node ⟨100, first, .executeMint request⟩ [] true)]

theorem follows_minting : crossing.machine.Throughout crossing.Follows minting start := by
  refine ⟨⟨?_, ?_, ?_⟩, ⟨?_, ?_, ?_⟩, ?_, ?_, ?_, trivial⟩
  · intro acting attestation member
    cases List.mem_singleton.mp member
  · intro acting contract attestationCid member
    cases List.mem_singleton.mp member
  · intro acting contract locked member
    cases List.mem_singleton.mp member
  · intro acting attestation member
    cases List.mem_singleton.mp member
  · intro acting contract attestationCid member
    cases List.mem_singleton.mp member
  · intro acting contract locked member
    cases List.mem_singleton.mp member
  · intro sound minted
    exact ⟨1, intent.locked 2, by decide +kernel, ⟨rfl, by decide, by decide, by decide⟩,
      by decide +kernel⟩
  · apply Crossing.follows_transact
    refine ⟨?_, ?_, ?_, ?_⟩
    · intro account granted
      cases granted
    · intro assetId config target sent enabled
      cases sent
      rfl
    · intro threshold target sent
      cases sent
    · intro authorization signatures presented
      cases presented
  · apply Crossing.follows_transact
    refine ⟨?_, ?_, ?_, ?_⟩
    · intro account granted
      cases granted
    · intro assetId config target sent enabled
      cases sent
    · intro threshold target sent
      cases sent
    · intro shown signatures presented signature given signer sound recovered
      cases presented
      cases List.mem_singleton.mp given
      have signs : ∀ digest, SharedVerifier.evm.recover digest (7 :: wordBytes digest) = some 7 :=
        fun digest => if_pos rfl
      cases (signs _).symm.trans recovered
      exact List.mem_cons_self

/-- The contract is a token with a supply of a hundred. -/
def isSupplied : Contract → Bool
  | .representation representation => representation.totalSupply = 100
  | _ => false

/-- The hundred that is minted is backed. -/
theorem minting_backed :
    (((crossing.machine.run minting start).chain.code SharedVerifier.token).any isSupplied) = true ∧
    crossing.custody (crossing.machine.run minting start).ledger SharedVerifier.token = 100 ∧
    ∀ representation, (crossing.machine.run minting start).chain.code SharedVerifier.token =
      some (.representation representation) → representation.totalSupply ≤ 100 := by
  have custody : crossing.custody (crossing.machine.run minting start).ledger
      SharedVerifier.token = 100 := by
    decide +kernel
  refine ⟨by decide +kernel, custody, fun representation stands => ?_⟩
  rw [← custody]
  exact Crossing.supply_backed crossing launched minting follows_minting _ representation stands

end InterWeave.OneAsset
