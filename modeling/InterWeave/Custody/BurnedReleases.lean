import InterWeave.Custody.Backing

/-! # Releases are burned

A burn may be attested for every locked asset under its operation. An operator that opens no
operation twice, and signs every other contract by way of choices only, therefore releases, over
any run, at most what has been burned.
-/

namespace InterWeave.Crossing

open Daml Atomic Interop

variable {Party : Type} [DecidableEq Party] {crossing : Crossing Party}

/-! ## Numbered operations -/

variable (crossing) in
/-- The operation that a command opens for the operator. -/
def opens : LedgerCommand Party → Option Bytes32
  | .create (.bridgeIntent intent) =>
      if intent.operator = crossing.operator then some (crossing.identifier intent.operationId)
      else none
  | _ => none

variable (crossing) in
/-- Contracts that the operator signs directly are intents. -/
def Direct (payload : Payload Party) : Prop :=
  ∀ asset, payload.bridged = some asset → asset.operator = crossing.operator → payload.Submitted

/-- The operator opens each operation at most once, and leaves the other contracts to the
choices. -/
structure Opens (crossing : Crossing Party) (ledger : Interop.Ledger Party)
    (commands : List (LedgerCommand Party)) : Prop where
  distinct : (commands.filterMap crossing.opens).Nodup
  fresh : ∀ contract intent, ledger.payload contract = some (.bridgeIntent intent) →
    intent.operator = crossing.operator →
    crossing.identifier intent.operationId ∉ commands.filterMap crossing.opens
  direct : ∀ payload, .create payload ∈ commands → crossing.Direct payload

/-- How the operator numbers what it signs. -/
def Numbers (crossing : Crossing Party) (world : CrossingWorld Party) :
    CrossingCommand Party → Prop
  | .submit submission => crossing.operator ∈ submission.actAs →
      crossing.Opens world.ledger submission.commands
  | _ => True

/-- No two intents of the operator are under one operation, and its other contracts result from
choices. -/
structure Numbered (crossing : Crossing Party) (ledger : Interop.Ledger Party) : Prop where
  lineages : Lineages crossing.Direct ledger
  distinct : ∀ first second opened other, ledger.payload first = some (.bridgeIntent opened) →
    ledger.payload second = some (.bridgeIntent other) → opened.operator = crossing.operator →
    other.operator = crossing.operator →
    crossing.identifier opened.operationId = crossing.identifier other.operationId →
    first = second

section Submissions

variable {submission : Submission Party (LedgerCommand Party)}
  {ledger next : Interop.Ledger Party} {command : LedgerCommand Party}
  {rest : List (LedgerCommand Party)}

omit [DecidableEq Party] in
/-- The operator of an asset signs its contracts. -/
theorem signs_of_bridged {payload : Payload Party} {asset : BridgedAsset Party}
    (stands : payload.bridged = some asset) : asset.operator ∈ payload.signatories := by
  cases payload <;> cases stands <;> exact List.mem_cons_of_mem _ List.mem_cons_self

omit [DecidableEq Party] in
/-- An intent on the ledger after a command was there before, or the command has opened it. -/
theorem intent_of_step {context : Context Party} {contract : ContractId}
    {intent : BridgeIntent Party} (step : Step context ledger command next)
    (known : next.payload contract = some (.bridgeIntent intent)) :
    ledger.payload contract = some (.bridgeIntent intent) ∨
      contract = ledger.created.length ∧ command = .create (.bridgeIntent intent) ∧
        intent.operator ∈ context.authorizers := by
  rcases step.added known with earlier | ⟨here, rfl | ⟨exercised, _, derives⟩⟩
  · exact .inl earlier
  · cases step with
    | create signed =>
        have stands : (Payload.bridgeIntent intent).bridged = some intent.bridged := rfl
        exact .inr ⟨here, rfl, signed _ (signs_of_bridged stands)⟩
  · exact absurd trivial derives.not_submitted

/-- A command opens an operation that is neither on the ledger nor opened by a later command. -/
theorem Numbered.step (numbered : crossing.Numbered ledger)
    (opens : crossing.operator ∈ submission.actAs → crossing.Opens ledger (command :: rest))
    (step : Step ⟨submission.actAs, submission.time⟩ ledger command next) :
    crossing.Numbered next ∧ (crossing.operator ∈ submission.actAs → crossing.Opens next rest) := by
  have opened : ∀ {intent : BridgeIntent Party}, command = .create (.bridgeIntent intent) →
      intent.operator = crossing.operator →
      (command :: rest).filterMap crossing.opens =
        crossing.identifier intent.operationId :: rest.filterMap crossing.opens := by
    intro intent same operator
    refine List.filterMap_cons_some ?_
    rw [same, Crossing.opens, if_pos operator]
  have fresh : ∀ {intent earlier : BridgeIntent Party} {contract : ContractId},
      command = .create (.bridgeIntent intent) → intent.operator ∈ submission.actAs →
      ledger.payload contract = some (.bridgeIntent earlier) →
      earlier.operator = crossing.operator → intent.operator = crossing.operator →
      crossing.identifier earlier.operationId ≠ crossing.identifier intent.operationId := by
    intro intent earlier contract same acting before operator own equal
    refine (opens (own ▸ acting)).fresh contract earlier before operator ?_
    rw [opened same own, equal]
    exact List.mem_cons_self
  refine ⟨⟨numbered.lineages.step step ?_, ?_⟩, fun acting => ⟨?_, ?_, ?_⟩⟩
  · rintro payload rfl asset stands own
    cases step with
    | create signed =>
        have acting : crossing.operator ∈ submission.actAs :=
          own ▸ signed _ (signs_of_bridged stands)
        exact (opens acting).direct payload List.mem_cons_self asset stands own
  · intro first second one other here there operator own same
    rcases intent_of_step step here with before | ⟨rfl, added, signed⟩
    · rcases intent_of_step step there with earlier | ⟨rfl, added, signed⟩
      · exact numbered.distinct first second one other before earlier operator own same
      · exact absurd same (fresh added signed before operator own)
    · rcases intent_of_step step there with earlier | ⟨rfl, _, _⟩
      · exact absurd same.symm (fresh added signed earlier own operator)
      · rfl
  · refine (opens acting).distinct.sublist ?_
    rw [List.filterMap_cons]
    split
    · exact List.Sublist.refl _
    · exact List.sublist_cons_self _ _
  · intro contract intent known operator later
    rcases intent_of_step step known with before | ⟨_, added, _⟩
    · refine (opens acting).fresh contract intent before operator ?_
      rw [List.filterMap_cons]
      split
      · exact later
      · exact List.mem_cons_of_mem _ later
    · have distinct := (opens acting).distinct
      rw [opened added operator] at distinct
      exact (List.nodup_cons.mp distinct).1 later
  · intro payload member
    exact (opens acting).direct payload (List.mem_cons_of_mem _ member)

theorem Numbered.submit (numbered : crossing.Numbered ledger)
    (opens : crossing.operator ∈ submission.actAs → crossing.Opens ledger submission.commands) :
    crossing.Numbered ((Interop.openLedger Party).next submission ledger) := by
  have commands : ∀ command rest ledger result next,
      (crossing.Numbered ledger ∧
        (crossing.operator ∈ submission.actAs → crossing.Opens ledger (command :: rest))) →
      command.perform ⟨submission.actAs, submission.time⟩ ledger = .ok (result, next) →
      crossing.Numbered next ∧
        (crossing.operator ∈ submission.actAs → crossing.Opens next rest) :=
    fun command rest ledger result next holding performed =>
      holding.1.step holding.2 (LedgerCommand.perform_ok performed)
  rcases submission_advances (fun rest ledger => crossing.Numbered ledger ∧
      (crossing.operator ∈ submission.actAs → crossing.Opens ledger rest)) commands
      ⟨numbered, opens⟩ with same | accepted
  · rwa [same]
  · exact accepted.1

end Submissions

theorem Numbered.run {start : CrossingWorld Party} (numbered : crossing.Numbered start.ledger)
    (commands : List (CrossingCommand Party))
    (numbers : crossing.machine.Throughout crossing.Numbers commands start) :
    crossing.Numbered (crossing.machine.run commands start).ledger := by
  have kept : ∀ world command, crossing.Numbered world.ledger → crossing.Numbers world command →
      crossing.Numbered (crossing.machine.next command world).ledger := by
    intro world command holding meets
    cases command with
    | submit submission => exact holding.submit meets
    | sign signer authorization => exact holding
    | transact timestamp call => exact holding
  exact Machine.throughout_run kept commands numbers numbered

/-! ## One release for an operation -/

section Releases

variable {ledger : Interop.Ledger Party} {token : Address} {direct : Payload Party → Prop}

omit [DecidableEq Party] in
/-- Choices lead to later stages. -/
theorem stage_lt_of_descends (lineages : Lineages direct ledger) {ancestor contract : ContractId}
    {source target : Payload Party} (known : ledger.payload ancestor = some source)
    (descends : Descends ledger ancestor contract)
    (there : ledger.payload contract = some target) :
    contract = ancestor ∨ source.stage < target.stage := by
  induction descends generalizing target with
  | refl => exact .inl rfl
  | @choice exercised above member ih =>
      right
      obtain ⟨left, found, _, middle, actors, consumed, _, _, yields⟩ :=
        lineages.recorded exercised member
      cases there.symm.trans found
      rw [yields.stage]
      rcases ih consumed with same | earlier
      · rw [same, known] at consumed
        cases consumed
        exact Nat.lt_succ_self _
      · exact Nat.lt_succ_of_lt earlier

omit [DecidableEq Party] in
/-- One authorization at most is under an operation of the operator. -/
theorem Numbered.authorization_unique (numbered : crossing.Numbered ledger)
    {first second : ContractId} {one other : ReleaseAuthorization Party}
    (here : ledger.payload first = some (.releaseAuthorization one))
    (there : ledger.payload second = some (.releaseAuthorization other))
    (operator : one.operator = crossing.operator) (own : other.operator = crossing.operator)
    (same : crossing.identifier one.operationId = crossing.identifier other.operationId) :
    first = second := by
  have lineages := numbered.lineages
  obtain ⟨origin, intent, begun, bridged, descends⟩ :=
    lineages.origin (fun _ created stands => created _ stands operator) here rfl
  obtain ⟨source, opened, started, carried, follows⟩ :=
    lineages.origin (fun _ created stands => created _ stands own) there rfl
  have operation : intent.operationId = one.operationId := congrArg BridgedAsset.operationId bridged
  have otherOperation : opened.operationId = other.operationId :=
    congrArg BridgedAsset.operationId carried
  have signs : intent.operator = one.operator := congrArg BridgedAsset.operator bridged
  have cosigns : opened.operator = other.operator := congrArg BridgedAsset.operator carried
  have shared : origin = source := by
    refine numbered.distinct origin source intent opened begun started (signs.trans operator)
      (cosigns.trans own) ?_
    rw [operation, otherOperation, same]
  subst shared
  rcases descends.linear lineages.consuming follows with below | above
  · rcases stage_lt_of_descends lineages here below there with equal | later
    · exact equal.symm
    · exact absurd later (Nat.lt_irrefl _)
  · rcases stage_lt_of_descends lineages there above here with equal | later
    · exact equal
    · exact absurd later (Nat.lt_irrefl _)

variable (crossing) in
/-- The release that a contract authorizes for a representation. -/
def releasedFor (token : Address) : Option (Payload Party) → Option (ReleaseAuthorization Party)
  | some (.releaseAuthorization authorization) =>
      if authorization.operator = crossing.operator ∧
          crossing.representation (crossing.identifier authorization.assetId) = token then
        some authorization
      else none
  | _ => none

variable (crossing) in
/-- What was ever authorized for release. -/
def released (ledger : Interop.Ledger Party) (token : Address) : List (ReleaseAuthorization Party) :=
  (List.range ledger.created.length).filterMap fun contract =>
    crossing.releasedFor token (ledger.payload contract)

theorem of_releasedFor {found : Option (Payload Party)} {authorization : ReleaseAuthorization Party}
    (stands : crossing.releasedFor token found = some authorization) :
    found = some (.releaseAuthorization authorization) ∧
      authorization.operator = crossing.operator ∧
      crossing.representation (crossing.identifier authorization.assetId) = token := by
  unfold releasedFor at stands
  split at stands
  · split at stands
    · rename_i values
      cases stands
      exact ⟨rfl, values⟩
    · cases stands
  · cases stands

theorem Numbered.released_distinct (numbered : crossing.Numbered ledger) (token : Address) :
    ((crossing.released ledger token).map fun authorization =>
      crossing.identifier authorization.operationId).Nodup := by
  refine List.pairwise_map.mpr (List.pairwise_filterMap.mpr ?_)
  refine List.nodup_range.imp fun {first second} different one stands other found same => ?_
  obtain ⟨here, operator, _⟩ := of_releasedFor stands
  obtain ⟨there, own, _⟩ := of_releasedFor found
  exact different (numbered.authorization_unique here there operator own same)

omit [DecidableEq Party] in
/-- What the operator has authorized was burned, on the representation of the asset. -/
theorem Holds.authorized_burned {world : CrossingWorld Party} (holds : crossing.Holds world)
    (numbered : crossing.Numbered world.ledger) {contract : ContractId}
    {authorization : ReleaseAuthorization Party}
    (known : world.ledger.payload contract = some (.releaseAuthorization authorization))
    (operator : authorization.operator = crossing.operator) :
    crossing.Burns world.chain authorization.operationId authorization.assetId
      authorization.amount := by
  rcases numbered.lineages.traced.derived contract _ known with
    created | ⟨exercised, member, derives⟩
  · exact absurd (created _ rfl operator) id
  · obtain ⟨locked, attestationCid, attestation, choice, _, rfl, acting, recorded, attests⟩ :=
      derives.authorized
    have own : locked.operator = crossing.operator := operator
    rw [own] at acting
    exact holds.evidenced.burned member acting choice recorded attests

end Releases

/-- **Burned releases.** Over any run in which the operator opens no operation twice and leaves the
other contracts to the choices, what it has authorized for release on the one ledger was burned on
the other, operation by operation: the supply of a representation and its releases together are at
most what was minted. -/
theorem releases_burned (crossing : Crossing Party) {start : CrossingWorld Party}
    (launched : crossing.Launched start) (commands : List (CrossingCommand Party))
    (follows : crossing.machine.Throughout crossing.Follows commands start)
    (numbers : crossing.machine.Throughout crossing.Numbers commands start) :
    let reached := crossing.machine.run commands start
    ∀ token,
      let released := ((crossing.released reached.ledger token).map fun authorization =>
        authorization.amount.toNat).sum
      released ≤ executedAmount reached.chain.executions token .burn ∧
        ∀ representation, reached.chain.code token = some (.representation representation) →
          representation.totalSupply + released ≤
            executedAmount reached.chain.executions token .mint := by
  intro reached token released
  have holds : crossing.Holds reached := launched.holds.run commands follows
  have unopened : crossing.Numbered start.ledger := by
    rw [launched.ledger]
    exact ⟨.empty, fun first second opened other here => by cases here⟩
  have numbered : crossing.Numbered reached.ledger := unopened.run commands numbers
  have matched : ∀ authorization ∈ crossing.released reached.ledger token,
      ∃ burn ∈ reached.chain.executions.filter fun execution =>
        execution.token = token ∧ execution.effect = .burn,
        burn.operationId = crossing.identifier authorization.operationId ∧
          authorization.amount.toNat ≤ burn.amount.toNat := by
    intro authorization member
    obtain ⟨contract, _, stands⟩ := List.mem_filterMap.mp member
    obtain ⟨known, operator, represented⟩ := of_releasedFor stands
    obtain ⟨burn, among, here, effect, operation, asset, amount⟩ :=
      holds.authorized_burned numbered known operator
    refine ⟨burn, List.mem_filter.mpr ⟨among, decide_eq_true ⟨?_, effect⟩⟩, operation, ?_⟩
    · rw [holds.executes.represented burn among here (by rw [effect]; decide), asset, represented]
    · rw [← amount, Int.toNat_natCast]
  have burned : released ≤ executedAmount reached.chain.executions token .burn :=
    Accounts.sum_le_of_matched (fun execution : Execution => execution.amount.toNat) _
      (numbered.released_distinct token) matched
  refine ⟨burned, fun representation stands => ?_⟩
  have supply := (holds.executes.accounted.tokens token representation stands).supply
  omega

end InterWeave.Crossing

namespace InterWeave.OneAsset

open Daml Atomic SharedVerifier Interop.SelfAttested

/-- The hundred is burned again, the validators attest the burn, and the operator authorizes the
release of what it holds. -/
def returning : List (CrossingCommand String) :=
  [.transact 500 (.node ⟨9, first, .burnRepresentation 21 22 100 0⟩ [] true),
    .submit ⟨["Validators"], 600,
      [.create (.attestationRecord { attestation with validatorOperator := "Validators" })]⟩,
    .submit ⟨["Operator"], 700, [.exercise 1 (.authorizeRelease 2)]⟩]

theorem follows_returning : crossing.machine.Throughout crossing.Follows (minting ++ returning)
    start := by
  refine Machine.throughout_append.mpr
    ⟨follows_minting, ?_, ⟨?_, ?_, ?_⟩, ⟨?_, ?_, ?_⟩, trivial⟩
  · apply Crossing.follows_transact
    refine ⟨?_, ?_, ?_, ?_⟩
    · intro account granted
      cases granted
    · intro assetId config target sent enabled
      cases sent
    · intro threshold target sent
      cases sent
    · intro shown signatures presented
      cases presented
  · intro acting record member own
    cases List.mem_singleton.mp member
    unfold Crossing.Burns
    decide +kernel
  · intro acting contract attestationCid member
    cases List.mem_singleton.mp member
  · intro acting contract locked member
    cases List.mem_singleton.mp member
  · intro acting record member
    cases List.mem_singleton.mp member
  · intro acting contract attestationCid member
    cases List.mem_singleton.mp member
    exact ⟨{ attestation with validatorOperator := "Validators" }, by decide +kernel, rfl⟩
  · intro acting contract locked member
    cases List.mem_singleton.mp member

theorem numbers_returning : crossing.machine.Throughout crossing.Numbers (minting ++ returning)
    start := by
  have opens : ∀ commands : List (Interop.LedgerCommand String),
      commands.filterMap crossing.opens = [] →
      (∀ payload, .create payload ∈ commands → payload.Submitted) →
      ∀ ledger, crossing.Opens ledger commands := by
    intro commands none submitted ledger
    refine ⟨?_, fun contract opened known operator => ?_, fun payload member _ _ _ =>
      submitted payload member⟩
    · rw [none]
      exact List.nodup_nil
    · rw [none]
      exact List.not_mem_nil
  refine ⟨fun acting => ⟨by decide, ?_, ?_⟩, fun acting => opens _ rfl ?_ _, trivial, trivial,
    trivial, trivial, fun acting => opens _ rfl ?_ _, fun acting => opens _ rfl ?_ _, trivial⟩
  · intro contract opened known
    cases known
  · intro payload member asset stands own
    cases List.mem_singleton.mp member
    trivial
  all_goals
    intro payload member
    cases List.mem_singleton.mp member
  trivial

/-- The hundred that is released was burned. -/
theorem returning_burned :
    ((crossing.released (crossing.machine.run (minting ++ returning) start).ledger
        SharedVerifier.token).map fun authorization => authorization.amount.toNat) = [100] ∧
    100 ≤ executedAmount (crossing.machine.run (minting ++ returning) start).chain.executions
      SharedVerifier.token .burn := by
  have released : (crossing.released (crossing.machine.run (minting ++ returning) start).ledger
      SharedVerifier.token).map (fun authorization => authorization.amount.toNat) = [100] := by
    decide +kernel
  refine ⟨released, ?_⟩
  have burned := (Crossing.releases_burned crossing launched _ follows_returning numbers_returning
    SharedVerifier.token).1
  rwa [released] at burned

end InterWeave.OneAsset
