import InterWeave.Custody.Crossing

/-! # Executions under a crossing

While the administrators keep to the crossing, its gateway executes on the representation of the
asset, and every mint carries the signature of a signer that is not faulty over its values.
-/

namespace InterWeave

open Atomic EvmWorld

section Acts

variable {evm : Evm} {message : Message} {world next : EvmWorld} {address : Address}

/-- What a step of a message may do to the contract at an address. -/
inductive Contract.Changes (message : Message) (address : Address) : Contract → Contract → Prop where
  | refl (contract : Contract) : Changes message address contract contract
  | gateway (before : InterWeaveGateway) (roles : Roles) (paused entered : Bool)
      (processed : Bytes32 → Effect → Bool) : Changes message address (.gateway before)
        (.gateway { before with roles, paused, entered, processed })
  | verifier {before after : AttestationVerifier} : message.target = address →
      before.enter message.sender message.call = .ok after →
      Changes message address (.verifier before) (.verifier after)
  | registry {before after : InterWeaveAssetRegistry} : message.target = address →
      before.enter message.sender message.call = .ok after →
      Changes message address (.registry before) (.registry after)
  | representation (before after : InterWeaveRepresentation) :
      Changes message address (.representation before) (.representation after)

/-- A contract that is set in the place of another one. -/
theorem EvmWorld.changes_set {before after contract : Contract} {changed : Address}
    (known : world.code address = some before) (stands : world.code changed = some contract)
    (changes : contract.Changes message changed after) :
    ∃ later, (world.set changed after).code address = some later ∧
      before.Changes message address later := by
  by_cases same : address = changed
  · subst same
    cases known.symm.trans stands
    exact ⟨after, set_code_self, changes⟩
  · exact ⟨before, (set_code_of_ne same).trans known, .refl before⟩

theorem EvmWorld.changes_executed {before : Contract} {gateway : InterWeaveGateway}
    {execution : Execution} (known : world.code address = some before)
    (stands : world.code execution.gateway = some (.gateway gateway)) :
    ∃ later, (world.executed gateway execution).code address = some later ∧
      before.Changes message address later :=
  changes_set known stands (.gateway gateway gateway.roles gateway.paused gateway.entered
    (gateway.consume execution.operationId execution.effect).processed)

/-- Contracts stay where they are, and change as their kind does. -/
theorem EvmWorld.Acts.changes {before : Contract} (acts : EvmWorld.Acts evm message world next)
    (known : world.code address = some before) :
    ∃ later, next.code address = some later ∧ before.Changes message address later := by
  cases acts with
  | @gateway state roles paused entered stands =>
      exact changes_set known stands (.gateway state roles paused entered state.processed)
  | verifier stands entered => exact changes_set known stands (.verifier rfl entered)
  | registry stands entered => exact changes_set known stands (.registry rfl entered)
  | token stands outsider entered => exact changes_set known stands (.representation _ _)
  | execute stands fresh checked requested unknown => exact changes_executed known stands
  | @executeOn gateway execution token after stands fresh checked requested called entered =>
      by_cases same : address = execution.token
      · subst same
        cases known.symm.trans called
        exact ⟨_, set_code_self, .representation _ _⟩
      · rw [set_code_of_ne same]
        exact changes_executed known stands

/-- No contract is created. -/
theorem EvmWorld.Acts.code_none (acts : EvmWorld.Acts evm message world next)
    (unknown : world.code address = none) : next.code address = none := by
  have kept : ∀ {changed contract after}, world.code changed = some contract →
      (world.set changed after).code address = none := by
    intro changed contract after stands
    rw [set_code_of_ne, unknown]
    rintro rfl
    cases unknown.symm.trans stands
  cases acts with
  | gateway roles paused entered stands => exact kept stands
  | verifier stands entered => exact kept stands
  | registry stands entered => exact kept stands
  | token stands outsider entered => exact kept stands
  | execute stands fresh checked requested absent => exact kept stands
  | @executeOn gateway execution token after stands fresh checked requested called entered =>
      rw [set_code_of_ne]
      · exact kept stands
      · rintro rfl
        cases unknown.symm.trans called

/-- The one execution that a step records, on unknown code or with the call of its token. -/
theorem EvmWorld.Acts.records (acts : EvmWorld.Acts evm message world next) :
    next.executions = world.executions ∨
      ∃ execution gateway, next.executions = execution :: world.executions ∧
        world.code execution.gateway = some (.gateway gateway) ∧
        execution.Checked evm world gateway ∧ execution.Requested world gateway message ∧
        (world.code execution.token = none ∨
          ∃ before after, world.code execution.token = some (.representation before) ∧
            before.enter execution.gateway execution.call = .ok after) := by
  cases acts with
  | gateway _ _ _ _ => exact .inl rfl
  | verifier _ _ => exact .inl rfl
  | registry _ _ => exact .inl rfl
  | token _ _ _ => exact .inl rfl
  | execute stands fresh checked requested unknown =>
      exact .inr ⟨_, _, rfl, stands, checked, requested, .inl unknown⟩
  | executeOn stands fresh checked requested called entered =>
      exact .inr ⟨_, _, rfl, stands, checked, requested, .inr ⟨_, _, called, entered⟩⟩

end Acts

/-- Only an account with the role of the gateway mints or burns. -/
theorem InterWeaveRepresentation.gateway_of_enter {token after : InterWeaveRepresentation}
    {execution : Execution} (moves : execution.effect ≠ .release)
    (entered : token.enter execution.gateway execution.call = .ok after) :
    token.roles .gateway execution.gateway = true := by
  unfold Execution.call at entered
  cases effect : execution.effect with
  | mint =>
      rw [effect] at entered
      obtain ⟨_, permitted, _⟩ := ok_of_bind entered
      exact Roles.onlyRole_ok permitted
  | burn =>
      rw [effect] at entered
      obtain ⟨_, permitted, _⟩ := ok_of_bind entered
      exact Roles.onlyRole_ok permitted
  | release => exact absurd effect moves

namespace Crossing

variable {Party : Type} {crossing : Crossing Party}
  {signed : List (Address × AttestationVerifier.Authorization)} {message : Message}
  {world next : EvmWorld}

/-! ## Governance -/

theorem Governed.step (governed : crossing.Governed world)
    (admitted : crossing.Admits signed message)
    (acts : EvmWorld.Acts crossing.evm message world next) : crossing.Governed next := by
  obtain ⟨gateway, here, verifies, registers⟩ := governed.gateway
  obtain ⟨verifier, there, above⟩ := governed.verifier
  obtain ⟨registry, known, consistent⟩ := governed.registry
  obtain ⟨_, stands, changed⟩ := acts.changes here
  obtain ⟨_, later, governs⟩ := acts.changes there
  obtain ⟨_, found, configured⟩ := acts.changes known
  refine ⟨?_, ?_, ?_⟩
  · cases changed with
    | refl => exact ⟨gateway, stands, verifies, registers⟩
    | gateway _ roles paused entered processed => exact ⟨_, stands, verifies, registers⟩
  · cases governs with
    | refl => exact ⟨verifier, later, above⟩
    | @verifier _ after target entered =>
        refine ⟨after, later, ?_⟩
        cases sent : message.call with
        | setThreshold threshold =>
            rw [sent] at entered
            obtain ⟨_, _, entered⟩ := ok_of_bind entered
            unfold AttestationVerifier.setThreshold at entered
            split at entered
            · cases entered
            · cases entered
              exact admitted.guards threshold target sent
        | setValidator validator enabled =>
            rw [sent] at entered
            obtain ⟨_, _, entered⟩ := ok_of_bind entered
            unfold AttestationVerifier.setValidator at entered
            split at entered
            · cases entered
            · cases entered
              exact above
        | access call =>
            rw [sent] at entered
            obtain ⟨_, _, entered⟩ := ok_of_bind entered
            cases entered
            exact above
        | _ =>
            rw [sent] at entered
            cases entered
  · cases configured with
    | refl => exact ⟨registry, found, consistent⟩
    | @registry _ after target entered =>
        refine ⟨after, found, ?_⟩
        cases sent : message.call with
        | configure assetId config =>
            rw [sent] at entered
            obtain ⟨_, _, entered⟩ := ok_of_bind entered
            unfold InterWeaveAssetRegistry.configure at entered
            split at entered
            · cases entered
            · cases entered
              intro other enabled
              by_cases same : other = assetId
              · subst same
                simp only [Function.update_self] at enabled ⊢
                exact admitted.represents other config target sent enabled
              · simp only [Function.update_of_ne same] at enabled ⊢
                exact consistent other enabled
        | access call =>
            rw [sent] at entered
            obtain ⟨_, _, entered⟩ := ok_of_bind entered
            cases entered
            exact consistent
        | _ =>
            rw [sent] at entered
            cases entered

/-- Mints and burns of the gateway are on the representation of their asset. -/
theorem Governed.token_eq {gateway : InterWeaveGateway} {execution : Execution}
    (governed : crossing.Governed world) (here : execution.gateway = crossing.gateway)
    (stands : world.code execution.gateway = some (.gateway gateway))
    (requested : execution.Requested world gateway message) (moves : execution.effect ≠ .release) :
    execution.token = crossing.representation execution.assetId := by
  obtain ⟨state, known, _, registers⟩ := governed.gateway
  rw [here, known] at stands
  cases stands
  obtain ⟨registry, found, consistent⟩ := governed.registry
  obtain ⟨config, configured, enabled, token⟩ := requested.configured
  unfold assetAt at configured
  rw [registers, found] at configured
  cases configured
  rw [token, ← consistent _ enabled]
  cases effect : execution.effect with
  | release => exact absurd effect moves
  | mint => rfl
  | burn => rfl

/-- Among the accepted signers of a gateway's execution is one that is not faulty, and its
signature was given. -/
theorem Governed.signer {gateway : InterWeaveGateway} {execution : Execution}
    (governed : crossing.Governed world) (admitted : crossing.Admits signed message)
    (here : execution.gateway = crossing.gateway)
    (stands : world.code execution.gateway = some (.gateway gateway))
    (checked : execution.Checked crossing.evm world gateway)
    (requested : execution.Requested world gateway message) (authorized : execution.effect ≠ .burn) :
    ∃ signer authorization, signer ∉ crossing.faulty ∧ (signer, authorization) ∈ signed ∧
      execution.Matches authorization := by
  obtain ⟨state, known, verifies, _⟩ := governed.gateway
  rw [here, known] at stands
  cases stands
  obtain ⟨verification, authorizedBy, verifier⟩ := checked.authorizedBy authorized
  obtain ⟨held, found, above⟩ := governed.verifier
  have same : verification.state = held := by
    obtain ⟨_, _, _, _, current, _⟩ := checked.of_verified authorizedBy.recorded
    rw [verifies, found] at current
    cases current
    rfl
  obtain ⟨signers, enough, each⟩ := authorizedBy.signed
  -- more signers than faulty ones
  obtain ⟨signer, member, sound⟩ : ∃ signer ∈ signers, signer ∉ crossing.faulty := by
    by_contra all
    push Not at all
    have fewer := Finset.card_le_card (show signers ⊆ crossing.faulty from all)
    rw [same] at enough
    omega
  obtain ⟨_, signature, given, recovered⟩ := each signer member
  rw [verifier, verifies] at recovered
  exact ⟨signer, verification.authorization, sound,
    admitted.authentic _ _ (requested.presented _ authorizedBy.recorded) signature given signer
      sound recovered, authorizedBy.values⟩

/-! ## Executions -/

/-- The chain is governed by the crossing, and so are the executions of its gateway. -/
structure Executes (crossing : Crossing Party)
    (signed : List (Address × AttestationVerifier.Authorization)) (world : EvmWorld) : Prop where
  recorded : world.Recorded
  accounted : world.Accounted crossing.gateway
  governed : crossing.Governed world
  represented : ∀ execution ∈ world.executions, execution.gateway = crossing.gateway →
    execution.effect ≠ .release → execution.token = crossing.representation execution.assetId
  owned : ∀ execution ∈ world.executions, execution.effect ≠ .release →
    ∀ token, world.code execution.token = some (.representation token) →
      execution.gateway = crossing.gateway
  signed : ∀ execution ∈ world.executions, execution.gateway = crossing.gateway →
    execution.effect = .mint → ∃ signer authorization, signer ∉ crossing.faulty ∧
      (signer, authorization) ∈ signed ∧ execution.Matches authorization

theorem Executes.step (executes : crossing.Executes signed world)
    (admitted : crossing.Admits signed message)
    (acts : EvmWorld.Acts crossing.evm message world next) : crossing.Executes signed next := by
  have step : EvmWorld.Step crossing.evm
      (InterWeaveRepresentation.Restricts crossing.gateway) world next :=
    acts.step admitted.restricted
  have owned : ∀ execution ∈ world.executions, execution.effect ≠ .release →
      ∀ token, next.code execution.token = some (.representation token) →
        execution.gateway = crossing.gateway := by
    intro execution member moves token stands
    cases before : world.code execution.token with
    | none => exact nomatch (acts.code_none before).symm.trans stands
    | some contract =>
        obtain ⟨later, there, changes⟩ := acts.changes before
        cases there.symm.trans stands
        cases changes with
        | refl => exact executes.owned execution member moves token before
        | representation earlier => exact executes.owned execution member moves earlier before
  refine ⟨executes.recorded.step step, executes.accounted.step step,
    executes.governed.step admitted acts, ?_, ?_, ?_⟩
  all_goals rcases acts.records with same | ⟨added, gateway, records, stands, checked, requested, on⟩
  · rw [same]
    exact executes.represented
  · rw [records]
    refine List.forall_mem_cons.mpr ⟨fun here moves => ?_, executes.represented⟩
    exact executes.governed.token_eq here stands requested moves
  · rw [same]
    exact owned
  · rw [records]
    refine List.forall_mem_cons.mpr ⟨fun moves token found => ?_, owned⟩
    rcases on with unknown | ⟨before, after, called, entered⟩
    · exact nomatch (acts.code_none unknown).symm.trans found
    · exact (executes.accounted.tokens _ before called).restricted _
        (InterWeaveRepresentation.gateway_of_enter moves entered)
  · rw [same]
    exact executes.signed
  · rw [records]
    refine List.forall_mem_cons.mpr ⟨fun here minted => ?_, executes.signed⟩
    refine executes.governed.signer admitted here stands checked requested ?_
    rw [minted]
    decide

/-- A transaction of admitted messages keeps what has been executed. -/
theorem Executes.transact (executes : crossing.Executes signed world) (timestamp : Uint256)
    {call : CallTree Message} (admitted : call.All (crossing.Admits signed)) :
    crossing.Executes signed ((chain crossing.evm).next (timestamp, call) world) ∧
      ∀ execution ∈ world.executions,
        execution ∈ ((chain crossing.evm).next (timestamp, call) world).executions := by
  have preserves : (chainContracts crossing.evm).Preserves (crossing.Admits signed) fun later =>
      crossing.Executes signed later ∧
        ∀ execution ∈ world.executions, execution ∈ later.executions := by
    refine messages_preserve fun {message inner left} admitted acts holding => ?_
    refine ⟨holding.1.step admitted acts, fun execution member => ?_⟩
    rcases acts.records with same | ⟨added, gateway, records, _⟩
    · rw [same]
      exact holding.2 execution member
    · rw [records]
      exact List.mem_cons_of_mem _ (holding.2 execution member)
  refine preserves.run (fun block later holding => ?_) [(timestamp, call)] (fun transaction member => ?_)
    ⟨executes, fun _ member => member⟩
  · exact ⟨⟨⟨holding.1.recorded.marked, holding.1.recorded.once, holding.1.recorded.matched⟩,
      ⟨holding.1.accounted.present, holding.1.accounted.tokens⟩,
      ⟨holding.1.governed.gateway, holding.1.governed.verifier, holding.1.governed.registry⟩,
      holding.1.represented, holding.1.owned, holding.1.signed⟩, holding.2⟩
  · rw [List.mem_singleton.mp member]
    exact admitted

end Crossing
end InterWeave
