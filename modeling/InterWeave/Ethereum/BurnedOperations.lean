import InterWeave.Ethereum.Replay

/-! # Burned operations

The marks of a gateway are shared by all accounts: a burn of one holder marks its operation for
every other. No mark and no guard is left behind by anything else, so between transactions a burn
that the balance covers is refused exactly where its operation has been burned, by whomever, or
where the token does not admit the gateway.
-/

namespace InterWeave

open Atomic EvmWorld InterWeaveGateway

/-! ## The guards -/

/-- The status of the guard of the gateway at an address. -/
def EvmWorld.guardAt (world : EvmWorld) (address : Address) : Option Bool :=
  match world.code address with
  | some (.gateway gateway) => some gateway.entered
  | _ => none

/-- Every guard is as it was before. -/
def EvmWorld.KeepsGuards (world next : EvmWorld) : Prop :=
  ∀ address, next.guardAt address = world.guardAt address

theorem keepsGuards_preorder : IsPreorder EvmWorld EvmWorld.KeepsGuards where
  refl _ _ := rfl
  trans _ _ _ before after address := (after address).trans (before address)

section Guards

variable {evm : Evm} {outside : EvmWorld → Except EvmError EvmWorld} {self : Address}
  {world next : EvmWorld} {address : Address}

theorem guardAt_of_gateway {gateway : InterWeaveGateway}
    (known : world.code address = some (.gateway gateway)) :
    world.guardAt address = some gateway.entered := by
  rw [guardAt, known]

theorem guardAt_set_self {gateway : InterWeaveGateway} :
    (world.set address (.gateway gateway)).guardAt address = some gateway.entered :=
  guardAt_of_gateway set_code_self

theorem guardAt_set_of_ne {other : Address} {contract : Contract} (different : other ≠ address) :
    (world.set address contract).guardAt other = world.guardAt other := by
  rw [guardAt, set_code_of_ne different, guardAt]

theorem EvmWorld.KeepsGuards.set_gateway {before after : InterWeaveGateway}
    (known : world.code address = some (.gateway before)) (same : after.entered = before.entered) :
    world.KeepsGuards (world.set address (.gateway after)) := by
  intro other
  by_cases here : other = address
  · rw [here, guardAt_set_self, guardAt_of_gateway known, same]
  · exact guardAt_set_of_ne here

theorem EvmWorld.KeepsGuards.set_other {before after : Contract}
    (known : world.code address = some before) (was : ∀ gateway, before ≠ .gateway gateway)
    (becomes : ∀ gateway, after ≠ .gateway gateway) :
    world.KeepsGuards (world.set address after) := by
  have unguarded : ∀ {here : EvmWorld} {contract : Contract},
      here.code address = some contract → (∀ gateway, contract ≠ .gateway gateway) →
      here.guardAt address = none := by
    intro here contract stands other
    rw [guardAt, stands]
    cases contract with
    | gateway gateway => exact absurd rfl (other gateway)
    | verifier => rfl
    | registry => rfl
    | representation => rfl
  intro other
  by_cases here : other = address
  · rw [here, unguarded set_code_self becomes, unguarded known was]
  · exact guardAt_set_of_ne here

theorem EvmWorld.KeepsGuards.executed {gateway : InterWeaveGateway} {execution : Execution}
    (known : world.code execution.gateway = some (.gateway gateway)) :
    world.KeepsGuards (world.executed gateway execution) :=
  KeepsGuards.set_gateway known rfl

theorem EvmWorld.KeepsGuards.guarded
    {body : InterWeaveGateway → EvmWorld → Except EvmError EvmWorld}
    (keeps : ∀ gateway inner left, inner.code self = some (.gateway gateway) →
      body gateway inner = .ok left → inner.KeepsGuards left)
    (returned : guarded self body world = .ok next) : world.KeepsGuards next := by
  obtain ⟨gateway, found, returned⟩ := ok_of_bind returned
  have known := gatewayAt_ok found
  split at returned
  · cases returned
  · split at returned
    · cases returned
    · rename_i free
      obtain ⟨left, executed, returned⟩ := ok_of_bind returned
      obtain ⟨after, found, returned⟩ := ok_of_bind returned
      cases returned
      intro address
      by_cases here : address = self
      · rw [here, guardAt_set_self, guardAt_of_gateway known, Bool.eq_false_iff.mpr free]
      · rw [guardAt_set_of_ne here, keeps _ _ _ set_code_self executed, guardAt_set_of_ne here]

variable (calls : ∀ inner left, outside inner = .ok left → inner.KeepsGuards left)

include calls

theorem EvmWorld.KeepsGuards.callToken {token : Address} {call : ContractCall}
    (called : callToken outside self token call world = .ok next) : world.KeepsGuards next := by
  unfold InterWeaveGateway.callToken at called
  split at called
  · rename_i state known
    obtain ⟨after, _, returned⟩ := ok_of_bind called
    cases returned
    exact .set_other known nofun nofun
  · cases called
  · exact calls _ _ called

theorem EvmWorld.KeepsGuards.authorized {gateway : InterWeaveGateway} {request : ExecutionRequest}
    {effect : Effect} {token : Address} {call : ContractCall} (distinct : effect ≠ .burn)
    (known : world.code self = some (.gateway gateway))
    (returned : (do
      let consumed ← authorizeAndConsume evm self gateway request effect token world
      InterWeaveGateway.callToken outside self token call consumed) = .ok next) :
    world.KeepsGuards next := by
  obtain ⟨consumed, authorized, called⟩ := ok_of_bind returned
  obtain ⟨execution, rfl, rfl, _⟩ := authorizeAndConsume_ok distinct authorized
  exact keepsGuards_preorder.trans _ _ _ (.executed known) (.callToken calls called)

theorem EvmWorld.KeepsGuards.executeMint {request : ExecutionRequest}
    (returned : executeMint evm outside self request world = .ok next) :
    world.KeepsGuards next := by
  refine .guarded (fun gateway inner left stands executed => ?_) returned
  obtain ⟨config, _, executed⟩ := ok_of_bind executed
  split at executed
  · cases executed
  · exact .authorized calls (by decide) stands executed

theorem EvmWorld.KeepsGuards.executeRelease {request : ExecutionRequest}
    (returned : executeRelease evm outside self request world = .ok next) :
    world.KeepsGuards next := by
  refine .guarded (fun gateway inner left stands executed => ?_) returned
  obtain ⟨config, _, executed⟩ := ok_of_bind executed
  split at executed
  · cases executed
  · exact .authorized calls (by decide) stands executed

theorem EvmWorld.KeepsGuards.burnRepresentation {sender : Address} {operationId assetId : Bytes32}
    {amount : Uint256}
    (returned : burnRepresentation outside self sender operationId assetId amount world =
      .ok next) : world.KeepsGuards next := by
  refine .guarded (fun gateway inner left stands executed => ?_) returned
  split at executed
  · cases executed
  · obtain ⟨config, _, executed⟩ := ok_of_bind executed
    split at executed
    · cases executed
    · split at executed
      · cases executed
      · refine keepsGuards_preorder.trans _ _ _ (.executed ?_) (.callToken calls executed)
        exact stands

theorem EvmWorld.KeepsGuards.gateway {gateway : InterWeaveGateway} {sender : Address}
    {call : ContractCall} (known : world.code self = some (.gateway gateway))
    (returned : gateway.enter evm outside self sender call world = .ok next) :
    world.KeepsGuards next := by
  cases call with
  | access call =>
      obtain ⟨roles, _, returned⟩ := ok_of_bind returned
      cases returned
      exact .set_gateway known rfl
  | pause =>
      obtain ⟨_, _, returned⟩ := ok_of_bind returned
      split at returned
      · cases returned
      · cases returned
        exact .set_gateway known rfl
  | unpause =>
      obtain ⟨_, _, returned⟩ := ok_of_bind returned
      split at returned
      · cases returned
      · cases returned
        exact .set_gateway known rfl
  | executeMint request => exact .executeMint calls returned
  | executeRelease request => exact .executeRelease calls returned
  | burnRepresentation => exact .burnRepresentation calls returned
  | setValidator => cases returned
  | setThreshold => cases returned
  | configure => cases returned
  | protocolMint => cases returned
  | protocolBurn => cases returned
  | transfer => cases returned
  | approve => cases returned
  | transferFrom => cases returned

end Guards

/-- Every call leaves every guard as it was, whatever is called back. -/
theorem chain_keepsGuards (evm : Evm) : (chainContracts evm).Relates EvmWorld.KeepsGuards := by
  intro message outside world next calls entered
  change EvmWorld.enter evm message outside world = .ok next at entered
  unfold EvmWorld.enter at entered
  split at entered
  · cases entered
  · split at entered
    · exact calls _ _ entered
    · rename_i gateway known
      exact .gateway calls known entered
    · rename_i verifier known
      obtain ⟨after, _, entered⟩ := ok_of_bind entered
      cases entered
      exact .set_other known nofun nofun
    · rename_i registry known
      obtain ⟨after, _, entered⟩ := ok_of_bind entered
      cases entered
      exact .set_other known nofun nofun
    · rename_i token known
      obtain ⟨after, _, entered⟩ := ok_of_bind entered
      cases entered
      exact .set_other known nofun nofun

/-! ## The marks -/

/-- Contracts as their constructors have left them. -/
structure EvmWorld.Deployed (world : EvmWorld) : Prop where
  gateways : ∀ address gateway, world.code address = some (.gateway gateway) → ∃ admin pauser,
    InterWeaveGateway.constructor admin pauser gateway.verifier gateway.registry = .ok gateway
  tokens : ∀ address token, world.code address = some (.representation token) →
    ∃ admin gateway, InterWeaveRepresentation.constructor admin gateway = .ok token
  executions : world.executions = []

/-- Every mark is that of a recorded execution, and the zero address holds nothing. -/
structure EvmWorld.Traced (world : EvmWorld) : Prop where
  marks : ∀ address gateway, world.code address = some (.gateway gateway) →
    ∀ operationId effect, gateway.processed operationId effect = true →
      ∃ execution ∈ world.executions, execution.key = (address, operationId, effect)
  unowned : ∀ address token, world.code address = some (.representation token) →
    token.balances 0 = 0

theorem InterWeaveGateway.constructor_ok {admin pauser verifier registry : Address}
    {gateway : InterWeaveGateway}
    (constructed : constructor admin pauser verifier registry = .ok gateway) :
    gateway.entered = false ∧ ∀ operationId effect, gateway.processed operationId effect = false := by
  rw [constructor] at constructed
  split at constructed
  · cases constructed
  · cases constructed
    exact ⟨rfl, fun _ _ => rfl⟩

theorem InterWeaveRepresentation.constructor_unowned {admin gateway : Address}
    {token : InterWeaveRepresentation} (constructed : constructor admin gateway = .ok token) :
    token.balances 0 = 0 := by
  rw [constructor] at constructed
  split at constructed
  · cases constructed
  · cases constructed
    rfl

theorem EvmWorld.Deployed.traced {world : EvmWorld} (deployed : world.Deployed) :
    world.Traced := by
  constructor
  · intro address gateway known operationId effect processed
    obtain ⟨admin, pauser, constructed⟩ := deployed.gateways address gateway known
    rw [(constructor_ok constructed).2] at processed
    cases processed
  · intro address token known
    obtain ⟨admin, gateway, constructed⟩ := deployed.tokens address token known
    exact InterWeaveRepresentation.constructor_unowned constructed

theorem EvmWorld.Deployed.recorded {world : EvmWorld} (deployed : world.Deployed) :
    world.Recorded := by
  constructor
  · rw [deployed.executions]
    exact List.forall_mem_nil _
  · rw [deployed.executions]
    exact List.nodup_nil
  · rw [deployed.executions]
    exact List.forall_mem_nil _

theorem InterWeaveGateway.of_consume_processed {gateway : InterWeaveGateway}
    {consumed operationId : Bytes32} {other effect : Effect}
    (processed : (gateway.consume consumed other).processed operationId effect = true) :
    (operationId = consumed ∧ effect = other) ∨ gateway.processed operationId effect = true := by
  simp only [consume] at processed
  by_cases same : operationId = consumed
  · subst same
    rw [Function.update_self] at processed
    by_cases equal : effect = other
    · exact .inl ⟨rfl, equal⟩
    · rw [Function.update_of_ne equal] at processed
      exact .inr processed
  · rw [Function.update_of_ne same] at processed
    exact .inr processed

namespace InterWeaveRepresentation

variable {token next : InterWeaveRepresentation} {sender : Address}

theorem move_unowned {owner receiver : Address} {value : Nat} (unowned : token.balances 0 = 0)
    (moved : token.move owner receiver value = .ok next) : next.balances 0 = 0 := by
  rw [move] at moved
  split at moved
  · cases moved
  · rename_i owned
    split at moved
    · cases moved
    · rename_i received
      split at moved
      · cases moved
      · cases moved
        dsimp only
        rw [Function.update_of_ne (Ne.symm received), Function.update_of_ne (Ne.symm owned),
          unowned]

theorem allow_balances {owner spender : Address} {value : Nat}
    (allowed : token.allow owner spender value = .ok next) : next.balances = token.balances := by
  rw [allow] at allowed
  split at allowed
  · cases allowed
  · split at allowed
    · cases allowed
    · cases allowed
      rfl

theorem spendAllowance_balances {owner spender : Address} {value : Nat}
    (spent : token.spendAllowance owner spender value = .ok next) :
    next.balances = token.balances := by
  rw [spendAllowance] at spent
  split at spent
  · cases spent
    rfl
  · split at spent
    · cases spent
    · exact allow_balances spent

/-- No function of a token credits the zero address. -/
theorem enter_unowned {call : ContractCall} (unowned : token.balances 0 = 0)
    (entered : token.enter sender call = .ok next) : next.balances 0 = 0 := by
  cases call with
  | access call =>
      obtain ⟨roles, _, entered⟩ := ok_of_bind entered
      cases entered
      exact unowned
  | protocolMint receiver amount =>
      obtain ⟨_, _, entered⟩ := ok_of_bind entered
      rw [mint] at entered
      split at entered
      · cases entered
      · rename_i received
        split at entered
        · cases entered
        · cases entered
          dsimp only
          rw [Function.update_of_ne (Ne.symm received), unowned]
  | protocolBurn owner amount =>
      obtain ⟨_, _, entered⟩ := ok_of_bind entered
      rw [burn] at entered
      split at entered
      · cases entered
      · rename_i owned
        split at entered
        · cases entered
        · cases entered
          dsimp only
          rw [Function.update_of_ne (Ne.symm owned), unowned]
  | transfer receiver value => exact move_unowned unowned entered
  | approve spender value => rwa [allow_balances entered]
  | transferFrom owner receiver value =>
      obtain ⟨spent, allowed, entered⟩ := ok_of_bind entered
      refine move_unowned ?_ entered
      rwa [spendAllowance_balances allowed]
  | setValidator => cases entered
  | setThreshold => cases entered
  | configure => cases entered
  | pause => cases entered
  | unpause => cases entered
  | executeMint => cases entered
  | executeRelease => cases entered
  | burnRepresentation => cases entered

end InterWeaveRepresentation

section Traced

variable {evm : Evm} {admits : Message → Prop} {world next : EvmWorld}

theorem EvmWorld.Traced.executed {gateway : InterWeaveGateway} {execution : Execution}
    (traced : world.Traced) (known : world.code execution.gateway = some (.gateway gateway)) :
    (world.executed gateway execution).Traced := by
  constructor
  · intro address later stands operationId effect processed
    rw [executed_executions]
    by_cases here : address = execution.gateway
    · subst here
      cases executed_code_self.symm.trans stands
      rcases of_consume_processed processed with ⟨rfl, rfl⟩ | processed
      · exact ⟨execution, List.mem_cons_self, rfl⟩
      · obtain ⟨earlier, member, key⟩ := traced.marks _ _ known _ _ processed
        exact ⟨earlier, List.mem_cons_of_mem _ member, key⟩
    · rw [executed_code_of_ne here] at stands
      obtain ⟨earlier, member, key⟩ := traced.marks _ _ stands _ _ processed
      exact ⟨earlier, List.mem_cons_of_mem _ member, key⟩
  · intro address token stands
    by_cases here : address = execution.gateway
    · subst here
      cases executed_code_self.symm.trans stands
    · rw [executed_code_of_ne here] at stands
      exact traced.unowned address token stands

theorem EvmWorld.Traced.set_token {place : Address} {after : InterWeaveRepresentation}
    (traced : world.Traced) (unowned : after.balances 0 = 0) :
    (world.set place (.representation after)).Traced := by
  constructor
  · intro address gateway stands
    by_cases here : address = place
    · subst here
      cases set_code_self.symm.trans stands
    · rw [set_code_of_ne here] at stands
      exact traced.marks address gateway stands
  · intro address token stands
    by_cases here : address = place
    · subst here
      cases set_code_self.symm.trans stands
      exact unowned
    · rw [set_code_of_ne here] at stands
      exact traced.unowned address token stands

theorem EvmWorld.Traced.step (traced : world.Traced)
    (step : EvmWorld.Step evm admits world next) : next.Traced := by
  cases step with
  | @reconfigure changed before after stands reconfigured =>
      constructor
      · intro address gateway known operationId effect processed
        by_cases here : address = changed
        · subst here
          cases set_code_self.symm.trans known
          cases reconfigured with
          | gateway before roles paused entered => exact traced.marks _ _ stands _ _ processed
        · rw [set_code_of_ne here] at known
          exact traced.marks _ _ known _ _ processed
      · intro address token known
        by_cases here : address = changed
        · subst here
          cases set_code_self.symm.trans known
          cases reconfigured
        · rw [set_code_of_ne here] at known
          exact traced.unowned address token known
  | token stands _ _ entered =>
      apply traced.set_token
      exact InterWeaveRepresentation.enter_unowned (traced.unowned _ _ stands) entered
  | execute known _ _ _ => exact traced.executed known
  | executeOn known _ _ stands entered =>
      apply (traced.executed known).set_token
      exact InterWeaveRepresentation.enter_unowned (traced.unowned _ _ stands) entered

theorem EvmWorld.Deployed.run_traced (deployed : world.Deployed)
    (transactions : List (Uint256 × CallTree Message)) :
    ((chain evm).run transactions world).Traced := by
  refine chain_run_preserves (fun _ => True) (fun step traced => traced.step step)
    (fun _ _ traced => ⟨traced.marks, traced.unowned⟩) transactions (fun transaction _ => ?_)
    deployed.traced
  exact CallTree.all_of_forall (fun _ => trivial) transaction.2

/-- Between transactions no gateway is entered. -/
theorem EvmWorld.Deployed.run_unentered (deployed : world.Deployed)
    (transactions : List (Uint256 × CallTree Message)) {address : Address}
    {gateway : InterWeaveGateway}
    (known : ((chain evm).run transactions world).code address = some (.gateway gateway)) :
    gateway.entered = false := by
  have opens (timestamp : Uint256) (world : EvmWorld) :
      world.KeepsGuards { world with timestamp } := fun _ => rfl
  have kept : ((chain evm).run transactions world).guardAt address = world.guardAt address :=
    (chain_keepsGuards evm).run keepsGuards_preorder opens transactions world address
  rw [guardAt_of_gateway known, guardAt] at kept
  split at kept
  · rename_i first stands
    obtain ⟨admin, pauser, constructed⟩ := deployed.gateways address first stands
    rw [Option.some.inj kept]
    exact (constructor_ok constructed).1
  · cases kept

end Traced

/-! ## Burns -/

/-- The holder has a balance of an enabled asset that covers a positive amount, and the gateway is
not paused. -/
structure EvmWorld.Covers (world : EvmWorld) (place holder : Address) (assetId : Bytes32)
    (amount : Uint256) (gateway : InterWeaveGateway) (config : AssetConfig)
    (token : InterWeaveRepresentation) : Prop where
  sender : world.code holder = none
  stands : world.code place = some (.gateway gateway)
  unpaused : gateway.paused = false
  asset : world.assetAt gateway.registry assetId = .ok config
  enabled : config.enabled = true
  represented : config.representation ≠ 0
  issued : world.code config.representation = some (.representation token)
  positive : amount ≠ 0
  covered : amount.toNat ≤ token.balances holder

section Burns

variable {evm : Evm} {outside : EvmWorld → Except EvmError EvmWorld} {self holder : Address}
  {assetId operationId : Bytes32} {amount : Uint256} {world : EvmWorld}
  {gateway : InterWeaveGateway} {config : AssetConfig} {token : InterWeaveRepresentation}

theorem protocolBurn_ok_iff {sender owner : Address} (owned : owner ≠ 0)
    (covered : amount.toNat ≤ token.balances owner) :
    (∃ next, token.protocolBurn sender owner amount = .ok next) ↔
      token.roles .gateway sender = true := by
  rw [InterWeaveRepresentation.protocolBurn, Roles.onlyRole]
  split
  · rename_i admitted
    rw [iff_true_right admitted]
    change ∃ next, token.burn owner amount.toNat = .ok next
    rw [InterWeaveRepresentation.burn, if_neg owned, if_neg (Nat.not_lt.mpr covered)]
    exact ⟨_, rfl⟩
  · rename_i refused
    refine ⟨fun ⟨next, burned⟩ => ?_, fun admitted => absurd admitted refused⟩
    cases burned

theorem guarded_ok_iff {body : InterWeaveGateway → EvmWorld → Except EvmError EvmWorld}
    (stands : world.code self = some (.gateway gateway)) (unpaused : gateway.paused = false)
    (free : gateway.entered = false) :
    (∃ next, guarded self body world = .ok next) ↔ ∃ left after,
      body { gateway with entered := true }
        (world.set self (.gateway { gateway with entered := true })) = .ok left ∧
      left.code self = some (.gateway after) := by
  have found : world.gatewayAt self = .ok gateway := by rw [gatewayAt, stands]
  have opened : guarded self body world = (do
      let left ← body { gateway with entered := true }
        (world.set self (.gateway { gateway with entered := true }))
      let after ← left.gatewayAt self
      return left.set self (.gateway { after with entered := false })) := by
    rw [guarded, found]
    change ite _ _ _ = _
    rw [unpaused, free]
    rfl
  rw [opened]
  constructor
  · rintro ⟨next, returned⟩
    obtain ⟨left, executed, returned⟩ := ok_of_bind returned
    obtain ⟨after, found, _⟩ := ok_of_bind returned
    exact ⟨left, after, executed, gatewayAt_ok found⟩
  · rintro ⟨left, after, executed, known⟩
    rw [executed]
    change ∃ next, (left.gatewayAt self >>= _) = .ok next
    rw [gatewayAt, known]
    exact ⟨_, rfl⟩

theorem callToken_representation {place : Address} {call : ContractCall}
    (known : world.code place = some (.representation token)) :
    callToken outside self place call world =
      (token.enter self call).map fun next => world.set place (.representation next) := by
  rw [callToken, known]
  rfl

/-- A covered burn is refused where the operation is marked or the token does not admit the
gateway, and nowhere else. -/
theorem EvmWorld.Covers.burn_ok_iff
    (covers : world.Covers self holder assetId amount gateway config token)
    (free : gateway.entered = false) (owned : holder ≠ 0) :
    (∃ next, burnRepresentation outside self holder operationId assetId amount world = .ok next) ↔
      gateway.processed operationId .burn = false ∧ token.roles .gateway self = true := by
  have elsewhere : config.representation ≠ self := by
    intro same
    have issued := covers.issued
    rw [same, covers.stands] at issued
    cases issued
  have asset : (world.set self (.gateway { gateway with entered := true })).assetAt gateway.registry
      assetId = .ok config := by
    rw [← covers.asset, assetAt, assetAt, set_code_of_ne]
    intro same
    have asset := covers.asset
    rw [assetAt, same, covers.stands] at asset
    cases asset
  rw [burnRepresentation, guarded_ok_iff covers.stands covers.unpaused free, asset]
  simp only [if_neg covers.positive]
  change (∃ left after, ite _ _ (ite _ _ _) = _ ∧ _) ↔ _
  rw [covers.enabled, decide_eq_false covers.represented, Bool.not_true, Bool.false_or,
    if_neg Bool.false_ne_true]
  cases marked : gateway.processed operationId .burn with
  | true =>
      rw [if_pos rfl]
      constructor
      · rintro ⟨left, after, refused, _⟩
        cases refused
      · rintro ⟨never, _⟩
        cases never
  | false =>
      have issued : (EvmWorld.executed
          (world.set self (.gateway { gateway with entered := true })) { gateway with entered := true }
          { gateway := self, operationId, effect := .burn, assetId, token := config.representation
            account := holder, amount, verification := none }).code config.representation =
          some (.representation token) := by
        rw [executed_code_of_ne elsewhere, set_code_of_ne elsewhere, covers.issued]
      rw [if_neg Bool.false_ne_true, callToken_representation issued, and_iff_right rfl,
        ← protocolBurn_ok_iff owned covers.covered]
      change (∃ left after, (token.protocolBurn self holder amount).map _ = .ok left ∧ _) ↔ _
      constructor
      · rintro ⟨left, after, called, _⟩
        cases entered : token.protocolBurn self holder amount with
        | error error =>
            rw [entered] at called
            cases called
        | ok burned => exact ⟨burned, rfl⟩
      · rintro ⟨burned, entered⟩
        rw [entered]
        refine ⟨_, consume { gateway with entered := true } operationId .burn, rfl, ?_⟩
        rw [set_code_of_ne (Ne.symm elsewhere)]
        exact executed_code_self

/-- **Burns.** After any run from deployed contracts, a burn that the balance of the holder covers
succeeds exactly if the token admits the gateway and nobody has burned under the operation there,
neither the holder nor another account. -/
theorem covered_burn_succeeds_iff (evm : Evm) {world : EvmWorld} (deployed : world.Deployed)
    (transactions : List (Uint256 × CallTree Message))
    (covers : ((chain evm).run transactions world).Covers self holder assetId amount gateway config
      token)
    (operationId destinationReceiver : Bytes32) (timestamp : Uint256)
    (nested : List (CallTree Message)) (accepts : Bool) :
    ((chain evm).execute (timestamp, .node ⟨holder, self,
        .burnRepresentation operationId assetId amount destinationReceiver⟩ nested accepts)
      ((chain evm).run transactions world)).1 = .ok () ↔
    token.roles .gateway self = true ∧
      ∀ execution ∈ ((chain evm).run transactions world).executions,
        execution.key ≠ (self, operationId, .burn) := by
  have traced : ((chain evm).run transactions world).Traced := deployed.run_traced transactions
  have free := deployed.run_unentered transactions covers.stands
  have recorded : ((chain evm).run transactions world).Recorded :=
    deployed.recorded.run transactions
  generalize (chain evm).run transactions world = reached at covers traced recorded ⊢
  have owned : holder ≠ 0 := by
    intro zero
    have covered := covers.covered
    rw [zero, traced.unowned _ _ covers.issued] at covered
    exact covers.positive (BitVec.eq_of_toNat_eq (Nat.le_zero.mp covered))
  have marked : gateway.processed operationId .burn = false ↔
      ∀ execution ∈ reached.executions, execution.key ≠ (self, operationId, .burn) := by
    constructor
    · intro fresh execution member key
      obtain ⟨burner, stands, processed⟩ := recorded.marked execution member
      obtain ⟨here, operation, effect⟩ : execution.gateway = self ∧
          execution.operationId = operationId ∧ execution.effect = .burn := by
        simpa only [Execution.key, Prod.mk.injEq] using key
      rw [here, covers.stands] at stands
      cases stands
      rw [operation, effect, fresh] at processed
      cases processed
    · intro unburned
      rw [← Bool.not_eq_true]
      intro processed
      obtain ⟨execution, member, key⟩ := traced.marks _ _ covers.stands _ _ processed
      exact unburned execution member key
  have opened : { reached with timestamp }.Covers self holder assetId amount gateway config token :=
    { covers with }
  have entered (outside : EvmWorld → Except EvmError EvmWorld) :
      (chainContracts evm).enter ⟨holder, self,
        .burnRepresentation operationId assetId amount destinationReceiver⟩ outside
        { reached with timestamp } =
      burnRepresentation outside self holder operationId assetId amount
        { reached with timestamp } := by
    simp only [chainContracts, EvmWorld.enter]
    rw [covers.sender, covers.stands]
    rfl
  refine Contracts.transactions_ok_iff.trans ?_
  simp only [Contracts.execute, entered]
  rw [opened.burn_ok_iff free owned, marked, and_comm]

end Burns

namespace SharedVerifier

/-- Two holders of the token: a hundred is minted to one, who transfers ten to the other. The other
burns one under an operation. -/
def burnedByAnother : List (Uint256 × CallTree Message) :=
  [⟨admin, registry, .configure 22 ⟨token, 0, true⟩⟩, ⟨100, first, .executeMint request⟩,
    ⟨9, token, .transfer 8 10⟩, ⟨8, first, .burnRepresentation 31 22 1 0⟩].map
    fun message => (500, .node message [] true)

theorem deployed : EvmWorld.Deployed ⟨code, 0, []⟩ := by
  have stands : ∀ {address contract}, code address = some contract →
      (AttestationVerifier.constructor admin admin [7] 1).toOption.map .verifier = some contract ∨
      (InterWeaveAssetRegistry.constructor admin admin).toOption.map .registry = some contract ∨
      (InterWeaveRepresentation.constructor admin first).toOption.map .representation =
        some contract ∨
      (InterWeaveGateway.constructor admin admin verifier registry).toOption.map .gateway =
        some contract := by
    intro address contract known
    simp only [code] at known
    split at known
    · exact .inl known
    · split at known
      · exact .inr (.inl known)
      · split at known
        · exact .inr (.inr (.inl known))
        · split at known
          · exact .inr (.inr (.inr known))
          · cases known
  refine ⟨fun address gateway known => ⟨admin, admin, ?_⟩,
    fun address representation known => ⟨admin, first, ?_⟩, rfl⟩
  · rcases stands known with other | other | other | constructed
    · cases other
    · cases other
    · cases other
    · cases constructed
      rfl
  · rcases stands known with other | other | constructed | other
    · cases other
    · cases other
    · cases constructed
      rfl
    · cases other

/-- A gateway that is open and has the registry. -/
def isOpen : Contract → Bool
  | .gateway gateway => !gateway.paused && gateway.registry = registry
  | _ => false

/-- A representation whose first holder has forty and whose gateway role has the gateway. -/
def isFunded : Contract → Bool
  | .representation representation =>
      decide (40 ≤ representation.balances 9) && representation.roles .gateway first
  | _ => false

/-- After these transactions the first holder has ninety left. -/
theorem covers_burn : ∃ gateway config representation,
    ((chain evm).run burnedByAnother ⟨code, 0, []⟩).Covers first 9 22 40 gateway config
      representation ∧ representation.roles .gateway first = true := by
  have gatewayThere :
      (((chain evm).run burnedByAnother ⟨code, 0, []⟩).code first).any isOpen = true := by
    decide +kernel
  have tokenThere :
      (((chain evm).run burnedByAnother ⟨code, 0, []⟩).code token).any isFunded = true := by
    decide +kernel
  obtain ⟨contract, stands, open_⟩ := (Option.any_eq_true _ _).mp gatewayThere
  obtain ⟨other, issued, held⟩ := (Option.any_eq_true _ _).mp tokenThere
  cases contract with
  | gateway gateway =>
      cases other with
      | representation representation =>
          obtain ⟨unpaused, place⟩ := (Bool.and_eq_true _ _).mp open_
          obtain ⟨covered, admitted⟩ := (Bool.and_eq_true _ _).mp held
          refine ⟨gateway, ⟨token, 0, true⟩, representation, ⟨by decide +kernel, stands, ?_, ?_, rfl,
            by decide, ?_, by decide, of_decide_eq_true covered⟩, admitted⟩
          · rwa [Bool.not_eq_true'] at unpaused
          · rw [of_decide_eq_true place]
            decide +kernel
          · dsimp only
            exact issued
      | _ => cases held
  | _ => cases open_

/-- The first holder has burned nothing, but its burn is refused. -/
theorem burn_blocked_by_another :
    EvmWorld.Deployed ⟨code, 0, []⟩ ∧
    (∃ gateway config representation,
      ((chain evm).run burnedByAnother ⟨code, 0, []⟩).Covers first 9 22 40 gateway config
        representation ∧ representation.roles .gateway first = true) ∧
    (∀ execution ∈ ((chain evm).run burnedByAnother ⟨code, 0, []⟩).executions,
      execution.effect = .burn → execution.account ≠ 9) ∧
    ((chain evm).execute (500, .node ⟨9, first, .burnRepresentation 31 22 40 0⟩ [] true)
      ((chain evm).run burnedByAnother ⟨code, 0, []⟩)).1 =
        .error (.operationAlreadyProcessed 31 .burn) := by
  refine ⟨deployed, covers_burn, ?_, ?_⟩
  · decide +kernel
  · decide +kernel

/-- Under another operation the burn succeeds. -/
theorem burn_under_unused_operation :
    ((chain evm).execute (500, .node ⟨9, first, .burnRepresentation 32 22 40 0⟩ [] true)
      ((chain evm).run burnedByAnother ⟨code, 0, []⟩)).1 = .ok () := by
  obtain ⟨gateway, config, representation, covers, admitted⟩ := covers_burn
  refine (covered_burn_succeeds_iff evm deployed burnedByAnother covers 32 0 500 [] true).mpr
    ⟨admitted, ?_⟩
  decide +kernel

end SharedVerifier

end InterWeave
