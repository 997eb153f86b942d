import InterWeave.Ethereum.InterWeaveGateway

/-! # The steps of the chain

Whatever a message does, reentrant calls included, is a sequence of four kinds of step:
a contract is reconfigured, a token is called by an account, or a gateway marks and
records an execution, on unknown code or together with its call to a known token. A
property that every such step preserves is preserved by the contracts.
-/

namespace InterWeave

open Atomic

/-! ## Steps -/

/-- What contracts other than tokens do on their own. No operation is marked as
processed by it, and the verifier of a gateway is fixed. -/
inductive Contract.Reconfigures : Contract → Contract → Prop where
  | gateway (before : InterWeaveGateway) (roles : Roles) (paused entered : Bool) :
      Reconfigures (.gateway before) (.gateway { before with roles, paused, entered })
  | verifier {before after : AttestationVerifier} {sender : Address} {call : ContractCall} :
      before.enter sender call = .ok after → Reconfigures (.verifier before) (.verifier after)
  | registry {before after : InterWeaveAssetRegistry} {sender : Address} {call : ContractCall} :
      before.enter sender call = .ok after → Reconfigures (.registry before) (.registry after)

/-- The call that an execution makes to its token. -/
def Execution.call (execution : Execution) : ContractCall :=
  match execution.effect with
  | .mint => .protocolMint execution.account execution.amount
  | .release => .transfer execution.account execution.amount
  | .burn => .protocolBurn execution.account execution.amount

/-- The authorization is for exactly this execution. -/
def Execution.Matches (execution : Execution)
    (authorization : AttestationVerifier.Authorization) : Prop :=
  authorization.operationId = execution.operationId ∧ authorization.effect = execution.effect ∧
    authorization.assetId = execution.assetId ∧ authorization.receiver = execution.account ∧
    authorization.amount = execution.amount

/-- The verifier of the gateway has accepted the execution. Only a burn needs no
authorization. -/
def Execution.Checked (evm : Evm) (world : EvmWorld) (gateway : InterWeaveGateway)
    (execution : Execution) : Prop :=
  match execution.verification with
  | none => execution.effect = .burn
  | some verification =>
      execution.effect ≠ .burn ∧ execution.Matches verification.authorization ∧
        verification.verifier = gateway.verifier ∧ verification.timestamp = world.timestamp ∧
        world.code gateway.verifier = some (.verifier verification.state) ∧
        ∃ signers, verification.state.verify evm verification.verifier verification.timestamp
          verification.authorization verification.signatures = .ok signers

theorem Execution.Checked.of_verified {evm : Evm} {world : EvmWorld} {gateway : InterWeaveGateway}
    {execution : Execution} {verification : Verification}
    (checked : execution.Checked evm world gateway)
    (verified : execution.verification = some verification) :
    execution.effect ≠ .burn ∧ execution.Matches verification.authorization ∧
      verification.verifier = gateway.verifier ∧ verification.timestamp = world.timestamp ∧
      world.code gateway.verifier = some (.verifier verification.state) ∧
      ∃ signers, verification.state.verify evm verification.verifier verification.timestamp
        verification.authorization verification.signatures = .ok signers := by
  unfold Checked at checked
  rwa [verified] at checked

/-- One step of the chain. -/
inductive EvmWorld.Step (evm : Evm) (admits : Message → Prop) : EvmWorld → EvmWorld → Prop where
  | reconfigure {world : EvmWorld} {address : Address} {before after : Contract} :
      world.code address = some before → before.Reconfigures after →
      Step evm admits world (world.set address after)
  | token {world : EvmWorld} {sender address : Address} {before after : InterWeaveRepresentation}
      {call : ContractCall} :
      world.code address = some (.representation before) → world.code sender = none →
      admits ⟨sender, address, call⟩ → before.enter sender call = .ok after →
      Step evm admits world (world.set address (.representation after))
  | execute {world : EvmWorld} {gateway : InterWeaveGateway} {execution : Execution} :
      world.code execution.gateway = some (.gateway gateway) →
      gateway.processed execution.operationId execution.effect = false →
      execution.Checked evm world gateway → world.code execution.token = none →
      Step evm admits world (world.executed gateway execution)
  | executeOn {world : EvmWorld} {gateway : InterWeaveGateway} {execution : Execution}
      {before after : InterWeaveRepresentation} :
      world.code execution.gateway = some (.gateway gateway) →
      gateway.processed execution.operationId execution.effect = false →
      execution.Checked evm world gateway →
      world.code execution.token = some (.representation before) →
      before.enter execution.gateway execution.call = .ok after →
      Step evm admits world
        ((world.executed gateway execution).set execution.token (.representation after))

/-! ## Messages -/

/-- The values whose authorization a request asserts. -/
def ExecutionRequest.authorization (request : ExecutionRequest) (effect : Effect) :
    AttestationVerifier.Authorization :=
  { attestationDigest := request.attestationDigest, operationId := request.operationId, effect
    assetId := request.assetId, receiver := request.receiver, amount := request.amount
    validFrom := request.validFrom, expiresAt := request.expiresAt }

/-- What a call shows to the verifier: an authorization and signatures over it. -/
def ContractCall.presents :
    ContractCall → Option (AttestationVerifier.Authorization × List (List UInt8))
  | .executeMint request => some (request.authorization .mint, request.signatures)
  | .executeRelease request => some (request.authorization .release, request.signatures)
  | _ => none

/-- The token of an effect. -/
def AssetConfig.token (config : AssetConfig) : Effect → Address
  | .release => config.underlying
  | _ => config.representation

/-- The execution is what the message asks of its gateway: on the token that the registry
names, and with the signatures of the message. -/
structure Execution.Requested (world : EvmWorld) (gateway : InterWeaveGateway) (message : Message)
    (execution : Execution) : Prop where
  target : execution.gateway = message.target
  configured : ∃ config, world.assetAt gateway.registry execution.assetId = .ok config ∧
    config.enabled = true ∧ execution.token = config.token execution.effect
  presented : ∀ verification ∈ execution.verification,
    message.call.presents = some (verification.authorization, verification.signatures)

/-- One step of a message, by what it sends and where. -/
inductive EvmWorld.Acts (evm : Evm) (message : Message) : EvmWorld → EvmWorld → Prop where
  | gateway {world : EvmWorld} {before : InterWeaveGateway} (roles : Roles)
      (paused entered : Bool) :
      world.code message.target = some (.gateway before) →
      Acts evm message world
        (world.set message.target (.gateway { before with roles, paused, entered }))
  | verifier {world : EvmWorld} {before after : AttestationVerifier} :
      world.code message.target = some (.verifier before) →
      before.enter message.sender message.call = .ok after →
      Acts evm message world (world.set message.target (.verifier after))
  | registry {world : EvmWorld} {before after : InterWeaveAssetRegistry} :
      world.code message.target = some (.registry before) →
      before.enter message.sender message.call = .ok after →
      Acts evm message world (world.set message.target (.registry after))
  | token {world : EvmWorld} {before after : InterWeaveRepresentation} :
      world.code message.target = some (.representation before) →
      world.code message.sender = none → before.enter message.sender message.call = .ok after →
      Acts evm message world (world.set message.target (.representation after))
  | execute {world : EvmWorld} {gateway : InterWeaveGateway} {execution : Execution} :
      world.code execution.gateway = some (.gateway gateway) →
      gateway.processed execution.operationId execution.effect = false →
      execution.Checked evm world gateway → execution.Requested world gateway message →
      world.code execution.token = none →
      Acts evm message world (world.executed gateway execution)
  | executeOn {world : EvmWorld} {gateway : InterWeaveGateway} {execution : Execution}
      {before after : InterWeaveRepresentation} :
      world.code execution.gateway = some (.gateway gateway) →
      gateway.processed execution.operationId execution.effect = false →
      execution.Checked evm world gateway → execution.Requested world gateway message →
      world.code execution.token = some (.representation before) →
      before.enter execution.gateway execution.call = .ok after →
      Acts evm message world
        ((world.executed gateway execution).set execution.token (.representation after))

/-- A step of an admitted message is a step of the chain. -/
theorem EvmWorld.Acts.step {evm : Evm} {admits : Message → Prop} {message : Message}
    {world next : EvmWorld} (acts : EvmWorld.Acts evm message world next)
    (admitted : admits message) : EvmWorld.Step evm admits world next := by
  cases acts with
  | @gateway before roles paused entered known =>
      exact .reconfigure known (.gateway before roles paused entered)
  | verifier known changed => exact .reconfigure known (.verifier changed)
  | registry known changed => exact .reconfigure known (.registry changed)
  | token known outsider changed => exact .token known outsider admitted changed
  | execute known fresh checked requested unknown => exact .execute known fresh checked unknown
  | executeOn known fresh checked requested called entered =>
      exact .executeOn known fresh checked called entered

namespace EvmWorld

variable {world : EvmWorld} {address other : Address} {contract : Contract}
  {gateway : InterWeaveGateway} {execution : Execution}

@[simp] theorem set_executions :
    (world.set address contract).executions = world.executions := rfl

@[simp] theorem set_timestamp : (world.set address contract).timestamp = world.timestamp := rfl

@[simp] theorem set_code_self : (world.set address contract).code address = some contract :=
  Function.update_self _ _ _

theorem set_code_of_ne (different : other ≠ address) :
    (world.set address contract).code other = world.code other :=
  Function.update_of_ne different _ _

@[simp] theorem executed_executions :
    (world.executed gateway execution).executions = execution :: world.executions := rfl

@[simp] theorem executed_code_self : (world.executed gateway execution).code execution.gateway =
    some (.gateway (gateway.consume execution.operationId execution.effect)) :=
  set_code_self

theorem executed_code_of_ne (different : other ≠ execution.gateway) :
    (world.executed gateway execution).code other = world.code other :=
  set_code_of_ne different

theorem gatewayAt_ok {state : InterWeaveGateway} (found : world.gatewayAt address = .ok state) :
    world.code address = some (.gateway state) := by
  unfold gatewayAt at found
  split at found
  · rename_i known
    cases found
    exact known
  · cases found

theorem verifierAt_ok {state : AttestationVerifier} (found : world.verifierAt address = .ok state) :
    world.code address = some (.verifier state) := by
  unfold verifierAt at found
  split at found
  · rename_i known
    cases found
    exact known
  · cases found

end EvmWorld

/-! ## What the contracts preserve -/

section Preserves

variable {evm : Evm} {message : Message} {holds : EvmWorld → Prop}
  {outside : EvmWorld → Except EvmError EvmWorld} {world next : EvmWorld}

open InterWeaveGateway EvmWorld

variable (acts : ∀ {world next}, EvmWorld.Acts evm message world next → holds world → holds next)
  (calls : ∀ inner left, holds inner → outside inner = .ok left → holds left)

include acts

/-- The guard of a function that preserves the property. -/
theorem guarded_preserves
    {body : InterWeaveGateway → EvmWorld → Except EvmError EvmWorld}
    (preserves : ∀ gateway inner left, inner.code message.target = some (.gateway gateway) →
      holds inner → body gateway inner = .ok left → holds left)
    (valid : holds world) (returned : guarded message.target body world = .ok next) :
    holds next := by
  obtain ⟨gateway, found, returned⟩ := ok_of_bind returned
  have known := gatewayAt_ok found
  split at returned
  · cases returned
  · split at returned
    · cases returned
    · obtain ⟨left, executed, returned⟩ := ok_of_bind returned
      obtain ⟨after, found, returned⟩ := ok_of_bind returned
      cases returned
      have entered := acts (.gateway gateway.roles gateway.paused true known) valid
      have left := preserves _ _ _ set_code_self entered executed
      exact acts (.gateway after.roles after.paused false (gatewayAt_ok found)) left

include calls

/-- An execution and its token call, granted that unknown code preserves the property. -/
theorem callToken_preserves
    {gateway : InterWeaveGateway} {execution : Execution}
    (known : world.code execution.gateway = some (.gateway gateway))
    (fresh : gateway.processed execution.operationId execution.effect = false)
    (checked : execution.Checked evm world gateway)
    (requested : execution.Requested world gateway message) (valid : holds world)
    (called : callToken outside execution.gateway execution.token execution.call
      (world.executed gateway execution) = .ok next) :
    holds next := by
  unfold callToken at called
  by_cases same : execution.token = execution.gateway
  · rw [same, executed_code_self] at called
    cases called
  · rw [executed_code_of_ne same] at called
    cases token : world.code execution.token with
    | none =>
        rw [token] at called
        exact calls _ _ (acts (.execute known fresh checked requested token) valid) called
    | some contract =>
        rw [token] at called
        cases contract with
        | representation before =>
            obtain ⟨after, entered, returned⟩ := ok_of_bind called
            cases returned
            exact acts (.executeOn known fresh checked requested token entered) valid
        | gateway _ => cases called
        | verifier _ => cases called
        | registry _ => cases called

omit acts calls in
/-- What an authorized execution has checked. -/
theorem authorizeAndConsume_ok {self : Address} {gateway : InterWeaveGateway}
    {request : ExecutionRequest} {effect : Effect} {token : Address} (distinct : effect ≠ .burn)
    (authorized : authorizeAndConsume evm self gateway request effect token world = .ok next) :
    ∃ execution : Execution, next = world.executed gateway execution ∧
      execution.gateway = self ∧ execution.token = token ∧ execution.effect = effect ∧
      execution.account = request.receiver ∧ execution.amount = request.amount ∧
      gateway.processed execution.operationId execution.effect = false ∧
      execution.Checked evm world gateway ∧ execution.assetId = request.assetId ∧
      ∀ verification ∈ execution.verification,
        verification.authorization = request.authorization effect ∧
          verification.signatures = request.signatures := by
  unfold authorizeAndConsume at authorized
  split at authorized
  · cases authorized
  · split at authorized
    · cases authorized
    · rename_i fresh
      obtain ⟨verifier, found, authorized⟩ := ok_of_bind authorized
      obtain ⟨signers, verified, authorized⟩ := ok_of_bind authorized
      cases authorized
      refine ⟨_, rfl, rfl, rfl, rfl, rfl, rfl, Bool.eq_false_iff.mpr fresh, ⟨distinct,
        ⟨rfl, rfl, rfl, rfl, rfl⟩, rfl, rfl, verifierAt_ok found, signers, verified⟩, rfl, ?_⟩
      intro verification verified
      cases verified
      exact ⟨rfl, rfl⟩

/-- A mint or a release, granted that unknown code preserves the property. -/
theorem authorized_preserves
    {gateway : InterWeaveGateway} {request : ExecutionRequest} {effect : Effect}
    {config : AssetConfig} {call : ContractCall} (distinct : effect ≠ .burn)
    (found : world.assetAt gateway.registry request.assetId = .ok config)
    (enabled : config.enabled = true)
    (presents : message.call.presents = some (request.authorization effect, request.signatures))
    (matching : ∀ execution : Execution, execution.effect = effect →
      execution.account = request.receiver → execution.amount = request.amount →
      execution.call = call)
    (known : world.code message.target = some (.gateway gateway)) (valid : holds world)
    (returned : (do
      let consumed ← authorizeAndConsume evm message.target gateway request effect
        (config.token effect) world
      callToken outside message.target (config.token effect) call consumed) = .ok next) :
    holds next := by
  obtain ⟨consumed, authorized, called⟩ := ok_of_bind returned
  obtain ⟨execution, rfl, target, token, same, account, amount, fresh, checked, asset, shown⟩ :=
    authorizeAndConsume_ok distinct authorized
  rw [← target, ← token, ← matching execution same account amount] at called
  refine callToken_preserves acts calls (target ▸ known) fresh checked ⟨target, ?_, ?_⟩ valid called
  · exact ⟨config, asset ▸ found, enabled, same ▸ token⟩
  · intro verification verified
    obtain ⟨authorization, signatures⟩ := shown verification verified
    rw [presents, authorization, signatures]

theorem executeMint_preserves
    {request : ExecutionRequest} (sent : message.call = .executeMint request) (valid : holds world)
    (returned : executeMint evm outside message.target request world = .ok next) : holds next := by
  refine guarded_preserves acts (fun gateway inner left known entered executed => ?_) valid returned
  obtain ⟨config, found, executed⟩ := ok_of_bind executed
  split at executed
  · cases executed
  · rename_i available
    obtain ⟨enabled, _⟩ : config.enabled = true ∧ config.representation ≠ 0 := by
      simpa using available
    refine authorized_preserves acts calls (by decide) found enabled (by rw [sent]; rfl) ?_ known
      entered executed
    intro execution effect account amount
    rw [Execution.call, effect, account, amount]

theorem executeRelease_preserves
    {request : ExecutionRequest} (sent : message.call = .executeRelease request)
    (valid : holds world)
    (returned : executeRelease evm outside message.target request world = .ok next) :
    holds next := by
  refine guarded_preserves acts (fun gateway inner left known entered executed => ?_) valid returned
  obtain ⟨config, found, executed⟩ := ok_of_bind executed
  split at executed
  · cases executed
  · rename_i available
    obtain ⟨enabled, _⟩ : config.enabled = true ∧ config.underlying ≠ 0 := by
      simpa using available
    refine authorized_preserves acts calls (by decide) found enabled (by rw [sent]; rfl) ?_ known
      entered executed
    intro execution effect account amount
    rw [Execution.call, effect, account, amount]

theorem burnRepresentation_preserves
    {sender : Address} {operationId assetId : Bytes32} {amount : Uint256} (valid : holds world)
    (returned : burnRepresentation outside message.target sender operationId assetId amount world =
      .ok next) : holds next := by
  refine guarded_preserves acts (fun gateway inner left known entered executed => ?_) valid returned
  split at executed
  · cases executed
  · obtain ⟨config, found, executed⟩ := ok_of_bind executed
    split at executed
    · cases executed
    · rename_i available
      obtain ⟨enabled, _⟩ : config.enabled = true ∧ config.representation ≠ 0 := by
        simpa using available
      split at executed
      · cases executed
      · rename_i fresh
        refine callToken_preserves acts calls known ?_ ?_ ⟨rfl, ⟨config, found, enabled, rfl⟩, ?_⟩
          entered executed
        · exact Bool.eq_false_iff.mpr fresh
        · rfl
        · intro verification verified
          cases verified

/-- The external functions of a gateway. -/
theorem gateway_preserves {gateway : InterWeaveGateway}
    (known : world.code message.target = some (.gateway gateway)) (valid : holds world)
    (returned : gateway.enter evm outside message.target message.sender message.call world =
      .ok next) : holds next := by
  cases sent : message.call with
  | access call =>
      rw [sent] at returned
      obtain ⟨roles, _, returned⟩ := ok_of_bind returned
      cases returned
      exact acts (.gateway roles gateway.paused gateway.entered known) valid
  | pause =>
      rw [sent] at returned
      obtain ⟨_, _, returned⟩ := ok_of_bind returned
      split at returned
      · cases returned
      · cases returned
        exact acts (.gateway gateway.roles true gateway.entered known) valid
  | unpause =>
      rw [sent] at returned
      obtain ⟨_, _, returned⟩ := ok_of_bind returned
      split at returned
      · cases returned
      · cases returned
        exact acts (.gateway gateway.roles false gateway.entered known) valid
  | executeMint request =>
      rw [sent] at returned
      exact executeMint_preserves acts calls sent valid returned
  | executeRelease request =>
      rw [sent] at returned
      exact executeRelease_preserves acts calls sent valid returned
  | burnRepresentation operationId assetId amount receiver =>
      rw [sent] at returned
      exact burnRepresentation_preserves acts calls valid returned
  | setValidator | setThreshold | configure | protocolMint | protocolBurn | transfer | approve |
    transferFrom =>
      rw [sent] at returned
      cases returned

end Preserves

/-- **What messages preserve.** The contracts preserve what every step of an admitted message
preserves, whatever the unknown code around them does. -/
theorem messages_preserve {evm : Evm} {admits : Message → Prop} {holds : EvmWorld → Prop}
    (acts : ∀ {message world next}, admits message → EvmWorld.Acts evm message world next →
      holds world → holds next) :
    (chainContracts evm).Preserves admits holds := by
  intro message outside world next admitted calls valid entered
  change EvmWorld.enter evm message outside world = .ok next at entered
  unfold EvmWorld.enter at entered
  split at entered
  · cases entered
  · rename_i sent
    have outsider : world.code message.sender = none := Option.not_isSome_iff_eq_none.mp sent
    split at entered
    · exact calls _ _ valid entered
    · rename_i gateway known
      exact gateway_preserves (fun act holding => acts admitted act holding) calls known valid
        entered
    · rename_i verifier known
      obtain ⟨after, changed, entered⟩ := ok_of_bind entered
      cases entered
      exact acts admitted (.verifier known changed) valid
    · rename_i registry known
      obtain ⟨after, changed, entered⟩ := ok_of_bind entered
      cases entered
      exact acts admitted (.registry known changed) valid
    · rename_i token known
      obtain ⟨after, changed, entered⟩ := ok_of_bind entered
      cases entered
      exact acts admitted (.token known outsider changed) valid

/-- **What steps preserve.** The contracts preserve what every step preserves, whatever
the unknown code around them does. -/
theorem chain_preserves {evm : Evm} {admits : Message → Prop} {holds : EvmWorld → Prop}
    (steps : ∀ {world next}, EvmWorld.Step evm admits world next → holds world → holds next) :
    (chainContracts evm).Preserves admits holds :=
  messages_preserve fun admitted acts valid => steps (acts.step admitted) valid

/-- What steps and the passing of time preserve, a run of admitted transactions
preserves. -/
theorem chain_run_preserves {evm : Evm} (admits : Message → Prop) {holds : EvmWorld → Prop}
    (steps : ∀ {world next}, EvmWorld.Step evm admits world next → holds world → holds next)
    (opens : ∀ (timestamp : Uint256) (world : EvmWorld), holds world →
      holds { world with timestamp })
    (transactions : List (Uint256 × CallTree Message))
    (admitted : ∀ transaction ∈ transactions, transaction.2.All admits) {world : EvmWorld}
    (valid : holds world) : holds ((chain evm).run transactions world) :=
  (chain_preserves steps).run opens transactions admitted valid

end InterWeave
