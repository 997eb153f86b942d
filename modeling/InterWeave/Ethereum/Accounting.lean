import InterWeave.Accounts.Holdings
import InterWeave.Ethereum.Replay
import Mathlib.Algebra.GroupWithZero.Nat

/-! # The accounts of a gateway

One gateway holds the role to mint and burn every representation. Users, relayers and
administrators then act in any order, and unknown code may be called back, yet the
supply of each representation is what its executions have minted less what they have
burned, and every mint and release rests on signatures of enough enabled validators
for exactly its values.
-/

namespace InterWeave

open Atomic Accounts

/-! ## What a verifier accepts -/

section Verify

variable {evm : Evm} {verifier : AttestationVerifier} {digest : Bytes32}

open AttestationVerifier

/-- The accepted signers ascend above the previous one, and each is an enabled validator
whose signature was given. -/
theorem signers_ok {signatures : List (List UInt8)} {previous : Address} {accepted : List Address}
    (accepting : verifier.signers evm digest previous signatures = .ok accepted) :
    accepted.length = signatures.length ∧ (previous :: accepted).Pairwise (· < ·) ∧
      ∀ signer ∈ accepted, verifier.isValidator signer = true ∧
        ∃ signature ∈ signatures, evm.recover digest signature = some signer := by
  induction signatures generalizing previous accepted with
  | nil =>
      cases accepting
      exact ⟨rfl, List.pairwise_singleton _ _, fun _ member => nomatch member⟩
  | cons signature rest ih =>
      unfold signers at accepting
      split at accepting
      · cases accepting
      · rename_i signer recovered
        split at accepting
        · cases accepting
        · rename_i above
          split at accepting
          · cases accepting
          · rename_i enabled
            cases others : verifier.signers evm digest signer rest with
            | error error =>
                rw [others] at accepting
                cases accepting
            | ok later =>
                rw [others] at accepting
                cases accepting
                obtain ⟨length, ascending, valid⟩ := ih others
                have ordered : previous < signer := BitVec.not_le.mp above
                refine ⟨congrArg Nat.succ length, ?_, ?_⟩
                · refine List.pairwise_cons.mpr ⟨fun other member => ?_, ascending⟩
                  rcases List.mem_cons.mp member with rfl | member
                  · exact ordered
                  · exact BitVec.lt_trans ordered ((List.pairwise_cons.mp ascending).1 other member)
                · intro other member
                  rcases List.mem_cons.mp member with rfl | member
                  · exact ⟨by simpa using enabled, signature, List.mem_cons_self, recovered⟩
                  · obtain ⟨validator, given, among, signs⟩ := valid other member
                    exact ⟨validator, given, List.mem_cons_of_mem _ among, signs⟩

end Verify

/-- A mint or a release was authorized for exactly its values, inside the window, by
enough validators that were enabled at that time. -/
structure Execution.AuthorizedBy (evm : Evm) (execution : Execution)
    (verification : Verification) : Prop where
  recorded : execution.verification = some verification
  values : execution.Matches verification.authorization
  started : verification.authorization.validFrom.toNat ≤ verification.timestamp.toNat
  unexpired : verification.timestamp.toNat < verification.authorization.expiresAt.toNat
  signed : ∃ signers : Finset Address, verification.state.threshold.toNat ≤ signers.card ∧
    ∀ signer ∈ signers, verification.state.isValidator signer = true ∧
      ∃ signature ∈ verification.signatures,
        evm.recover (AttestationVerifier.executionDigest evm verification.verifier
          verification.authorization) signature = some signer

theorem Execution.Checked.authorizedBy {evm : Evm} {world : EvmWorld} {gateway : InterWeaveGateway}
    {execution : Execution} (checked : execution.Checked evm world gateway)
    (authorized : execution.effect ≠ .burn) :
    ∃ verification, execution.AuthorizedBy evm verification ∧
      verification.verifier = gateway.verifier := by
  cases verified : execution.verification with
  | none =>
      unfold Checked at checked
      rw [verified] at checked
      exact absurd checked authorized
  | some verification =>
      obtain ⟨_, values, verifier, _, _, accepted, accepting⟩ := checked.of_verified verified
      refine ⟨verification, ?_, verifier⟩
      unfold AttestationVerifier.verify at accepting
      split at accepting
      · cases accepting
      · rename_i window
        split at accepting
        · cases accepting
        · rename_i enough
          obtain ⟨length, ascending, valid⟩ := signers_ok accepting
          have distinct : accepted.Nodup :=
            (List.pairwise_cons.mp ascending).2.imp fun below same => by
              subst same
              exact BitVec.lt_irrefl _ below
          refine ⟨verified, values, by omega, by omega, accepted.toFinset, ?_, ?_⟩
          · rw [List.toFinset_card_of_nodup distinct, length]
            omega
          · intro signer member
            exact valid signer (List.mem_toFinset.mp member)

/-! ## The accounts of a token -/

/-- What the executions of one effect on a token amount to. -/
def executedAmount (executions : List Execution) (token : Address) (effect : Effect) : Nat :=
  ((executions.filter fun execution => execution.token = token ∧ execution.effect = effect).map
    fun execution => execution.amount.toNat).sum

theorem executedAmount_cons_self (executions : List Execution) (execution : Execution) :
    executedAmount (execution :: executions) execution.token execution.effect =
      execution.amount.toNat + executedAmount executions execution.token execution.effect := by
  unfold executedAmount
  rw [List.filter_cons_of_pos (by simp only [and_self, decide_true]), List.map_cons, List.sum_cons]

theorem executedAmount_cons_of_token (executions : List Execution) {execution : Execution}
    {token : Address} (effect : Effect) (elsewhere : execution.token ≠ token) :
    executedAmount (execution :: executions) token effect =
      executedAmount executions token effect := by
  unfold executedAmount
  rw [List.filter_cons_of_neg]
  exact fun same => elsewhere (of_decide_eq_true same).1

theorem executedAmount_cons_of_effect (executions : List Execution) {execution : Execution}
    (token : Address) {effect : Effect} (different : execution.effect ≠ effect) :
    executedAmount (execution :: executions) token effect =
      executedAmount executions token effect := by
  unfold executedAmount
  rw [List.filter_cons_of_neg]
  exact fun same => different (of_decide_eq_true same).2

namespace InterWeaveRepresentation

/-- Only the gateway may mint and burn, the balances are covered by the supply, and the
supply is what has been minted less what has been burned. -/
structure Accounted (gateway : Address) (minted burned : Nat)
    (token : InterWeaveRepresentation) : Prop where
  restricted : ∀ account, token.roles .gateway account = true → account = gateway
  covered : Covered token.balances token.totalSupply
  supply : token.totalSupply + burned = minted

variable {token next : InterWeaveRepresentation} {gateway account sender : Address}
  {minted burned value : Nat}

theorem Accounted.mint (accounted : token.Accounted gateway minted burned)
    (returned : token.mint account value = .ok next) :
    next.Accounted gateway (minted + value) burned := by
  unfold InterWeaveRepresentation.mint at returned
  split at returned
  · cases returned
  · split at returned
    · cases returned
    · cases returned
      refine ⟨accounted.restricted, accounted.covered.issue account value, ?_⟩
      have before := accounted.supply
      show token.totalSupply + value + burned = minted + value
      omega

theorem Accounted.burn (accounted : token.Accounted gateway minted burned)
    (returned : token.burn account value = .ok next) :
    next.Accounted gateway minted (burned + value) := by
  unfold InterWeaveRepresentation.burn at returned
  split at returned
  · cases returned
  · split at returned
    · cases returned
    · rename_i enough
      cases returned
      have held : value ≤ token.balances account := by omega
      refine ⟨accounted.restricted, accounted.covered.retire held, ?_⟩
      have before := accounted.supply
      have supplied := accounted.covered.balance_le account
      show token.totalSupply - value + (burned + value) = minted
      omega

theorem Accounted.move {receiver : Address} (accounted : token.Accounted gateway minted burned)
    (returned : token.move sender receiver value = .ok next) :
    next.Accounted gateway minted burned := by
  unfold InterWeaveRepresentation.move at returned
  split at returned
  · cases returned
  · split at returned
    · cases returned
    · split at returned
      · cases returned
      · rename_i enough
        cases returned
        have held : value ≤ token.balances sender := by omega
        exact ⟨accounted.restricted, accounted.covered.move held receiver, accounted.supply⟩

theorem Accounted.allow {owner spender : Address} (accounted : token.Accounted gateway minted burned)
    (returned : token.allow owner spender value = .ok next) :
    next.Accounted gateway minted burned := by
  unfold InterWeaveRepresentation.allow at returned
  split at returned
  · cases returned
  · split at returned
    · cases returned
    · cases returned
      exact ⟨accounted.restricted, accounted.covered, accounted.supply⟩

theorem Accounted.spendAllowance {owner spender : Address}
    (accounted : token.Accounted gateway minted burned)
    (returned : token.spendAllowance owner spender value = .ok next) :
    next.Accounted gateway minted burned := by
  unfold InterWeaveRepresentation.spendAllowance at returned
  dsimp only at returned
  split at returned
  · cases returned
    exact accounted
  · split at returned
    · cases returned
    · exact accounted.allow returned

/-- No account but the gateway is given the role to mint and burn. -/
def Restricts (gateway : Address) (message : Message) : Prop :=
  ∀ account, message.call = .access (.grantRole .gateway account) → account = gateway

end InterWeaveRepresentation

theorem Roles.onlyRole_ok {roles : Roles} {role : Role} {sender : Address}
    (admitted : roles.onlyRole role sender = .ok ()) : roles role sender = true := by
  unfold onlyRole at admitted
  split at admitted
  · assumption
  · cases admitted

/-- A role that a change of roles has given was held, or is the one just granted. -/
theorem Roles.access_ok {roles next : Roles} {sender account : Address} {call : AccessCall}
    {role : Role} (changed : roles.access sender call = .ok next)
    (holder : next role account = true) :
    roles role account = true ∨ call = .grantRole role account := by
  have kept : ∀ (other : Role) (target : Address) (held : Bool),
      roles.set other target held role account = true →
        roles role account = true ∨ other = role ∧ target = account ∧ held = true := by
    intro other target held holder
    unfold set at holder
    by_cases same : role = other
    · subst same
      rw [Function.update_self] at holder
      by_cases equal : account = target
      · subst equal
        rw [Function.update_self] at holder
        exact .inr ⟨rfl, rfl, holder⟩
      · rw [Function.update_of_ne equal] at holder
        exact .inl holder
    · rw [Function.update_of_ne same] at holder
      exact .inl holder
  cases call with
  | grantRole other target =>
      obtain ⟨_, _, returned⟩ := ok_of_bind changed
      cases returned
      rcases kept other target true holder with held | ⟨rfl, rfl, _⟩
      · exact .inl held
      · exact .inr rfl
  | revokeRole other target =>
      obtain ⟨_, _, returned⟩ := ok_of_bind changed
      cases returned
      rcases kept other target false holder with held | ⟨_, _, granted⟩
      · exact .inl held
      · cases granted
  | renounceRole other confirmation =>
      simp only [access] at changed
      split at changed
      · cases changed
      · cases changed
        rcases kept other sender false holder with held | ⟨_, _, granted⟩
        · exact .inl held
        · cases granted

namespace InterWeaveRepresentation

variable {token next : InterWeaveRepresentation} {gateway sender : Address} {minted burned : Nat}

/-- An account that is not the gateway does not change what has been minted or burned. -/
theorem Accounted.enter {address : Address} {call : ContractCall}
    (accounted : token.Accounted gateway minted burned) (outsider : sender ≠ gateway)
    (admitted : Restricts gateway ⟨sender, address, call⟩)
    (returned : token.enter sender call = .ok next) : next.Accounted gateway minted burned := by
  cases call with
  | access call =>
      obtain ⟨roles, changed, returned⟩ := ok_of_bind returned
      cases returned
      refine ⟨fun account holder => ?_, accounted.covered, accounted.supply⟩
      rcases Roles.access_ok changed holder with held | rfl
      · exact accounted.restricted account held
      · exact admitted account rfl
  | protocolMint receiver amount =>
      obtain ⟨_, permitted, _⟩ := ok_of_bind returned
      exact absurd (accounted.restricted sender (Roles.onlyRole_ok permitted)) outsider
  | protocolBurn owner amount =>
      obtain ⟨_, permitted, _⟩ := ok_of_bind returned
      exact absurd (accounted.restricted sender (Roles.onlyRole_ok permitted)) outsider
  | transfer receiver value => exact accounted.move returned
  | approve spender value => exact accounted.allow returned
  | transferFrom owner receiver value =>
      obtain ⟨spent, allowed, moved⟩ := ok_of_bind returned
      exact (accounted.spendAllowance allowed).move moved
  | setValidator => cases returned
  | setThreshold => cases returned
  | configure => cases returned
  | pause => cases returned
  | unpause => cases returned
  | executeMint => cases returned
  | executeRelease => cases returned
  | burnRepresentation => cases returned

/-- An execution on a token adds its amount to the total of its effect. -/
theorem Accounted.execute {executions : List Execution} {execution : Execution}
    (accounted : token.Accounted gateway (executedAmount executions execution.token .mint)
      (executedAmount executions execution.token .burn))
    (returned : token.enter execution.gateway execution.call = .ok next) :
    next.Accounted gateway (executedAmount (execution :: executions) execution.token .mint)
      (executedAmount (execution :: executions) execution.token .burn) := by
  have same := executedAmount_cons_self executions execution
  unfold Execution.call at returned
  cases effect : execution.effect with
  | mint =>
      rw [effect] at returned same
      obtain ⟨_, _, minted⟩ := ok_of_bind returned
      rw [same, Nat.add_comm, executedAmount_cons_of_effect _ _ (by rw [effect]; decide)]
      exact accounted.mint minted
  | release =>
      rw [effect] at returned
      rw [executedAmount_cons_of_effect _ _ (by rw [effect]; decide),
        executedAmount_cons_of_effect _ _ (by rw [effect]; decide)]
      exact accounted.move returned
  | burn =>
      rw [effect] at returned same
      obtain ⟨_, _, burned⟩ := ok_of_bind returned
      rw [same, Nat.add_comm, executedAmount_cons_of_effect _ _ (by rw [effect]; decide)]
      exact accounted.burn burned

end InterWeaveRepresentation

/-! ## Runs -/

/-- One gateway stands on the chain, every token is as constructed for it, and nothing
has been executed. -/
structure EvmWorld.Launched (gateway : Address) (world : EvmWorld) : Prop where
  present : ∃ state, world.code gateway = some (.gateway state)
  tokens : ∀ address token, world.code address = some (.representation token) →
    ∃ admin, InterWeaveRepresentation.constructor admin gateway = .ok token
  executions : world.executions = []

/-- The gateway stands on the chain, and every token is accounted for. -/
structure EvmWorld.Accounted (gateway : Address) (world : EvmWorld) : Prop where
  present : ∃ state, world.code gateway = some (.gateway state)
  tokens : ∀ address token, world.code address = some (.representation token) →
    token.Accounted gateway (executedAmount world.executions address .mint)
      (executedAmount world.executions address .burn)

section Runs

variable {evm : Evm} {gateway : Address} {world next : EvmWorld}

open EvmWorld InterWeaveRepresentation

theorem InterWeaveRepresentation.constructor_accounted {token : InterWeaveRepresentation}
    {admin : Address} (constructed : InterWeaveRepresentation.constructor admin gateway = .ok token) :
    token.Accounted gateway 0 0 := by
  unfold InterWeaveRepresentation.constructor at constructed
  split at constructed
  · cases constructed
  · cases constructed
    refine ⟨fun account holder => ?_, Covered.zero, rfl⟩
    by_contra other
    simp only [Roles.set] at holder
    rw [Function.update_self, Function.update_of_ne other, Function.update_of_ne (by decide)] at holder
    cases holder

theorem EvmWorld.Launched.accounted (launched : world.Launched gateway) :
    world.Accounted gateway := by
  refine ⟨launched.present, fun address token known => ?_⟩
  obtain ⟨admin, constructed⟩ := launched.tokens address token known
  rw [launched.executions]
  exact constructor_accounted constructed

theorem EvmWorld.Accounted.step (accounted : world.Accounted gateway)
    (step : EvmWorld.Step evm (Restricts gateway) world next) : next.Accounted gateway := by
  constructor
  · obtain ⟨state, stands⟩ := accounted.present
    obtain ⟨later, known, _⟩ := step.continues stands
    exact ⟨later, known⟩
  · intro address token known
    cases step with
    | @reconfigure changed before after stands reconfigured =>
        by_cases same : address = changed
        · rw [same, set_code_self] at known
          cases known
          cases reconfigured
        · rw [set_code_of_ne same] at known
          exact accounted.tokens address token known
    | @token sender changed before after call stands outsider admitted entered =>
        have different : sender ≠ gateway := by
          rintro rfl
          obtain ⟨state, present⟩ := accounted.present
          rw [present] at outsider
          cases outsider
        by_cases same : address = changed
        · subst same
          rw [set_code_self] at known
          cases known
          exact (accounted.tokens address before stands).enter different admitted entered
        · rw [set_code_of_ne same] at known
          exact accounted.tokens address token known
    | @execute executing execution stands fresh checked unknown =>
        have away : address ≠ execution.gateway := by
          rintro rfl
          rw [executed_code_self] at known
          cases known
        rw [executed_code_of_ne away] at known
        have elsewhere : execution.token ≠ address := by
          rintro rfl
          rw [unknown] at known
          cases known
        rw [executed_executions, executedAmount_cons_of_token _ _ elsewhere,
          executedAmount_cons_of_token _ _ elsewhere]
        exact accounted.tokens address token known
    | @executeOn executing execution before after stands fresh checked called entered =>
        rw [set_executions, executed_executions]
        by_cases same : address = execution.token
        · subst same
          rw [set_code_self] at known
          cases known
          exact (accounted.tokens _ before called).execute entered
        · have away : address ≠ execution.gateway := by
            rintro rfl
            rw [set_code_of_ne same, executed_code_self] at known
            cases known
          rw [set_code_of_ne same, executed_code_of_ne away] at known
          rw [executedAmount_cons_of_token _ _ (Ne.symm same),
            executedAmount_cons_of_token _ _ (Ne.symm same)]
          exact accounted.tokens address token known

/-- Every mint and release of a gateway was authorized under its verifier. -/
def EvmWorld.Authorized (evm : Evm) (world : EvmWorld) : Prop :=
  ∀ execution ∈ world.executions, execution.effect ≠ .burn →
    ∃ verification state, execution.AuthorizedBy evm verification ∧
      world.code execution.gateway = some (.gateway state) ∧ state.verifier = verification.verifier

theorem EvmWorld.Authorized.step {admits : Message → Prop} (authorized : world.Authorized evm)
    (step : EvmWorld.Step evm admits world next) : next.Authorized evm := by
  have kept : ∀ execution ∈ world.executions, execution.effect ≠ .burn →
      ∃ verification state, execution.AuthorizedBy evm verification ∧
        next.code execution.gateway = some (.gateway state) ∧
        state.verifier = verification.verifier := by
    intro execution member effect
    obtain ⟨verification, state, signed, known, verifier⟩ := authorized execution member effect
    obtain ⟨later, stands, same, _⟩ := step.continues known
    exact ⟨verification, later, signed, stands, same.trans verifier⟩
  rcases step.records with same | ⟨execution, state, added, known, _, checked, _⟩
  · intro other member effect
    rw [same] at member
    exact kept other member effect
  · intro other member effect
    rw [added] at member
    rcases List.mem_cons.mp member with rfl | member
    · obtain ⟨verification, signed, verifier⟩ := checked.authorizedBy effect
      obtain ⟨later, stands, same, _⟩ := step.continues known
      exact ⟨verification, later, signed, stands, same.trans verifier.symm⟩
    · exact kept other member effect

end Runs

/-- **The gateway on its chain.** After every run in which no other account is given the
role to mint, each operation has had each effect at most once, every supply is what was
minted less what was burned, every mint and release was signed for by enough enabled
validators, and a reverted transaction changes nothing. -/
theorem gateway_accounts (evm : Evm) (gateway : Address) (world : EvmWorld)
    (launched : world.Launched gateway) (transactions : List (Uint256 × CallTree Message))
    (restricted : ∀ transaction ∈ transactions,
      transaction.2.All (InterWeaveRepresentation.Restricts gateway)) :
    let reached := (chain evm).run transactions world
    (∀ operationId effect, reached.executions.countP (fun execution =>
        execution.gateway = gateway ∧ execution.operationId = operationId ∧
          execution.effect = effect) ≤ 1) ∧
      (∀ address token, reached.code address = some (.representation token) →
        token.totalSupply + executedAmount reached.executions address .burn =
          executedAmount reached.executions address .mint) ∧
      (∀ execution ∈ reached.executions, execution.effect ≠ .burn →
        ∃ verification state, execution.AuthorizedBy evm verification ∧
          reached.code execution.gateway = some (.gateway state) ∧
          state.verifier = verification.verifier) ∧
      ∀ transaction error, ((chain evm).execute transaction reached).1 = .error error →
        ((chain evm).execute transaction reached).2 = reached := by
  intro reached
  have recorded : reached.Recorded := by
    refine EvmWorld.Recorded.run ?_ transactions
    constructor <;> simp only [launched.executions, List.map_nil, List.nodup_nil, List.not_mem_nil,
      false_implies, implies_true]
  have accounted : reached.Accounted gateway :=
    chain_run_preserves (InterWeaveRepresentation.Restricts gateway)
      (fun step accounted => accounted.step step)
      (fun _ _ accounted => ⟨accounted.present, accounted.tokens⟩) transactions restricted
      launched.accounted
  have authorized : reached.Authorized evm := by
    refine chain_run_preserves (InterWeaveRepresentation.Restricts gateway)
      (fun step authorized => authorized.step step) (fun _ _ authorized => authorized) transactions
      restricted ?_
    intro execution member
    rw [launched.executions] at member
    cases member
  refine ⟨fun operationId effect => ?_, ?_, authorized, fun transaction error reverted => ?_⟩
  · refine recorded.countP_le_one (gateway, operationId, effect) fun execution _ selected => ?_
    obtain ⟨rfl, rfl, rfl⟩ := of_decide_eq_true selected
    rfl
  · intro address token known
    exact (accounted.tokens address token known).supply
  · exact commit_reverted reverted

namespace SharedVerifier

theorem launched : EvmWorld.Launched first ⟨code, 0, []⟩ := by
  refine ⟨⟨_, rfl⟩, fun address representation known => ⟨admin, ?_⟩, rfl⟩
  simp only [code] at known
  split at known
  · cases known
  · split at known
    · cases known
    · split at known
      · cases known
        rfl
      · split at known <;> cases known

/-- The first gateway mints a hundred, and the receiver burns forty. -/
def mintedAndBurned : List (Uint256 × CallTree Message) :=
  [⟨admin, registry, .configure 22 ⟨token, 0, true⟩⟩, ⟨100, first, .executeMint request⟩,
    ⟨9, first, .burnRepresentation 31 22 40 0⟩].map fun message => (500, .node message [] true)

/-- The contract is a token. -/
def isToken : Contract → Bool
  | .representation _ => true
  | _ => false

theorem gateway_accounts_burned : ∃ representation,
    ((chain evm).run mintedAndBurned ⟨code, 0, []⟩).code token =
      some (.representation representation) ∧ representation.totalSupply = 60 := by
  obtain ⟨representation, known⟩ : ∃ representation,
      ((chain evm).run mintedAndBurned ⟨code, 0, []⟩).code token =
        some (.representation representation) := by
    have stands : (((chain evm).run mintedAndBurned ⟨code, 0, []⟩).code token).any
        isToken = true := by decide +kernel
    obtain ⟨contract, known, token⟩ := (Option.any_eq_true _ _).mp stands
    cases contract with
    | representation representation => exact ⟨representation, known⟩
    | _ => cases token
  have restricted : ∀ transaction ∈ mintedAndBurned,
      transaction.2.All (InterWeaveRepresentation.Restricts first) := by
    intro transaction member
    obtain ⟨message, sent, rfl⟩ := List.mem_map.mp member
    refine CallTree.all_leaf fun account granted => ?_
    simp only [List.mem_cons, List.not_mem_nil, or_false] at sent
    rcases sent with rfl | rfl | rfl <;> cases granted
  obtain ⟨_, supply, _⟩ := gateway_accounts evm first ⟨code, 0, []⟩ launched mintedAndBurned
    restricted
  have accounts := supply token representation known
  have burned : executedAmount ((chain evm).run mintedAndBurned ⟨code, 0, []⟩).executions token
      .burn = 40 := by decide +kernel
  have minted : executedAmount ((chain evm).run mintedAndBurned ⟨code, 0, []⟩).executions token
      .mint = 100 := by decide +kernel
  exact ⟨representation, known, by omega⟩

end SharedVerifier
end InterWeave
