import InterWeave.Ethereum.ChainSteps
import Mathlib.Data.List.Nodup

/-! # Replayed executions

What a gateway has executed stays marked as processed, so that no operation has the same
effect twice on one gateway, whoever relays it and whatever code is called back. The
mark belongs to the gateway, while the signed digest names only the verifier. Another
gateway of the same verifier accepts the same signatures.
-/

namespace InterWeave

open Atomic

/-! ## The state of a gateway -/

/-- A gateway stands at the address, with at least the marks of an earlier one and the
same verifier. -/
def EvmWorld.Continues (world : EvmWorld) (address : Address) (earlier : InterWeaveGateway) :
    Prop :=
  ∃ gateway, world.code address = some (.gateway gateway) ∧ gateway.verifier = earlier.verifier ∧
    ∀ operationId effect, earlier.processed operationId effect = true →
      gateway.processed operationId effect = true

section Steps

variable {evm : Evm} {admits : Message → Prop} {world next : EvmWorld}

open EvmWorld

theorem Contract.Reconfigures.continues {before after : Contract} {gateway : InterWeaveGateway}
    (reconfigured : before.Reconfigures after) (was : before = .gateway gateway) :
    ∃ later, after = .gateway later ∧ later.verifier = gateway.verifier ∧
      later.processed = gateway.processed := by
  cases reconfigured with
  | gateway before roles paused entered =>
      cases was
      exact ⟨_, rfl, rfl, rfl⟩
  | verifier => cases was
  | registry => cases was

theorem InterWeaveGateway.consume_processed (gateway : InterWeaveGateway) (operationId : Bytes32)
    (effect : Effect) : (gateway.consume operationId effect).processed operationId effect = true := by
  simp only [consume]
  rw [Function.update_self, Function.update_self]

theorem InterWeaveGateway.consume_keeps {gateway : InterWeaveGateway} {operationId : Bytes32}
    {effect : Effect} (consumed : Bytes32) (other : Effect)
    (processed : gateway.processed operationId effect = true) :
    (gateway.consume consumed other).processed operationId effect = true := by
  simp only [consume]
  by_cases same : operationId = consumed
  · subst same
    rw [Function.update_self]
    by_cases equal : effect = other
    · rw [equal, Function.update_self]
    · rwa [Function.update_of_ne equal]
  · rwa [Function.update_of_ne same]

theorem EvmWorld.continues_executed {gateway earlier : InterWeaveGateway} {execution : Execution}
    {address : Address} (executing : world.code execution.gateway = some (.gateway gateway))
    (known : world.code address = some (.gateway earlier)) :
    (world.executed gateway execution).Continues address earlier := by
  by_cases same : address = execution.gateway
  · subst same
    cases executing.symm.trans known
    exact ⟨_, executed_code_self, rfl, fun _ _ processed =>
      gateway.consume_keeps execution.operationId execution.effect processed⟩
  · refine ⟨earlier, ?_, rfl, fun _ _ processed => processed⟩
    rw [executed_code_of_ne same, known]

theorem EvmWorld.Continues.set_token {earlier : InterWeaveGateway} {address token : Address}
    {before after : InterWeaveRepresentation} (continues : world.Continues address earlier)
    (known : world.code token = some (.representation before)) :
    (world.set token (.representation after)).Continues address earlier := by
  obtain ⟨gateway, stands, kept⟩ := continues
  refine ⟨gateway, ?_, kept⟩
  rw [set_code_of_ne, stands]
  rintro rfl
  cases known.symm.trans stands

/-- A gateway keeps its verifier and its marks. -/
theorem EvmWorld.Step.continues (step : EvmWorld.Step evm admits world next) {address : Address}
    {gateway : InterWeaveGateway} (known : world.code address = some (.gateway gateway)) :
    next.Continues address gateway := by
  have unchanged : world.Continues address gateway :=
    ⟨gateway, known, rfl, fun _ _ processed => processed⟩
  cases step with
  | @reconfigure changed before after stands reconfigured =>
      by_cases same : address = changed
      · subst same
        cases known.symm.trans stands
        obtain ⟨later, rfl, verifier, processed⟩ := reconfigured.continues rfl
        exact ⟨later, set_code_self, verifier, fun _ _ marked => by rwa [processed]⟩
      · refine ⟨gateway, ?_, rfl, fun _ _ processed => processed⟩
        rw [set_code_of_ne same, known]
  | token stands _ _ _ => exact unchanged.set_token stands
  | execute executing _ _ _ => exact continues_executed executing known
  | @executeOn _ execution before after executing _ _ token _ =>
      have elsewhere : execution.token ≠ execution.gateway := by
        intro same
        rw [same, executing] at token
        cases token
      have called := token
      rw [← executed_code_of_ne elsewhere] at called
      exact (continues_executed executing known).set_token called

/-- Only an execution is recorded, one at a time, and it has not been marked before. -/
theorem EvmWorld.Step.records (step : EvmWorld.Step evm admits world next) :
    next.executions = world.executions ∨
      ∃ execution gateway, next.executions = execution :: world.executions ∧
        world.code execution.gateway = some (.gateway gateway) ∧
        gateway.processed execution.operationId execution.effect = false ∧
        execution.Checked evm world gateway ∧
        ∃ marked, next.code execution.gateway = some (.gateway marked) ∧
          marked.processed execution.operationId execution.effect = true := by
  cases step with
  | reconfigure _ _ => exact .inl rfl
  | token _ _ _ _ => exact .inl rfl
  | @execute gateway execution executing fresh checked _ =>
      exact .inr ⟨_, _, rfl, executing, fresh, checked, _, executed_code_self,
        gateway.consume_processed execution.operationId execution.effect⟩
  | @executeOn gateway execution before after executing fresh checked token _ =>
      have elsewhere : execution.gateway ≠ execution.token := by
        intro same
        rw [← same, executing] at token
        cases token
      refine .inr ⟨_, _, rfl, executing, fresh, checked, _, ?_,
        gateway.consume_processed execution.operationId execution.effect⟩
      rw [set_code_of_ne elsewhere, executed_code_self]

end Steps

/-! ## Executions are not repeated -/

/-- What is marked as processed when it is executed. -/
def Execution.key (execution : Execution) : Address × Bytes32 × Effect :=
  (execution.gateway, execution.operationId, execution.effect)

/-- Every execution is marked at its gateway and is the one that was authorized, and none
has happened twice. -/
structure EvmWorld.Recorded (world : EvmWorld) : Prop where
  marked : ∀ execution ∈ world.executions, ∃ gateway,
    world.code execution.gateway = some (.gateway gateway) ∧
      gateway.processed execution.operationId execution.effect = true
  once : (world.executions.map Execution.key).Nodup
  matched : ∀ execution ∈ world.executions, ∀ verification ∈ execution.verification,
    execution.Matches verification.authorization

section Runs

variable {evm : Evm} {admits : Message → Prop} {world next : EvmWorld}

theorem EvmWorld.Recorded.step (recorded : world.Recorded)
    (step : EvmWorld.Step evm admits world next) : next.Recorded := by
  have kept : ∀ execution ∈ world.executions, ∃ gateway,
      next.code execution.gateway = some (.gateway gateway) ∧
        gateway.processed execution.operationId execution.effect = true := by
    intro execution member
    obtain ⟨gateway, known, processed⟩ := recorded.marked execution member
    obtain ⟨later, stands, _, keeps⟩ := step.continues known
    exact ⟨later, stands, keeps _ _ processed⟩
  rcases step.records with same | ⟨execution, gateway, added, known, fresh, checked, marked⟩
  · constructor
    · rw [same]
      exact kept
    · rw [same]
      exact recorded.once
    · rw [same]
      exact recorded.matched
  · constructor
    · intro other member
      rw [added] at member
      rcases List.mem_cons.mp member with rfl | member
      · exact marked
      · exact kept other member
    · rw [added, List.map_cons, List.nodup_cons]
      refine ⟨fun repeated => ?_, recorded.once⟩
      -- An earlier execution of the key would have left its mark.
      obtain ⟨other, member, same⟩ := List.mem_map.mp repeated
      obtain ⟨gatewayId, operationId, effect⟩ : other.gateway = execution.gateway ∧
          other.operationId = execution.operationId ∧ other.effect = execution.effect := by
        simpa only [Execution.key, Prod.mk.injEq] using same
      obtain ⟨earlier, stands, processed⟩ := recorded.marked other member
      rw [gatewayId, known] at stands
      cases stands
      rw [operationId, effect, fresh] at processed
      cases processed
    · intro other member verification verified
      rw [added] at member
      rcases List.mem_cons.mp member with rfl | member
      · exact (checked.of_verified verified).2.1
      · exact recorded.matched other member verification verified

/-- The executions of a run are marked at their gateways, and none happens twice. -/
theorem EvmWorld.Recorded.run (recorded : world.Recorded)
    (transactions : List (Uint256 × CallTree Message)) :
    ((chain evm).run transactions world).Recorded := by
  refine chain_run_preserves (fun _ => True) (fun step recorded => recorded.step step)
    (fun _ _ recorded => ⟨recorded.marked, recorded.once, recorded.matched⟩) transactions
    (fun transaction _ => ?_) recorded
  exact CallTree.all_of_forall (fun _ => trivial) transaction.2

/-- Executions of one key are at most one. -/
theorem EvmWorld.Recorded.countP_le_one (recorded : world.Recorded)
    {selects : Execution → Bool} (key : Address × Bytes32 × Effect)
    (selected : ∀ execution ∈ world.executions, selects execution = true → execution.key = key) :
    world.executions.countP selects ≤ 1 := by
  calc world.executions.countP selects
      ≤ world.executions.countP ((· == key) ∘ Execution.key) := by
        refine List.countP_mono_left fun execution member chosen => ?_
        exact beq_iff_eq.mpr (selected execution member chosen)
    _ = (world.executions.map Execution.key).count key := by
        rw [List.count, List.countP_map]
    _ ≤ 1 := List.nodup_iff_count_le_one.mp recorded.once key

end Runs

/-- The execution of an authorization by a gateway. -/
def Execution.uses (gateway : Address) (authorization : AttestationVerifier.Authorization)
    (execution : Execution) : Bool :=
  execution.gateway = gateway ∧
    execution.verification.map Verification.authorization = some authorization

/-- **Replay protection.** Over every run from any state of the contracts, whoever sends
the transactions and whatever code they reach, each gateway executes an authorization at
most once. -/
theorem executed_once_per_gateway (evm : Evm) (code : Address → Option Contract)
    (timestamp : Uint256) (transactions : List (Uint256 × CallTree Message)) (gateway : Address)
    (authorization : AttestationVerifier.Authorization) :
    ((chain evm).run transactions ⟨code, timestamp, []⟩).executions.countP
      (Execution.uses gateway authorization) ≤ 1 := by
  have launched : EvmWorld.Recorded ⟨code, timestamp, []⟩ := by
    refine ⟨?_, List.nodup_nil, ?_⟩ <;>
    · intro execution member
      cases member
  have recorded : ((chain evm).run transactions ⟨code, timestamp, []⟩).Recorded :=
    launched.run transactions
  refine recorded.countP_le_one (gateway, authorization.operationId, authorization.effect) ?_
  intro execution member used
  obtain ⟨here, authorized⟩ := of_decide_eq_true used
  obtain ⟨verification, verified, same⟩ := Option.map_eq_some_iff.mp authorized
  obtain ⟨operationId, effect, _⟩ := recorded.matched execution member verification verified
  rw [Execution.key, here, ← operationId, ← effect, same]

/-! ## A second gateway of the same verifier -/

namespace SharedVerifier

/-- A chain on which a signature names its key and repeats the digest. -/
def evm : Evm where
  chainId := 1
  keccak256 bytes :=
    bytes.foldl (fun hash byte => hash * 257 + BitVec.ofNat 256 (byte.toNat + 1)) 0
  recover
    | _, [] => none
    | digest, key :: signed =>
        if signed = wordBytes digest then some (BitVec.ofNat 160 key.toNat) else none

def admin : Address := 1

def verifier : Address := 10

def registry : Address := 11

def token : Address := 12

def first : Address := 13

def second : Address := 14

/-- One verifier, one registry, one token and two gateways. -/
def code (address : Address) : Option Contract :=
  if address = verifier then
    (AttestationVerifier.constructor admin admin [7] 1).toOption.map .verifier
  else if address = registry then
    (InterWeaveAssetRegistry.constructor admin admin).toOption.map .registry
  else if address = token then
    (InterWeaveRepresentation.constructor admin first).toOption.map .representation
  else if address = first ∨ address = second then
    (InterWeaveGateway.constructor admin admin verifier registry).toOption.map .gateway
  else none

def authorization : AttestationVerifier.Authorization :=
  { attestationDigest := 5, operationId := 21, effect := .mint, assetId := 22, receiver := 9
    amount := 100, validFrom := 0, expiresAt := 1000 }

def request : ExecutionRequest :=
  { attestationDigest := 5, operationId := 21, assetId := 22, receiver := 9, amount := 100
    validFrom := 0, expiresAt := 1000
    signatures := [7 :: wordBytes (AttestationVerifier.executionDigest evm verifier authorization)] }

/-- The asset is configured and the second gateway is admitted to the token. Two relayers
then send the same request, one to each gateway. -/
def transactions : List (Uint256 × CallTree Message) :=
  [⟨admin, registry, .configure 22 ⟨token, 0, true⟩⟩,
    ⟨admin, token, .access (.grantRole .gateway second)⟩,
    ⟨100, first, .executeMint request⟩, ⟨101, second, .executeMint request⟩].map
    fun message => (500, .node message [] true)

/-- Both gateways mint on the signatures of one authorization. -/
theorem minted_on_both_gateways :
    let world := (chain evm).run transactions ⟨code, 0, []⟩
    world.executions.map Execution.gateway = [second, first] ∧
      ∀ execution ∈ world.executions, execution.verification.map (fun verification =>
        (verification.verifier, verification.authorization, verification.signatures)) =
          some (verifier, authorization, request.signatures) := by
  decide +kernel

end SharedVerifier
end InterWeave
