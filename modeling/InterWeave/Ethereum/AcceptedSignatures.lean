import InterWeave.Ethereum.Contracts
import Mathlib.Data.List.Perm.Basic
import Mathlib.Data.List.Sort

/-! # Accepted signatures

One pass over the signatures, with the previous signer, checks that the signers are enabled and
strictly increasing. Distinct signers can be put in that order, so it is no restriction on which
signatures are accepted together, and no signer is counted twice.
-/

namespace InterWeave
namespace AttestationVerifier

/-- The arguments of `verify` but the signatures. Any number of eight bits may be the effect. -/
structure Execution where
  attestationDigest : Bytes32
  operationId : Bytes32
  effect : BitVec 8
  assetId : Bytes32
  receiver : Address
  amount : Uint256
  validFrom : Uint48
  expiresAt : Uint48
  deriving DecidableEq, Repr

namespace Execution

/-- `executionDigest`, at the address of the verifier. -/
def digest (evm : Evm) (self : Address) (execution : Execution) : Bytes32 :=
  evm.keccak256 (abiEncode
    [evm.keccak256 (js "INTERWEAVE_EVM_EXECUTION_V1").encode, evm.chainId, self.setWidth 256,
      execution.attestationDigest, execution.operationId, execution.effect.setWidth 256,
      execution.assetId, execution.receiver.setWidth 256, execution.amount,
      execution.validFrom.setWidth 256, execution.expiresAt.setWidth 256])

/-- `verify`, with the signers it accepts. -/
def verify (evm : Evm) (verifier : AttestationVerifier) (self : Address) (timestamp : Uint256)
    (execution : Execution) (signatures : List (List UInt8)) : Except EvmError (List Address) :=
  if timestamp.toNat < execution.validFrom.toNat ∨
      execution.expiresAt.toNat ≤ timestamp.toNat ∨
      execution.expiresAt.toNat ≤ execution.validFrom.toNat then
    .error .invalidAttestationTime
  else if signatures.length < verifier.threshold.toNat then .error .invalidThreshold
  else verifier.signers evm (execution.digest evm self) 0 signatures

end Execution

/-- An execution of one of the effects of the gateway. -/
def Authorization.execution (authorization : Authorization) : Execution where
  attestationDigest := authorization.attestationDigest
  operationId := authorization.operationId
  effect := BitVec.ofNat 8 authorization.effect.code
  assetId := authorization.assetId
  receiver := authorization.receiver
  amount := authorization.amount
  validFrom := authorization.validFrom
  expiresAt := authorization.expiresAt

/-- The gateway verifies executions with its own effects. -/
theorem verify_eq_execution (evm : Evm) (verifier : AttestationVerifier) (self : Address)
    (timestamp : Uint256) (authorization : Authorization) (signatures : List (List UInt8)) :
    verifier.verify evm self timestamp authorization signatures =
      authorization.execution.verify evm verifier self timestamp signatures := by
  have digests : executionDigest evm self authorization =
      authorization.execution.digest evm self := by
    have code : BitVec.ofNat 256 authorization.effect.code =
        (BitVec.ofNat 8 authorization.effect.code).setWidth 256 := by
      cases authorization.effect <;> rfl
    rw [executionDigest, Execution.digest, code]
    rfl
  rw [verify, Execution.verify, digests]
  rfl

/-! ## The pass over the signatures -/

section Pass

variable {evm : Evm} {verifier : AttestationVerifier} {digest : Bytes32} {previous : Address}
  {signatures : List (List UInt8)} {accepted : List Address}

/-- The signers that are recovered from the signatures. -/
abbrev Recovered (evm : Evm) (digest : Bytes32) : List (List UInt8) → List Address → Prop :=
  List.Forall₂ fun signature signer => evm.recover digest signature = some signer

/-- **The pass.** It returns the recovered signers where each is above the one before it and is
enabled. -/
theorem signers_ok_iff : verifier.signers evm digest previous signatures = .ok accepted ↔
    Recovered evm digest signatures accepted ∧ (previous :: accepted).IsChain (· < ·) ∧
      ∀ signer ∈ accepted, verifier.isValidator signer = true := by
  induction signatures generalizing previous accepted with
  | nil =>
      rw [signers]
      constructor
      · intro done
        cases done
        exact ⟨.nil, .singleton _, fun _ none => (List.not_mem_nil none).elim⟩
      · rintro ⟨recovered, _, _⟩
        cases recovered
        rfl
  | cons signature rest ih =>
      rw [signers]
      constructor
      · intro done
        split at done
        · cases done
        · rename_i signer recovered
          split at done
          · cases done
          rename_i above
          split at done
          · cases done
          rename_i enabled
          rw [Bool.not_eq_true', Bool.not_eq_false] at enabled
          cases others : verifier.signers evm digest signer rest with
          | error error =>
              rw [others] at done
              cases done
          | ok more =>
              rw [others] at done
              cases done
              obtain ⟨further, chain, members⟩ := ih.mp others
              refine ⟨.cons recovered further, List.isChain_cons_cons.mpr ⟨?_, chain⟩,
                List.forall_mem_cons.mpr ⟨enabled, members⟩⟩
              exact BitVec.not_le.mp above
      · rintro ⟨recovered, chain, members⟩
        cases recovered with
        | cons first further =>
            rename_i signer more
            obtain ⟨above, chain⟩ := List.isChain_cons_cons.mp chain
            obtain ⟨enabled, members⟩ := List.forall_mem_cons.mp members
            rw [first]
            dsimp only
            rw [if_neg (BitVec.not_le.mpr above), enabled, if_neg (by decide),
              ih.mpr ⟨further, chain, members⟩]
            rfl

/-- From a signer that is not zero on, the order is that of the signers alone. -/
theorem isChain_zero_cons_iff (nonzero : (0 : Address) ∉ accepted) :
    ((0 : Address) :: accepted).IsChain (· < ·) ↔ accepted.Pairwise (· < ·) := by
  have transitive : IsTrans Address (· < ·) := ⟨fun _ _ _ => BitVec.lt_trans⟩
  rw [List.isChain_iff_pairwise, List.pairwise_cons, and_iff_right]
  intro signer member
  have positive : signer ≠ 0 := fun same => nonzero (same ▸ member)
  rw [BitVec.lt_def]
  have value : signer.toNat ≠ 0 := fun zero => positive (BitVec.eq_of_toNat_eq zero)
  change 0 < signer.toNat
  omega

/-- Distinct signers can be put in order. -/
theorem exists_sorted (distinct : accepted.Nodup) :
    ∃ sorted : List Address, accepted.Perm sorted ∧ sorted.Pairwise (· < ·) := by
  let above : Address → Address → Prop := fun first second => first.toNat ≤ second.toNat
  have total : Std.Total above := ⟨fun first second => Nat.le_total _ _⟩
  have transitive : IsTrans Address above := ⟨fun _ _ _ => Nat.le_trans⟩
  have permuted := List.perm_insertionSort above accepted
  refine ⟨accepted.insertionSort above, permuted.symm, ?_⟩
  have apart : (accepted.insertionSort above).Pairwise (· ≠ ·) := permuted.nodup_iff.mpr distinct
  refine ((List.pairwise_insertionSort above accepted).and apart).imp fun ⟨below, different⟩ => ?_
  exact BitVec.lt_def.mpr (Nat.lt_of_le_of_ne below fun same =>
    different (BitVec.eq_of_toNat_eq same))

end Pass

/-! ## Verification -/

/-- The window of an execution, which is open at its end. -/
def Execution.InWindow (execution : Execution) (timestamp : Uint256) : Prop :=
  execution.validFrom.toNat ≤ timestamp.toNat ∧ timestamp.toNat < execution.expiresAt.toNat

/-- Signatures of distinct enabled validators. -/
def Distinct (evm : Evm) (verifier : AttestationVerifier) (digest : Bytes32)
    (signatures : List (List UInt8)) : Prop :=
  ∃ signers, Recovered evm digest signatures signers ∧ signers.Nodup ∧
    ∀ signer ∈ signers, verifier.isValidator signer = true

/-- Signatures of strictly increasing enabled validators. -/
def Increasing (evm : Evm) (verifier : AttestationVerifier) (digest : Bytes32)
    (signatures : List (List UInt8)) : Prop :=
  ∃ signers, Recovered evm digest signatures signers ∧ signers.Pairwise (· < ·) ∧
    ∀ signer ∈ signers, verifier.isValidator signer = true

section Verification

variable {evm : Evm} {verifier : AttestationVerifier} {self : Address} {timestamp : Uint256}
  {execution : Execution} {signatures : List (List UInt8)} {accepted : List Address}

theorem Execution.verify_ok_iff : execution.verify evm verifier self timestamp signatures =
      .ok accepted ↔
    execution.InWindow timestamp ∧ verifier.threshold.toNat ≤ signatures.length ∧
      verifier.signers evm (execution.digest evm self) 0 signatures = .ok accepted := by
  rw [verify, InWindow]
  split
  · simp only [reduceCtorEq, false_iff]
    omega
  · split
    · simp only [reduceCtorEq, false_iff]
      omega
    · rw [and_iff_right (by omega), and_iff_right (by omega)]

theorem zero_not_mem (nonzero : ∀ digest signature, evm.recover digest signature ≠ some 0)
    {digest : Bytes32} (recovered : Recovered evm digest signatures accepted) :
    (0 : Address) ∉ accepted := by
  induction recovered with
  | nil => exact List.not_mem_nil
  | cons first _ ih =>
      rw [List.mem_cons, not_or]
      exact ⟨fun same => nonzero _ _ (first.trans (congrArg some same.symm)), ih⟩

/-- **Accepted signatures.** Where recovery returns no zero address: signatures are accepted if and
only if the time is in the window, they are at least as many as the threshold, and their signers are
strictly increasing enabled validators. They can be put in an order that is accepted if and only if,
instead, their signers are distinct enabled validators. The signers of an accepted list are
distinct. -/
theorem verify_accepts_iff (nonzero : ∀ digest signature, evm.recover digest signature ≠ some 0)
    (verifier : AttestationVerifier) (self : Address) (timestamp : Uint256)
    (execution : Execution) (signatures : List (List UInt8)) :
    ((∃ accepted, execution.verify evm verifier self timestamp signatures = .ok accepted) ↔
      execution.InWindow timestamp ∧ verifier.threshold.toNat ≤ signatures.length ∧
        Increasing evm verifier (execution.digest evm self) signatures) ∧
    ((∃ ordered accepted, ordered.Perm signatures ∧
        execution.verify evm verifier self timestamp ordered = .ok accepted) ↔
      execution.InWindow timestamp ∧ verifier.threshold.toNat ≤ signatures.length ∧
        Distinct evm verifier (execution.digest evm self) signatures) ∧
    ∀ accepted, execution.verify evm verifier self timestamp signatures = .ok accepted →
      Recovered evm (execution.digest evm self) signatures accepted ∧ accepted.Nodup := by
  have sound : ∀ {signatures : List (List UInt8)} {accepted : List Address},
      execution.verify evm verifier self timestamp signatures = .ok accepted →
      Recovered evm (execution.digest evm self) signatures accepted ∧
        accepted.Pairwise (· < ·) ∧ ∀ signer ∈ accepted, verifier.isValidator signer = true := by
    intro signatures accepted verified
    obtain ⟨_, _, passed⟩ := Execution.verify_ok_iff.mp verified
    obtain ⟨recovered, chain, members⟩ := signers_ok_iff.mp passed
    exact ⟨recovered, (isChain_zero_cons_iff (zero_not_mem nonzero recovered)).mp chain, members⟩
  have distinct : ∀ {accepted : List Address}, accepted.Pairwise (· < ·) → accepted.Nodup :=
    fun increasing => increasing.imp fun below => BitVec.ne_of_lt below
  have complete : execution.InWindow timestamp →
      ∀ {signatures : List (List UInt8)} {signers : List Address},
      verifier.threshold.toNat ≤ signatures.length →
      Recovered evm (execution.digest evm self) signatures signers →
      signers.Pairwise (· < ·) → (∀ signer ∈ signers, verifier.isValidator signer = true) →
      execution.verify evm verifier self timestamp signatures = .ok signers := by
    intro open_ signatures signers enough recovered increasing members
    exact Execution.verify_ok_iff.mpr ⟨open_, enough, signers_ok_iff.mpr ⟨recovered,
      (isChain_zero_cons_iff (zero_not_mem nonzero recovered)).mpr increasing, members⟩⟩
  refine ⟨⟨?_, ?_⟩, ⟨?_, ?_⟩, fun accepted verified => ?_⟩
  · rintro ⟨accepted, verified⟩
    obtain ⟨open_, enough, _⟩ := Execution.verify_ok_iff.mp verified
    exact ⟨open_, enough, accepted, sound verified⟩
  · rintro ⟨open_, enough, signers, recovered, increasing, members⟩
    exact ⟨signers, complete open_ enough recovered increasing members⟩
  · rintro ⟨ordered, accepted, permuted, verified⟩
    obtain ⟨open_, enough, _⟩ := Execution.verify_ok_iff.mp verified
    obtain ⟨recovered, increasing, members⟩ := sound verified
    obtain ⟨signers, own, same⟩ := List.perm_comp_forall₂ permuted.symm recovered
    refine ⟨open_, permuted.length_eq ▸ enough, signers, own,
      same.nodup_iff.mpr (distinct increasing), fun signer member => ?_⟩
    exact members signer (same.mem_iff.mp member)
  · rintro ⟨open_, enough, signers, recovered, apart, members⟩
    obtain ⟨sorted, same, increasing⟩ := exists_sorted apart
    obtain ⟨ordered, flipped, permuted⟩ := List.perm_comp_forall₂ same.symm recovered.flip
    refine ⟨ordered, sorted, permuted, complete open_ (permuted.length_eq ▸ enough) flipped.flip
      increasing fun signer member => members signer (same.mem_iff.mpr member)⟩
  · obtain ⟨recovered, increasing, _⟩ := sound verified
    exact ⟨recovered, distinct increasing⟩

end Verification

/-! ## Two validators -/

namespace TwoValidators

/-- The signature of a signer is the first byte of it with the digest. -/
def evm : Evm where
  chainId := 1
  keccak256 _ := 5
  recover digest
    | signer :: rest =>
        if signer.toNat = 0 ∨ rest ≠ wordBytes digest then none
        else some (BitVec.ofNat 160 signer.toNat)
    | [] => none

theorem recover_ne_zero (digest : Bytes32) (signature : List UInt8) :
    evm.recover digest signature ≠ some 0 := by
  cases signature with
  | nil => exact fun none => by cases none
  | cons signer rest =>
      intro recovered
      simp only [evm, Option.ite_none_left_eq_some, not_or, Option.some.injEq] at recovered
      have value := congrArg BitVec.toNat recovered.2
      have bound := signer.toNat_lt
      rw [BitVec.toNat_ofNat, Nat.mod_eq_of_lt (by omega)] at value
      exact recovered.1.1 value

theorem recover_signed {signer : UInt8} {digest : Bytes32} (nonzero : signer.toNat ≠ 0) :
    evm.recover digest (signer :: wordBytes digest) = some (BitVec.ofNat 160 signer.toNat) := by
  simp [evm, nonzero]

def verifier : AttestationVerifier where
  roles := Roles.none
  isValidator signer := signer.toNat = 3 ∨ signer.toNat = 9
  threshold := 2

def execution : Execution where
  attestationDigest := 5
  operationId := 21
  effect := 1
  assetId := 22
  receiver := 9
  amount := 100
  validFrom := 0
  expiresAt := 1000

/-- The two validators sign, the higher one first. -/
def signatures : List (List UInt8) :=
  [9 :: wordBytes (execution.digest evm 7), 3 :: wordBytes (execution.digest evm 7)]

theorem signatures_ordered : ∃ ordered accepted, ordered.Perm signatures ∧
    execution.verify evm verifier 7 500 ordered = .ok accepted :=
  (verify_accepts_iff recover_ne_zero verifier 7 500 execution signatures).2.1.mpr
    ⟨⟨by decide, by decide⟩, by decide, [9, 3],
      .cons (recover_signed (by decide)) (.cons (recover_signed (by decide)) .nil), by decide,
      by simp [verifier]⟩

end TwoValidators

end AttestationVerifier
end InterWeave
