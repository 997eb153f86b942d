import Mathlib.Algebra.BigOperators.Group.Finset.Basic
import Mathlib.Algebra.Order.BigOperators.Group.Finset

/-! # Holdings

Balances are covered by a supply if no finite set of accounts holds more than the
supply. The accounts may be infinitely many. Issuing raises the supply, retiring
lowers it, and a movement leaves it, and each keeps the balances covered.
-/

namespace Accounts

variable {Account : Type}

/-- No finite set of accounts holds more than the supply. -/
def Covered (balances : Account → Nat) (supply : Nat) : Prop :=
  ∀ accounts : Finset Account, ∑ account ∈ accounts, balances account ≤ supply

variable {balances : Account → Nat} {supply amount : Nat} {account : Account}

theorem Covered.zero : Covered (fun _ : Account => 0) 0 := by
  intro accounts
  rw [Finset.sum_const_zero]

theorem Covered.balance_le (covered : Covered balances supply) (account : Account) :
    balances account ≤ supply := by
  have single := covered {account}
  rwa [Finset.sum_singleton] at single

variable [DecidableEq Account]

/-- The holdings of a set after one balance has changed. -/
theorem sum_update (accounts : Finset Account) (value : Nat) :
    ∑ other ∈ accounts, Function.update balances account value other =
      (if account ∈ accounts then value else 0) +
        ∑ other ∈ accounts.erase account, balances other := by
  by_cases member : account ∈ accounts
  · rw [if_pos member, ← Finset.add_sum_erase accounts _ member, Function.update_self]
    congr 1
    refine Finset.sum_congr rfl fun other among => ?_
    rw [Function.update_of_ne (Finset.ne_of_mem_erase among)]
  · rw [if_neg member, Nat.zero_add, Finset.erase_eq_of_notMem member]
    refine Finset.sum_congr rfl fun other among => ?_
    rw [Function.update_of_ne (ne_of_mem_of_not_mem among member)]

/-- Issue to an account. -/
theorem Covered.issue (covered : Covered balances supply) (account : Account) (amount : Nat) :
    Covered (Function.update balances account (balances account + amount)) (supply + amount) := by
  intro accounts
  have before := covered (insert account (accounts.erase account))
  rw [Finset.sum_insert (Finset.notMem_erase _ _)] at before
  rw [sum_update]
  split <;> omega

/-- Retire from an account that holds enough. -/
theorem Covered.retire (covered : Covered balances supply) (enough : amount ≤ balances account) :
    Covered (Function.update balances account (balances account - amount)) (supply - amount) := by
  intro accounts
  have before := covered (insert account (accounts.erase account))
  rw [Finset.sum_insert (Finset.notMem_erase _ _)] at before
  rw [sum_update]
  split <;> omega

/-- Move from an account that holds enough, also to itself. -/
theorem Covered.move (covered : Covered balances supply) (enough : amount ≤ balances account)
    (target : Account) :
    Covered (Function.update (Function.update balances account (balances account - amount)) target
      (Function.update balances account (balances account - amount) target + amount)) supply := by
  have below : amount ≤ supply := enough.trans (covered.balance_le account)
  have moved := (covered.retire enough).issue target amount
  rwa [Nat.sub_add_cancel below] at moved

end Accounts
