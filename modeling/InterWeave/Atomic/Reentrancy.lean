import InterWeave.Atomic.Machine
import Mathlib.Order.Defs.Unbundled

/-! # Reentrant calls

Known code may call code that is not known. What that code does is a list of further
calls, each of which commits or leaves the state as it was, and a decision to accept
or to reject. A call with all the calls below it is a finite tree. If every piece of
known code preserves a property, granted that the unknown code it calls does, then
every tree preserves it.
-/

namespace Atomic

variable {State Call Error : Type}

/-- A call, the calls of the unknown code it reaches, and what that code decides. -/
inductive CallTree (Call : Type) : Type where
  | node (call : Call) (nested : List (CallTree Call)) (accepts : Bool)

/-- Known code, given what unknown code does where it is called. -/
structure Contracts (State Call Error : Type) where
  enter : Call → (State → Except Error State) → State → Except Error State
  /-- The error that a rejecting callee raises. -/
  rejection : Error

namespace Contracts

variable (contracts : Contracts State Call Error)

mutual

/-- The state that a call commits. -/
def execute : CallTree Call → State → Except Error State
  | .node call nested accepts, state =>
      contracts.enter call
        (fun inner =>
          if accepts then .ok (executeAll nested inner) else .error contracts.rejection) state

/-- The state after calls of which some may revert. -/
def executeAll : List (CallTree Call) → State → State
  | [], state => state
  | tree :: rest, state =>
      executeAll rest
        (match execute tree state with
        | .ok next => next
        | .error _ => state)

end

/-- Transactions: a call tree commits as a whole or leaves the state as it was. -/
def transactions {Block : Type} (open_ : Block → State → State) :
    Machine State (Block × CallTree Call) (Except Error Unit) where
  execute transaction state :=
    commit (fun state =>
      (contracts.execute transaction.2 (open_ transaction.1 state)).map fun next => ((), next)) state

end Contracts

mutual

/-- Every call of a tree is admitted. -/
def CallTree.All (admits : Call → Prop) : CallTree Call → Prop
  | .node call nested _ => admits call ∧ CallTree.AllOf admits nested

def CallTree.AllOf (admits : Call → Prop) : List (CallTree Call) → Prop
  | [] => True
  | tree :: rest => tree.All admits ∧ CallTree.AllOf admits rest

end

section All

variable {admits : Call → Prop}

theorem CallTree.all_leaf {call : Call} {accepts : Bool} (admitted : admits call) :
    (CallTree.node call [] accepts).All admits := by
  rw [CallTree.All]
  refine ⟨admitted, ?_⟩
  rw [CallTree.AllOf]
  trivial

mutual

theorem CallTree.all_of_forall (admitted : ∀ call, admits call) :
    ∀ tree : CallTree Call, tree.All admits
  | .node call nested _ => by
      rw [CallTree.All]
      exact ⟨admitted call, CallTree.allOf_of_forall admitted nested⟩

theorem CallTree.allOf_of_forall (admitted : ∀ call, admits call) :
    ∀ trees : List (CallTree Call), CallTree.AllOf admits trees
  | [] => by
      rw [CallTree.AllOf]
      trivial
  | tree :: rest => by
      rw [CallTree.AllOf]
      exact ⟨CallTree.all_of_forall admitted tree, CallTree.allOf_of_forall admitted rest⟩

end

end All

namespace Contracts

variable {contracts : Contracts State Call Error} {admits : Call → Prop} {holds : State → Prop}

variable (contracts admits holds) in
/-- Known code preserves a property if the unknown code does. -/
def Preserves : Prop :=
  ∀ call outside state next, admits call →
    (∀ inner left, holds inner → outside inner = .ok left → holds left) →
    holds state → contracts.enter call outside state = .ok next → holds next

mutual

/-- **Reentrant calls.** What known code preserves, every tree of admitted calls
preserves. -/
theorem Preserves.execute (preserves : contracts.Preserves admits holds) :
    ∀ (tree : CallTree Call) {state next : State}, tree.All admits → holds state →
      contracts.execute tree state = .ok next → holds next
  | .node call nested accepts, state, next, admitted, valid, executed => by
      rw [CallTree.All] at admitted
      rw [Contracts.execute] at executed
      refine preserves call _ state next admitted.1 (fun inner left before returned => ?_) valid
        executed
      cases accepts with
      | false => cases returned
      | true =>
          cases returned
          exact preserves.executeAll nested admitted.2 before

theorem Preserves.executeAll (preserves : contracts.Preserves admits holds) :
    ∀ (trees : List (CallTree Call)) {state : State}, CallTree.AllOf admits trees → holds state →
      holds (contracts.executeAll trees state)
  | [], state, _, valid => by
      rw [Contracts.executeAll]
      exact valid
  | tree :: rest, state, admitted, valid => by
      rw [CallTree.AllOf] at admitted
      rw [Contracts.executeAll]
      refine preserves.executeAll rest admitted.2 ?_
      split
      · rename_i next executed
        exact preserves.execute tree admitted.1 valid executed
      · exact valid

end

variable {relation : State → State → Prop}

variable (contracts relation) in
/-- Known code relates the state before a call to the one after it, if the unknown code does. -/
def Relates : Prop :=
  ∀ call outside state next, (∀ inner left, outside inner = .ok left → relation inner left) →
    contracts.enter call outside state = .ok next → relation state next

mutual

/-- **Related calls.** A preorder that known code respects, every tree of calls respects. -/
theorem Relates.execute (relates : contracts.Relates relation) (preorder : IsPreorder State relation) :
    ∀ (tree : CallTree Call) {state next : State}, contracts.execute tree state = .ok next →
      relation state next
  | .node call nested accepts, state, next, executed => by
      rw [Contracts.execute] at executed
      refine relates call _ state next (fun inner left returned => ?_) executed
      cases accepts with
      | false => cases returned
      | true =>
          cases returned
          exact relates.executeAll preorder nested inner

theorem Relates.executeAll (relates : contracts.Relates relation)
    (preorder : IsPreorder State relation) :
    ∀ (trees : List (CallTree Call)) (state : State),
      relation state (contracts.executeAll trees state)
  | [], state => by
      rw [Contracts.executeAll]
      exact preorder.refl state
  | tree :: rest, state => by
      rw [Contracts.executeAll]
      refine preorder.trans _ _ _ ?_ (relates.executeAll preorder rest _)
      split
      · rename_i next executed
        exact relates.execute preorder tree executed
      · exact preorder.refl state

end

variable {Block : Type} {open_ : Block → State → State}

/-- A reverted transaction changes nothing. -/
theorem transactions_reverted {transaction : Block × CallTree Call} {state : State} {error : Error}
    (reverted : contracts.execute transaction.2 (open_ transaction.1 state) = .error error) :
    (contracts.transactions open_).next transaction state = state := by
  simp only [Machine.next, transactions, commit, reverted, Except.map]

/-- A transaction succeeds where its call tree does. -/
theorem transactions_ok_iff {transaction : Block × CallTree Call} {state : State} :
    ((contracts.transactions open_).execute transaction state).1 = .ok () ↔
      ∃ next, contracts.execute transaction.2 (open_ transaction.1 state) = .ok next := by
  simp only [transactions, commit]
  cases contracts.execute transaction.2 (open_ transaction.1 state) with
  | error error => simp [Except.map]
  | ok next => simp [Except.map]

/-- What known code preserves, and opening a block preserves, every run of
transactions preserves. -/
theorem Preserves.run (preserves : contracts.Preserves admits holds)
    (opens : ∀ block state, holds state → holds (open_ block state)) :
    ∀ (run : List (Block × CallTree Call)) {state : State},
      (∀ transaction ∈ run, transaction.2.All admits) → holds state →
      holds ((contracts.transactions open_).run run state) := by
  intro run
  induction run with
  | nil => exact fun _ valid => valid
  | cons transaction rest ih =>
      intro state admitted valid
      refine ih (fun other member => admitted other (List.mem_cons_of_mem _ member)) ?_
      cases executed : contracts.execute transaction.2 (open_ transaction.1 state) with
      | error error =>
          rw [transactions_reverted executed]
          exact valid
      | ok next =>
          have committed : (contracts.transactions open_).next transaction state = next := by
            simp only [Machine.next, transactions, commit, executed, Except.map]
          rw [committed]
          exact preserves.execute transaction.2 (admitted transaction List.mem_cons_self)
            (opens _ _ valid) executed

/-- A preorder that known code and the opening of a block respect, every run respects. -/
theorem Relates.run (relates : contracts.Relates relation) (preorder : IsPreorder State relation)
    (opens : ∀ block state, relation state (open_ block state)) :
    ∀ (run : List (Block × CallTree Call)) (state : State),
      relation state ((contracts.transactions open_).run run state) := by
  intro run
  induction run with
  | nil => exact preorder.refl
  | cons transaction rest ih =>
      intro state
      refine preorder.trans _ _ _ ?_ (ih _)
      cases executed : contracts.execute transaction.2 (open_ transaction.1 state) with
      | error error =>
          rw [transactions_reverted executed]
          exact preorder.refl state
      | ok next =>
          have committed : (contracts.transactions open_).next transaction state = next := by
            simp only [Machine.next, transactions, commit, executed, Except.map]
          rw [committed]
          exact preorder.trans _ _ _ (opens _ _) (relates.execute preorder transaction.2 executed)

end Contracts
end Atomic
