import InterWeave.Supply.SupplyInvariants

/-! # Backed representation supply

What the supply ledger is for. An account counts what has been locked, minted,
burned and released of one asset under one representation, and cannot be built
unless every representation in circulation is backed. A book holds one account
for every scope and consumes the operation and effect of each movement once.
-/

namespace InterWeave

/-- The totals of one scope, with the bounds that make it backed. -/
structure Backing where
  locked : Nat
  minted : Nat
  burned : Nat
  released : Nat
  released_le_burned : released ≤ burned
  burned_le_minted : burned ≤ minted
  minted_le_locked : minted ≤ locked

namespace Backing

def empty : Backing := ⟨0, 0, 0, 0, Nat.le_refl 0, Nat.le_refl 0, Nat.le_refl 0⟩

def total (backing : Backing) : SupplyEffect → Nat
  | .lock => backing.locked
  | .mint => backing.minted
  | .burn => backing.burned
  | .release => backing.released

/-- Account for a movement if the scope stays backed. -/
def move (backing : Backing) (effect : SupplyEffect) (amount : Nat) : Option Backing :=
  match effect with
  | .lock =>
      some { backing with
        locked := backing.locked + amount
        minted_le_locked := Nat.le_add_right_of_le backing.minted_le_locked }
  | .mint =>
      if covered : backing.minted + amount ≤ backing.locked then
        some { backing with
          minted := backing.minted + amount
          burned_le_minted := Nat.le_add_right_of_le backing.burned_le_minted
          minted_le_locked := covered }
      else none
  | .burn =>
      if covered : backing.burned + amount ≤ backing.minted then
        some { backing with
          burned := backing.burned + amount
          released_le_burned := Nat.le_add_right_of_le backing.released_le_burned
          burned_le_minted := covered }
      else none
  | .release =>
      if covered : backing.released + amount ≤ backing.burned then
        some { backing with
          released := backing.released + amount
          released_le_burned := covered }
      else none

/-- The bounds on totals that a backed account satisfies. -/
def Bounded (total : SupplyEffect → Nat) : Prop :=
  total .release ≤ total .burn ∧ total .burn ≤ total .mint ∧ total .mint ≤ total .lock

theorem bounded (backing : Backing) : Bounded backing.total :=
  ⟨backing.released_le_burned, backing.burned_le_minted, backing.minted_le_locked⟩

/-- Circulating representations are non-negative and within the backing left. -/
theorem Bounded.circulation {total : SupplyEffect → Nat} (bounded : Bounded total) :
    (0 : Int) ≤ total .mint - total .burn ∧
      (total .mint - total .burn : Int) ≤ total .lock - total .release := by
  obtain ⟨releases, burns, mints⟩ := bounded
  omega

/-- A movement is accounted for exactly when the totals it leads to are bounded. -/
theorem move_of_bounded (backing : Backing) (effect : SupplyEffect) (amount : Nat)
    (fits : Bounded (Function.update backing.total effect (backing.total effect + amount))) :
    ∃ next, backing.move effect amount = some next ∧
      next.total = Function.update backing.total effect (backing.total effect + amount) := by
  obtain ⟨releases, burns, mints⟩ := fits
  cases effect with
  | lock =>
      refine ⟨_, rfl, ?_⟩
      funext other
      cases other <;> rfl
  | mint =>
      refine ⟨_, dif_pos mints, ?_⟩
      funext other
      cases other <;> rfl
  | burn =>
      refine ⟨_, dif_pos burns, ?_⟩
      funext other
      cases other <;> rfl
  | release =>
      refine ⟨_, dif_pos releases, ?_⟩
      funext other
      cases other <;> rfl

end Backing

/-- A movement in a scope. -/
structure SupplyMovement where
  assetId : JsString
  representationId : JsString
  operationId : JsString
  effect : SupplyEffect
  amount : Nat

/-- One account for each scope and the movements already consumed. -/
structure SupplyBook where
  accounts : JsString × JsString → Backing
  consumed : List (JsString × SupplyEffect)

namespace SupplyBook

def empty : SupplyBook := ⟨fun _ => .empty, []⟩

/-- Post a movement: its scope has a new account and its key is consumed. -/
def post (book : SupplyBook) (scope : JsString × JsString) (account : Backing)
    (key : JsString × SupplyEffect) : SupplyBook where
  accounts := Function.update book.accounts scope account
  consumed := book.consumed ++ [key]

/-- Consume a movement once, and only where its scope stays backed. -/
def move (movement : SupplyMovement) (book : SupplyBook) : Option SupplyBook :=
  if (movement.operationId, movement.effect) ∈ book.consumed then none
  else
    ((book.accounts (movement.assetId, movement.representationId)).move
      movement.effect movement.amount).map fun account =>
        book.post (movement.assetId, movement.representationId) account
          (movement.operationId, movement.effect)

/-- The book as a machine; a refused movement changes nothing. -/
def machine : Atomic.Machine SupplyBook SupplyMovement Bool where
  execute movement book :=
    match book.move movement with
    | some next => (true, next)
    | none => (false, book)

end SupplyBook
end InterWeave
