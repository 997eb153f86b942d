import Mathlib.Logic.Function.Basic

/-! # Asynchronous programs

A program may suspend at calls to its environment. Every call
settles with a value or an error, and only there may other programs run. A program is
therefore a finite tree of calls: what it does next is a function of the answers
it has received. Sequencing skips the rest of a program after an error, and
`attempt` turns the outcome of a program into an ordinary value, as an awaited
expression under a handler does.
-/

namespace Async

/-- The calls a program may await, the values they return and the errors they
reject with. -/
structure Interface where
  Call : Type
  Value : Call → Type
  Error : Type

/-- The outcome of one call. -/
abbrev Interface.Answer (I : Interface) (call : I.Call) : Type := Except I.Error (I.Value call)

/-- A program between two suspensions. -/
inductive Program (I : Interface) (α : Type) : Type where
  | settled (outcome : Except I.Error α)
  | await (call : I.Call) (resume : I.Answer call → Program I α)

namespace Program

variable {I : Interface} {α β γ : Type}

/-- Continue with the value of a program; an error settles the whole program. -/
def bind : Program I α → (α → Program I β) → Program I β
  | .settled (.ok value), next => next value
  | .settled (.error error), _ => .settled (.error error)
  | .await call resume, next => .await call fun answer => (resume answer).bind next

/-- The outcome of a program as a value. The resulting program never rejects. -/
def attempt : Program I α → Program I (Except I.Error α)
  | .settled outcome => .settled (.ok outcome)
  | .await call resume => .await call fun answer => (resume answer).attempt

instance : Monad (Program I) where
  pure value := .settled (.ok value)
  bind := bind

/-- Await one call. -/
def call (call : I.Call) : Program I (I.Value call) := .await call .settled

/-- Throw an error. -/
def reject (error : I.Error) : Program I α := .settled (.error error)

/-- A computation without suspension. -/
def ofExcept (outcome : Except I.Error α) : Program I α := .settled outcome

@[simp] theorem pure_eq (value : α) : (pure value : Program I α) = .settled (.ok value) := rfl

@[simp] theorem ok_bind (value : α) (next : α → Program I β) :
    (Program.settled (.ok value) >>= next) = next value := rfl

@[simp] theorem error_bind (error : I.Error) (next : α → Program I β) :
    (Program.settled (.error error) >>= next) = .settled (.error error) := rfl

@[simp] theorem await_bind (call : I.Call) (resume : I.Answer call → Program I α)
    (next : α → Program I β) :
    (Program.await call resume >>= next) = .await call fun answer => resume answer >>= next := rfl

@[simp] theorem call_bind (call : I.Call) (next : I.Value call → Program I β) :
    (Program.call call >>= next) = .await call fun answer => Program.settled answer >>= next := rfl

theorem map_eq (f : α → β) (program : Program I α) :
    f <$> program = program >>= fun value => Program.settled (.ok (f value)) := rfl

@[simp] theorem reject_bind (error : I.Error) (next : α → Program I β) :
    (Program.reject error >>= next) = .settled (.error error) := rfl

@[simp] theorem ofExcept_bind (outcome : Except I.Error α) (next : α → Program I β) :
    (Program.ofExcept outcome >>= next) = (Program.settled outcome >>= next) := rfl

theorem bind_assoc (program : Program I α) (first : α → Program I β) (second : β → Program I γ) :
    (program >>= first) >>= second = program >>= fun value => first value >>= second := by
  induction program with
  | settled outcome => cases outcome <;> rfl
  | await call resume ih =>
      simp only [await_bind]
      congr 1
      funext answer
      exact ih answer

end Program
end Async
