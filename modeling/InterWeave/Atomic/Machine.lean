import Mathlib.Logic.Basic

/-! # Machines that execute atomic commands

Commands are executed one after another, and every command says what it returns
and which state it leaves. A transaction leaves its state only when it commits.
A machine refines another when each of its commands is matched by finitely many
commands of the other, none of them for a command without an abstract effect.
-/

namespace Atomic

variable {State Command Result Error α β : Type}

/-- A sequence succeeds where both parts do. -/
theorem ok_of_bind {first : Except Error α} {next : α → Except Error β} {result : β}
    (returned : first >>= next = .ok result) :
    ∃ value, first = .ok value ∧ next value = .ok result := by
  cases first with
  | error error => cases returned
  | ok value => exact ⟨value, rfl, returned⟩

/-- A sequence fails where one of its parts does. -/
theorem error_of_bind {first : Except Error α} {next : α → Except Error β} {error : Error}
    (failed : first >>= next = .error error) :
    first = .error error ∨ ∃ value, first = .ok value ∧ next value = .error error := by
  cases first with
  | error other =>
      cases failed
      exact .inl rfl
  | ok value => exact .inr ⟨value, rfl, failed⟩

/-- Commit a transaction. An aborted transaction leaves the state as it was. -/
def commit (transaction : State → Except Error (α × State)) (state : State) :
    Except Error α × State :=
  match transaction state with
  | .ok (value, next) => (.ok value, next)
  | .error error => (.error error, state)

theorem commit_of_ok {transaction : State → Except Error (α × State)} {state next : State}
    {value : α} (committed : transaction state = .ok (value, next)) :
    commit transaction state = (.ok value, next) := by
  simp only [commit, committed]

theorem commit_of_error {transaction : State → Except Error (α × State)} {state : State}
    {error : Error} (aborted : transaction state = .error error) :
    commit transaction state = (.error error, state) := by
  simp only [commit, aborted]

/-- What an aborted commit leaves. -/
theorem commit_reverted {transaction : State → Except Error (α × State)} {state : State}
    {error : Error} (reverted : (commit transaction state).1 = .error error) :
    (commit transaction state).2 = state := by
  cases outcome : transaction state with
  | ok result =>
      rw [commit_of_ok outcome] at reverted
      cases reverted
  | error _ => rw [commit_of_error outcome]

/-- A machine, by the result and the next state of each command. -/
structure Machine (State Command Result : Type) where
  execute : Command → State → Result × State

namespace Machine

variable (machine : Machine State Command Result)

/-- The state after one command. -/
def next (command : Command) (state : State) : State := (machine.execute command state).2

/-- The state after a run. -/
def run : List Command → State → State
  | [], state => state
  | command :: rest, state => run rest (machine.next command state)

@[simp] theorem run_nil (state : State) : machine.run [] state = state := rfl

@[simp] theorem run_cons (command : Command) (rest : List Command) (state : State) :
    machine.run (command :: rest) state = machine.run rest (machine.next command state) := rfl

theorem run_append (first second : List Command) (state : State) :
    machine.run (first ++ second) state = machine.run second (machine.run first state) := by
  induction first generalizing state with
  | nil => rfl
  | cons command rest ih => exact ih (machine.next command state)

/-- What every command preserves. -/
def Preserves (invariant : State → Prop) : Prop :=
  ∀ command state, invariant state → invariant (machine.next command state)

variable {machine}

theorem Preserves.run {invariant : State → Prop} (preserved : machine.Preserves invariant)
    (commands : List Command) {state : State} (holds : invariant state) :
    invariant (machine.run commands state) := by
  induction commands generalizing state with
  | nil => exact holds
  | cons command rest ih => exact ih (preserved command state holds)

variable (machine) in
/-- Every command of a run meets a condition in the state in which it is executed. -/
def Throughout (meets : State → Command → Prop) : List Command → State → Prop
  | [], _ => True
  | command :: rest, state => meets state command ∧ Throughout meets rest (machine.next command state)

theorem throughout_append {meets : State → Command → Prop} {first second : List Command}
    {state : State} : machine.Throughout meets (first ++ second) state ↔
      machine.Throughout meets first state ∧
        machine.Throughout meets second (machine.run first state) := by
  induction first generalizing state with
  | nil => exact (and_iff_right trivial).symm
  | cons command rest ih => exact (and_congr_right fun _ => ih).trans and_assoc.symm

/-- What commands that meet a condition keep, a run that meets it throughout keeps. -/
theorem throughout_run {invariant : State → Prop} {meets : State → Command → Prop}
    (kept : ∀ state command, invariant state → meets state command →
      invariant (machine.next command state))
    (commands : List Command) {state : State} (met : machine.Throughout meets commands state)
    (holds : invariant state) : invariant (machine.run commands state) := by
  induction commands generalizing state with
  | nil => exact holds
  | cons command rest ih => exact ih met.2 (kept state command holds met.1)

/-- Conditions that agree under an invariant, which commands that meet them keep, agree on runs. -/
theorem throughout_congr {invariant : State → Prop} {first second : State → Command → Prop}
    (agree : ∀ state command, invariant state → (first state command ↔ second state command))
    (kept : ∀ state command, invariant state → second state command →
      invariant (machine.next command state))
    (commands : List Command) {state : State} (holds : invariant state) :
    machine.Throughout first commands state ↔ machine.Throughout second commands state := by
  induction commands generalizing state with
  | nil => exact Iff.rfl
  | cons command rest ih =>
      constructor
      · rintro ⟨met, more⟩
        have same := (agree state command holds).mp met
        exact ⟨same, (ih (kept state command holds same)).mp more⟩
      · rintro ⟨met, more⟩
        exact ⟨(agree state command holds).mpr met, (ih (kept state command holds met)).mpr more⟩

variable {Abstract AbstractCommand AbstractResult : Type}

variable (machine) in
/-- Forward simulation with stuttering. -/
def Refines (abstract : Machine Abstract AbstractCommand AbstractResult)
    (relation : State → Abstract → Prop) : Prop :=
  ∀ command state image, relation state image →
    ∃ commands, relation (machine.next command state) (abstract.run commands image)

/-- **Refinement of runs.** Every run of the machine is matched by a run of the
abstract machine. -/
theorem Refines.run {abstract : Machine Abstract AbstractCommand AbstractResult}
    {relation : State → Abstract → Prop} (refines : machine.Refines abstract relation)
    (commands : List Command) {state : State} {image : Abstract} (related : relation state image) :
    ∃ matching, relation (machine.run commands state) (abstract.run matching image) := by
  induction commands generalizing state image with
  | nil => exact ⟨[], related⟩
  | cons command rest ih =>
      obtain ⟨first, stepRelated⟩ := refines command state image related
      obtain ⟨second, runRelated⟩ := ih stepRelated
      exact ⟨first ++ second, by rwa [abstract.run_append]⟩

end Machine
end Atomic
