import InterWeave.Async.Transcript

/-! # Workers that are under way

Whether a worker is in the middle of a program is read off the history: it is so where its
transcript leaves a call of the program to be made or answered.
-/

namespace Async

variable {I : Interface} {α Entry : Type} [DecidableEq I.Call]

/-- What a transcript leaves of a program. -/
def Program.afterExchanges : Program I α → List (Exchange I) → Option (Program I α)
  | program, [] => some program
  | .settled _, _ :: _ => none
  | .await call resume, exchange :: rest =>
      if same : exchange.call = call then (resume (same ▸ exchange.answer)).afterExchanges rest
      else none

/-- A program has a call left after a transcript. -/
def Program.isPending (program : Program I α) (exchanges : List (Exchange I)) : Bool :=
  match program.afterExchanges exchanges with
  | some (.await _ _) => true
  | _ => false

theorem Program.Reaches.afterExchanges {program left : Program I α}
    {exchanges : List (Exchange I)} (reaches : program.Reaches exchanges left) :
    program.afterExchanges exchanges = some left := by
  induction reaches with
  | refl program => cases program <;> rfl
  | @answer call resume exchanges left answer _ ih =>
      simp only [Program.afterExchanges, ↓reduceDIte]
      exact ih

theorem Program.Reaches.isPending {program : Program I α} {call : I.Call}
    {resume : I.Answer call → Program I α} {exchanges : List (Exchange I)}
    (reaches : program.Reaches exchanges (.await call resume)) :
    program.isPending exchanges = true := by
  rw [Program.isPending, reaches.afterExchanges]

variable {services : Services I} {Worker : Type} [DecidableEq Worker]
  {program : Entry → Program I α}
  {admits : View services Worker Entry → Event I Worker Entry → Prop}
  {initial : View services Worker Entry} {config : Config services Worker Entry α}

/-- A worker is under way, with a transcript of which `holds` holds. -/
def UnderWay (program : Entry → Program I α) (holds : List (Exchange I) → Bool) (worker : Worker)
    (history : List (Event I Worker Entry)) : Bool :=
  (transcriptOf program worker history).any fun here =>
    (program here.1).isPending here.2 && holds here.2

/-- A worker that is not at rest is under way. -/
theorem Reachable.underWay (fresh : initial.history = [])
    (reached : Reachable program admits initial config) {worker : Worker}
    (busy : (config.workers worker).atRest ≠ true) {holds : List (Exchange I) → Bool}
    {here : Entry × List (Exchange I)}
    (known : transcriptOf program worker config.history = some here)
    (held : holds here.2 = true) : UnderWay program holds worker config.history = true := by
  have tracks := reached.tracks fresh worker
  have pending : (program here.1).isPending here.2 = true := by
    cases status : config.workers worker with
    | idle => rw [status] at busy; exact absurd rfl busy
    | crashed => rw [status] at busy; exact absurd rfl busy
    | waiting call resume =>
        rw [status] at tracks
        obtain ⟨there, same, reaches⟩ := tracks
        cases known.symm.trans same
        exact reaches.isPending
    | running left =>
        rw [status] at tracks busy
        obtain ⟨there, same, reaches⟩ := tracks
        cases known.symm.trans same
        cases left with
        | settled outcome => exact absurd rfl busy
        | await call resume => exact reaches.isPending
  rw [UnderWay, known, Option.any_some, pending, held]
  rfl

/-- A worker that is not at rest is under way, whatever its transcript. -/
theorem Reachable.underWay_of_busy (fresh : initial.history = [])
    (reached : Reachable program admits initial config) {worker : Worker}
    (busy : (config.workers worker).atRest ≠ true) :
    UnderWay program (fun _ => true) worker config.history = true := by
  have tracks := reached.tracks fresh worker
  cases status : config.workers worker with
  | idle => rw [status] at busy; exact absurd rfl busy
  | crashed => rw [status] at busy; exact absurd rfl busy
  | waiting call resume =>
      rw [status] at tracks
      obtain ⟨here, known, _⟩ := tracks
      exact reached.underWay fresh busy known rfl
  | running left =>
      rw [status] at tracks
      obtain ⟨here, known, _⟩ := tracks
      exact reached.underWay fresh busy known rfl

end Async
