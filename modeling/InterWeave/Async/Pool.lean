import InterWeave.Async.Program

/-! # Pools of workers

Any number of workers run programs against one shared state. A step starts a program,
issues the call a program is suspended at, answers an issued call, or crashes a
worker; between the issue of a call and its answer every other worker may step.
A worker at rest (fresh, crashed, or with a settled program) may be started again.
The history records every step, newest first, so that statements about a run are
statements about the history it leaves.

What the environment answers is left to choices: a run is one list of actions,
and a property of all runs is a property for all choices.
-/

namespace Async

/-- The environment of a pool: a shared state, and the answer to each call under
each choice. No answer means that the choice is impossible in that state. -/
structure Services (I : Interface) where
  State : Type
  Choice : Type
  reply : (call : I.Call) → Choice → State → Option (I.Answer call × State)

/-- Services of which some calls may fail as well, before or after they have done what
they do. -/
abbrev Services.fallible {I : Interface} (services : Services I) (fails : I.Call → Bool) :
    Services I where
  State := services.State
  Choice := services.Choice ⊕ I.Error × Option services.Choice
  reply call choice state :=
    match choice with
    | .inl done => services.reply call done state
    | .inr (error, none) => if fails call then some (.error error, state) else none
    | .inr (error, some done) =>
        if fails call then (services.reply call done state).map fun reply => (.error error, reply.2)
        else none

/-- Fallible services answer as the services do, or they fail and leave the state or what
the services leave. -/
theorem Services.reply_of_fallible {I : Interface} {services : Services I} {fails : I.Call → Bool}
    {call : I.Call} {choice : (services.fallible fails).Choice} {state next : services.State}
    {answer : I.Answer call}
    (replied : (services.fallible fails).reply call choice state = some (answer, next)) :
    (∃ done, services.reply call done state = some (answer, next)) ∨
      ∃ error, answer = .error error ∧
        (next = state ∨ ∃ done reply, services.reply call done state = some (reply, next)) := by
  cases choice with
  | inl done => exact .inl ⟨done, replied⟩
  | inr failure =>
      obtain ⟨error, _ | done⟩ := failure
      · obtain ⟨_, same⟩ := Option.ite_none_right_eq_some.mp replied
        cases same
        exact .inr ⟨error, rfl, .inl rfl⟩
      · obtain ⟨_, same⟩ := Option.ite_none_right_eq_some.mp replied
        obtain ⟨⟨reply, state⟩, performed, same⟩ := Option.map_eq_some_iff.mp same
        cases same
        exact .inr ⟨error, rfl, .inr ⟨done, reply, performed⟩⟩

/-- One step of a run, as the history records it. -/
inductive Event (I : Interface) (Worker Entry : Type) : Type where
  | started (worker : Worker) (entry : Entry)
  | issued (worker : Worker) (call : I.Call)
  | answered (worker : Worker) (call : I.Call) (answer : I.Answer call)
  | crashed (worker : Worker)

/-- The worker that takes a step. -/
def Event.worker {I : Interface} {Worker Entry : Type} : Event I Worker Entry → Worker
  | .started worker _ => worker
  | .issued worker _ => worker
  | .answered worker _ _ => worker
  | .crashed worker => worker

/-- The standing of one worker. -/
inductive Status (I : Interface) (α : Type) : Type where
  | idle
  | running (program : Program I α)
  | waiting (call : I.Call) (resume : I.Answer call → Program I α)
  | crashed

/-- Whether a worker may be started. -/
def Status.atRest {I : Interface} {α : Type} : Status I α → Bool
  | .idle => true
  | .running (.settled _) => true
  | .running (.await _ _) => false
  | .waiting _ _ => false
  | .crashed => true

/-- What the environment of one worker may change: the shared state and the
history. -/
structure View {I : Interface} (services : Services I) (Worker Entry : Type) : Type where
  state : services.State
  history : List (Event I Worker Entry)

/-- A view with its workers. -/
structure Config {I : Interface} (services : Services I) (Worker Entry α : Type) : Type
    extends View services Worker Entry where
  workers : Worker → Status I α

/-- A scheduler's choice of the next step. -/
inductive Action {I : Interface} (services : Services I) (Worker Entry : Type) : Type where
  | start (worker : Worker) (entry : Entry)
  | issue (worker : Worker)
  | answer (worker : Worker) (choice : services.Choice)
  | crash (worker : Worker)

/-- The effect of one step. -/
structure Move {I : Interface} (services : Services I) (Worker Entry α : Type) : Type where
  event : Event I Worker Entry
  state : services.State
  status : Status I α

variable {I : Interface} {services : Services I} {Worker Entry α : Type}

/-- Record an event that leaves the shared state alone. -/
def View.note (view : View services Worker Entry) (event : Event I Worker Entry) :
    View services Worker Entry :=
  { view with history := event :: view.history }

/-- Record an answer and the state it leaves. -/
def View.answered (view : View services Worker Entry) (worker : Worker) (call : I.Call)
    (answer : I.Answer call) (state : services.State) : View services Worker Entry :=
  { state := state, history := .answered worker call answer :: view.history }

@[simp] theorem View.note_state (view : View services Worker Entry)
    (event : Event I Worker Entry) : (view.note event).state = view.state := rfl

@[simp] theorem View.note_history (view : View services Worker Entry)
    (event : Event I Worker Entry) : (view.note event).history = event :: view.history := rfl

@[simp] theorem View.answered_state (view : View services Worker Entry) (worker : Worker)
    (call : I.Call) (answer : I.Answer call) (state : services.State) :
    (view.answered worker call answer state).state = state := rfl

@[simp] theorem View.answered_history (view : View services Worker Entry) (worker : Worker)
    (call : I.Call) (answer : I.Answer call) (state : services.State) :
    (view.answered worker call answer state).history =
      .answered worker call answer :: view.history := rfl

/-- The effect of an action where it is enabled, given the program each entry runs. -/
def Config.move (program : Entry → Program I α) (config : Config services Worker Entry α) :
    Action services Worker Entry → Option (Move services Worker Entry α)
  | .start worker entry =>
      if (config.workers worker).atRest then
        some ⟨.started worker entry, config.state, .running (program entry)⟩
      else none
  | .issue worker =>
      match config.workers worker with
      | .running (.await call resume) =>
          some ⟨.issued worker call, config.state, .waiting call resume⟩
      | _ => none
  | .answer worker choice =>
      match config.workers worker with
      | .waiting call resume =>
          (services.reply call choice config.state).map fun reply =>
            ⟨.answered worker call reply.1, reply.2, .running (resume reply.1)⟩
      | _ => none
  | .crash worker =>
      if (config.workers worker).atRest then none
      else some ⟨.crashed worker, config.state, .crashed⟩

/-- The moves of a configuration, by what allows them. -/
inductive Config.Moves (program : Entry → Program I α) (config : Config services Worker Entry α) :
    Move services Worker Entry α → Prop where
  | start {worker : Worker} {entry : Entry} : (config.workers worker).atRest = true →
      Moves program config ⟨.started worker entry, config.state, .running (program entry)⟩
  | issue {worker : Worker} {call : I.Call} {resume : I.Answer call → Program I α} :
      config.workers worker = .running (.await call resume) →
      Moves program config ⟨.issued worker call, config.state, .waiting call resume⟩
  | answer {worker : Worker} {call : I.Call} {resume : I.Answer call → Program I α}
      {choice : services.Choice} {answer : I.Answer call} {state : services.State} :
      config.workers worker = .waiting call resume →
      services.reply call choice config.state = some (answer, state) →
      Moves program config ⟨.answered worker call answer, state, .running (resume answer)⟩
  | crash {worker : Worker} : (config.workers worker).atRest ≠ true →
      Moves program config ⟨.crashed worker, config.state, .crashed⟩

theorem Config.moves_of_move {program : Entry → Program I α}
    {config : Config services Worker Entry α} {action : Action services Worker Entry}
    {move : Move services Worker Entry α} (moved : config.move program action = some move) :
    config.Moves program move := by
  cases action with
  | start worker entry =>
      by_cases resting : (config.workers worker).atRest = true
      · simp only [Config.move, resting, ↓reduceIte, Option.some.injEq] at moved
        subst moved
        exact .start resting
      · simp only [Config.move, resting, Bool.false_eq_true, ↓reduceIte, reduceCtorEq] at moved
  | issue worker =>
      cases status : config.workers worker with
      | idle => simp only [Config.move, status, reduceCtorEq] at moved
      | crashed => simp only [Config.move, status, reduceCtorEq] at moved
      | waiting call resume => simp only [Config.move, status, reduceCtorEq] at moved
      | running left =>
          cases left with
          | settled outcome => simp only [Config.move, status, reduceCtorEq] at moved
          | await call resume =>
              simp only [Config.move, status, Option.some.injEq] at moved
              subst moved
              exact .issue status
  | answer worker choice =>
      cases status : config.workers worker with
      | idle => simp only [Config.move, status, reduceCtorEq] at moved
      | crashed => simp only [Config.move, status, reduceCtorEq] at moved
      | running left => simp only [Config.move, status, reduceCtorEq] at moved
      | waiting call resume =>
          simp only [Config.move, status, Option.map_eq_some_iff] at moved
          obtain ⟨⟨answer, state⟩, replied, rfl⟩ := moved
          exact .answer status replied
  | crash worker =>
      by_cases resting : (config.workers worker).atRest = true
      · simp only [Config.move, resting, ↓reduceIte, reduceCtorEq] at moved
      · simp only [Config.move, resting, Bool.false_eq_true, ↓reduceIte, Option.some.injEq] at moved
        subst moved
        exact .crash resting

/-- The configuration with no worker started. -/
def Config.initial (view : View services Worker Entry) : Config services Worker Entry α :=
  { view with workers := fun _ => .idle }

variable [DecidableEq Worker]

/-- Apply a step. -/
def Config.apply (config : Config services Worker Entry α) (move : Move services Worker Entry α) :
    Config services Worker Entry α where
  state := move.state
  history := move.event :: config.history
  workers := Function.update config.workers move.event.worker move.status

/-- The configurations of the runs from `initial` all of whose steps are
admitted. -/
inductive Reachable (program : Entry → Program I α)
    (admits : View services Worker Entry → Event I Worker Entry → Prop)
    (initial : View services Worker Entry) : Config services Worker Entry α → Prop where
  | initial : Reachable program admits initial (Config.initial initial)
  | step {config : Config services Worker Entry α} {action : Action services Worker Entry}
      {move : Move services Worker Entry α} :
      Reachable program admits initial config → config.move program action = some move →
      admits config.toView move.event → Reachable program admits initial (config.apply move)

/-- Runs under a condition are runs under a weaker one. -/
theorem Reachable.mono {program : Entry → Program I α}
    {admits weaker : View services Worker Entry → Event I Worker Entry → Prop}
    {initial : View services Worker Entry} {config : Config services Worker Entry α}
    (implies : ∀ view event, admits view event → weaker view event)
    (reached : Reachable program admits initial config) :
    Reachable program weaker initial config := by
  induction reached with
  | initial => exact .initial
  | step _ moved admitted ih => exact .step ih moved (implies _ _ admitted)

/-- The same view, of fallible services. -/
def View.fallible (view : View services Worker Entry) (fails : I.Call → Bool) :
    View (services.fallible fails) Worker Entry :=
  ⟨view.state, view.history⟩

/-- The same configuration, of fallible services. -/
def Config.fallible (config : Config services Worker Entry α) (fails : I.Call → Bool) :
    Config (services.fallible fails) Worker Entry α where
  state := config.state
  history := config.history
  workers := config.workers

omit [DecidableEq Worker] in
theorem Config.move_fallible {program : Entry → Program I α}
    {config : Config services Worker Entry α} {action : Action services Worker Entry}
    {move : Move services Worker Entry α} (moved : config.move program action = some move)
    (fails : I.Call → Bool) :
    ∃ choice, (config.fallible fails).move program choice =
      some ⟨move.event, move.state, move.status⟩ := by
  cases action with
  | start worker entry =>
      refine ⟨.start worker entry, ?_⟩
      simp only [Config.move, Option.ite_none_right_eq_some, Option.some.injEq] at moved ⊢
      obtain ⟨resting, rfl⟩ := moved
      exact ⟨resting, rfl⟩
  | issue worker =>
      refine ⟨.issue worker, ?_⟩
      simp only [Config.move, Config.fallible] at moved ⊢
      split at moved
      · cases moved
        rfl
      · cases moved
  | answer worker choice =>
      refine ⟨.answer worker (.inl choice), ?_⟩
      simp only [Config.move, Config.fallible] at moved ⊢
      cases status : config.workers worker with
      | waiting call resume =>
          simp only [status, Option.map_eq_some_iff] at moved ⊢
          obtain ⟨reply, replied, rfl⟩ := moved
          exact ⟨reply, replied, rfl⟩
      | _ => simp only [status, reduceCtorEq] at moved
  | crash worker =>
      refine ⟨.crash worker, ?_⟩
      simp only [Config.move, Option.ite_none_left_eq_some, Option.some.injEq] at moved ⊢
      obtain ⟨busy, rfl⟩ := moved
      exact ⟨busy, rfl⟩

/-- Runs of services are runs of the fallible services. -/
theorem Reachable.fallible {program : Entry → Program I α}
    {admits : View services Worker Entry → Event I Worker Entry → Prop}
    {initial : View services Worker Entry} {config : Config services Worker Entry α}
    (reached : Reachable program admits initial config) (fails : I.Call → Bool) :
    Reachable program (fun _ _ => True) (initial.fallible fails) (config.fallible fails) := by
  induction reached with
  | initial => exact .initial
  | step _ moved _ ih =>
      obtain ⟨choice, move⟩ := Config.move_fallible moved fails
      exact .step ih move trivial

/-- Run a schedule whose every action is enabled and admitted. -/
def Config.run (program : Entry → Program I α)
    (admits : View services Worker Entry → Event I Worker Entry → Prop)
    [∀ view event, Decidable (admits view event)] (config : Config services Worker Entry α) :
    List (Action services Worker Entry) → Option (Config services Worker Entry α)
  | [] => some config
  | action :: rest =>
      match config.move program action with
      | none => none
      | some move =>
          if admits config.toView move.event then (config.apply move).run program admits rest
          else none

section Schedules

variable {program : Entry → Program I α}
  {admits : View services Worker Entry → Event I Worker Entry → Prop}
  [∀ view event, Decidable (admits view event)] {config final : Config services Worker Entry α}

/-- A schedule runs one step and the rest. -/
theorem Config.run_cons {action : Action services Worker Entry}
    {rest : List (Action services Worker Entry)}
    (runs : config.run program admits (action :: rest) = some final) :
    ∃ move, config.move program action = some move ∧ admits config.toView move.event ∧
      (config.apply move).run program admits rest = some final := by
  simp only [run] at runs
  cases moved : config.move program action with
  | none => simp only [moved, reduceCtorEq] at runs
  | some move =>
      simp only [moved] at runs
      by_cases admitted : admits config.toView move.event
      · simp only [admitted, ↓reduceIte] at runs
        exact ⟨move, rfl, admitted, runs⟩
      · simp only [admitted, ↓reduceIte, reduceCtorEq] at runs

/-- Schedules reach reachable configurations. -/
theorem Reachable.of_run {initial : View services Worker Entry}
    (reached : Reachable program admits initial config)
    (schedule : List (Action services Worker Entry))
    (runs : config.run program admits schedule = some final) :
    Reachable program admits initial final := by
  induction schedule generalizing config with
  | nil =>
      cases Option.some.inj runs
      exact reached
  | cons action rest ih =>
      obtain ⟨move, moved, admitted, more⟩ := Config.run_cons runs
      exact ih (.step reached moved admitted) more

omit [DecidableEq Worker] [∀ view event, Decidable (admits view event)] in
/-- Only a start starts a worker. -/
theorem Config.start_of_started {action : Action services Worker Entry}
    {move : Move services Worker Entry α} {worker : Worker} {entry : Entry}
    (moved : config.move program action = some move) (started : move.event = .started worker entry) :
    action = .start worker entry := by
  cases action with
  | start starter other =>
      simp only [Config.move, Option.ite_none_right_eq_some, Option.some.injEq] at moved
      obtain ⟨_, rfl⟩ := moved
      cases started
      rfl
  | issue issuer =>
      simp only [Config.move] at moved
      split at moved <;> cases moved
      cases started
  | answer asker choice =>
      simp only [Config.move] at moved
      split at moved
      · obtain ⟨reply, _, rfl⟩ := Option.map_eq_some_iff.mp moved
        cases started
      · cases moved
  | crash crasher =>
      simp only [Config.move, Option.ite_none_left_eq_some, Option.some.injEq] at moved
      obtain ⟨_, rfl⟩ := moved
      cases started

omit [DecidableEq Worker] [∀ view event, Decidable (admits view event)] in
/-- A settled worker takes no step but to be started again. -/
theorem Config.start_of_settled {action : Action services Worker Entry}
    {move : Move services Worker Entry α} {outcome : Except I.Error α}
    (moved : config.move program action = some move)
    (settled : config.workers move.event.worker = .running (.settled outcome)) :
    ∃ entry, action = .start move.event.worker entry := by
  cases moves_of_move moved with
  | issue status => exact nomatch status.symm.trans settled
  | answer status _ => exact nomatch status.symm.trans settled
  | crash busy => exact absurd (congrArg Status.atRest settled) busy
  | @start worker entry _ => exact ⟨entry, start_of_started moved rfl⟩

/-- A settled program stays settled until its worker is started again. -/
theorem Config.settled_of_run {schedule : List (Action services Worker Entry)} {worker : Worker}
    {outcome : Except I.Error α}
    (settled : config.workers worker = .running (.settled outcome))
    (runs : config.run program admits schedule = some final)
    (unstarted : ∀ entry, .start worker entry ∉ schedule) :
    final.workers worker = .running (.settled outcome) := by
  induction schedule generalizing config with
  | nil =>
      cases Option.some.inj runs
      exact settled
  | cons action rest ih =>
      obtain ⟨move, moved, _, more⟩ := run_cons runs
      have other : worker ≠ move.event.worker := by
        rintro rfl
        obtain ⟨entry, rfl⟩ := start_of_settled moved settled
        exact unstarted entry List.mem_cons_self
      refine ih ?_ more fun entry member => unstarted entry (List.mem_cons_of_mem _ member)
      exact (Function.update_of_ne other ..).trans settled

end Schedules

section Runs

variable (program : Entry → Program I α)
  (admits : View services Worker Entry → Event I Worker Entry → Prop)
  [∀ view event, Decidable (admits view event)] (initial : View services Worker Entry)
  (schedule : List (Action services Worker Entry))

/-- A schedule whose final configuration passes a check shows that one is reachable. -/
theorem Reachable.exists_of_run (check : Config services Worker Entry α → Bool)
    (passes : ((Config.initial initial).run program admits schedule).any check = true) :
    ∃ config, Reachable program admits initial config ∧ check config = true := by
  obtain ⟨config, runs, checked⟩ := (Option.any_eq_true ..).mp passes
  exact ⟨config, Reachable.initial.of_run schedule runs, checked⟩

/-- The same for a step that is enabled after the schedule. -/
theorem Reachable.exists_move_of_run (action : Action services Worker Entry)
    (check : Config services Worker Entry α → Move services Worker Entry α → Bool)
    (passes : (((Config.initial initial).run program admits schedule).any fun config =>
      (config.move program action).any (check config)) = true) :
    ∃ config move, Reachable program admits initial config ∧
      config.move program action = some move ∧ check config move = true := by
  obtain ⟨config, reached, enabled⟩ := exists_of_run program admits initial schedule _ passes
  obtain ⟨move, moved, checked⟩ := (Option.any_eq_true ..).mp enabled
  exact ⟨config, move, reached, moved, checked⟩

end Runs

end Async
