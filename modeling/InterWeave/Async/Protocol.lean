import InterWeave.Async.Pool

/-! # Local protocols

A protocol says which calls a worker may issue, by a local state that the answers
it receives determine. A program follows a protocol when every call along every
possible sequence of answers is allowed; this is checked once, by walking the
program. In every run of a pool of such programs the local state of a worker can
be read off the history, and each step is one that the protocol allows. Properties
of runs are then invariants of steps: no program occurs in them.
-/

namespace Async

/-- What a worker may do. -/
structure Protocol (I : Interface) (Entry : Type) where
  Local : Type
  start : Entry → Local
  next : Local → (call : I.Call) → I.Answer call → Local
  /-- What is known of an answer without looking at the shared state. -/
  possible : (call : I.Call) → I.Answer call → Prop
  allowed : Local → I.Call → Prop
  /-- The local states in which a program may settle. -/
  settles : Local → Prop

variable {I : Interface} {Entry : Type} {α β : Type}

/-- From a local state, every call of the program is allowed, whatever possible
answers it receives, and its outcome satisfies `post`. -/
def Program.Follows (protocol : Protocol I Entry)
    (post : protocol.Local → Except I.Error α → Prop) : Program I α → protocol.Local → Prop
  | .settled outcome, here => post here outcome
  | .await call resume, here =>
      protocol.allowed here call ∧ ∀ answer, protocol.possible call answer →
        (resume answer).Follows protocol post (protocol.next here call answer)

/-- The protocol whose calls meet a further condition. -/
abbrev Protocol.restrict (protocol : Protocol I Entry)
    (carries : protocol.Local → I.Call → Prop) : Protocol I Entry :=
  { protocol with allowed := fun here call => protocol.allowed here call ∧ carries here call }

namespace Program.Follows

variable {protocol : Protocol I Entry} {here : protocol.Local}

theorem of_restrict {carries : protocol.Local → I.Call → Prop}
    {post : protocol.Local → Except I.Error α → Prop} {program : Program I α}
    (follows : program.Follows (protocol.restrict carries) post here) :
    program.Follows protocol post here := by
  induction program generalizing here with
  | settled outcome => exact follows
  | await call resume ih =>
      exact ⟨follows.1.1, fun answer given => ih answer (follows.2 answer given)⟩

theorem imp {post weaker : protocol.Local → Except I.Error α → Prop} {program : Program I α}
    (follows : program.Follows protocol post here)
    (implies : ∀ there outcome, post there outcome → weaker there outcome) :
    program.Follows protocol weaker here := by
  induction program generalizing here with
  | settled outcome => exact implies here outcome follows
  | await call resume ih =>
      exact ⟨follows.1, fun answer given => ih answer (follows.2 answer given)⟩

theorem bind {post : protocol.Local → Except I.Error β → Prop} {program : Program I α}
    {next : α → Program I β}
    (first : program.Follows protocol (fun there outcome =>
      (Program.settled outcome >>= next).Follows protocol post there) here) :
    (program >>= next).Follows protocol post here := by
  induction program generalizing here with
  | settled outcome => exact first
  | await call resume ih => exact ⟨first.1, fun answer given => ih answer (first.2 answer given)⟩

/-- Sequencing: the rest of the program runs on the values and in the local
states that the first part may leave. -/
theorem seq {middle : protocol.Local → Except I.Error α → Prop}
    {post : protocol.Local → Except I.Error β → Prop} {program : Program I α}
    {next : α → Program I β} (first : program.Follows protocol middle here)
    (ok : ∀ there value, middle there (.ok value) → (next value).Follows protocol post there)
    (error : ∀ there error, middle there (.error error) → post there (.error error)) :
    (program >>= next).Follows protocol post here := by
  refine bind (first.imp fun there outcome holds => ?_)
  cases outcome with
  | ok value => exact ok there value holds
  | error rejected => exact error there rejected holds

theorem call_seq {post : protocol.Local → Except I.Error β → Prop} {call : I.Call}
    {next : I.Value call → Program I β} (allows : protocol.allowed here call)
    (ok : ∀ value, protocol.possible call (.ok value) →
      (next value).Follows protocol post (protocol.next here call (.ok value)))
    (error : ∀ error, protocol.possible call (.error error) →
      post (protocol.next here call (.error error)) (.error error)) :
    (Program.call call >>= next).Follows protocol post here := by
  refine ⟨allows, fun answer given => ?_⟩
  cases answer with
  | ok value => exact ok value given
  | error rejected => exact error rejected given

theorem ofExcept_seq {post : protocol.Local → Except I.Error β → Prop}
    {outcome : Except I.Error α} {next : α → Program I β}
    (ok : ∀ value, outcome = .ok value → (next value).Follows protocol post here)
    (error : ∀ error, outcome = .error error → post here (.error error)) :
    (Program.ofExcept outcome >>= next).Follows protocol post here := by
  cases outcome with
  | ok value => exact ok value rfl
  | error rejected => exact error rejected rfl

theorem attempt {post : protocol.Local → Except I.Error (Except I.Error α) → Prop}
    {program : Program I α}
    (follows : program.Follows protocol (fun there outcome => post there (.ok outcome)) here) :
    program.attempt.Follows protocol post here := by
  induction program generalizing here with
  | settled outcome => exact follows
  | await call resume ih =>
      exact ⟨follows.1, fun answer given => ih answer (follows.2 answer given)⟩

/-- A handler: the continuation runs on the outcome of the program as a value. -/
theorem attempt_seq {middle : protocol.Local → Except I.Error α → Prop}
    {post : protocol.Local → Except I.Error β → Prop} {program : Program I α}
    {next : Except I.Error α → Program I β} (first : program.Follows protocol middle here)
    (rest : ∀ there outcome, middle there outcome → (next outcome).Follows protocol post there) :
    (program.attempt >>= next).Follows protocol post here :=
  bind (attempt (first.imp rest))

end Program.Follows

/-- The call a worker waits for, read off the history. -/
def outstanding {Worker : Type} [DecidableEq Worker] (worker : Worker) :
    List (Event I Worker Entry) → Option I.Call
  | [] => none
  | event :: earlier =>
      if event.worker = worker then
        match event with
        | .issued _ call => some call
        | _ => none
      else outstanding worker earlier

attribute [local simp] outstanding

theorem outstanding_cons_of_ne {Worker : Type} [DecidableEq Worker] {worker : Worker}
    {event : Event I Worker Entry} {earlier : List (Event I Worker Entry)}
    (other : event.worker ≠ worker) :
    outstanding worker (event :: earlier) = outstanding worker earlier := by
  simp only [outstanding, other, ↓reduceIte]

namespace Protocol

variable {services : Services I} {Worker : Type} [DecidableEq Worker]
  (protocol : Protocol I Entry)

/-- The local state of a worker, read off the history. A worker has none before
its first start and after a crash. -/
def localOf (worker : Worker) : List (Event I Worker Entry) → Option protocol.Local
  | [] => none
  | event :: earlier =>
      if event.worker = worker then
        match event with
        | .started _ entry => some (protocol.start entry)
        | .issued _ _ => localOf worker earlier
        | .answered _ call answer =>
            (localOf worker earlier).map fun here => protocol.next here call answer
        | .crashed _ => none
      else localOf worker earlier

attribute [local simp] localOf

/-- The steps that workers following the protocol may take from a view, with the
shared state they leave. -/
inductive Step (view : View services Worker Entry) :
    Event I Worker Entry → services.State → Prop where
  | started {worker : Worker} {entry : Entry} :
      (∀ here, protocol.localOf worker view.history = some here → protocol.settles here) →
      Step view (.started worker entry) view.state
  | issued {worker : Worker} {call : I.Call} {here : protocol.Local} :
      protocol.localOf worker view.history = some here → protocol.allowed here call →
      Step view (.issued worker call) view.state
  | answered {worker : Worker} {call : I.Call} {answer : I.Answer call} {here : protocol.Local}
      {choice : services.Choice} {state : services.State} :
      outstanding worker view.history = some call →
      protocol.localOf worker view.history = some here → protocol.allowed here call →
      services.reply call choice view.state = some (answer, state) →
      Step view (.answered worker call answer) state
  | crashed {worker : Worker} {here : protocol.Local} :
      protocol.localOf worker view.history = some here →
      Step view (.crashed worker) view.state

/-- The view after a step. -/
def after (view : View services Worker Entry) (event : Event I Worker Entry)
    (state : services.State) : View services Worker Entry :=
  ⟨state, event :: view.history⟩

omit [DecidableEq Worker] in
@[simp] theorem after_state (view : View services Worker Entry) (event : Event I Worker Entry)
    (state : services.State) : (after view event state).state = state := rfl

omit [DecidableEq Worker] in
@[simp] theorem after_history (view : View services Worker Entry) (event : Event I Worker Entry)
    (state : services.State) : (after view event state).history = event :: view.history := rfl

/-- How the status of a worker agrees with its local state. -/
def Standing (worker : Worker) (history : List (Event I Worker Entry)) : Status I α → Prop
  | .idle => protocol.localOf worker history = none
  | .running program => ∃ here, protocol.localOf worker history = some here ∧
      program.Follows protocol (fun there _ => protocol.settles there) here
  | .waiting call resume => outstanding worker history = some call ∧
      ∃ here, protocol.localOf worker history = some here ∧
      protocol.allowed here call ∧ ∀ answer, protocol.possible call answer →
        (resume answer).Follows protocol (fun there _ => protocol.settles there)
          (protocol.next here call answer)
  | .crashed => protocol.localOf worker history = none

variable {protocol}

theorem localOf_cons_of_ne {worker : Worker} {event : Event I Worker Entry}
    {earlier : List (Event I Worker Entry)} (other : event.worker ≠ worker) :
    protocol.localOf worker (event :: earlier) = protocol.localOf worker earlier := by
  simp only [localOf, other, ↓reduceIte]

@[simp] theorem localOf_issued (worker issuer : Worker) (call : I.Call)
    (earlier : List (Event I Worker Entry)) :
    protocol.localOf worker (.issued issuer call :: earlier) =
      protocol.localOf worker earlier := by
  simp only [localOf, ite_self]

@[simp] theorem localOf_started_self (worker : Worker) (entry : Entry)
    (earlier : List (Event I Worker Entry)) :
    protocol.localOf worker (.started worker entry :: earlier) = some (protocol.start entry) := by
  simp only [localOf, Event.worker, ↓reduceIte]

@[simp] theorem localOf_answered_self (worker : Worker) (call : I.Call) (answer : I.Answer call)
    (earlier : List (Event I Worker Entry)) :
    protocol.localOf worker (.answered worker call answer :: earlier) =
      (protocol.localOf worker earlier).map fun here => protocol.next here call answer := by
  simp only [localOf, Event.worker, ↓reduceIte]

@[simp] theorem localOf_crashed_self (worker : Worker) (earlier : List (Event I Worker Entry)) :
    protocol.localOf worker (.crashed worker :: earlier) = none := by
  simp only [localOf, Event.worker, ↓reduceIte]

/-- The steps of others do not touch the local state of a worker. -/
theorem Standing.frame {worker : Worker} {event : Event I Worker Entry}
    {earlier : List (Event I Worker Entry)} {status : Status I α} (other : event.worker ≠ worker)
    (standing : protocol.Standing worker earlier status) :
    protocol.Standing worker (event :: earlier) status := by
  cases status <;>
    simpa only [Standing, localOf_cons_of_ne other, outstanding_cons_of_ne other] using standing

/-- A worker at rest has settled, or it has no local state. -/
theorem Standing.settles {worker : Worker} {history : List (Event I Worker Entry)}
    {status : Status I α} (standing : protocol.Standing worker history status)
    (resting : status.atRest = true) {here : protocol.Local}
    (known : protocol.localOf worker history = some here) : protocol.settles here := by
  cases status with
  | idle => exact nomatch known.symm.trans standing
  | crashed => exact nomatch known.symm.trans standing
  | waiting call resume => simp only [Status.atRest, Bool.false_eq_true] at resting
  | running program =>
      cases program with
      | await call resume => simp only [Status.atRest, Bool.false_eq_true] at resting
      | settled outcome =>
          obtain ⟨there, same, settles⟩ := standing
          cases Option.some.inj (known.symm.trans same)
          exact settles

/-- A worker in the middle of a program has a local state. -/
theorem Standing.known {worker : Worker} {history : List (Event I Worker Entry)}
    {status : Status I α} (standing : protocol.Standing worker history status)
    (busy : status.atRest ≠ true) : ∃ here, protocol.localOf worker history = some here := by
  cases status with
  | idle => exact absurd rfl busy
  | crashed => exact absurd rfl busy
  | waiting call resume =>
      obtain ⟨_, here, known, _⟩ := standing
      exact ⟨here, known⟩
  | running program =>
      obtain ⟨here, known, _⟩ := standing
      exact ⟨here, known⟩

variable {program : Entry → Program I α}
  {admits : View services Worker Entry → Event I Worker Entry → Prop}

/-- A step of a pool whose workers are in good standing is a step of the protocol,
and leaves its worker in good standing. -/
theorem step_of_move
    (follows : ∀ entry, (program entry).Follows protocol (fun there _ => protocol.settles there)
      (protocol.start entry))
    (replies : ∀ call choice state answer next,
      services.reply call choice state = some (answer, next) → protocol.possible call answer)
    {config : Config services Worker Entry α} {action : Action services Worker Entry}
    {move : Move services Worker Entry α}
    (standing : ∀ worker, protocol.Standing worker config.history (config.workers worker))
    (moved : config.move program action = some move) :
    protocol.Step config.toView move.event move.state ∧
      protocol.Standing move.event.worker (move.event :: config.history) move.status := by
  cases Config.moves_of_move moved with
  | @start worker entry resting =>
      exact ⟨.started fun _ known => (standing worker).settles resting known,
        protocol.start entry, localOf_started_self .., follows entry⟩
  | @issue worker call resume status =>
      have stands := standing worker
      rw [status] at stands
      obtain ⟨here, known, allowed, rest⟩ := stands
      refine ⟨.issued known allowed, ?_, here, (localOf_issued ..).trans known, allowed, rest⟩
      simp only [outstanding, Event.worker, ↓reduceIte]
  | @answer worker call resume choice answer state status replied =>
      have stands := standing worker
      rw [status] at stands
      obtain ⟨waits, here, known, allowed, rest⟩ := stands
      refine ⟨.answered waits known allowed replied, protocol.next here call answer, ?_,
        rest answer (replies _ _ _ _ _ replied)⟩
      exact (localOf_answered_self ..).trans (congrArg _ known)
  | @crash worker busy =>
      obtain ⟨here, known⟩ := (standing worker).known busy
      exact ⟨.crashed known, localOf_crashed_self ..⟩

/-- Every issued call was allowed in some local state. -/
def IssuedAllowed (protocol : Protocol I Entry) (view : View services Worker Entry) : Prop :=
  ∀ worker call, Event.issued worker call ∈ view.history → ∃ here, protocol.allowed here call

variable (protocol) in
/-- What every admitted step of the protocol preserves, by kinds of steps. -/
structure Preserves (admits : View services Worker Entry → Event I Worker Entry → Prop)
    (holds : View services Worker Entry → Prop) : Prop where
  started : ∀ view worker entry, holds view → admits view (.started worker entry) →
    (∀ here, protocol.localOf worker view.history = some here → protocol.settles here) →
    holds (after view (.started worker entry) view.state)
  issued : ∀ view worker call here, holds view → admits view (.issued worker call) →
    protocol.localOf worker view.history = some here → protocol.allowed here call →
    holds (after view (.issued worker call) view.state)
  answered : ∀ view worker call answer here choice state, holds view →
    admits view (.answered worker call answer) → outstanding worker view.history = some call →
    protocol.localOf worker view.history = some here → protocol.allowed here call →
    services.reply call choice view.state = some (answer, state) →
    holds (after view (.answered worker call answer) state)
  crashed : ∀ view worker here, holds view → admits view (.crashed worker) →
    protocol.localOf worker view.history = some here →
    holds (after view (.crashed worker) view.state)

theorem Preserves.step {holds : View services Worker Entry → Prop}
    (preserves : protocol.Preserves admits holds) {view : View services Worker Entry}
    {event : Event I Worker Entry} {state : services.State} (valid : holds view)
    (admitted : admits view event) (step : protocol.Step view event state) :
    holds (after view event state) := by
  cases step with
  | started settled => exact preserves.started _ _ _ valid admitted settled
  | issued known allowed => exact preserves.issued _ _ _ _ valid admitted known allowed
  | answered waits known allowed replied =>
      exact preserves.answered _ _ _ _ _ _ _ valid admitted waits known allowed replied
  | crashed known => exact preserves.crashed _ _ _ valid admitted known

section Runs

variable {initial : View services Worker Entry} {config : Config services Worker Entry α}
  (follows : ∀ entry, (program entry).Follows protocol (fun there _ => protocol.settles there)
    (protocol.start entry))
  (replies : ∀ call choice state answer next,
    services.reply call choice state = some (answer, next) → protocol.possible call answer)
  (fresh : initial.history = [])
include follows replies fresh

/-- Every worker is in good standing in every reachable configuration. -/
theorem standing (reached : Reachable program admits initial config) :
    ∀ worker, protocol.Standing worker config.history (config.workers worker) := by
  induction reached with
  | initial =>
      intro worker
      change protocol.localOf worker initial.history = none
      rw [fresh]
      rfl
  | @step config action move _ moved _ ih =>
      intro worker
      have mover := (step_of_move follows replies ih moved).2
      by_cases same : worker = move.event.worker
      · subst same
        simpa only [Config.apply, Function.update_self] using mover
      · simpa only [Config.apply, Function.update_of_ne same] using
          (ih worker).frame fun equal => same equal.symm

/-- Every enabled step of a reachable configuration is a step of the protocol. -/
theorem step_of_reachable (reached : Reachable program admits initial config)
    {action : Action services Worker Entry} {move : Move services Worker Entry α}
    (moved : config.move program action = some move) :
    protocol.Step config.toView move.event move.state :=
  (step_of_move follows replies (standing follows replies fresh reached) moved).1

/-- **Invariants of runs.** What holds initially and is preserved by every admitted
step of the protocol holds in every reachable configuration of a pool whose
programs follow the protocol. -/
theorem invariant {holds : View services Worker Entry → Prop} (initially : holds initial)
    (preserves : protocol.Preserves admits holds)
    (reached : Reachable program admits initial config) : holds config.toView := by
  induction reached with
  | initial => exact initially
  | step earlier moved admitted ih =>
      exact preserves.step ih admitted (step_of_reachable follows replies fresh earlier moved)

theorem issuedAllowed (reached : Reachable program admits initial config) :
    protocol.IssuedAllowed config.toView := by
  refine invariant follows replies fresh ?_ ⟨?_, ?_, ?_, ?_⟩ reached
  · intro worker call member
    rw [fresh] at member
    exact (List.not_mem_nil member).elim
  · intro view worker entry earlier _ _ issuer call member
    rcases List.mem_cons.mp member with same | before
    · cases same
    · exact earlier issuer call before
  · intro view worker call here earlier _ _ allowed issuer other member
    rcases List.mem_cons.mp member with same | before
    · cases same
      exact ⟨here, allowed⟩
    · exact earlier issuer other before
  · intro view worker call answer here choice state earlier _ _ _ _ _ issuer other member
    rcases List.mem_cons.mp member with same | before
    · cases same
    · exact earlier issuer other before
  · intro view worker here earlier _ _ issuer call member
    rcases List.mem_cons.mp member with same | before
    · cases same
    · exact earlier issuer call before

end Runs
end Protocol
end Async
