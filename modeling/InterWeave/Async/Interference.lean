import InterWeave.Async.Pool

/-! # Programs under interference

Between the calls of a program the others change the state as they please, within what the
program relies on. What it ensures in turn, of the state that each call leaves and of its outcome,
is checked by walking the program; it then holds of a worker in every run of a pool.
-/

namespace Async

variable {I : Interface} {services : Services I} {Worker Entry α β : Type}

/-- A call that was answered, by a choice of the environment, with the state that it left. -/
structure Served (services : Services I) where
  call : I.Call
  choice : services.Choice
  answer : I.Answer call
  state : services.State

/-- A call with its answer. -/
def Served.exchange (served : Served services) : (call : I.Call) × I.Answer call :=
  ⟨served.call, served.answer⟩

/-- From a state, after the calls served before: every call leaves the state as guaranteed, and
the outcome satisfies `post`, whatever others do that may be relied on. -/
def Program.Ensures (rely guarantee : services.State → services.State → Prop)
    (post : services.State → List (Served services) → Except I.Error α → Prop) :
    Program I α → services.State → List (Served services) → Prop
  | .settled outcome, state, served => post state served outcome
  | .await call resume, state, served =>
      ∀ later, rely state later → ∀ choice answer next,
        services.reply call choice later = some (answer, next) → guarantee later next ∧
          (resume answer).Ensures rely guarantee post next (⟨call, choice, answer, next⟩ :: served)

/-- However its calls are answered, a program settles after at most so many of them. -/
def Program.Within : Nat → Program I α → Prop
  | _, .settled _ => True
  | 0, .await _ _ => False
  | bound + 1, .await _ resume => ∀ answer, (resume answer).Within bound

namespace Program.Ensures

variable {rely guarantee : services.State → services.State → Prop}
  {state : services.State} {served : List (Served services)}

theorem imp {post weaker : services.State → List (Served services) → Except I.Error α → Prop}
    {program : Program I α} (ensured : program.Ensures rely guarantee post state served)
    (implies : ∀ state served outcome, post state served outcome → weaker state served outcome) :
    program.Ensures rely guarantee weaker state served := by
  induction program generalizing state served with
  | settled outcome => exact implies _ _ _ ensured
  | await call resume ih =>
      intro later relied choice answer next replied
      obtain ⟨left, rest⟩ := ensured later relied choice answer next replied
      exact ⟨left, ih answer rest⟩

theorem bind {post : services.State → List (Served services) → Except I.Error β → Prop}
    {program : Program I α} {next : α → Program I β}
    (first : program.Ensures rely guarantee (fun state served outcome =>
      (Program.settled outcome >>= next).Ensures rely guarantee post state served) state served) :
    (program >>= next).Ensures rely guarantee post state served := by
  induction program generalizing state served with
  | settled outcome => exact first
  | await call resume ih =>
      intro later relied choice answer last replied
      obtain ⟨left, rest⟩ := first later relied choice answer last replied
      exact ⟨left, ih answer rest⟩

/-- Sequencing: the rest of the program runs on the values and from the states that the first part
may leave. -/
theorem seq {middle : services.State → List (Served services) → Except I.Error α → Prop}
    {post : services.State → List (Served services) → Except I.Error β → Prop}
    {program : Program I α} {next : α → Program I β}
    (first : program.Ensures rely guarantee middle state served)
    (ok : ∀ state served value, middle state served (.ok value) →
      (next value).Ensures rely guarantee post state served)
    (error : ∀ state served error, middle state served (.error error) →
      post state served (.error error)) :
    (program >>= next).Ensures rely guarantee post state served := by
  refine bind (first.imp fun state served outcome holds => ?_)
  cases outcome with
  | ok value => exact ok state served value holds
  | error rejected => exact error state served rejected holds

theorem call_seq {post : services.State → List (Served services) → Except I.Error β → Prop}
    {call : I.Call} {next : I.Value call → Program I β}
    (leaves : ∀ later, rely state later → ∀ choice answer left,
      services.reply call choice later = some (answer, left) → guarantee later left)
    (ok : ∀ later, rely state later → ∀ choice value left,
      services.reply call choice later = some (.ok value, left) →
      (next value).Ensures rely guarantee post left (⟨call, choice, .ok value, left⟩ :: served))
    (error : ∀ later, rely state later → ∀ choice error left,
      services.reply call choice later = some (.error error, left) →
      post left (⟨call, choice, .error error, left⟩ :: served) (.error error)) :
    (Program.call call >>= next).Ensures rely guarantee post state served := by
  intro later relied choice answer left replied
  refine ⟨leaves later relied choice answer left replied, ?_⟩
  cases answer with
  | ok value => exact ok later relied choice value left replied
  | error rejected => exact error later relied choice rejected left replied

theorem ofExcept_seq {post : services.State → List (Served services) → Except I.Error β → Prop}
    {outcome : Except I.Error α} {next : α → Program I β}
    (ok : ∀ value, outcome = .ok value → (next value).Ensures rely guarantee post state served)
    (error : ∀ error, outcome = .error error → post state served (.error error)) :
    (Program.ofExcept outcome >>= next).Ensures rely guarantee post state served := by
  cases outcome with
  | ok value => exact ok value rfl
  | error rejected => exact error rejected rfl

end Program.Ensures

namespace Program.Within

theorem mono {program : Program I α} {bound more : Nat} (within : program.Within bound)
    (le : bound ≤ more) : program.Within more := by
  induction program generalizing bound more with
  | settled outcome => cases more <;> trivial
  | await call resume ih =>
      cases bound with
      | zero => exact within.elim
      | succ bound =>
          cases more with
          | zero => exact absurd le (Nat.not_succ_le_zero bound)
          | succ more => exact fun answer => ih answer (within answer) (Nat.le_of_succ_le_succ le)

theorem settled (bound : Nat) (outcome : Except I.Error α) :
    (Program.settled outcome).Within bound := by
  cases bound <;> trivial

theorem seq {program : Program I α} {next : α → Program I β} {bound more : Nat}
    (first : program.Within bound) (rest : ∀ value, (next value).Within more) :
    (program >>= next).Within (bound + more) := by
  induction program generalizing bound with
  | settled outcome =>
      cases outcome with
      | ok value => exact (rest value).mono (Nat.le_add_left more bound)
      | error rejected => exact settled _ _
  | await call resume ih =>
      cases bound with
      | zero => exact first.elim
      | succ bound =>
          rw [Nat.add_right_comm]
          exact fun answer => ih answer (first answer)

theorem call_seq {call : I.Call} {next : I.Value call → Program I β} {bound : Nat}
    (rest : ∀ value, (next value).Within bound) :
    (Program.call call >>= next).Within (bound + 1) := by
  intro answer
  cases answer with
  | ok value => exact rest value
  | error rejected => exact settled bound _

end Program.Within

/-! ## Runs -/

/-- The program that a worker is in. -/
def Status.program : Status I α → Option (Program I α)
  | .running program => some program
  | .waiting call resume => some (.await call resume)
  | _ => none

theorem Status.running_of_settled {status : Status I α} {outcome : Except I.Error α}
    (settled : status.program = some (.settled outcome)) :
    status = .running (.settled outcome) := by
  cases status with
  | running program =>
      cases settled
      rfl
  | _ => cases settled

/-- Whether an action answers a worker. -/
def Action.answers [DecidableEq Worker] (worker : Worker) : Action services Worker Entry → Bool
  | .answer asker _ => asker = worker
  | _ => false

theorem Action.answers_self [DecidableEq Worker] (worker : Worker) (choice : services.Choice) :
    Action.answers worker (.answer worker choice : Action services Worker Entry) = true :=
  decide_eq_true rfl

/-- The call and the answer of an event that answers a worker. -/
def Event.answerTo [DecidableEq Worker] (worker : Worker) :
    Event I Worker Entry → Option ((call : I.Call) × I.Answer call)
  | .answered asker call answer => if asker = worker then some ⟨call, answer⟩ else none
  | _ => none

variable [DecidableEq Worker] {program : Entry → Program I α}
  {admits : View services Worker Entry → Event I Worker Entry → Prop}
  [∀ view event, Decidable (admits view event)]

variable (program admits) in
/-- A schedule passes through a configuration, which it reaches after some of its actions. -/
def Config.Passes (config : Config services Worker Entry α)
    (schedule : List (Action services Worker Entry)) (middle : Config services Worker Entry α) :
    Prop :=
  ∃ first rest, schedule = first ++ rest ∧ config.run program admits first = some middle

variable {config middle final : Config services Worker Entry α}
  {schedule : List (Action services Worker Entry)}

theorem Config.Passes.cons {action : Action services Worker Entry}
    {move : Move services Worker Entry α} (moved : config.move program action = some move)
    (admitted : admits config.toView move.event)
    (passes : (config.apply move).Passes program admits schedule middle) :
    config.Passes program admits (action :: schedule) middle := by
  obtain ⟨first, rest, rfl, runs⟩ := passes
  refine ⟨action :: first, rest, rfl, ?_⟩
  simp only [run, moved, admitted, ↓reduceIte]
  exact runs

theorem Config.Passes.first (config : Config services Worker Entry α)
    (schedule : List (Action services Worker Entry)) :
    config.Passes program admits schedule config :=
  ⟨[], schedule, rfl, rfl⟩

/-- Histories only grow. -/
theorem Config.history_of_run (runs : config.run program admits schedule = some final) :
    config.history ⊆ final.history := by
  induction schedule generalizing config with
  | nil =>
      cases Option.some.inj runs
      exact List.Subset.refl _
  | cons action rest ih =>
      obtain ⟨move, _, _, more⟩ := Config.run_cons runs
      exact List.Subset.trans (List.subset_cons_self move.event _) (ih more)

omit [∀ view event, Decidable (admits view event)] in
/-- A step leaves a worker in its program, or it answers the call that the program is at. -/
theorem Config.program_of_move {action : Action services Worker Entry}
    {move : Move services Worker Entry α} {worker : Worker}
    (moved : config.move program action = some move)
    (unstarted : ∀ entry, action ≠ .start worker entry) :
    action.answers worker = false ∧ (∀ left, ((config.apply move).workers worker).program =
        some left → (config.workers worker).program = some left) ∨
      ∃ call resume choice answer, action = .answer worker choice ∧
        (config.workers worker).program = some (.await call resume) ∧
        services.reply call choice config.state = some (answer, move.state) ∧
        move.event = .answered worker call answer ∧
        ((config.apply move).workers worker).program = some (resume answer) := by
  have frame : worker ≠ move.event.worker →
      (config.apply move).workers worker = config.workers worker :=
    fun other => Function.update_of_ne other ..
  have own : ∀ {status : Status I α}, (Function.update config.workers worker status) worker =
      status := Function.update_self ..
  cases action with
  | start starter entry =>
      have other : worker ≠ starter := fun same => unstarted entry (same ▸ rfl)
      simp only [Config.move, Option.ite_none_right_eq_some, Option.some.injEq] at moved
      obtain ⟨_, rfl⟩ := moved
      exact .inl ⟨rfl, fun left known => frame other ▸ known⟩
  | issue issuer =>
      simp only [Config.move] at moved
      split at moved
      · rename_i call resume status
        cases moved
        refine .inl ⟨rfl, fun left known => ?_⟩
        by_cases same : worker = issuer
        · subst same
          change (Function.update config.workers worker _ worker).program = _ at known
          rw [own] at known
          cases known
          exact congrArg Status.program status
        · exact frame same ▸ known
      · cases moved
  | crash crasher =>
      simp only [Config.move, Option.ite_none_left_eq_some, Option.some.injEq] at moved
      obtain ⟨_, rfl⟩ := moved
      refine .inl ⟨rfl, fun left known => ?_⟩
      by_cases same : worker = crasher
      · subst same
        change (Function.update config.workers worker _ worker).program = _ at known
        rw [own] at known
        cases known
      · exact frame same ▸ known
  | answer asker choice =>
      simp only [Config.move] at moved
      split at moved
      · rename_i call resume status
        obtain ⟨⟨answer, next⟩, replied, rfl⟩ := Option.map_eq_some_iff.mp moved
        by_cases same : worker = asker
        · subst same
          refine .inr ⟨call, resume, choice, answer, rfl, congrArg Status.program status, replied,
            rfl, ?_⟩
          change (Function.update config.workers worker _ worker).program = _
          rw [own]
          rfl
        · exact .inl ⟨decide_eq_false (Ne.symm same), fun left known => frame same ▸ known⟩
      · cases moved

omit [∀ view event, Decidable (admits view event)] in
/-- The events of a worker's answers are those of the actions that answer it. -/
theorem Config.answerTo_of_move {action : Action services Worker Entry}
    {move : Move services Worker Entry α} {worker : Worker}
    (moved : config.move program action = some move) (silent : action.answers worker = false) :
    move.event.answerTo worker = none := by
  cases action with
  | answer asker choice =>
      simp only [Config.move] at moved
      split at moved
      · obtain ⟨_, _, rfl⟩ := Option.map_eq_some_iff.mp moved
        exact if_neg (of_decide_eq_false silent)
      · cases moved
  | issue issuer =>
      simp only [Config.move] at moved
      split at moved <;> cases moved
      rfl
  | start starter entry =>
      simp only [Config.move, Option.ite_none_right_eq_some, Option.some.injEq] at moved
      obtain ⟨_, rfl⟩ := moved
      rfl
  | crash crasher =>
      simp only [Config.move, Option.ite_none_left_eq_some, Option.some.injEq] at moved
      obtain ⟨_, rfl⟩ := moved
      rfl

/-- A worker whose program settles within so many calls needs no more answers than these. -/
theorem Config.within_of_run {worker : Worker} {bound : Nat}
    (within : ∀ left, (config.workers worker).program = some left → left.Within bound)
    (runs : config.run program admits schedule = some final)
    (unstarted : ∀ entry, .start worker entry ∉ schedule) {left : Program I α}
    (known : (final.workers worker).program = some left) :
    left.Within (bound - schedule.countP (Action.answers worker)) := by
  induction schedule generalizing config bound with
  | nil =>
      cases Option.some.inj runs
      exact within left known
  | cons action rest ih =>
      obtain ⟨move, moved, _, more⟩ := Config.run_cons runs
      have later : ∀ entry, .start worker entry ∉ rest :=
        fun entry member => unstarted entry (List.mem_cons_of_mem _ member)
      rcases program_of_move moved fun entry same =>
          unstarted entry (same ▸ List.mem_cons_self) with
        ⟨silent, same⟩ | ⟨call, resume, choice, answer, rfl, reached, _, _, next⟩
      · rw [List.countP_cons_of_neg (Bool.not_eq_true _ ▸ silent)]
        exact ih (fun left known => within left (same left known)) more later
      · rw [List.countP_cons_of_pos (Action.answers_self worker choice)]
        cases bound with
        | zero => exact (within _ reached).elim
        | succ bound =>
            rw [Nat.add_sub_add_right]
            refine ih (fun left same => ?_) more later
            cases next.symm.trans same
            exact within _ reached answer

/-- After that many answers it is at rest. -/
theorem Config.atRest_of_run {worker : Worker} {bound : Nat}
    (within : ∀ left, (config.workers worker).program = some left → left.Within bound)
    (runs : config.run program admits schedule = some final)
    (unstarted : ∀ entry, .start worker entry ∉ schedule)
    (answered : bound ≤ schedule.countP (Action.answers worker)) :
    (final.workers worker).atRest = true := by
  have ended : ∀ left, (final.workers worker).program = some left → left.Within 0 := by
    intro left known
    rw [← Nat.sub_eq_zero_of_le answered]
    exact within_of_run within runs unstarted known
  cases status : final.workers worker with
  | idle => rfl
  | crashed => rfl
  | waiting call resume => exact (ended _ (congrArg Status.program status)).elim
  | running left =>
      cases left with
      | settled outcome => rfl
      | await call resume => exact (ended _ (congrArg Status.program status)).elim

/-- A worker has come to a part of its program that ensures what the whole does. -/
def Config.Keeps (config : Config services Worker Entry α) (worker : Worker)
    (rely guarantee : services.State → services.State → Prop)
    (post : services.State → List (Served services) → Except I.Error α → Prop)
    (served : List (Served services)) : Prop :=
  ∀ left, (config.workers worker).program = some left →
    ∃ state, left.Ensures rely guarantee post state served ∧ rely state config.state

variable {holds : Config services Worker Entry α → Prop}
  {rely guarantee : services.State → services.State → Prop}
  {post : services.State → List (Served services) → Except I.Error α → Prop} {worker : Worker}
  (reflexive : ∀ state, rely state state)
  (transitive : ∀ first second third, rely first second → rely second third → rely first third)
  (stays : ∀ (config : Config services Worker Entry α) action move, holds config →
    config.move program action = some move → admits config.toView move.event →
    holds (config.apply move) ∧ rely config.state move.state)

omit [∀ view event, Decidable (admits view event)] in
include reflexive transitive stays in
/-- A step keeps what a worker ensures; an answer to it adds to the calls that were served. -/
theorem Config.Keeps.step {served : List (Served services)} {action : Action services Worker Entry}
    {move : Move services Worker Entry α}
    (keeps : config.Keeps worker rely guarantee post served) (held : holds config)
    (moved : config.move program action = some move) (admitted : admits config.toView move.event)
    (unstarted : ∀ entry, action ≠ .start worker entry) :
    (config.apply move).Keeps worker rely guarantee post served ∧
        action.answers worker = false ∨
      ∃ call choice answer, guarantee config.state move.state ∧ action = .answer worker choice ∧
        move.event = .answered worker call answer ∧ (config.apply move).Keeps worker rely guarantee post
          (⟨call, choice, answer, move.state⟩ :: served) := by
  rcases program_of_move moved unstarted with
    ⟨silent, same⟩ | ⟨call, resume, choice, answer, rfl, reached, replied, event, next⟩
  · refine .inl ⟨fun left known => ?_, silent⟩
    obtain ⟨state, ensured, relied⟩ := keeps left (same left known)
    exact ⟨state, ensured, transitive _ _ _ relied (stays _ _ _ held moved admitted).2⟩
  · obtain ⟨state, ensured, relied⟩ := keeps _ reached
    obtain ⟨left, rest⟩ := ensured _ relied choice answer _ replied
    refine .inr ⟨call, choice, answer, left, rfl, event, fun last known => ?_⟩
    cases next.symm.trans known
    exact ⟨move.state, rest, reflexive move.state⟩

include reflexive transitive stays in
/-- **What a program ensures holds in every run.** A worker keeps what its program ensures, of the
calls that it was answered in configurations of the run, in their order; of each of them the
schedule has an answer. -/
theorem Config.Keeps.run {served : List (Served services)}
    (keeps : config.Keeps worker rely guarantee post served) (held : holds config)
    (runs : config.run program admits schedule = some final)
    (unstarted : ∀ entry, .start worker entry ∉ schedule) :
    holds final ∧ ∃ more, final.Keeps worker rely guarantee post (more ++ served) ∧
      more.length = schedule.countP (Action.answers worker) ∧
      final.history.filterMap (Event.answerTo worker) =
        more.map Served.exchange ++ config.history.filterMap (Event.answerTo worker) ∧
      ∀ answered ∈ more, .answer worker answered.choice ∈ schedule ∧
        .answered worker answered.call answered.answer ∈ final.history ∧ ∃ middle,
          config.Passes program admits schedule middle ∧ middle.state = answered.state := by
  induction schedule generalizing config served with
  | nil =>
      cases Option.some.inj runs
      exact ⟨held, [], keeps, rfl, rfl, fun _ member => (List.not_mem_nil member).elim⟩
  | cons action rest ih =>
      obtain ⟨move, moved, admitted, left⟩ := Config.run_cons runs
      have idle : ∀ entry, action ≠ .start worker entry :=
        fun entry same => unstarted entry (same ▸ List.mem_cons_self)
      have later : ∀ entry, .start worker entry ∉ rest :=
        fun entry member => unstarted entry (List.mem_cons_of_mem _ member)
      have after := (stays _ _ _ held moved admitted).1
      rcases keeps.step reflexive transitive stays held moved admitted idle with
        ⟨kept, silent⟩ | ⟨call, choice, answer, _, rfl, event, kept⟩
      · obtain ⟨ends, more, last, counted, told, visited⟩ := ih kept after left later
        refine ⟨ends, more, last, ?_, ?_, fun answered member => ?_⟩
        · rw [List.countP_cons_of_neg (Bool.not_eq_true _ ▸ silent), counted]
        · rw [told]
          exact congrArg _ (List.filterMap_cons_none (answerTo_of_move moved silent))
        · obtain ⟨chosen, told, middle, passes, same⟩ := visited answered member
          exact ⟨List.mem_cons_of_mem _ chosen, told, middle, passes.cons moved admitted, same⟩
      · obtain ⟨ends, more, last, counted, told, visited⟩ := ih kept after left later
        refine ⟨ends, more ++ [⟨call, choice, answer, move.state⟩], ?_, ?_, ?_,
          fun answered member => ?_⟩
        · rw [List.append_assoc, List.singleton_append]
          exact last
        · rw [List.length_append, counted,
            List.countP_cons_of_pos (Action.answers_self worker choice), List.length_singleton]
        · have own : move.event.answerTo worker = some ⟨call, answer⟩ := by
            rw [event]
            exact if_pos rfl
          rw [told, List.map_append, List.append_assoc]
          exact congrArg _ (List.filterMap_cons_some own)
        · rcases List.mem_append.mp member with among | first
          · obtain ⟨chosen, told, middle, passes, same⟩ := visited answered among
            exact ⟨List.mem_cons_of_mem _ chosen, told, middle, passes.cons moved admitted, same⟩
          · cases List.mem_singleton.mp first
            exact ⟨List.mem_cons_self, event ▸ Config.history_of_run left List.mem_cons_self,
              config.apply move, (Passes.first _ rest).cons moved admitted, rfl⟩

include reflexive transitive stays in
/-- Each of its steps leaves the state as guaranteed. -/
theorem Config.Keeps.guaranteed {served : List (Served services)}
    (keeps : config.Keeps worker rely guarantee post served) (held : holds config)
    {first : List (Action services Worker Entry)}
    (runs : config.run program admits first = some middle)
    (unstarted : ∀ entry, .start worker entry ∉ first) {action : Action services Worker Entry}
    {move : Move services Worker Entry α} (moved : middle.move program action = some move)
    (admitted : admits middle.toView move.event) (own : move.event.worker = worker)
    (quiet : ∀ state, guarantee state state) : guarantee middle.state move.state := by
  obtain ⟨ends, more, last, _, _, _⟩ := keeps.run reflexive transitive stays held runs unstarted
  cases action with
  | start starter entry =>
      simp only [Config.move, Option.ite_none_right_eq_some, Option.some.injEq] at moved
      obtain ⟨_, rfl⟩ := moved
      exact quiet _
  | issue issuer =>
      simp only [Config.move] at moved
      split at moved <;> cases moved
      exact quiet _
  | crash crasher =>
      simp only [Config.move, Option.ite_none_left_eq_some, Option.some.injEq] at moved
      obtain ⟨_, rfl⟩ := moved
      exact quiet _
  | answer asker choice =>
      have named : move.event.worker = asker := by
        simp only [Config.move] at moved
        split at moved
        · obtain ⟨_, _, rfl⟩ := Option.map_eq_some_iff.mp moved
          rfl
        · cases moved
      rcases last.step reflexive transitive stays ends moved admitted
          (fun _ same => by cases same) with ⟨_, silent⟩ | ⟨_, _, _, left, _, _, _⟩
      · exact absurd (named.symm.trans own) (of_decide_eq_false silent)
      · exact left

omit [∀ view event, Decidable (admits view event)] in
/-- **What programs ensure holds in every configuration.** A worker keeps what the program that it
was started with last ensures, of the calls that it was answered in reachable configurations. -/
theorem Reachable.keeps {initial : View services Worker Entry} (reflexive : ∀ state, rely state state)
    (transitive : ∀ first second third, rely first second → rely second third → rely first third)
    (stays : ∀ (config : Config services Worker Entry α) action move,
      Reachable program admits initial config → config.move program action = some move →
      admits config.toView move.event → rely config.state move.state)
    (ensures : ∀ (config : Config services Worker Entry α) entry,
      Reachable program admits initial config →
      (program entry).Ensures rely guarantee post config.state [])
    (reached : Reachable program admits initial config) (worker : Worker) :
    ∃ served, config.Keeps worker rely guarantee post served ∧ ∀ answered ∈ served,
      .answered worker answered.call answered.answer ∈ config.history ∧
        ∃ middle : Config services Worker Entry α, Reachable program admits initial middle ∧
          middle.state = answered.state := by
  induction reached with
  | initial => exact ⟨[], fun _ known => (by cases known), fun _ member => (by cases member)⟩
  | @step config action move before moved admitted ih =>
      obtain ⟨served, keeps, visited⟩ := ih
      have steps : ∀ (config : Config services Worker Entry α) action move,
          Reachable program admits initial config → config.move program action = some move →
          admits config.toView move.event →
          Reachable program admits initial (config.apply move) ∧ rely config.state move.state :=
        fun config action move reached moved admitted =>
          ⟨.step reached moved admitted, stays config action move reached moved admitted⟩
      have still : ∀ answered ∈ served,
          .answered worker answered.call answered.answer ∈ (config.apply move).history ∧
            ∃ middle : Config services Worker Entry α, Reachable program admits initial middle ∧
              middle.state = answered.state := by
        intro answered member
        obtain ⟨told, middle⟩ := visited answered member
        exact ⟨List.mem_cons_of_mem _ told, middle⟩
      by_cases started : ∃ entry, action = .start worker entry
      · obtain ⟨entry, rfl⟩ := started
        simp only [Config.move, Option.ite_none_right_eq_some, Option.some.injEq] at moved
        obtain ⟨_, rfl⟩ := moved
        refine ⟨[], fun left known => ⟨config.state, ?_, reflexive _⟩, fun _ member => (by cases member)⟩
        simp only [Config.apply, Event.worker, Function.update_self, Status.program,
          Option.some.injEq] at known
        exact known ▸ ensures config entry before
      · rcases keeps.step reflexive transitive steps before moved admitted fun entry same =>
            started ⟨entry, same⟩ with ⟨kept, _⟩ | ⟨call, choice, answer, _, _, event, kept⟩
        · exact ⟨served, kept, still⟩
        · refine ⟨_, kept, fun answered member => ?_⟩
          rcases List.mem_cons.mp member with rfl | among
          · exact ⟨event ▸ List.mem_cons_self, _, .step before moved admitted, rfl⟩
          · exact still answered among

end Async
