import InterWeave.Async.Transcript

/-! # Leaving out the calls of others

Some entries are ours. Where the other workers change nothing that ours are answered by, the run
without them is a run as well: our workers make the same calls and are answered the same.
-/

namespace Async

variable {I : Interface} {services : Services I} {Worker Entry α : Type} [DecidableEq Worker]

/-- A worker was last started with one of our entries. -/
def Serves (mine : Entry → Bool) (worker : Worker) (history : List (Event I Worker Entry)) : Bool :=
  (entryOf worker history).any mine

/-- The steps of our workers. -/
def ownEvents (mine : Entry → Bool) : List (Event I Worker Entry) → List (Event I Worker Entry)
  | [] => []
  | event :: earlier =>
      if Serves mine event.worker (event :: earlier) then event :: ownEvents mine earlier
      else ownEvents mine earlier

variable {mine : Entry → Bool} {worker : Worker} {history : List (Event I Worker Entry)}

theorem serves_cons_of_ne {event : Event I Worker Entry} (different : event.worker ≠ worker) :
    Serves mine worker (event :: history) = Serves mine worker history := by
  cases event with
  | started starter entry =>
      rw [Serves, Serves, entryOf, if_neg]
      exact different
  | _ => rfl

theorem serves_of_transcript {program : Entry → Program I α} {entry : Entry}
    {exchanges : List (Exchange I)}
    (known : transcriptOf program worker history = some (entry, exchanges)) :
    Serves mine worker history = mine entry := by
  rw [Serves, entryOf_of_transcriptOf known]
  rfl

/-- A state with our workers alone in it is `alike` a state of the run: what others are answered
keeps it so, and ours are answered the same in both. -/
structure Unwinds (program : Entry → Program I α) (mine : Entry → Bool)
    (admits : View services Worker Entry → Event I Worker Entry → Prop)
    (initial : View services Worker Entry)
    (alike : services.State → services.State → Prop) : Prop where
  foreign : ∀ {config : Config services Worker Entry α} {worker entry exchanges call choice answer
    next alone}, Reachable program admits initial config →
    transcriptOf program worker config.history = some (entry, exchanges) →
    (recording program).allowed (entry, exchanges) call → mine entry = false →
    services.reply call choice config.state = some (answer, next) → alike config.state alone →
    alike next alone
  own : ∀ {config : Config services Worker Entry α} {worker entry exchanges call choice answer
    next alone}, Reachable program admits initial config →
    transcriptOf program worker config.history = some (entry, exchanges) →
    (recording program).allowed (entry, exchanges) call → mine entry = true →
    admits config.toView (.answered worker call answer) →
    services.reply call choice config.state = some (answer, next) → alike config.state alone →
    ∃ after, services.reply call choice alone = some (answer, after) ∧ alike next after

/-- The actions of our workers in a schedule. -/
def Config.ownActions (program : Entry → Program I α) (mine : Entry → Bool)
    (config : Config services Worker Entry α) :
    List (Action services Worker Entry) → List (Action services Worker Entry)
  | [] => []
  | action :: rest =>
      match config.move program action with
      | none => []
      | some move =>
          if Serves mine move.event.worker (move.event :: config.history) then
            action :: (config.apply move).ownActions program mine rest
          else (config.apply move).ownActions program mine rest

/-- A configuration without the others. -/
structure Projects (mine : Entry → Bool) (alike : services.State → services.State → Prop)
    (config alone : Config services Worker Entry α) : Prop where
  state : alike config.state alone.state
  history : alone.history = ownEvents mine config.history
  workers : ∀ worker, Serves mine worker config.history = true →
    alone.workers worker = config.workers worker
  resting : ∀ worker, Serves mine worker config.history = false →
    (alone.workers worker).atRest = true

namespace Projects

variable {alike : services.State → services.State → Prop}
  {config alone : Config services Worker Entry α} {move again : Move services Worker Entry α}

/-- Our steps are taken in both. -/
theorem own (projects : Projects mine alike config alone) (event : again.event = move.event)
    (status : again.status = move.status) (state : alike move.state again.state)
    (serves : Serves mine move.event.worker (move.event :: config.history) = true) :
    Projects mine alike (config.apply move) (alone.apply again) where
  state := state
  history := by
    change again.event :: alone.history = ownEvents mine (move.event :: config.history)
    rw [ownEvents, if_pos serves, event, projects.history]
  workers := by
    intro worker own
    change Function.update alone.workers again.event.worker again.status worker =
      Function.update config.workers move.event.worker move.status worker
    rw [event, status]
    by_cases same : worker = move.event.worker
    · rw [same, Function.update_self, Function.update_self]
    · change Serves mine worker (move.event :: config.history) = true at own
      rw [serves_cons_of_ne (Ne.symm same)] at own
      rw [Function.update_of_ne same, Function.update_of_ne same, projects.workers worker own]
  resting := by
    intro worker foreign
    change Serves mine worker (move.event :: config.history) = false at foreign
    change (Function.update alone.workers again.event.worker again.status worker).atRest = true
    by_cases same : worker = move.event.worker
    · rw [same, serves] at foreign
      cases foreign
    · rw [serves_cons_of_ne (Ne.symm same)] at foreign
      rw [event, Function.update_of_ne same]
      exact projects.resting worker foreign

/-- The steps of others are left out. -/
theorem foreign (projects : Projects mine alike config alone) (state : alike move.state alone.state)
    (serves : Serves mine move.event.worker (move.event :: config.history) = false)
    (resting : (alone.workers move.event.worker).atRest = true) :
    Projects mine alike (config.apply move) alone where
  state := state
  history := by
    change alone.history = ownEvents mine (move.event :: config.history)
    rw [ownEvents, serves, if_neg Bool.false_ne_true, projects.history]
  workers := by
    intro worker own
    change Serves mine worker (move.event :: config.history) = true at own
    by_cases same : worker = move.event.worker
    · rw [same, serves] at own
      cases own
    · rw [serves_cons_of_ne (Ne.symm same)] at own
      exact (projects.workers worker own).trans (Function.update_of_ne same ..).symm
  resting := by
    intro worker other
    change Serves mine worker (move.event :: config.history) = false at other
    by_cases same : worker = move.event.worker
    · rw [same]
      exact resting
    · rw [serves_cons_of_ne (Ne.symm same)] at other
      exact projects.resting worker other

/-- A worker that may be started may be started without the others. -/
theorem atRest (projects : Projects mine alike config alone) {worker : Worker}
    (resting : (config.workers worker).atRest = true) :
    (alone.workers worker).atRest = true := by
  cases serves : Serves mine worker config.history with
  | true => rw [projects.workers worker serves, resting]
  | false => exact projects.resting worker serves

end Projects

section Runs

variable {program : Entry → Program I α}
  {admits : View services Worker Entry → Event I Worker Entry → Prop}
  {initial : View services Worker Entry} {config alone : Config services Worker Entry α}
  {alike : services.State → services.State → Prop}

/-- Our steps are taken without the others. -/
theorem Projects.taken (unwinds : Unwinds program mine admits initial alike)
    (fresh : initial.history = []) (reached : Reachable program admits initial config)
    (projects : Projects mine alike config alone) {action : Action services Worker Entry}
    {move : Move services Worker Entry α} (moved : config.move program action = some move)
    (admitted : admits config.toView move.event)
    (serves : Serves mine move.event.worker (move.event :: config.history) = true) :
    ∃ again, alone.move program action = some again ∧
      Projects mine alike (config.apply move) (alone.apply again) := by
  have tracks := reached.tracks fresh
  cases action with
  | start worker entry =>
      simp only [Config.move, Option.ite_none_right_eq_some, Option.some.injEq] at moved
      obtain ⟨resting, rfl⟩ := moved
      refine ⟨⟨.started worker entry, alone.state, .running (program entry)⟩, ?_, ?_⟩
      · exact if_pos (projects.atRest resting)
      · exact projects.own rfl rfl projects.state serves
  | issue worker =>
      cases status : config.workers worker with
      | running left =>
          cases left with
          | await call resume =>
              simp only [Config.move, status, Option.some.injEq] at moved
              subst moved
              have same := (projects.workers worker serves).trans status
              refine ⟨⟨.issued worker call, alone.state, .waiting call resume⟩, ?_, ?_⟩
              · simp only [Config.move, same]
              · exact projects.own rfl rfl projects.state serves
          | settled outcome => simp only [Config.move, status, reduceCtorEq] at moved
      | _ => simp only [Config.move, status, reduceCtorEq] at moved
  | answer worker choice =>
      cases status : config.workers worker with
      | waiting call resume =>
          simp only [Config.move, status, Option.map_eq_some_iff] at moved
          obtain ⟨⟨answer, next⟩, replied, rfl⟩ := moved
          have here := tracks worker
          rw [status] at here
          obtain ⟨⟨entry, exchanges⟩, known, reaches⟩ := here
          have same := (projects.workers worker serves).trans status
          have own : mine entry = true := (serves_of_transcript known).symm.trans serves
          obtain ⟨after, answered, state⟩ :=
            unwinds.own reached known ⟨resume, reaches⟩ own admitted replied projects.state
          refine ⟨⟨.answered worker call answer, after, .running (resume answer)⟩, ?_, ?_⟩
          · simp only [Config.move, same, answered, Option.map_some]
          · exact projects.own rfl rfl state serves
      | _ => simp only [Config.move, status, reduceCtorEq] at moved
  | crash worker =>
      simp only [Config.move, Option.ite_none_left_eq_some, Option.some.injEq] at moved
      obtain ⟨busy, rfl⟩ := moved
      have same := projects.workers worker serves
      refine ⟨⟨.crashed worker, alone.state, .crashed⟩, ?_, ?_⟩
      · exact if_neg (same ▸ busy)
      · exact projects.own rfl rfl projects.state serves

/-- The steps of others are left out. -/
theorem Projects.left (unwinds : Unwinds program mine admits initial alike)
    (fresh : initial.history = []) (reached : Reachable program admits initial config)
    (projects : Projects mine alike config alone) {action : Action services Worker Entry}
    {move : Move services Worker Entry α} (moved : config.move program action = some move)
    (serves : Serves mine move.event.worker (move.event :: config.history) = false) :
    Projects mine alike (config.apply move) alone := by
  have tracks := reached.tracks fresh
  cases Config.moves_of_move moved with
  | start resting => exact projects.foreign projects.state serves (projects.atRest resting)
  | issue _ => exact projects.foreign projects.state serves (projects.resting _ serves)
  | @answer worker call resume choice answer next status replied =>
      have here := tracks worker
      rw [status] at here
      obtain ⟨⟨entry, exchanges⟩, known, reaches⟩ := here
      have other : mine entry = false := (serves_of_transcript known).symm.trans serves
      exact projects.foreign (unwinds.foreign reached known ⟨resume, reaches⟩ other replied
        projects.state) serves (projects.resting worker serves)
  | crash _ => exact projects.foreign projects.state serves (projects.resting _ serves)

/-- At the beginning there is nobody to leave out. -/
theorem Projects.at_start (fresh : initial.history = []) {state : services.State}
    (start : alike initial.state state) :
    Projects mine alike (Config.initial initial : Config services Worker Entry α)
      (.initial ⟨state, []⟩) where
  state := start
  history := by
    change [] = ownEvents mine initial.history
    rw [fresh]
    rfl
  workers _ _ := rfl
  resting _ _ := rfl

variable [∀ view event, Decidable (admits view event)]

/-- **Unwinding.** A run without the actions of the others is a run, in which our workers take the
same steps. -/
theorem Config.run_without_others (unwinds : Unwinds program mine admits initial alike)
    (fresh : initial.history = []) (reached : Reachable program admits initial config)
    (projects : Projects mine alike config alone) {schedule : List (Action services Worker Entry)}
    {final : Config services Worker Entry α}
    (runs : config.run program admits schedule = some final) :
    ∃ left, alone.run program (fun _ _ => True) (config.ownActions program mine schedule) =
      some left ∧ Projects mine alike final left := by
  induction schedule generalizing config alone with
  | nil =>
      cases Option.some.inj runs
      exact ⟨alone, rfl, projects⟩
  | cons action rest ih =>
      obtain ⟨move, moved, admitted, more⟩ := Config.run_cons runs
      have next := reached.step moved admitted
      cases serves : Serves mine move.event.worker (move.event :: config.history) with
      | true =>
          obtain ⟨again, enabled, projected⟩ :=
            projects.taken unwinds fresh reached moved admitted serves
          obtain ⟨left, ran, projects⟩ := ih next projected more
          refine ⟨left, ?_, projects⟩
          simp only [Config.ownActions, moved, serves, ↓reduceIte, Config.run, enabled]
          exact ran
      | false =>
          obtain ⟨left, ran, projects⟩ :=
            ih next (projects.left unwinds fresh reached moved serves) more
          refine ⟨left, ?_, projects⟩
          simp only [Config.ownActions, moved, serves, Bool.false_eq_true, ↓reduceIte]
          exact ran

end Runs
end Async
