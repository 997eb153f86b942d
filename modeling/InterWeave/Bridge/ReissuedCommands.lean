import InterWeave.Async.Interference
import InterWeave.Bridge.TransactionHistories

/-! # Commands that are issued again

A transition that was accepted stays in the log, and the states of a log only go up. So a command
that names its key finds no legal transition to its target any more: it reads the operation, finds
the transition and returns what it has read. With another target it is refused, at the first or at
the second of the two places that look for the key.
-/

namespace InterWeave

open Async

namespace BridgeTables

variable {platform : Platform} {tables next : BridgeTables} {id key : JsString}
  {target : BridgeState}

/-- A transition of an operation was accepted under a key. -/
def Accepted (tables : BridgeTables) (id key : JsString) (target : BridgeState) : Prop :=
  ∃ row ∈ tables.transitions, row.operationId = id ∧ row.transitionKey = key ∧
    row.toState = target

/-- Logs only grow. -/
def Grows (tables next : BridgeTables) : Prop :=
  (tables.Chronicled → next.Chronicled) ∧ tables.transitions ⊆ next.transitions

theorem Grows.refl (tables : BridgeTables) : tables.Grows tables :=
  ⟨id, List.Subset.refl _⟩

theorem Grows.trans {last : BridgeTables} (first : tables.Grows next) (second : next.Grows last) :
    tables.Grows last :=
  ⟨second.1 ∘ first.1, List.Subset.trans first.2 second.2⟩

theorem Accepted.grows (accepted : tables.Accepted id key target) (grows : tables.Grows next) :
    next.Accepted id key target := by
  obtain ⟨row, member, named⟩ := accepted
  exact ⟨row, grows.2 member, named⟩

theorem Replies.transitions_subset {call : TransactionCall}
    {answer : transactionInterface.Answer call} (replies : tables.Replies call answer next) :
    tables.transitions ⊆ next.transitions := by
  cases replies with
  | unchanged answer => exact List.Subset.refl _
  | created _ _ more => exact more ▸ List.subset_append_left _ _
  | appended _ _ _ more => exact more ▸ List.subset_append_left _ _

/-- A key has one transition. -/
theorem Accepted.findTransition (accepted : tables.Accepted id key target) :
    ∃ row, tables.findTransition id key = some row ∧ row.toState = target := by
  obtain ⟨row, member, owned, named, state⟩ := accepted
  have found : (tables.findTransition id key).isSome := by
    rw [BridgeTables.findTransition, List.find?_isSome]
    exact ⟨row, member, decide_eq_true ⟨owned, named⟩⟩
  obtain ⟨other, same⟩ := Option.isSome_iff_exists.mp found
  obtain ⟨among, likewise, equal⟩ := findTransition_some same
  have unique : other = row := List.inj_on_of_nodup_map tables.transitionsKey among member
    (Prod.ext (likewise.trans owned.symm) (equal.trans named.symm))
  exact ⟨other, same, unique ▸ state⟩

/-- No state of a log is above the state it leads to. -/
theorem rank_le_of_recorded {row : OperationRow} {log : List TransitionRow}
    (recorded : row.Recorded log) {transition : TransitionRow} (member : transition ∈ log) :
    transition.toState.rank ≤ row.state.rank := by
  have ranks : (log.map fun transition => transition.toState.rank).IsChain (· < ·) :=
    (List.isChain_map _).mpr (recorded.chained.imp fun _ _ follows =>
      BridgeState.rank_lt_of_canTransition _ _ follows.2)
  obtain ⟨last, ends, state⟩ := Option.map_eq_some_iff.mp recorded.last
  obtain ⟨earlier, rfl⟩ := List.getLast?_eq_some_iff.mp ends
  rcases List.mem_append.mp member with before | same
  · have below := List.pairwise_append.mp (List.map_append ▸ ranks.pairwise)
    exact state ▸ (below.2.2 _ (List.mem_map_of_mem before) _
      (List.mem_map_of_mem List.mem_cons_self)).le
  · rw [List.mem_singleton.mp same, state]

/-- An operation with an accepted transition is stored, and cannot make it again. -/
theorem Accepted.load (accepted : tables.Accepted id key target) (chronicled : tables.Chronicled) :
    ∃ operation, tables.load id = some operation ∧
      operation.state.canTransition target = false := by
  obtain ⟨transition, member, owned, _, state⟩ := accepted
  obtain ⟨row, stored, named⟩ := List.mem_map.mp (tables.references transition member)
  have found : (tables.load id).isSome := by
    rw [BridgeTables.load, Option.isSome_map, List.find?_isSome]
    exact ⟨row, stored, decide_eq_true (named.trans owned)⟩
  obtain ⟨operation, loaded⟩ := Option.isSome_iff_exists.mp found
  obtain ⟨other, among, same, shown, _⟩ := load_some loaded
  have logged : transition ∈ tables.logOf other.id :=
    List.mem_filter.mpr ⟨member, decide_eq_true (owned.trans same.symm)⟩
  have below := rank_le_of_recorded (chronicled other among) logged
  refine ⟨operation, loaded, ?_⟩
  rw [shown, (chronicled other among).state]
  by_contra legal
  have above := BridgeState.rank_lt_of_canTransition _ _ (Bool.not_eq_false _ ▸ legal)
  rw [state] at below
  omega

/-- What an append has accepted is in the log. -/
theorem accepted_of_append {command : TransitionInput} {operation : DurableBridgeOperation}
    (appended : tables.settle (tables.append platform command) = (.ok operation, next)) :
    next.Accepted command.operationId command.transitionKey command.target := by
  rcases append_cases appended with ⟨rfl, known⟩ | ⟨_, found, _, attempt, _, _, _, _, more⟩
  · obtain ⟨duplicate, same, state⟩ := known operation rfl
    obtain ⟨member, owned, named⟩ := findTransition_some same
    exact ⟨duplicate, member, owned, named, state⟩
  · refine ⟨nextTransition found command attempt, ?_, rfl, rfl, rfl⟩
    rw [more]
    exact List.mem_append_right _ List.mem_cons_self

theorem accepted_of_reply {command : TransitionInput} {choice : TransactionChoice}
    {operation : DurableBridgeOperation}
    (replied : reply platform (.append command) choice tables = some (.ok operation, next)) :
    next.Accepted command.operationId command.transitionKey command.target := by
  cases choice with
  | committed => exact accepted_of_append (Option.some.inj replied)
  | failed error => cases replied

theorem reply_get {choice : TransactionChoice} {answer : transactionInterface.Answer (.get id)}
    (replied : reply platform (.get id) choice tables = some (answer, next)) :
    next = tables ∧ (answer = .ok (tables.load id) ∨
      ∃ error, choice = .failed error ∧ answer = .error error) := by
  cases choice with
  | committed => cases replied; exact ⟨rfl, .inl rfl⟩
  | failed error => cases replied; exact ⟨rfl, .inr ⟨error, rfl, rfl⟩⟩

theorem reply_findTransition {choice : TransactionChoice}
    {answer : transactionInterface.Answer (.findTransition id key)}
    (replied : reply platform (.findTransition id key) choice tables = some (answer, next)) :
    next = tables ∧
      (answer = .ok ((tables.findTransition id key).map TransitionRow.persisted) ∨
        ∃ error, choice = .failed error ∧ answer = .error error) := by
  cases choice with
  | committed => cases replied; exact ⟨rfl, .inl rfl⟩
  | failed error => cases replied; exact ⟨rfl, .inr ⟨error, rfl, rfl⟩⟩

/-- An append under a key that was accepted with another target fails. -/
theorem Accepted.refuses {command : TransitionInput}
    (accepted : tables.Accepted command.operationId command.transitionKey target)
    (different : command.target ≠ target) {choice : TransactionChoice}
    {answer : transactionInterface.Answer (.append command)}
    (replied : reply platform (.append command) choice tables = some (answer, next)) :
    next = tables ∧ ∃ error, answer = .error error := by
  cases choice with
  | failed error => cases replied; exact ⟨rfl, error, rfl⟩
  | committed =>
      obtain ⟨row, found, state⟩ := accepted.findTransition
      have other : row.toState ≠ command.target := fun same => different (same.symm.trans state)
      have settled := Option.some.inj replied
      rw [append, found] at settled
      simp only [ne_eq, other, not_false_eq_true, ↓reduceIte] at settled
      cases settled
      exact ⟨rfl, _, rfl⟩

end BridgeTables

/-! ## The engine -/

namespace TransactionEngine

variable {platform : Platform} {command : TransitionInput} {target : BridgeState}

/-- How a command ends whose key was accepted with a target: it returns the operation as the store
had it at one of its calls, or the store fails it; with another target it throws. -/
def Repeats (platform : Platform) (command : TransitionInput) (target : BridgeState)
    (_ : BridgeTables) (served : List (Served (transactionServices platform)))
    (outcome : Except Thrown DurableBridgeOperation) : Prop :=
  (command.target = target → checkTransition command = .ok () →
    (∃ answered ∈ served, ∃ operation,
      answered.state.load command.operationId = some operation ∧ outcome = .ok operation) ∨
    ∃ answered ∈ served, ∃ error, answered.choice = .failed error ∧ outcome = .error error) ∧
  (command.target ≠ target → ∃ error, outcome = .error error)

theorem Repeats.failed {tables : BridgeTables}
    {served : List (Served (transactionServices platform))}
    {answered : Served (transactionServices platform)} (member : answered ∈ served)
    {error : Thrown} (chosen : answered.choice = .failed error) :
    Repeats platform command target tables served (.error error) :=
  ⟨fun _ _ => .inr ⟨answered, member, error, chosen, rfl⟩, fun _ => ⟨error, rfl⟩⟩

/-- The exit of an operation that has gone past the target. -/
theorem found_ensures {tables : BridgeTables}
    {served : List (Served (transactionServices platform))}
    (accepted : tables.Accepted command.operationId command.transitionKey target)
    {operation : DurableBridgeOperation} {answered : Served (transactionServices platform)}
    (member : answered ∈ served)
    (loaded : answered.state.load command.operationId = some operation) (message : Thrown) :
    @Program.Ensures _ (transactionServices platform) _ BridgeTables.Grows
      (fun later next => next = later) (Repeats platform command target)
      (TransactionProgram.findTransition command.operationId command.transitionKey >>=
        fun existing => if existing.any fun transition => transition.target = command.target then
          (pure operation : TransactionProgram DurableBridgeOperation)
        else Program.reject message) tables served := by
  refine .call_seq (fun later _ choice answer left replied =>
    (BridgeTables.reply_findTransition replied).1) (fun later grows choice value left replied => ?_)
    fun later grows choice error left replied => ?_
  · obtain ⟨rfl, same | ⟨_, _, same⟩⟩ := BridgeTables.reply_findTransition replied
    · obtain ⟨row, found, state⟩ := (accepted.grows grows).findTransition
      cases same
      rw [found]
      by_cases equal : command.target = target
      · have agrees : row.persisted.target = command.target := state.trans equal.symm
        simp only [Option.map_some, Option.any_some, agrees, decide_true, ↓reduceIte]
        exact ⟨fun _ _ => .inl ⟨answered, List.mem_cons_of_mem _ member, operation, loaded, rfl⟩,
          fun different => absurd equal different⟩
      · have differs : row.persisted.target ≠ command.target :=
          fun same => equal (same.symm.trans state)
        simp only [Option.map_some, Option.any_some, differs, decide_false, Bool.false_eq_true,
          ↓reduceIte]
        exact ⟨fun same => absurd same equal, fun _ => ⟨message, rfl⟩⟩
    · cases same
  · obtain ⟨rfl, same | ⟨_, chosen, same⟩⟩ := BridgeTables.reply_findTransition replied
    · cases same
    · cases same
      exact .failed List.mem_cons_self chosen

/-- A command whose key was accepted changes nothing, wherever the others take the operation. -/
theorem transition_ensures {tables : BridgeTables} (chronicled : tables.Chronicled)
    (accepted : tables.Accepted command.operationId command.transitionKey target) :
    @Program.Ensures _ (transactionServices platform) _ BridgeTables.Grows
      (fun later next => next = later) (Repeats platform command target) (transition command)
      tables [] := by
  rw [transition]
  refine .ofExcept_seq (fun _ _ => ?_) fun error failed => ?_
  · refine .call_seq (fun later _ choice answer left replied =>
      (BridgeTables.reply_get replied).1) (fun later grows choice value left replied => ?_)
      fun later grows choice error left replied => ?_
    · obtain ⟨rfl, same | ⟨_, _, same⟩⟩ := BridgeTables.reply_get replied
      · cases same
        have now := accepted.grows grows
        obtain ⟨operation, loaded, past⟩ := now.load (grows.1 chronicled)
        rw [loaded]
        by_cases legal : operation.state.canTransition command.target = true
        · have different : command.target ≠ target := by
            rintro same
            rw [same, past] at legal
            cases legal
          simp only [legal, Bool.not_true, Bool.false_eq_true, ↓reduceIte]
          refine .ofExcept_seq (fun _ _ => ?_) fun error _ =>
            ⟨fun same => absurd same different, fun _ => ⟨error, rfl⟩⟩
          intro last more choice answer left replied
          obtain ⟨same, error, failed⟩ := (now.grows more).refuses different replied
          exact ⟨same, fun same => absurd same different, fun _ => ⟨error, failed⟩⟩
        · simp only [Bool.not_eq_true _ ▸ legal, Bool.not_false, ↓reduceIte]
          exact found_ensures now List.mem_cons_self loaded _
      · cases same
    · obtain ⟨rfl, same | ⟨_, chosen, same⟩⟩ := BridgeTables.reply_get replied
      · cases same
      · cases same
        exact .failed List.mem_cons_self chosen
  · refine ⟨fun _ passes => ?_, fun _ => ⟨error, rfl⟩⟩
    rw [passes] at failed
    cases failed

/-- A command makes two calls at most. -/
theorem transition_within (command : TransitionInput) : (transition command).Within 2 := by
  rw [transition]
  cases checkTransition command with
  | error error => exact .settled _ _
  | ok _ =>
      refine .call_seq fun found => ?_
      cases found with
      | none => exact .settled _ _
      | some operation =>
          dsimp only
          split
          · refine .call_seq fun existing => ?_
            split <;> exact .settled _ _
          · cases checkDecision command with
            | error error => exact .settled _ _
            | ok _ => exact fun answer => .settled _ _

end TransactionEngine

/-! ## Runs -/

section Runs

variable {platform : Platform} {Worker : Type} [DecidableEq Worker]
  {before middle final :
    Config (transactionServices platform) Worker EngineCommand DurableBridgeOperation}
  {worker : Worker} {command : TransitionInput} {target : BridgeState}

namespace TransactionEngine

theorem transition_appends (command : TransitionInput) :
    (transition command).Follows (transcriptProtocol (I := transactionInterface) fun _ call =>
      ∀ asked, call = .append asked → checkTransition asked = .ok ()) (fun _ _ => True) [] := by
  rw [transition]
  refine .ofExcept_seq (fun _ checked => ?_) fun _ _ => trivial
  refine .call_seq (fun _ same => by cases same) (fun found _ => ?_) fun _ _ => trivial
  cases found with
  | none => trivial
  | some operation =>
      dsimp only
      split
      · refine .call_seq (fun _ same => by cases same) (fun existing _ => ?_) fun _ _ => trivial
        split <;> trivial
      · refine .ofExcept_seq (fun _ _ => ?_) fun _ _ => trivial
        refine ⟨fun asked same => ?_, fun _ _ => trivial⟩
        cases same
        exact checked

theorem run_appends (command : EngineCommand) :
    (run platform command).Follows (transcriptProtocol (I := transactionInterface) fun _ call =>
      ∀ asked, call = .append asked → checkTransition asked = .ok ()) (fun _ _ => True) [] := by
  cases command with
  | transition command => exact transition_appends command
  | create input =>
      refine .ofExcept_seq (fun _ _ => ?_) fun _ _ => trivial
      exact ⟨fun _ same => (by cases same), fun _ _ => trivial⟩

namespace Reachable

/-- What the store has answered to an append was valid, and is in the log. -/
theorem accepted (reached : TransactionEngine.Reachable platform before) {operation}
    (answered : .answered worker (.append command) (.ok operation) ∈ before.history) :
    before.state.Accepted command.operationId command.transitionKey command.target ∧
      checkTransition command = .ok () := by
  refine Async.Reachable.invariant reached (fun view => ∀ worker command operation,
    .answered worker (.append command) (.ok operation) ∈ view.history →
      view.state.Accepted command.operationId command.transitionKey command.target ∧
        checkTransition command = .ok ()) rfl
    (fun _ _ _ member => (List.not_mem_nil member).elim) ?_ worker command operation answered
  intro config event state reached step _ ih worker command operation member
  cases step with
  | answered _ _ allowed replied =>
      rcases List.mem_cons.mp member with same | earlier
      · cases same
        obtain ⟨_, reaches⟩ := allowed
        refine ⟨?_, (run_appends _).admits_of_reaches reaches _ rfl⟩
        exact BridgeTables.accepted_of_reply replied
      · obtain ⟨known, checked⟩ := ih worker command operation earlier
        obtain ⟨row, listed, named⟩ := known
        exact ⟨⟨row, (BridgeTables.replies_of_reply replied).transitions_subset listed, named⟩,
          checked⟩
  | _ =>
      rcases List.mem_cons.mp member with same | earlier
      · cases same
      · exact ih worker command operation earlier

/-- A step of the engine keeps logs. -/
theorem grows {action : Action (transactionServices platform) Worker EngineCommand}
    {move : Move (transactionServices platform) Worker EngineCommand DurableBridgeOperation}
    (reached : TransactionEngine.Reachable platform before)
    (moved : before.move (TransactionEngine.run platform) action = some move) :
    TransactionEngine.Reachable platform (before.apply move) ∧ before.state.Grows move.state := by
  have after : TransactionEngine.Reachable platform (before.apply move) :=
    Async.Reachable.step reached moved trivial
  refine ⟨after, fun _ => after.chronicled, ?_⟩
  cases Config.moves_of_move moved with
  | answer _ replied => exact (BridgeTables.replies_of_reply replied).transitions_subset
  | _ => exact List.Subset.refl _

end Reachable

/-- **Commands are idempotent by their keys.** Let a transition of an operation be accepted under a
key, which is so for every append that the store has answered. A worker that is then started with
a command of that key changes nothing, whatever the others do, and is through with at most two
calls. With the accepted target, and valid as every accepted command is with any version, it
returns the operation as stored at a moment of its run, unless the store fails it. With another
target it throws. -/
theorem reissued_commands (reached : TransactionEngine.Reachable platform before) :
    (∀ worker command operation expectedVersion,
      .answered worker (.append command) (.ok operation) ∈ before.history →
      before.state.Accepted command.operationId command.transitionKey command.target ∧
        checkTransition { command with expectedVersion } = .ok ()) ∧
    ∀ worker command target start schedule final,
      before.state.Accepted command.operationId command.transitionKey target →
      before.move (TransactionEngine.run platform) (.start worker (.transition command)) =
        some start →
      (before.apply start).run (TransactionEngine.run platform) (fun _ _ => True) schedule =
        some final →
      (∀ entry, .start worker entry ∉ schedule) →
      (∀ first action rest middle move, schedule = first ++ action :: rest →
        (before.apply start).run (TransactionEngine.run platform) (fun _ _ => True) first =
          some middle →
        middle.move (TransactionEngine.run platform) action = some move →
        move.event.worker = worker → move.state = middle.state) ∧
      (2 ≤ schedule.countP (Action.answers worker) →
        (final.workers worker).atRest = true) ∧
      ∀ outcome, final.workers worker = .running (.settled outcome) →
        (command.target = target → checkTransition command = .ok () →
          (∃ middle operation, (before.apply start).Passes (TransactionEngine.run platform)
              (fun _ _ => True) schedule middle ∧
            middle.state.load command.operationId = some operation ∧ outcome = .ok operation) ∨
          ∃ error, .answer worker (.failed error) ∈ schedule ∧ outcome = .error error) ∧
        (command.target ≠ target → ∃ error, outcome = .error error) := by
  refine ⟨fun worker command operation expectedVersion answered => ?_,
    fun worker command target start schedule final accepted started runs unstarted => ?_⟩
  · obtain ⟨known, checked⟩ := reached.accepted answered
    exact ⟨known, checked⟩
  obtain ⟨status, same⟩ : start.status = .running (transition command) ∧
      (before.apply start).state = before.state := by
    simp only [Config.move, Option.ite_none_right_eq_some, Option.some.injEq] at started
    obtain ⟨_, rfl⟩ := started
    exact ⟨rfl, rfl⟩
  have stands : (before.apply start).workers worker = .running (transition command) := by
    have own : start.event.worker = worker := by
      simp only [Config.move, Option.ite_none_right_eq_some, Option.some.injEq] at started
      obtain ⟨_, rfl⟩ := started
      rfl
    rw [← status, ← own]
    exact Function.update_self ..
  have inside : ∀ left, ((before.apply start).workers worker).program = some left →
      left = transition command := by
    intro left known
    rw [stands] at known
    exact (Option.some.inj known).symm
  have keeps : (before.apply start).Keeps worker BridgeTables.Grows (fun later next => next = later)
      (Repeats platform command target) [] := by
    intro left known
    refine ⟨before.state, ?_, same ▸ .refl _⟩
    rw [inside left known]
    exact transition_ensures reached.chronicled accepted
  have stays : ∀ (config : Config (transactionServices platform) Worker EngineCommand
      DurableBridgeOperation) action move, TransactionEngine.Reachable platform config →
      config.move (TransactionEngine.run platform) action = some move → True →
      TransactionEngine.Reachable platform (config.apply move) ∧ config.state.Grows move.state :=
    fun config action move reached moved _ => reached.grows moved
  have begun := (reached.grows started).1
  refine ⟨fun first action rest middle move split runs moved own => ?_, fun answers => ?_,
    fun outcome settled => ?_⟩
  · refine keeps.guaranteed BridgeTables.Grows.refl (fun _ _ _ => .trans) stays begun runs
      (fun entry member => unstarted entry ?_) moved trivial own fun _ => rfl
    rw [split]
    exact List.mem_append_left _ member
  · exact Config.atRest_of_run (fun left known => inside left known ▸ transition_within command)
      runs unstarted answers
  · obtain ⟨_, served, kept, _, _, visited⟩ :=
      keeps.run BridgeTables.Grows.refl (fun _ _ _ => .trans) stays begun runs unstarted
    rw [List.append_nil] at kept
    obtain ⟨_, ⟨again, throws⟩, _⟩ := kept _ (congrArg Status.program settled)
    refine ⟨fun equal checked => ?_, throws⟩
    rcases again equal checked with
      ⟨answered, member, operation, loaded, returned⟩ | ⟨answered, member, error, chosen, thrown⟩
    · obtain ⟨_, _, middle, passes, state⟩ := visited answered member
      exact .inl ⟨middle, operation, passes, state ▸ loaded, returned⟩
    · exact .inr ⟨error, chosen ▸ (visited answered member).1, thrown⟩

end TransactionEngine

end Runs

/-! ## A rejection that is issued again -/

namespace RejectedOperation

/-- The command of before, with a version that the operation never had. -/
def again : TransitionInput := { command with expectedVersion := .ofNat 7 }

def repeated : List (Action (transactionServices isoPlatform) Unit EngineCommand) :=
  [.issue (), .answer () .committed, .issue (), .answer () .committed]

/-- The command can be issued again, and is through after its calls. -/
def Engine.repeats (before : Engine) : Bool :=
  (before.move (TransactionEngine.run isoPlatform) (.start () (.transition again))).any
    fun start => ((before.apply start).run (TransactionEngine.run isoPlatform) (fun _ _ => True)
      repeated).any fun final => (final.workers ()).program.any fun
        | .settled _ => true
        | .await _ _ => false

theorem repeated_returns : ∃ before start final : Engine, ∃ middle operation,
    TransactionEngine.Reachable isoPlatform before ∧
      start.run (TransactionEngine.run isoPlatform) (fun _ _ => True) repeated = some final ∧
      start.Passes (TransactionEngine.run isoPlatform) (fun _ _ => True) repeated middle ∧
      middle.state.load again.operationId = some operation ∧
      (final.workers ()).program = some (.settled (.ok operation)) := by
  obtain ⟨before, reached, checked⟩ := Async.Reachable.exists_of_run
    (TransactionEngine.run isoPlatform) (fun _ _ => True) ⟨BridgeTables.empty, []⟩ schedule
    (fun before : Engine => (before.state.transitions.any fun row =>
      row.operationId = again.operationId ∧ row.transitionKey = again.transitionKey ∧
        row.toState = again.target) && Engine.repeats before) (by decide +kernel)
  rw [Bool.and_eq_true, List.any_eq_true] at checked
  obtain ⟨⟨row, member, named⟩, repeats⟩ := checked
  obtain ⟨start, started, ends⟩ := (Option.any_eq_true ..).mp repeats
  obtain ⟨final, runs, settles⟩ := (Option.any_eq_true ..).mp ends
  obtain ⟨_, _, returns⟩ := (TransactionEngine.reissued_commands reached).2 () again again.target
    start repeated final ⟨row, member, of_decide_eq_true named⟩ started runs (by simp [repeated])
  cases status : final.workers () with
  | running left =>
      rw [status] at settles
      cases left with
      | settled outcome =>
          rcases (returns outcome status).1 rfl rfl with
            ⟨middle, operation, passes, loaded, rfl⟩ | ⟨error, chosen, _⟩
          · exact ⟨before, _, final, middle, operation, reached, runs, passes, loaded, by
              rw [status]; rfl⟩
          · simp [repeated] at chosen
      | await call resume => cases settles
  | _ =>
      rw [status] at settles
      cases settles

end RejectedOperation

end InterWeave
