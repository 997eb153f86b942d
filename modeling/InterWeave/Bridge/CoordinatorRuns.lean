import InterWeave.Bridge.CoordinatorProgress
import InterWeave.Bridge.EvidencedRuns

/-! # Runs of the coordinators end

An iteration makes a bounded number of calls, and there are fewer iterations than states on a path.
So a worker that is started on a stored operation is through after a bounded number of answers,
with a terminal operation, with an error that was thrown at it, or with a refusal.
-/

namespace InterWeave

open Async

namespace BridgeCoordinator

variable {platform : Platform} {route : BridgeRoute} {id : JsString}
  {operation : DurableBridgeOperation}

/-! ## The number of calls -/

theorem engine_within (command : TransitionCommand) :
    (DurableTransactionEngine.transition command).Within 2 := by
  rw [DurableTransactionEngine.transition]
  cases DurableTransactionEngine.checkCommand command with
  | error error => exact .settled _ _
  | ok _ =>
      refine .call_seq fun found => ?_
      cases found with
      | none => exact .settled _ _
      | some operation =>
          dsimp only
          split
          · cases DurableTransactionEngine.checkDecision command with
            | error error => exact .settled _ _
            | ok _ => exact fun answer => .settled _ _
          · refine .call_seq fun existing => ?_
            split <;> exact .settled _ _

theorem transition_within (target : BridgeState) (reason : JsString)
    (policyDecision : Option PolicyDecision) :
    (transition platform route operation target reason policyDecision).Within 3 :=
  .call_seq fun _ => engine_within _

theorem some_within {program : BridgeProgram DurableBridgeOperation} {bound : Nat}
    (within : program.Within bound) : (some <$> program).Within bound := by
  rw [Program.map_eq]
  exact within.seq fun _ => .settled 0 _

theorem produce_within (stage : BridgeStage) (input : Except Thrown StageInput) :
    (produce route operation stage input).Within 1 := by
  cases input with
  | error error => exact .settled _ _
  | ok value =>
      refine .call_seq fun data => ?_
      cases (route.required stage).forM fun property =>
        data.requireText property.1 property.2 with
      | error error => exact .settled _ _
      | ok _ => exact .settled _ _

theorem put_within (evidence : StageEvidence) : (BridgeProgram.putEvidence evidence).Within 1 :=
  fun _ => .settled 0 _

theorem evidence_within (stage : BridgeStage) (input : Except Thrown StageInput) :
    (evidence platform route operation stage input).Within 4 := by
  refine .call_seq fun found => ?_
  cases found with
  | some existing => exact .settled _ _
  | none =>
      dsimp only
      split
      · exact .call_seq fun now => (produce_within stage input).seq fun data => put_within _
      · exact (produce_within stage input).seq fun data => .call_seq fun now => put_within _

theorem required_within (operationId : JsString) (stage : BridgeStage) :
    (requiredEvidence route operationId stage).Within 1 := by
  refine .call_seq fun found => ?_
  cases found <;> exact .settled _ _

theorem proceed_within (target : BridgeState) (reason : JsString)
    (policyDecision : Option PolicyDecision) :
    (some <$> transition platform route operation target reason policyDecision).Within 3 :=
  some_within (transition_within target reason policyDecision)

theorem followUp_within (effect stage : BridgeStage) (verdict : JsString)
    (passed failed : BridgeState) :
    (followUp platform route operation effect stage verdict passed failed).Within 8 :=
  (required_within operation.id effect).seq fun _ =>
    (evidence_within stage _).seq fun _ => transition_within _ _ none

theorem stage_within {α : Type} (stage : BridgeStage) (input : Except Thrown StageInput)
    {next : StageEvidence → BridgeProgram α} (rest : ∀ evidence, (next evidence).Within 3) :
    (evidence platform route operation stage input >>= next).Within 7 :=
  (evidence_within stage input).seq rest

theorem advance_within : (advance platform route operation).Within 9 := by
  unfold advance
  split
  · exact .call_seq fun _ => (proceed_within _ _ _).mono (by decide)
  · exact (proceed_within _ _ _).mono (by decide)
  · exact (stage_within _ _ fun _ => proceed_within _ _ _).mono (by decide)
  · exact some_within ((followUp_within _ _ _ _ _).mono (by decide))
  · exact some_within ((followUp_within _ _ _ _ _).mono (by decide))
  · exact (proceed_within _ _ _).mono (by decide)
  · exact ((required_within _ _).seq fun _ =>
      stage_within _ _ fun _ => proceed_within _ _ _).mono (by decide)
  · exact (proceed_within _ _ _).mono (by decide)
  · refine @Program.Within.seq _ _ _ _ _ 1 8 (required_within _ _) fun stored => ?_
    cases attestationFrom stored with
    | error error => exact .settled _ _
    | ok attestation =>
        refine .call_seq fun now => ?_
        split
        · exact (proceed_within _ _ _).mono (by decide)
        · exact stage_within _ _ fun _ => proceed_within _ _ _
  · exact some_within ((followUp_within _ _ _ _ _).mono (by decide))
  · exact some_within ((followUp_within _ _ _ _ _).mono (by decide))
  · exact (proceed_within _ _ _).mono (by decide)
  · exact (stage_within _ _ fun _ => proceed_within _ _ _).mono (by decide)
  · exact (proceed_within _ _ _).mono (by decide)
  · exact .settled _ _

theorem iterate_within : (iterate platform route operation).Within 10 := by
  refine .call_seq fun now => ?_
  split
  · exact (proceed_within _ _ _).mono (by decide)
  · exact advance_within

theorem drive_within (guard : Nat) :
    (drive platform route guard operation).Within (10 * guard) := by
  induction guard generalizing operation with
  | zero =>
      rw [drive]
      split <;> exact .settled _ _
  | succ guard ih =>
      rw [drive_succ, Nat.mul_succ, Nat.add_comm]
      split
      · exact .settled _ _
      · refine iterate_within.seq fun found => ?_
        cases found with
        | none => exact .settled _ _
        | some next => exact ih

theorem run_within : (run platform route id).Within 241 := by
  refine .call_seq fun found => ?_
  cases found with
  | none => exact .settled _ _
  | some operation => exact drive_within 24

end BridgeCoordinator

/-! ## Runs -/

section Runs

variable {Worker : Type} [DecidableEq Worker] {platform : Platform} {route : BridgeRoute}
  {actor : Option JsString} {id : JsString}

variable {admits : BridgeView Worker → Event bridgeInterface Worker Unit → Prop}
  [∀ view event, Decidable (admits view event)]
  {before final : Config bridgeServices Worker Unit DurableBridgeOperation} {worker : Worker}
  {start : Move bridgeServices Worker Unit DurableBridgeOperation}
  {schedule : List (Action bridgeServices Worker Unit)} {stored : DurableBridgeOperation}

/-- A worker that is started on a stored operation ends as its program ensures of the calls that it
was answered since, and needs no more answers than its program makes calls. -/
theorem BridgeCoordinator.ends_of_run (reasoned : route.Reasoned)
    (stores : before.state.Stores id stored)
    (started : before.move (fun _ => run platform route id) (.start worker ()) = some start)
    (runs : (before.apply start).run (fun _ => run platform route id) admits schedule = some final)
    (unstarted : ∀ entry, .start worker entry ∉ schedule) :
    (241 ≤ schedule.countP (Action.answers worker) → (final.workers worker).atRest = true) ∧
    ∃ served, final.history.filterMap (Event.answerTo worker) = served.map Served.exchange ++
        before.history.filterMap (Event.answerTo worker) ∧ (∀ answered ∈ served, ∃ middle,
          (before.apply start).Passes (fun _ => run platform route id) admits schedule middle ∧
            middle.state = answered.state) ∧
      ∀ outcome, final.workers worker = .running (.settled outcome) →
        Ends route id final.state served outcome := by
  obtain ⟨status, same, told⟩ : (before.apply start).workers worker =
      .running (run platform route id) ∧ (before.apply start).state = before.state ∧
      (before.apply start).history.filterMap (Event.answerTo worker) =
        before.history.filterMap (Event.answerTo worker) := by
    simp only [Config.move, Option.ite_none_right_eq_some, Option.some.injEq] at started
    obtain ⟨_, rfl⟩ := started
    exact ⟨Function.update_self .., rfl, rfl⟩
  have inside : ∀ left, ((before.apply start).workers worker).program = some left →
      left = run platform route id := by
    intro left known
    rw [status] at known
    exact (Option.some.inj known).symm
  have keeps : (before.apply start).Keeps worker (BridgeWorld.Continues id) (fun _ _ => True)
      (Ends route id) [] := by
    intro left known
    refine ⟨before.state, ?_, same ▸ .refl _⟩
    rw [inside left known]
    exact run_ensures reasoned stores.copies
  have stays : ∀ (config : Config bridgeServices Worker Unit DurableBridgeOperation) action move,
      True → config.move (fun _ => run platform route id) action = some move →
      admits config.toView move.event →
      True ∧ BridgeWorld.Continues id config.state move.state := by
    intro config action move _ moved _
    refine ⟨trivial, ?_⟩
    cases Config.moves_of_move moved with
    | answer _ replied => exact BridgeWorld.continues_of_reply replied
    | _ => exact .refl _
  obtain ⟨_, served, kept, _, listed, visited⟩ := keeps.run BridgeWorld.Continues.refl
    (fun _ _ _ => .trans) stays trivial runs unstarted
  rw [List.append_nil] at kept
  refine ⟨fun answers => ?_, served, told ▸ listed,
    fun answered member => (visited answered member).2.2, fun outcome settled => ?_⟩
  · exact Config.atRest_of_run (fun left known => inside left known ▸ run_within) runs unstarted
      answers
  · obtain ⟨_, ended, continues⟩ := kept _ (congrArg Status.program settled)
    cases outcome with
    | ok operation => exact ended
    | error error =>
        refine ended.imp_right ?_
        rintro ⟨copy, copies, refused⟩
        exact ⟨copy, copies.continues continues, refused⟩

/-- **Runs of the coordinators make progress.** The loop iterates until the operation is terminal.
Whatever others do to the operation meanwhile, an iteration on any copy of the stored operation
comes back with a copy in a strictly later state, or it throws what a service or a store has
answered last or a refusal that rests on its answers. So a worker that is started on any stored
operation is through after 241 answers at most, with a terminal operation or with such an error of
the calls that it was answered since, and never because its iterations are used up. -/
theorem BridgeCoordinator.runs_progress
    (known : route = lockMintRoute actor ∨ route = burnReleaseRoute actor) :
    (∀ guard operation, drive platform route (guard + 1) operation =
      if operation.state.terminal then pure operation
      else iterate platform route operation >>= fun
        | some next => drive platform route guard next
        | none => pure operation) ∧
    (∀ world served operation, world.Copies id operation → operation.state.terminal = false →
      Ensures id (Progresses route id operation) (iterate platform route operation) world served) ∧
    ∀ (before : Config bridgeServices Worker Unit DurableBridgeOperation) worker start schedule
      final stored, before.state.Stores id stored →
      before.move (fun _ => run platform route id) (.start worker ()) = some start →
      (before.apply start).run (fun _ => run platform route id) (fun _ _ => True) schedule =
        some final →
      (∀ entry, .start worker entry ∉ schedule) →
      (241 ≤ schedule.countP (Action.answers worker) → (final.workers worker).atRest = true) ∧
      (∀ operation, final.workers worker = .running (.settled (.ok operation)) →
        operation.state.terminal = true) ∧
      ∀ error, final.workers worker = .running (.settled (.error error)) →
        ∃ served : List (Served bridgeServices),
          final.history.filterMap (Event.answerTo worker) = served.map Served.exchange ++
            before.history.filterMap (Event.answerTo worker) ∧
          (∀ answered ∈ served, ∃ middle, (before.apply start).Passes
            (fun _ => run platform route id) (fun _ _ => True) schedule middle ∧
              middle.state = answered.state) ∧
          (ThrownBy served error ∨ ∃ copy, final.state.Copies id copy ∧
            copy.state.terminal = false ∧ BridgeRefusal route id copy served error ∧
              ∀ state, error ≠ route.stopped state) := by
  have reasoned := BridgeRoute.reasoned known
  refine ⟨fun guard operation => drive_succ guard,
    fun world served operation copies running => iterate_ensures reasoned copies running,
    fun before worker start schedule final stored stores started runs unstarted => ?_⟩
  obtain ⟨answers, served, told, visited, ends⟩ := ends_of_run reasoned stores started runs unstarted
  refine ⟨answers, fun operation settled => ends _ settled, fun error settled => ?_⟩
  refine ⟨served, told, visited, (ends _ settled).imp_right ?_⟩
  rintro ⟨copy, copies, running, refusal⟩
  refine ⟨copy, copies, running, refusal, refusal.not_stopped ?_⟩
  rcases known with rfl | rfl <;> rfl

end Runs

/-! ## A lock without a transaction -/

namespace BridgeExample

/-- The operation as it was created. -/
theorem stores : ∃ operation, (BridgeView.opened Unit table).state.Stores input.id operation := by
  obtain ⟨operation, made⟩ := created
  obtain ⟨found, recorded, state, states⟩ := DurableTransactionEngine.create_ok made
  refine ⟨operation, found, recorded.id, ?_, ?_⟩
  · rw [states]
    exact List.isChain_singleton _
  · rw [states, state]
    rfl

def returnsValue : BridgeProgram DurableBridgeOperation → Bool
  | .settled (.ok _) => true
  | _ => false

def returnsError : BridgeProgram DurableBridgeOperation → Bool
  | .settled (.error _) => true
  | _ => false

/-- Whether a worker that is started on the operation comes to a configuration by a schedule. -/
def comesTo (schedule : List (Action bridgeServices Unit Unit))
    (check : Config bridgeServices Unit Unit DurableBridgeOperation → Bool) : Bool :=
  ((Config.initial (BridgeView.opened Unit table)).move run (.start () ())).any fun start =>
    (((Config.initial (BridgeView.opened Unit table)).apply start).run run (fun _ _ => True)
      schedule).any check

/-- The operation expires before anything else. -/
def expires : List (Action bridgeServices Unit Unit) :=
  exchanges [.stored, .instant late, .instant late, .stored, .stored]

theorem expires_terminal : ∃ final : Config bridgeServices Unit Unit DurableBridgeOperation,
    ∃ operation, final.workers () = .running (.settled (.ok operation)) ∧
      operation.state.terminal = true := by
  have comes :
      comesTo expires (fun final => (final.workers ()).program.any returnsValue) = true := by
    decide +kernel
  obtain ⟨start, started, ended⟩ := (Option.any_eq_true ..).mp comes
  obtain ⟨final, runs, settled⟩ := (Option.any_eq_true ..).mp ended
  obtain ⟨stored, stores⟩ := stores
  obtain ⟨_, terminal, _⟩ := (@BridgeCoordinator.runs_progress Unit _ isoPlatform _ none
    input.id (.inl rfl)).2.2 _ () start expires final stored stores started runs
    (by simp [expires, exchanges])
  obtain ⟨left, program, done⟩ := (Option.any_eq_true ..).mp settled
  unfold returnsValue at done
  split at done
  · rename_i operation
    have status := Status.running_of_settled program
    exact ⟨final, operation, status, terminal operation status⟩
  · cases done

/-- The ledger returns a lock without a transaction. -/
def locksNothing : List (Action bridgeServices Unit Unit) :=
  exchanges ([BridgeChoice.stored] ++ [BridgeChoice.instant early, .decision decision] ++
    transition ++ [BridgeChoice.instant early] ++ transition ++
    [BridgeChoice.instant early, .stored, .result [text "transactionId" "", text "lockId" "lock"]])

/-- No call was answered with an error. -/
def serves (history : List (Event bridgeInterface Unit Unit)) : Bool :=
  history.all fun
    | .answered _ _ (.error _) => false
    | _ => true

/-- **The coordinator refuses the lock with an error that nobody threw.** -/
theorem lock_refused : ¬ ∀ (before final : Config bridgeServices Unit Unit DurableBridgeOperation)
    worker start schedule stored, before.state.Stores input.id stored →
    before.move run (.start worker ()) = some start →
    (before.apply start).run run (fun _ _ => True) schedule = some final →
    (∀ entry, .start worker entry ∉ schedule) → ∀ error,
    final.workers worker = .running (.settled (.error error)) →
    ∃ call, .answered worker call (.error error) ∈ final.history := by
  intro claim
  have comes : comesTo locksNothing (fun final => serves final.history &&
      (final.workers ()).program.any returnsError) = true := by
    decide +kernel
  obtain ⟨start, started, ended⟩ := (Option.any_eq_true ..).mp comes
  obtain ⟨final, runs, settled⟩ := (Option.any_eq_true ..).mp ended
  rw [Bool.and_eq_true] at settled
  obtain ⟨served, settled⟩ := settled
  obtain ⟨stored, stores⟩ := stores
  obtain ⟨left, program, done⟩ := (Option.any_eq_true ..).mp settled
  unfold returnsError at done
  split at done
  · rename_i error
    obtain ⟨call, thrown⟩ := claim _ final () start locksNothing stored stores started runs
      (by simp [locksNothing, exchanges]) error (Status.running_of_settled program)
    cases List.all_eq_true.mp served _ thrown
  · cases done

end BridgeExample

end InterWeave
