import InterWeave.Bridge.TransactionHistories

/-! # Policy decisions of operations

Only the steps out of `CREATED` look at the decision that a command carries, but every
step stores it. The decision of the policy check stays where no later command that is written
brings another one.
-/

namespace InterWeave

open Async
open BridgeTables (newRow firstTransition nextSnapshot nextTransition)

/-- The states that an operation enters on a policy decision. -/
def BridgeState.Decides (state : BridgeState) : Prop :=
  state = .policyChecked ∨ state = .policyRejected

/-- What a decision must say for such a state. -/
def PolicyDecision.Suits (decision : PolicyDecision) (target : BridgeState) : Prop :=
  (target = .policyChecked → decision.outcome = .allow) ∧
    (target = .policyRejected → decision.outcome ≠ .allow)

/-- Every command that is accepted for such a state brings a decision that suits it. -/
theorem checkDecision_suits {command : TransitionInput}
    (accepted : TransactionEngine.checkDecision command = .ok ()) (decides : command.target.Decides) :
    ∃ decision, command.policyDecision = some decision ∧ decision.Suits command.target := by
  rw [TransactionEngine.checkDecision] at accepted
  cases carried : command.policyDecision with
  | none =>
      rw [carried] at accepted
      rcases decides with checked | rejected
      · rw [checked] at accepted
        cases accepted
      · rw [rejected] at accepted
        cases accepted
  | some decision =>
      refine ⟨decision, rfl, fun checked => ?_, fun rejected allowed => ?_⟩
      · by_contra refused
        rw [carried, checked] at accepted
        simp only [Option.all_some, refused, ne_eq, not_false_eq_true, decide_true, and_self,
          if_true] at accepted
        cases accepted
      · rw [carried, rejected] at accepted
        simp only [Option.all_some, allowed, ne_eq, not_true_eq_false, decide_false,
          decide_true, and_self, if_true, reduceCtorEq, Bool.false_eq_true, if_false] at accepted

namespace TransactionEngine

/-- What is appended has passed the check of its decision. -/
def asksDecided (_ : List (Exchange transactionInterface)) : TransactionCall → Prop
  | .append command => checkDecision command = .ok ()
  | _ => True

theorem run_decides (platform : Platform) (command : EngineCommand) :
    (run platform command).Follows (transcriptProtocol asksDecided) (fun _ _ => True) [] := by
  cases command with
  | create input =>
      rw [run, create]
      generalize checkCreate platform input = checks
      refine .ofExcept_seq (fun _ _ => ?_) fun _ _ => trivial
      exact ⟨trivial, fun _ _ => trivial⟩
  | transition command =>
      rw [run, transition]
      generalize checkTransition command = checks
      refine .ofExcept_seq (fun _ _ => ?_) fun _ _ => trivial
      refine .call_seq trivial (fun found _ => ?_) fun _ _ => trivial
      cases found with
      | none => trivial
      | some operation =>
          dsimp only
          split
          · refine .call_seq trivial (fun existing _ => ?_) fun _ _ => trivial
            split <;> trivial
          · refine .ofExcept_seq (fun _ accepted => ?_) fun _ _ => trivial
            exact ⟨accepted, fun _ _ => trivial⟩

end TransactionEngine

section Runs

variable {Worker : Type}

/-- The decision, if any, of the first accepted command that took an operation to a state. -/
def recordedWith (id : JsString) (target : BridgeState) :
    List (Event transactionInterface Worker EngineCommand) → Option (Option PolicyDecision)
  | [] => none
  | .answered _ (.append command) (.ok _) :: earlier =>
      (recordedWith id target earlier).or
        (if command.operationId = id ∧ command.target = target then some command.policyDecision
          else none)
  | _ :: earlier => recordedWith id target earlier

/-- **No other decision.** A command that is written to an operation past `CREATED` carries no
decision, or the one that is stored. -/
def KeepsDecision (platform : Platform)
    (view : View (transactionServices platform) Worker EngineCommand) :
    Event transactionInterface Worker EngineCommand → Prop
  | .answered _ (.append command) (.ok _) =>
      view.state.findTransition command.operationId command.transitionKey = none →
        ∀ row ∈ view.state.operations, row.id = command.operationId → row.state ≠ .created →
          command.policyDecision = none ∨ command.policyDecision = row.operation.policyDecision
  | _ => True

instance (platform : Platform)
    (view : View (transactionServices platform) Worker EngineCommand)
    (event : Event transactionInterface Worker EngineCommand) :
    Decidable (KeepsDecision platform view event) :=
  match event with
  | .answered _ (.append _) (.ok _) => inferInstanceAs (Decidable (_ → _))
  | .answered _ (.append _) (.error _) => isTrue trivial
  | .answered _ (.create _ _) _ => isTrue trivial
  | .answered _ (.get _) _ => isTrue trivial
  | .answered _ (.findTransition _ _) _ => isTrue trivial
  | .started _ _ => isTrue trivial
  | .issued _ _ => isTrue trivial
  | .crashed _ => isTrue trivial

/-- What the log of an operation says of its decisions. -/
structure Decided (tables : BridgeTables)
    (history : List (Event transactionInterface Worker EngineCommand)) : Prop where
  logged : ∀ id target, recordedWith id target history ≠ none →
    ∃ transition ∈ tables.logOf id, transition.toState = target
  stored : ∀ row ∈ tables.operations, ∀ transition ∈ tables.logOf row.id,
    transition.toState.Decides → ∃ decision,
      recordedWith row.id transition.toState history = some (some decision) ∧
        decision.Suits transition.toState ∧ row.operation.policyDecision = some decision

theorem recordedWith_append (id : JsString) (target : BridgeState) (worker : Worker)
    (command : TransitionInput) (operation : DurableBridgeOperation)
    (earlier : List (Event transactionInterface Worker EngineCommand)) :
    recordedWith id target (.answered worker (.append command) (.ok operation) :: earlier) =
      (recordedWith id target earlier).or
        (if command.operationId = id ∧ command.target = target then some command.policyDecision
          else none) := rfl

/-- An operation that has decided is past `CREATED`. -/
theorem OperationRow.Recorded.ne_created {row : OperationRow} {log : List TransitionRow}
    (recorded : row.Recorded log) {transition : TransitionRow} (member : transition ∈ log)
    (later : transition.toState ≠ .created) : row.state ≠ .created := by
  intro created
  obtain ⟨last, ends, same⟩ := Option.map_eq_some_iff.mp recorded.last
  have whole := List.dropLast_append_getLast? last ends
  have ranks : (log.map fun row => row.toState.rank).IsChain (· < ·) :=
    (List.isChain_map _).mpr (recorded.chained.imp fun _ _ follows =>
      BridgeState.rank_lt_of_canTransition _ _ follows.2)
  have ordered := List.pairwise_map.mp ranks.pairwise
  rw [← whole] at ordered member
  rcases List.mem_append.mp member with before | final
  · have below := (List.pairwise_append.mp ordered).2.2 transition before last
      (List.mem_singleton_self _)
    rw [same, created] at below
    exact Nat.not_lt_zero _ below
  · rw [List.mem_singleton.mp final] at later
    exact later (same.trans created)

namespace Decided

variable {platform : Platform} {tables next : BridgeTables} {worker : Worker}
  {event : Event transactionInterface Worker EngineCommand}
  {history : List (Event transactionInterface Worker EngineCommand)}

/-- Events that are no accepted commands record nothing. -/
theorem silent (decided : Decided tables history)
    (same : ∀ id target, recordedWith id target (event :: history) =
      recordedWith id target history) : Decided tables (event :: history) where
  logged id target recorded := decided.logged id target (same id target ▸ recorded)
  stored row member transition listed decides := by
    rw [same]
    exact decided.stored row member transition listed decides

theorem created (decided : Decided tables history) {input : CreateBridgeOperation}
    (fresh : input.id ∉ tables.operations.map OperationRow.id)
    (rows : next.operations = tables.operations ++ [newRow input])
    (more : next.transitions = tables.transitions ++
      [firstTransition input (TransactionEngine.initialTransition input)]) :
    Decided next history := by
  refine ⟨fun id target recorded => ?_, fun row member transition listed decides => ?_⟩
  · obtain ⟨transition, listed, same⟩ := decided.logged id target recorded
    rw [BridgeTables.logOf_append more]
    exact ⟨transition, List.mem_append_left _ listed, same⟩
  · rw [BridgeTables.logOf_append more] at listed
    have old : transition ∈ tables.logOf row.id := by
      rcases List.mem_append.mp listed with old | last
      · exact old
      · split at last
        · rw [List.mem_singleton.mp last] at decides
          rcases decides with impossible | impossible <;> cases impossible
        · exact (List.not_mem_nil last).elim
    rw [rows] at member
    rcases List.mem_append.mp member with among | final
    · exact decided.stored row among transition old decides
    · rw [List.mem_singleton.mp final] at old
      have empty : tables.logOf (newRow input).id = [] := BridgeTables.logOf_eq_nil fresh
      rw [empty] at old
      exact (List.not_mem_nil old).elim

/-- A repeated command finds what was recorded before. -/
theorem repeated (decided : Decided tables history) {command : TransitionInput}
    {operation : DurableBridgeOperation}
    (duplicate : ∃ transition ∈ tables.transitions,
      transition.operationId = command.operationId ∧ transition.toState = command.target) :
    Decided tables (.answered worker (.append command) (.ok operation) :: history) := by
  obtain ⟨known, listed, named, reached⟩ := duplicate
  have inLog : known ∈ tables.logOf command.operationId :=
    List.mem_filter.mpr ⟨listed, decide_eq_true named⟩
  refine ⟨fun id target recorded => ?_, fun row member transition among decides => ?_⟩
  · rw [recordedWith_append] at recorded
    cases before : recordedWith id target history with
    | some decision =>
        exact decided.logged id target (by rw [before]; exact Option.some_ne_none _)
    | none =>
        rw [before, Option.none_or] at recorded
        split at recorded
        · rename_i own
          obtain ⟨rfl, rfl⟩ := own
          exact ⟨known, inLog, reached⟩
        · exact (recorded rfl).elim
  · obtain ⟨decision, recorded, suits, stored⟩ :=
      decided.stored row member transition among decides
    exact ⟨decision, by rw [recordedWith_append, recorded, Option.some_or], suits, stored⟩

/-- A command that is written keeps the decision, or is the first to bring it. -/
theorem appended (decided : Decided tables history) (chronicled : tables.Chronicled)
    {command : TransitionInput} {operation returned : DurableBridgeOperation} {attempt : Nat}
    (accepted : TransactionEngine.checkDecision command = .ok ())
    (keeps : ∀ row ∈ tables.operations, row.id = command.operationId → row.state ≠ .created →
      command.policyDecision = none ∨ command.policyDecision = row.operation.policyDecision)
    (loaded : tables.load command.operationId = some operation)
    (legal : operation.state.canTransition command.target = true)
    (rows : next.operations = tables.operations.map
      (OperationRow.updated command.operationId (nextSnapshot operation command)))
    (more : next.transitions = tables.transitions ++ [nextTransition operation command attempt]) :
    Decided next (.answered worker (.append command) (.ok returned) :: history) := by
  have own : (nextTransition operation command attempt).operationId = command.operationId := rfl
  refine ⟨fun id target recorded => ?_, fun row member transition listed decides => ?_⟩
  · rw [BridgeTables.logOf_append more]
    rw [recordedWith_append] at recorded
    cases before : recordedWith id target history with
    | some decision =>
        obtain ⟨transition, listed, same⟩ :=
          decided.logged id target (by rw [before]; exact Option.some_ne_none _)
        exact ⟨transition, List.mem_append_left _ listed, same⟩
    | none =>
        rw [before, Option.none_or] at recorded
        split at recorded
        · rename_i own
          obtain ⟨rfl, rfl⟩ := own
          rw [if_pos own]
          exact ⟨_, List.mem_append_right _ (List.mem_singleton_self _), rfl⟩
        · exact (recorded rfl).elim
  · obtain ⟨old, among, id, changed, kept⟩ := BridgeTables.mem_updated rows member
    rw [BridgeTables.logOf_append more, ← id] at listed
    rw [recordedWith_append, ← id]
    by_cases same : old.id = command.operationId
    · obtain ⟨_, _, snapshot⟩ := changed same
      have stores : row.operation.policyDecision =
          command.policyDecision.or old.operation.policyDecision := by
        obtain ⟨found, present, rfl⟩ := Option.map_eq_some_iff.mp loaded
        have named : found.id = command.operationId := by simpa using List.find?_some present
        rw [snapshot, BridgeTables.row_unique among (List.mem_of_find?_eq_some present)
          (same.trans named.symm)]
        rfl
      rw [same] at listed ⊢
      rcases List.mem_append.mp listed with before | last
      · obtain ⟨decision, recorded, suits, stored⟩ :=
          decided.stored old among transition (same ▸ before) decides
        have past : old.state ≠ .created := (chronicled old among).ne_created (same ▸ before)
          (by rcases decides with checked | rejected <;> simp [*])
        refine ⟨decision, ?_, suits, ?_⟩
        · rw [← same, recorded, Option.some_or]
        · rw [stores]
          rcases keeps old among same past with none | again
          · rw [none, Option.none_or, stored]
          · rw [again, stored, Option.some_or]
      · rw [if_pos own] at last
        obtain rfl := List.mem_singleton.mp last
        obtain ⟨decision, carried, suits⟩ := checkDecision_suits accepted decides
        refine ⟨decision, ?_, suits, by rw [stores, carried, Option.some_or]⟩
        have first : recordedWith command.operationId command.target history = none := by
          by_contra recorded
          obtain ⟨earlier, before, again⟩ := decided.logged _ _ recorded
          have states := (chronicled.appended loaded legal rows more row member).states_nodup
          rw [BridgeTables.logOf_append more, ← id, same, if_pos own, List.map_append,
            List.nodup_append] at states
          exact states.2.2 _ (List.mem_map_of_mem before) _ (List.mem_map_of_mem
            (List.mem_singleton_self _)) again
        change (recordedWith command.operationId command.target history).or _ = _
        rw [first, Option.none_or, if_pos ⟨rfl, rfl⟩, carried]
    · have other : (nextTransition operation command attempt).operationId ≠ old.id :=
        fun equal => same equal.symm
      rw [if_neg other, List.append_nil] at listed
      obtain ⟨decision, recorded, suits, stored⟩ :=
        decided.stored old among transition listed decides
      refine ⟨decision, by rw [recorded, Option.some_or], suits, ?_⟩
      rw [kept same]
      exact stored

end Decided

variable {platform : Platform} [DecidableEq Worker]
  {config : Config (transactionServices platform) Worker EngineCommand DurableBridgeOperation}

theorem decided_of_reachable
    (reached : Async.Reachable (TransactionEngine.run platform) (KeepsDecision platform)
      ⟨BridgeTables.empty, []⟩ config) :
    Decided config.state config.history := by
  refine reached.invariant (fun view => Decided view.state view.history) rfl
    ⟨fun _ _ recorded => (recorded rfl).elim, fun _ member => (List.not_mem_nil member).elim⟩ ?_
  intro config event state before step admitted ih
  have chronicled : config.state.Chronicled :=
    TransactionEngine.Reachable.chronicled (before.mono fun _ _ _ => trivial)
  cases step with
  | started _ => exact ih.silent fun _ _ => rfl
  | issued _ _ => exact ih.silent fun _ _ => rfl
  | crashed _ => exact ih.silent fun _ _ => rfl
  | @answered worker call answer here choice _ _ known allowed replied =>
      obtain ⟨_, reaches⟩ := allowed
      cases call with
      | create input initial =>
          obtain ⟨rfl, _⟩ := (TransactionEngine.run_asks here.1).admits_of_reaches reaches
          cases BridgeTables.replies_of_reply replied with
          | unchanged _ => exact ih.silent fun _ _ => rfl
          | created fresh rows more => exact (ih.created fresh rows more).silent fun _ _ => rfl
      | get id =>
          cases choice <;> cases replied <;> exact ih.silent fun _ _ => rfl
      | findTransition operationId transitionKey =>
          cases choice <;> cases replied <;> exact ih.silent fun _ _ => rfl
      | append command =>
          have accepted : TransactionEngine.checkDecision command = .ok () :=
            (TransactionEngine.run_decides platform here.1).admits_of_reaches reaches
          cases choice with
          | failed error =>
              cases replied
              exact ih.silent fun _ _ => rfl
          | committed =>
              rcases BridgeTables.append_cases (Option.some.inj replied) with
                ⟨rfl, found⟩ | ⟨fresh, operation, returned, attempt, rfl, loaded, legal, rows, more⟩
              · cases answer with
                | error error => exact ih.silent fun _ _ => rfl
                | ok operation =>
                    obtain ⟨duplicate, same, state⟩ := found operation rfl
                    obtain ⟨member, owned, _⟩ := BridgeTables.findTransition_some same
                    exact ih.repeated ⟨duplicate, member, owned, state⟩
              · exact ih.appended chronicled accepted (admitted fresh) loaded legal rows more

/-- What an operation stores of its policy decisions: past `POLICY_CHECKED` the ALLOW decision
that this state was recorded with, in `POLICY_REJECTED` the other decision it was rejected with. -/
def OperationRow.StoresDecision (tables : BridgeTables)
    (history : List (Event transactionInterface Worker EngineCommand)) (row : OperationRow) :
    Prop :=
  ((∃ transition ∈ tables.transitionsOf row.id, transition.toState = .policyChecked) →
    ∃ decision : PolicyDecision, decision.outcome = .allow ∧
      recordedWith row.id .policyChecked history = some (some decision) ∧
      row.operation.policyDecision = some decision) ∧
  (row.state = .policyRejected →
    ∃ decision : PolicyDecision, decision.outcome ≠ .allow ∧
      recordedWith row.id .policyRejected history = some (some decision) ∧
      row.operation.policyDecision = some decision)

/-- **Policy decisions.** In every run in which no command that is written to an operation past
`CREATED` brings another decision, every operation past `POLICY_CHECKED` stores the ALLOW decision
that the check was recorded with, and every rejected one the decision it was rejected with. -/
theorem policyDecisions_stored
    (reached : Async.Reachable (TransactionEngine.run platform) (KeepsDecision platform)
      ⟨BridgeTables.empty, []⟩ config) :
    ∀ row ∈ config.state.operations, row.StoresDecision config.state config.history := by
  intro row member
  have decided := decided_of_reachable reached
  have chronicled : config.state.Chronicled :=
    TransactionEngine.Reachable.chronicled (reached.mono fun _ _ _ => trivial)
  refine ⟨?_, fun rejected => ?_⟩
  · rintro ⟨transition, listed, checked⟩
    rw [BridgeTables.transitionsOf_eq_logOf chronicled member] at listed
    obtain ⟨decision, recorded, suits, stored⟩ :=
      decided.stored row member transition listed (.inl checked)
    exact ⟨decision, suits.1 checked, checked ▸ recorded, stored⟩
  · obtain ⟨last, ends, same⟩ := Option.map_eq_some_iff.mp (chronicled row member).last
    obtain ⟨decision, recorded, suits, stored⟩ := decided.stored row member last
      (List.mem_of_getLast? ends) (.inr (same.trans rejected))
    have state := same.trans rejected
    exact ⟨decision, suits.2 state, state ▸ recorded, stored⟩

end Runs

/-! ## A decision that is replaced -/

namespace ReplacedDecision

open RejectedOperation (input)

def decision (outcome : DecisionOutcome) : PolicyDecision where
  outcome := outcome
  reasonCodes := []
  policyId := js "policy"
  policyVersion := js "1"
  decidedAt := js "2026-08-13T12:01:00.000Z"
  matchedRuleIds := none

def command (version : Nat) (target : BridgeState) (policyDecision : Option PolicyDecision) :
    EngineCommand :=
  .transition {
    operationId := input.id
    transitionKey := target.text
    expectedVersion := .ofNat version
    target
    occurredAt := js "2026-08-13T12:01:00.000Z"
    reason := js "step"
    actor := js "operator"
    attempt := .ofNat 1
    policyDecision }

/-- An operation passes its policy check, and goes on with a command that may carry a
decision. -/
def schedule (carried : Option PolicyDecision) :
    List (Action (transactionServices isoPlatform) Unit EngineCommand) :=
  [.start () (.create input), .issue (), .answer () .committed,
    .start () (command 0 .policyChecked (some (decision .allow))), .issue (),
    .answer () .committed, .issue (), .answer () .committed,
    .start () (command 1 .sourcePreparing carried), .issue (), .answer () .committed, .issue (),
    .answer () .committed]

/-- The operation goes on with a decision. -/
def goesOnWith (outcome : DecisionOutcome) (config : RejectedOperation.Engine) : Bool :=
  config.state.operations.any fun row => decide (row.state = .sourcePreparing ∧
    row.operation.policyDecision.map PolicyDecision.outcome = some outcome ∧
    ∃ transition ∈ config.state.transitionsOf row.id, transition.toState = .policyChecked)

theorem decision_kept : ∃ config : RejectedOperation.Engine, ∃ row ∈ config.state.operations,
    row.state = .sourcePreparing ∧ row.StoresDecision config.state config.history := by
  obtain ⟨config, reached, checked⟩ := Async.Reachable.exists_of_run
    (TransactionEngine.run isoPlatform) (KeepsDecision isoPlatform) ⟨BridgeTables.empty, []⟩
    (schedule none) (goesOnWith .allow) (by decide +kernel)
  obtain ⟨row, member, state⟩ := List.any_eq_true.mp checked
  exact ⟨config, row, member, (of_decide_eq_true state).1,
    policyDecisions_stored reached row member⟩

/-- **An ALLOW decision is overwritten.** -/
theorem decision_replaced : ¬ ∀ config : RejectedOperation.Engine,
    Async.Reachable (TransactionEngine.run isoPlatform) (fun _ _ => True)
      ⟨BridgeTables.empty, []⟩ config →
    ∀ row ∈ config.state.operations, row.StoresDecision config.state config.history := by
  intro kept
  obtain ⟨config, reached, checked⟩ := Async.Reachable.exists_of_run
    (TransactionEngine.run isoPlatform) (fun _ _ => True) ⟨BridgeTables.empty, []⟩
    (schedule (some (decision .deny))) (goesOnWith .deny) (by decide +kernel)
  obtain ⟨row, member, state⟩ := List.any_eq_true.mp checked
  obtain ⟨_, denied, passed⟩ := of_decide_eq_true state
  obtain ⟨decision, allowed, _, stored⟩ := (kept config reached row member).1 passed
  rw [stored, Option.map_some, allowed] at denied
  cases denied

end ReplacedDecision
end InterWeave
