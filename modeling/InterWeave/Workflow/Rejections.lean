import InterWeave.Core.IsoDate
import InterWeave.Workflow.WorkflowProtocol
import Mathlib.Data.Fintype.Basic

/-! # Rejected executions and applied actions

A retry of an execution that is in progress makes all checks again, and it records a rejection
when one of them fails. An earlier run may have called the handler and crashed before its answer,
another one may be about to call it. If there is none of these, and the handler has rejected
every call, the rejection is final.
-/

namespace InterWeave

open Async

/-- A handler rejects only what it has not applied. -/
def rejectsUnapplied (applied : Bool) : WorkflowActionResult → Bool
  | .rejected _ _ => !applied
  | _ => true

/-- A view of a pool of workflow workers. -/
abbrev WorkflowView (answers : Bool → WorkflowActionResult → Bool) (Worker : Type) : Type :=
  View (workflowServices answers) Worker WorkflowCommand

/-- Nothing is registered, executed or applied. -/
def WorkflowView.empty (answers : Bool → WorkflowActionResult → Bool) (Worker : Type) :
    WorkflowView answers Worker :=
  ⟨WorkflowWorld.empty, []⟩

section Calls

variable {Worker : Type} [DecidableEq Worker]

/-- The workers whose handler calls for an execution have not been answered with a rejection,
once for each call. A worker stays here when it crashes before the answer. -/
def unrefused (id : JsString) : List (Event workflowInterface Worker WorkflowCommand) → List Worker
  | [] => []
  | .issued worker (.act action) :: earlier =>
      if action.executionId = id then worker :: unrefused id earlier else unrefused id earlier
  | .answered worker (.act action) (.ok (.rejected _ _)) :: earlier =>
      if action.executionId = id then (unrefused id earlier).erase worker
      else unrefused id earlier
  | _ :: earlier => unrefused id earlier

/-- A worker that waits for the handler has not been refused. -/
theorem mem_unrefused_of_outstanding {worker : Worker}
    {history : List (Event workflowInterface Worker WorkflowCommand)} {action : WorkflowAction}
    (waits : outstanding worker history = some (.act action)) :
    worker ∈ unrefused action.executionId history := by
  induction history with
  | nil => cases waits
  | cons event earlier ih =>
      by_cases same : event.worker = worker
      · subst same
        cases event with
        | issued worker call =>
            simp only [outstanding, Event.worker, ↓reduceIte, Option.some.injEq] at waits
            subst waits
            simp only [unrefused, ↓reduceIte]
            exact List.mem_cons_self
        | _ => simp only [outstanding, ↓reduceIte, reduceCtorEq] at waits
      · rw [outstanding_cons_of_ne same] at waits
        have before := ih waits
        unfold unrefused
        split
        · rename_i equal
          cases equal
        · rename_i equal
          cases equal
          split
          · exact List.mem_cons_of_mem _ before
          · exact before
        · rename_i equal
          cases equal
          split
          · exact (List.mem_erase_of_ne fun equal => same equal.symm).mpr before
          · exact before
        · rename_i equal
          cases equal
          exact before

end Calls

section Rejections

variable (engine : WorkflowEngine) (id : JsString) {Worker : Type} [DecidableEq Worker]

/-- Where a worker stands, it may still have the handler apply the action of an execution. -/
def mayAct (here : WorkflowCommand × WorkflowPhase) : Bool :=
  match here with
  | (.register _, _) => false
  | (.execute input, phase) => input.id = id && phase.underway

/-- The worker may still have the action of an execution applied. -/
def underwayTo (worker : Worker)
    (history : List (Event workflowInterface Worker WorkflowCommand)) : Bool :=
  ((workflowProtocol engine).localOf worker history).any (mayAct id)

/-- The stored status of an execution. -/
def WorkflowWorld.statusOf (world : WorkflowWorld) : Option WorkflowExecutionStatus :=
  (world.executions id).map WorkflowExecutionRecord.status

/-- An execution is rejected only when the handler has rejected all calls for it and no run is
on its way to the handler. -/
def RejectsAlone {answers : Bool → WorkflowActionResult → Bool}
    (view : WorkflowView answers Worker) : Event workflowInterface Worker WorkflowCommand → Prop
  | .answered _ (.finish id requestHash .rejected _ _ _) _ =>
      view.state.finishes id requestHash = true →
        unrefused id view.history = [] ∧
          ∀ worker, underwayTo engine id worker view.history = false
  | _ => True

instance [Fintype Worker] {answers : Bool → WorkflowActionResult → Bool}
    (view : WorkflowView answers Worker) (event : Event workflowInterface Worker WorkflowCommand) :
    Decidable (RejectsAlone engine view event) := by
  unfold RejectsAlone
  split <;> infer_instance

/-- The invariant of rejections. -/
structure RejectionInvariant (view : WorkflowView rejectsUnapplied Worker) : Prop where
  applied : view.state.hasApplied id = true → unrefused id view.history ≠ []
  rejected : view.state.statusOf id = some .rejected → unrefused id view.history = [] ∧
    ∀ worker, underwayTo engine id worker view.history = false

variable {engine id} {view : WorkflowView rejectsUnapplied Worker} {world : WorkflowWorld}

theorem RejectionInvariant.empty (id : JsString) :
    RejectionInvariant engine id (WorkflowView.empty rejectsUnapplied Worker) where
  applied done := by cases done
  rejected found := by cases found

theorem WorkflowWorld.statusOf_put (world : WorkflowWorld) (other : JsString)
    (record : WorkflowExecutionRecord) :
    (world.put other record).statusOf id =
      if id = other then some record.status else world.statusOf id := by
  by_cases same : id = other
  · subst same
    simp only [WorkflowWorld.statusOf, WorkflowWorld.put, Function.update_self, Option.map_some,
      ↓reduceIte]
  · simp only [WorkflowWorld.statusOf, WorkflowWorld.put, Function.update_of_ne same, same,
      ↓reduceIte]

theorem underwayTo_other {worker : Worker}
    {history : List (Event workflowInterface Worker WorkflowCommand)}
    {event : Event workflowInterface Worker WorkflowCommand} (other : event.worker ≠ worker) :
    underwayTo engine id worker (event :: history) = underwayTo engine id worker history := by
  rw [underwayTo, Protocol.localOf_cons_of_ne other, underwayTo]

/-- A step that leaves the handlers alone and does not reject the execution. -/
theorem RejectionInvariant.keeps (valid : RejectionInvariant engine id view)
    {event : Event workflowInterface Worker WorkflowCommand}
    (calls : unrefused id (event :: view.history) = unrefused id view.history)
    (applied : world.hasApplied id = view.state.hasApplied id)
    (rejected : world.statusOf id = some .rejected → view.state.statusOf id = some .rejected)
    (own : view.state.statusOf id = some .rejected →
      underwayTo engine id event.worker (event :: view.history) = false) :
    RejectionInvariant engine id (Protocol.after view event world) where
  applied done := by
    rw [Protocol.after_history, calls]
    exact valid.applied (applied ▸ done)
  rejected found := by
    have before := rejected found
    obtain ⟨none, others⟩ := valid.rejected before
    refine ⟨calls.trans none, fun worker => ?_⟩
    by_cases same : event.worker = worker
    · subst same
      exact own before
    · exact (underwayTo_other same).trans (others worker)

section Answers

variable {worker : Worker} {here : WorkflowCommand × WorkflowPhase} {call : WorkflowCall}
  {answer : workflowInterface.Answer call}

theorem underwayTo_of_known
    (known : (workflowProtocol engine).localOf worker view.history = some here) :
    underwayTo engine id worker view.history = mayAct id here := by
  rw [underwayTo, known]
  rfl

theorem underwayTo_answered
    (known : (workflowProtocol engine).localOf worker view.history = some here) :
    underwayTo engine id worker (.answered worker call answer :: view.history) =
      mayAct id ((workflowProtocol engine).next here call answer) := by
  rw [underwayTo, Protocol.localOf_answered_self, known]
  rfl

/-- Only a claim brings a run on its way to the handler. -/
theorem WorkflowPhase.underway_of_next {attestation : StoredGenericAttestation}
    {phase : WorkflowPhase} (unclaimed : ∀ record, call ≠ .claim record)
    (after : (phase.next engine attestation call answer).underway = true) :
    phase.underway = true := by
  cases call with
  | claim record => exact absurd rfl (unclaimed record)
  | now =>
      cases answer with
      | ok instant => exact after
      | error thrown => cases after
  | verify asked =>
      cases answer with
      | error thrown => cases after
      | ok valid =>
          cases phase with
          | checking workflow => rfl
          | _ => cases after
  | authorize workflow asked evaluatedAt =>
      cases answer with
      | error thrown => cases after
      | ok decision =>
          cases phase with
          | verified workflow => rfl
          | _ => cases after
  | getWorkflow asked version =>
      cases answer with
      | error thrown => cases after
      | ok workflow => cases workflow <;> cases after
  | register definition => cases answer <;> cases after
  | act action => cases after
  | finish asked hash status evidence result updatedAt => cases answer <;> cases after

/-- A claim that finds a settled execution does not. -/
theorem WorkflowPhase.closed_of_claim {attestation : StoredGenericAttestation}
    {phase : WorkflowPhase} {record : WorkflowExecutionRecord} {claim : WorkflowExecutionClaim}
    (settled : claim.record.status ≠ .inProgress) :
    phase.next engine attestation (.claim record) (.ok claim) = .closed := by
  cases phase with
  | found workflow => exact if_pos (.inr settled)
  | _ => rfl

/-- A run is not brought on its way to the handler of a rejected execution. -/
theorem quiet_answered {choice : (workflowServices rejectsUnapplied).Choice}
    (valid : RejectionInvariant engine id view)
    (known : (workflowProtocol engine).localOf worker view.history = some here)
    (allowed : (workflowProtocol engine).allowed here call)
    (replied : (workflowServices rejectsUnapplied).reply call choice view.state =
      some (answer, world)) (rejected : view.state.statusOf id = some .rejected) :
    underwayTo engine id worker (.answered worker call answer :: view.history) = false := by
  have quiet := (valid.rejected rejected).2 worker
  rw [underwayTo_of_known known] at quiet
  rw [underwayTo_answered known]
  obtain ⟨command, phase⟩ := here
  cases command with
  | register definition => rfl
  | execute input =>
      by_cases same : input.id = id
      · simp only [mayAct, same, decide_true, Bool.true_and] at quiet ⊢
        cases call with
        | claim record =>
            obtain ⟨_, hash, rfl⟩ := allowed
            cases answer with
            | error thrown => rfl
            | ok claim =>
                obtain ⟨found, stored, status⟩ := Option.map_eq_some_iff.mp rejected
                subst same
                have returned : claim.record = found := workflowServices_claimed stored replied
                have settled : claim.record.status ≠ .inProgress := by
                  rw [returned, status]
                  decide
                rw [WorkflowPhase.closed_of_claim settled]
                rfl
        | _ =>
            rw [← Bool.not_eq_true] at quiet ⊢
            exact fun after =>
              quiet (WorkflowPhase.underway_of_next (fun record same => by cases same) after)
      · simp only [mayAct, same, decide_false, Bool.false_and]

/-- An answer of the handler. -/
theorem RejectionInvariant.acted (valid : RejectionInvariant engine id view)
    {action : WorkflowAction} {answer : Except Thrown WorkflowActionResult}
    (waits : outstanding worker view.history = some (.act action))
    (same : action.executionId = id) (changes : view.state.Changes (.act action) world)
    (honest : ∀ result, answer = .ok result → rejectsUnapplied (world.hasApplied id) result = true) :
    RejectionInvariant engine id
      (Protocol.after view (.answered worker (.act action) answer) world) := by
  subst same
  have member := mem_unrefused_of_outstanding waits
  constructor
  · intro done
    have nonempty := List.ne_nil_of_mem member
    cases answer with
    | error thrown => exact nonempty
    | ok result =>
        cases result with
        | rejected reason evidence =>
            have unapplied := honest _ rfl
            rw [Protocol.after_state] at done
            simp only [rejectsUnapplied, done, Bool.not_true, Bool.false_eq_true] at unapplied
        | applied evidence => exact nonempty
        | alreadyApplied evidence => exact nonempty
        | uncertain reason evidence => exact nonempty
  · intro found
    have before : view.state.statusOf action.executionId = some .rejected := by
      rcases changes with rfl | ⟨_, rfl⟩
      · exact found
      · exact found
    rw [(valid.rejected before).1] at member
    exact (List.not_mem_nil member).elim

end Answers

theorem unrefused_act_of_ne {worker : Worker} {action : WorkflowAction}
    {history : List (Event workflowInterface Worker WorkflowCommand)}
    (answer : Except Thrown WorkflowActionResult) (other : action.executionId ≠ id) :
    unrefused id (.answered worker (.act action) answer :: history) = unrefused id history := by
  rcases answer with _ | _ | _ | _ | _
  · rfl
  · rfl
  · rfl
  · exact if_neg other
  · rfl

/-- An execution is claimed in progress. -/
theorem claims_in_progress {here : WorkflowCommand × WorkflowPhase}
    {record : WorkflowExecutionRecord}
    (allowed : (workflowProtocol engine).allowed here (.claim record)) :
    record.status = .inProgress := by
  obtain ⟨command, phase⟩ := here
  cases command with
  | register definition => cases allowed
  | execute input =>
      obtain ⟨_, hash, rfl⟩ := allowed
      rfl

/-- **Every step whose rejections are alone keeps the invariant.** -/
theorem RejectionInvariant.preserves :
    (workflowProtocol engine).Preserves
      (fun (view : WorkflowView rejectsUnapplied Worker) event => RejectsAlone engine view event)
      (RejectionInvariant engine id) where
  started view worker command valid _ _ := by
    refine valid.keeps rfl rfl (fun found => found) fun _ => ?_
    rw [underwayTo, Event.worker, Protocol.localOf_started_self]
    cases command with
    | register definition => rfl
    | execute input => exact Bool.and_false _
  issued view worker call here valid _ known allowed := by
    have kept : underwayTo engine id worker (.issued worker call :: view.history) =
        underwayTo engine id worker view.history := by
      rw [underwayTo, Protocol.localOf_issued, underwayTo]
    cases call with
    | act action =>
        by_cases same : action.executionId = id
        · refine ⟨fun _ => ?_, fun found => ?_⟩
          · rw [Protocol.after_history]
            simp only [unrefused, same, ↓reduceIte]
            exact List.cons_ne_nil _ _
          · have quiet := (valid.rejected found).2 worker
            rw [underwayTo_of_known known] at quiet
            obtain ⟨command, phase⟩ := here
            cases command with
            | register definition => cases allowed
            | execute input =>
                obtain ⟨workflow, rfl, _, _, rfl⟩ := allowed
                have own : input.id = id := same
                simp only [mayAct, own, decide_true, Bool.true_and] at quiet
                cases quiet
        · refine valid.keeps (if_neg same) rfl (fun found => found) fun found => ?_
          exact kept.trans ((valid.rejected found).2 worker)
    | _ =>
        exact valid.keeps rfl rfl (fun found => found) fun found =>
          kept.trans ((valid.rejected found).2 worker)
  crashed view worker here valid _ _ := by
    refine valid.keeps rfl rfl (fun found => found) fun _ => ?_
    rw [underwayTo, Event.worker, Protocol.localOf_crashed_self]
    rfl
  answered view worker call answer here choice world valid admitted waits known allowed replied := by
    have changes := workflowServices_changes replied
    have own := quiet_answered valid known allowed replied
    cases call with
    | act action =>
        by_cases same : action.executionId = id
        · refine valid.acted waits same changes fun result returned => ?_
          subst returned same
          exact workflowServices_handled replied
        · refine valid.keeps (unrefused_act_of_ne answer same) ?_ ?_ own
          · rcases changes with rfl | ⟨_, rfl⟩
            · rfl
            · rw [WorkflowWorld.hasApplied_apply, decide_eq_false same, Bool.false_or]
          · intro found
            rcases changes with rfl | ⟨_, rfl⟩
            · exact found
            · exact found
    | register definition =>
        obtain ⟨executions, applied⟩ := changes
        refine valid.keeps rfl ?_ ?_ own
        · rw [WorkflowWorld.hasApplied, applied, WorkflowWorld.hasApplied]
        · intro found
          rwa [WorkflowWorld.statusOf, executions] at found
    | claim record =>
        refine valid.keeps rfl ?_ ?_ own
        · rcases changes with rfl | ⟨_, rfl⟩
          · rfl
          · rfl
        · intro found
          rcases changes with rfl | ⟨absent, rfl⟩
          · exact found
          · rw [WorkflowWorld.statusOf_put] at found
            split at found
            · rw [claims_in_progress allowed] at found
              cases found
            · exact found
    | finish asked hash status evidence result updatedAt =>
        rcases changes with rfl | ⟨writes, record, rfl, rfl⟩
        · exact valid.keeps rfl rfl (fun found => found) own
        · by_cases rejects : record.status = .rejected ∧ id = asked
          · obtain ⟨rejects, rfl⟩ := rejects
            rw [rejects] at admitted
            obtain ⟨none, quiet⟩ := admitted writes
            refine ⟨fun done => (valid.applied done none).elim, fun _ => ⟨none, fun other => ?_⟩⟩
            by_cases self : worker = other
            · subst self
              rw [Protocol.after_history, underwayTo_answered known]
              obtain ⟨command, phase⟩ := here
              cases command with
              | register definition => rfl
              | execute input => cases answer <;> exact Bool.and_false _
            · refine (underwayTo_other ?_).trans (quiet other)
              exact self
          · refine valid.keeps rfl rfl (fun found => ?_) own
            rw [WorkflowWorld.statusOf_put] at found
            split at found
            · rename_i same
              exact absurd ⟨Option.some.inj found, same⟩ rejects
            · exact found
    | now =>
        obtain rfl := changes
        exact valid.keeps rfl rfl (fun found => found) own
    | getWorkflow asked version =>
        obtain rfl := changes
        exact valid.keeps rfl rfl (fun found => found) own
    | verify attestation =>
        obtain rfl := changes
        exact valid.keeps rfl rfl (fun found => found) own
    | authorize workflow attestation evaluatedAt =>
        obtain rfl := changes
        exact valid.keeps rfl rfl (fun found => found) own

end Rejections

/-- **Rejected executions are never applied.** In every run whose rejections are written when the
handler has rejected all calls for the execution and no other run is on its way to the handler,
the action of a rejected execution is not applied, then or later. -/
theorem rejected_never_applied {platform : Platform} {engine : WorkflowEngine} {Worker : Type}
    [DecidableEq Worker]
    {config : Config (workflowServices rejectsUnapplied) Worker WorkflowCommand WorkflowReply}
    (reached : Reachable (WorkflowCommand.program platform engine)
      (fun view event => RejectsAlone engine view event) (WorkflowView.empty _ Worker) config)
    {id : JsString} (rejected : config.state.statusOf id = some .rejected) :
    config.state.hasApplied id = false := by
  have valid := Protocol.invariant (WorkflowCommand.program_follows platform engine)
    (fun _ _ _ _ _ => workflowServices_possible) rfl (RejectionInvariant.empty id)
    RejectionInvariant.preserves reached
  rw [← Bool.not_eq_true]
  intro done
  exact valid.applied done (valid.rejected rejected).1

/-- Every execution of the run is of one input. -/
def Repeats (input : ExecuteWorkflowRequest) {Worker : Type} :
    Event workflowInterface Worker WorkflowCommand → Prop
  | .started _ (.execute other) => other = input
  | _ => True

instance (input : ExecuteWorkflowRequest) {Worker : Type}
    (event : Event workflowInterface Worker WorkflowCommand) : Decidable (Repeats input event) := by
  unfold Repeats
  split <;> infer_instance

namespace Collateral

def claims (entries : List (JsString × GenericClaimValue))
    (distinct : (entries.map Prod.fst).Nodup) : GenericClaims :=
  ⟨entries, distinct⟩

/-- A finalized deposit is to be recorded as collateral. -/
def workflow : WorkflowDefinition where
  id := js "IW:WORKFLOW:collateral"
  version := js "1.0.0"
  enabled := true
  sourceNetworkId := js "IW:NETWORK:ethereum"
  predicateType := js "CollateralDeposited"
  claimEquals := claims [(js "asset", .string (js "USDC"))] (List.nodup_singleton _)
  policyId := js "IW:POLICY:credit"
  policyVersion := js "3"
  actionType := .recordCantonCollateral
  actionConfiguration :=
    claims [(js "cantonTemplate", .string (js "CollateralEvidence"))] (List.nodup_singleton _)
  createdAt := js "2026-08-12T12:00:00.000Z"

def attestation : StoredGenericAttestation where
  statement := {
    version := js "1"
    id := js "IW:ATTESTATION:deposit"
    idempotencyKey := js "deposit"
    sourceNetworkId := js "IW:NETWORK:ethereum"
    sourceNetworkType := js "EVM"
    sourceTransactionId := js "0xtx"
    sourceEventPosition := js "100:2"
    predicateType := js "CollateralDeposited"
    claims := claims [(js "asset", .string (js "USDC"))] (List.nodup_singleton _)
    nonce := js "workflow_nonce_0001"
    policyVersion := js "attestation-policy"
    validatorSetId := js "set-1"
    threshold := .ofNat 2
    validFrom := js "2026-08-12T12:01:00.000Z"
    expiresAt := js "2026-08-12T13:00:00.000Z"
    createdAt := js "2026-08-12T12:00:00.000Z"
    observedStatePosition := js "finalized:100"
    observedAt := js "2026-08-12T12:02:00.000Z" }
  signatures := []
  validatorEvidence := []
  digest := js "sha256:digest"
  status := js "VERIFIED_EVIDENCE_ONLY"
  destinationMutationAuthorized := false
  recordedAt := js "2026-08-12T12:03:00.000Z"

def input (key : String) : ExecuteWorkflowRequest where
  id := js "IW:WORKFLOW_EXECUTION:" ++ js key
  idempotencyKey := js key
  workflowId := js "IW:WORKFLOW:collateral"
  workflowVersion := js "1.0.0"
  attestation := attestation
  createdAt := js "2026-08-12T12:04:00.000Z"

def engine : WorkflowEngine where
  handlers := [.recordCantonCollateral]
  unique := List.nodup_singleton _

/-- 2026-08-12T12:05:00.000Z. -/
def instant : Int := 1786536300000

def allowed : WorkflowDecision :=
  ⟨.allow, js "IW:POLICY:credit", js "3", [js "CREDIT_POLICY_ALLOWED"]⟩

def evidence : WorkflowActionEvidence :=
  ⟨js "canton-tx", js "offset-10", [js "completion"], js "2026-08-12T12:05:00.000Z"⟩

variable {answers : Bool → WorkflowActionResult → Bool}

/-- A worker runs a command, each call answered at once. -/
def runs (command : WorkflowCommand) (choices : List WorkflowChoice) :
    List (Action (workflowServices answers) Unit WorkflowCommand) :=
  .start () command :: choices.flatMap fun choice => [.issue (), .answer () (.inl choice)]

/-- An execution up to the answer of the handler. -/
def acts (key : String) (applies : Bool) (result : WorkflowActionResult) :
    List (Action (workflowServices answers) Unit WorkflowCommand) :=
  runs (.execute (input key)) [.stored, .stored, .verified true, .instant instant,
    .decided allowed, .handled applies result]

/-- The worker crashes before it records what the handler answered, and the attestation is no
longer valid when the execution is run again. -/
def retried (applies : Bool) (result : WorkflowActionResult) :
    List (Action (workflowServices answers) Unit WorkflowCommand) :=
  runs (.register workflow) [.stored] ++ acts "one" applies result ++ [.crash ()] ++
    runs (.execute (input "one")) [.stored, .stored, .verified false, .instant instant, .stored]

def rejected
    (config : Config (workflowServices answers) Unit WorkflowCommand WorkflowReply) : Bool :=
  config.state.statusOf (input "one").id = some .rejected

end Collateral

open Collateral in
/-- An execution that the handler has rejected is rejected again by a retry. -/
theorem rejected_never_applied_retried :
    ∃ config : Config (workflowServices rejectsUnapplied) Unit WorkflowCommand WorkflowReply,
      config.state.statusOf (input "one").id = some .rejected ∧
        config.state.hasApplied (input "one").id = false := by
  obtain ⟨config, reached, checked⟩ := Reachable.exists_of_run
    (WorkflowCommand.program isoPlatform engine) (fun view event => RejectsAlone engine view event)
    (WorkflowView.empty rejectsUnapplied Unit) (retried false (.rejected (js "CREDIT_LINE_CLOSED") []))
    Collateral.rejected (by decide +kernel)
  have status := of_decide_eq_true checked
  exact ⟨config, status, rejected_never_applied reached status⟩

open Collateral in
/-- **An applied action is rejected.** The handler applies the action, the worker crashes before
the answer is recorded, and the retry records a rejection when the attestation is verified
again. -/
theorem applied_then_rejected :
    ¬ ∀ (input : ExecuteWorkflowRequest)
      (config : Config (workflowServices rejectsUnapplied) Unit WorkflowCommand WorkflowReply),
      Reachable (WorkflowCommand.program isoPlatform engine) (fun _ event => Repeats input event)
        (WorkflowView.empty _ Unit) config →
      config.state.statusOf input.id = some .rejected →
      config.state.hasApplied input.id = false := by
  intro claim
  obtain ⟨config, reached, both⟩ := Reachable.exists_of_run
    (WorkflowCommand.program isoPlatform engine) (fun _ event => Repeats (input "one") event)
    (WorkflowView.empty rejectsUnapplied Unit) (retried true (.applied evidence))
    (fun config => Collateral.rejected config && config.state.hasApplied (input "one").id)
    (by decide +kernel)
  rw [Bool.and_eq_true] at both
  have unapplied := claim (input "one") config reached (of_decide_eq_true both.1)
  rw [both.2] at unapplied
  cases unapplied

end InterWeave
