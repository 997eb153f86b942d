import InterWeave.Async.Protocol
import InterWeave.Workflow.WorkflowEngine

/-! # What an execution knows

A run of `execute` may call the handler once its claim has returned an execution in progress and
every check has passed, and it finishes the execution with a rejection once a check has failed
or the handler has rejected. The checks depend on answers of the run itself, so where it stands
between the claim and its last write is read off its own steps.
-/

namespace InterWeave

open Async

/-- Where a run of `execute` stands. -/
inductive WorkflowPhase where
  | opening
  | found (workflow : WorkflowDefinition)
  /-- The claim returned an execution in progress, for a workflow that is enabled and accepts the
  attestation. -/
  | checking (workflow : WorkflowDefinition)
  | verified (workflow : WorkflowDefinition)
  | permitted (workflow : WorkflowDefinition)
  | refused
  | resolved (result : WorkflowActionResult)
  | closed

/-- What a run makes of the handler's answer. -/
def handled : Except Thrown WorkflowActionResult → WorkflowActionResult
  | .ok result => result
  | .error _ => .uncertain (js "ACTION_HANDLER_ERROR") []

/-- Whether the policy and the configuration let the handler be called. -/
def WorkflowEngine.permits (engine : WorkflowEngine) (workflow : WorkflowDefinition)
    (decision : WorkflowDecision) : Bool :=
  decision.policyId = workflow.policyId && decision.policyVersion = workflow.policyVersion &&
    decision.outcome = .allow && workflow.actionType ∈ engine.handlers

namespace WorkflowPhase

def next (engine : WorkflowEngine) (attestation : StoredGenericAttestation)
    (here : WorkflowPhase) : (call : WorkflowCall) → workflowInterface.Answer call → WorkflowPhase
  | .now, .ok _ => here
  | .getWorkflow _ _, .ok (some workflow) => .found workflow
  | .claim _, .ok claim =>
      match here with
      | .found workflow =>
          if claim.outcome = .conflict ∨ claim.record.status ≠ .inProgress then .closed
          else if workflow.enabled && workflow.accepts attestation then .checking workflow
          else .refused
      | _ => .closed
  | .verify _, .ok valid =>
      match here with
      | .checking workflow => if valid then .verified workflow else .refused
      | _ => .closed
  | .authorize _ _ _, .ok decision =>
      match here with
      | .verified workflow =>
          if engine.permits workflow decision then .permitted workflow else .refused
      | _ => .closed
  | .act _, answer => .resolved (handled answer)
  | _, _ => .closed

/-- Whether the run may still call the handler. -/
def underway : WorkflowPhase → Bool
  | .checking _ | .verified _ | .permitted _ => true
  | _ => false

/-- The calls a run may issue. -/
def Allows (input : ExecuteWorkflowRequest) (here : WorkflowPhase) : WorkflowCall → Prop
  | .now => True
  | .register _ => False
  | .getWorkflow id version => id = input.workflowId ∧ version = input.workflowVersion
  | .claim record => (∃ workflow, here = .found workflow) ∧ ∃ hash, record = input.initial hash
  | .verify attestation => (∃ workflow, here = .checking workflow) ∧
      attestation = input.attestation
  | .authorize workflow attestation _ => here = .verified workflow ∧
      attestation = input.attestation
  | .act action => ∃ workflow, here = .permitted workflow ∧
      workflow.id = input.workflowId ∧ workflow.version = input.workflowVersion ∧
      action = ⟨input.id, workflow, input.attestation⟩
  | .finish id _ status _ result _ => id = input.id ∧
      (here = .refused ∧ status = .rejected ∧ result = none ∨
        ∃ answer, here = .resolved answer ∧ status = answer.status ∧ result = some answer)

end WorkflowPhase

/-- A workflow is found under its own identifier and version. -/
def WorkflowCall.Possible : (call : WorkflowCall) → workflowInterface.Answer call → Prop
  | .getWorkflow id version, .ok (some workflow) => workflow.id = id ∧ workflow.version = version
  | _, _ => True

/-- A worker knows its command, and where it stands. -/
abbrev workflowProtocol (engine : WorkflowEngine) : Protocol workflowInterface WorkflowCommand where
  Local := WorkflowCommand × WorkflowPhase
  start command := (command, .opening)
  next here call answer :=
    match here with
    | (.register definition, _) => (.register definition, .closed)
    | (.execute input, phase) => (.execute input, phase.next engine input.attestation call answer)
  possible := WorkflowCall.Possible
  allowed here call :=
    match here with
    | (.register definition, _) => call = .register definition
    | (.execute input, phase) => phase.Allows input call
  settles _ := True

/-! ## Programs follow the protocol -/

namespace WorkflowEngine

variable {platform : Platform} {engine : WorkflowEngine} {input : ExecuteWorkflowRequest}

theorem reject_follows {hash : JsString} {evidence : List JsString} :
    (reject platform (input.initial hash) hash evidence).Follows (workflowProtocol engine)
      (fun _ _ => True) (.execute input, .refused) := by
  refine .call_seq trivial (fun now _ => ?_) fun _ _ => trivial
  exact ⟨⟨rfl, .inl ⟨rfl, rfl, rfl⟩⟩, fun _ _ => trivial⟩

theorem dispatch_follows {workflow : WorkflowDefinition} {hash : JsString}
    {reasons : List JsString} (found : workflow.id = input.workflowId)
    (version : workflow.version = input.workflowVersion) :
    (dispatch platform input workflow hash reasons).Follows (workflowProtocol engine)
      (fun _ _ => True) (.execute input, .permitted workflow) := by
  have asks : (WorkflowProgram.act ⟨input.id, workflow, input.attestation⟩).Follows
      (workflowProtocol engine)
      (fun there outcome => there = (.execute input, .resolved (handled outcome)))
      (.execute input, .permitted workflow) :=
    ⟨⟨workflow, rfl, found, version, rfl⟩, fun _ _ => rfl⟩
  refine .attempt_seq asks fun there outcome resolved => ?_
  subst resolved
  refine .ofExcept_seq (fun _ _ => ?_) fun _ _ => trivial
  refine .call_seq trivial (fun now _ => ?_) fun _ _ => trivial
  exact ⟨⟨rfl, .inr ⟨handled outcome, rfl, rfl, rfl⟩⟩, fun _ _ => trivial⟩

/-- The handler is called where the decision permits it. -/
theorem decided_follows {workflow : WorkflowDefinition} {hash : JsString}
    (found : workflow.id = input.workflowId) (version : workflow.version = input.workflowVersion)
    (decision : WorkflowDecision) :
    (if decision.policyId ≠ workflow.policyId ∨ decision.policyVersion ≠ workflow.policyVersion then
      reject platform (input.initial hash) hash [js "POLICY_VERSION_MISMATCH"]
    else if decision.outcome ≠ .allow then
      reject platform (input.initial hash) hash
        (if decision.reasons = [] then [decision.outcome.text] else decision.reasons)
    else if workflow.actionType ∉ engine.handlers then
      reject platform (input.initial hash) hash [js "ACTION_HANDLER_NOT_CONFIGURED"]
    else dispatch platform input workflow hash decision.reasons).Follows (workflowProtocol engine)
      (fun _ _ => True)
      (.execute input, if engine.permits workflow decision then .permitted workflow
        else .refused) := by
  by_cases policy : decision.policyId ≠ workflow.policyId ∨
      decision.policyVersion ≠ workflow.policyVersion
  · have forbids : engine.permits workflow decision = false := by
      unfold WorkflowEngine.permits
      rcases policy with id | version
      · simp only [id, decide_false, Bool.false_and]
      · simp only [version, decide_false, Bool.and_false, Bool.false_and]
    rw [if_pos policy, forbids, if_neg Bool.false_ne_true]
    exact reject_follows
  · rw [if_neg policy]
    rw [not_or, not_not, not_not] at policy
    by_cases allows : decision.outcome = .allow
    · rw [if_neg (not_not.mpr allows)]
      by_cases configured : workflow.actionType ∈ engine.handlers
      · have permits : engine.permits workflow decision = true := by
          simp only [WorkflowEngine.permits, policy, allows, configured, decide_true, Bool.and_self]
        rw [if_neg (not_not.mpr configured), permits, if_pos rfl]
        exact dispatch_follows found version
      · have forbids : engine.permits workflow decision = false := by
          simp only [WorkflowEngine.permits, configured, decide_false, Bool.and_false]
        rw [if_pos configured, forbids, if_neg Bool.false_ne_true]
        exact reject_follows
    · have forbids : engine.permits workflow decision = false := by
        simp only [WorkflowEngine.permits, allows, decide_false, Bool.and_false, Bool.false_and]
      rw [if_pos allows, forbids, if_neg Bool.false_ne_true]
      exact reject_follows

/-- Past the claim, where a run stands agrees with the branch it takes. -/
theorem authorized_follows {workflow : WorkflowDefinition} {hash : JsString}
    (found : workflow.id = input.workflowId) (version : workflow.version = input.workflowVersion) :
    (authorized platform engine input workflow hash).Follows (workflowProtocol engine)
      (fun _ _ => True)
      (.execute input, if workflow.enabled && workflow.accepts input.attestation
        then .checking workflow else .refused) := by
  by_cases enabled : workflow.enabled
  · by_cases accepts : workflow.accepts input.attestation
    · simp only [authorized, enabled, accepts, Bool.and_self, ↓reduceIte, Bool.not_true,
        Bool.false_eq_true]
      refine .call_seq ⟨⟨workflow, rfl⟩, rfl⟩ (fun valid _ => ?_) fun _ _ => trivial
      cases valid with
      | false => exact reject_follows
      | true =>
          refine .call_seq trivial (fun now _ => ?_) fun _ _ => trivial
          refine .call_seq ⟨rfl, rfl⟩ (fun decision _ => ?_) fun _ _ => trivial
          exact decided_follows found version decision
    · simp only [authorized, enabled, accepts, Bool.and_false, ↓reduceIte, Bool.not_true,
        Bool.false_eq_true, Bool.not_false]
      exact reject_follows
  · simp only [authorized, enabled, Bool.false_and, Bool.not_false, ↓reduceIte, Bool.false_eq_true]
    exact reject_follows

/-- **A run of `execute` follows the protocol.** -/
theorem execute_follows (input : ExecuteWorkflowRequest) :
    (engine.execute platform input).Follows (workflowProtocol engine) (fun _ _ => True)
      (.execute input, .opening) := by
  refine .ofExcept_seq (fun _ _ => ?_) fun _ _ => trivial
  refine .call_seq ⟨rfl, rfl⟩ (fun workflow filed => ?_) fun _ _ => trivial
  cases workflow with
  | none => trivial
  | some workflow =>
      obtain ⟨found, version⟩ := filed
      have opened : (workflowProtocol engine).next (.execute input, .opening)
          (.getWorkflow input.workflowId input.workflowVersion) (.ok (some workflow)) =
          (.execute input, .found workflow) := rfl
      rw [opened]
      refine .ofExcept_seq (fun hash _ => ?_) fun _ _ => trivial
      refine .call_seq ⟨⟨workflow, rfl⟩, hash, rfl⟩ (fun claim _ => ?_) fun _ _ => trivial
      by_cases conflict : claim.outcome = .conflict
      · rw [if_pos conflict]
        trivial
      · rw [if_neg conflict]
        by_cases progress : claim.record.status = .inProgress
        · rw [if_neg (not_not.mpr progress)]
          have stands : (workflowProtocol engine).next (.execute input, .found workflow)
              (.claim (input.initial hash)) (.ok claim) =
              (.execute input, if workflow.enabled && workflow.accepts input.attestation
                then .checking workflow else .refused) :=
            congrArg _ (if_neg (not_or.mpr ⟨conflict, not_not.mpr progress⟩))
          rw [stands]
          exact authorized_follows found version
        · rw [if_pos progress]
          trivial

end WorkflowEngine

/-- **Every worker follows the protocol.** -/
theorem WorkflowCommand.program_follows (platform : Platform) (engine : WorkflowEngine)
    (command : WorkflowCommand) :
    (command.program platform engine).Follows (workflowProtocol engine) (fun _ _ => True)
      (command, .opening) := by
  cases command with
  | register definition =>
      have registers : (WorkflowEngine.register platform definition).Follows
          (workflowProtocol engine) (fun _ _ => True) (.register definition, .opening) :=
        .ofExcept_seq (fun _ _ => ⟨rfl, fun _ _ => trivial⟩) fun _ _ => trivial
      exact .seq registers (fun _ _ _ => trivial) fun _ _ _ => trivial
  | execute input =>
      exact .seq (WorkflowEngine.execute_follows input) (fun _ _ _ => trivial) fun _ _ _ => trivial

/-! ## What answers do -/

namespace WorkflowWorld

/-- Whether `finish` writes. -/
def finishes (world : WorkflowWorld) (id requestHash : JsString) : Bool :=
  (world.executions id).any fun found =>
    found.requestHash = requestHash && found.status = .inProgress

/-- What a call may do to the stores and to the effects of the handlers. -/
def Changes (world : WorkflowWorld) : WorkflowCall → WorkflowWorld → Prop
  | .register _, next => next.executions = world.executions ∧ next.applied = world.applied
  | .claim record, next => next = world ∨
      world.executions record.id = none ∧ next = world.put record.id record
  | .act action, next => next = world ∨
      world.hasApplied action.executionId = false ∧ next = world.apply action
  | .finish id requestHash status _ _ _, next => next = world ∨
      world.finishes id requestHash = true ∧
        ∃ record, record.status = status ∧ next = world.put id record
  | _, next => next = world

theorem Changes.refl (world : WorkflowWorld) (call : WorkflowCall) : world.Changes call world := by
  cases call with
  | register definition => exact ⟨rfl, rfl⟩
  | claim record => exact .inl rfl
  | act action => exact .inl rfl
  | finish id requestHash status policyEvidence actionResult updatedAt => exact .inl rfl
  | _ => exact rfl

theorem hasApplied_apply (world : WorkflowWorld) (action : WorkflowAction) (id : JsString) :
    (world.apply action).hasApplied id =
      (decide (action.executionId = id) || world.hasApplied id) := rfl

section Replies

variable {answers : Bool → WorkflowActionResult → Bool} {world next : WorkflowWorld}

/-- An answer of a handler: at most one application, and a permitted report. -/
theorem handled_of_reply {action : WorkflowAction} {choice : WorkflowChoice}
    {answer : Except Thrown WorkflowActionResult}
    (replied : world.reply answers (.act action) choice = some (answer, next)) :
    world.Changes (.act action) next ∧
      ∃ result, answer = .ok result ∧ answers (next.hasApplied action.executionId) result = true := by
  cases choice with
  | handled applies result =>
      simp only [reply, Option.ite_none_right_eq_some, Bool.and_eq_true, Bool.not_eq_true',
        Option.some.injEq, Prod.mk.injEq] at replied
      obtain ⟨⟨once, honest⟩, rfl, rfl⟩ := replied
      cases applies with
      | false =>
          rw [Bool.or_false] at honest
          exact ⟨.inl rfl, result, rfl, honest⟩
      | true =>
          rw [Bool.and_true] at once
          rw [Bool.or_true] at honest
          refine ⟨.inr ⟨once, rfl⟩, result, rfl, ?_⟩
          rw [if_pos rfl, hasApplied_apply, decide_eq_true rfl, Bool.true_or]
          exact honest
  | _ => cases replied

theorem changes_of_finish {id requestHash : JsString} {status : WorkflowExecutionStatus}
    {policyEvidence : List JsString} {actionResult : Option WorkflowActionResult}
    {updatedAt : JsString} (world : WorkflowWorld) :
    world.Changes (.finish id requestHash status policyEvidence actionResult updatedAt)
      (world.finish id requestHash status policyEvidence actionResult updatedAt).2 := by
  unfold finish
  cases found : world.executions id with
  | none => exact .inl rfl
  | some record =>
      dsimp only
      split
      · exact .inl rfl
      · split
        · exact .inl rfl
        · rename_i same progress
          refine .inr ⟨?_, _, rfl, rfl⟩
          simp only [finishes, found, Option.any_some, not_not.mp same, not_not.mp progress,
            decide_true, Bool.and_self]

theorem changes_of_reply {call : WorkflowCall} {choice : WorkflowChoice}
    {answer : workflowInterface.Answer call}
    (replied : world.reply answers call choice = some (answer, next)) :
    world.Changes call next := by
  cases call with
  | act action => exact (handled_of_reply replied).1
  | register definition =>
      cases choice <;> cases replied
      unfold register
      split <;> exact ⟨rfl, rfl⟩
  | claim record =>
      cases choice <;> cases replied
      unfold claim
      cases found : world.executions record.id with
      | some existing => exact .inl rfl
      | none => exact .inr ⟨found, rfl⟩
  | finish id requestHash status policyEvidence actionResult updatedAt =>
      cases choice <;> cases replied
      exact changes_of_finish world
  | now =>
      cases choice <;> cases replied
      exact rfl
  | getWorkflow id version =>
      cases choice <;> cases replied
      exact rfl
  | verify attestation =>
      cases choice <;> cases replied
      exact rfl
  | authorize workflow attestation evaluatedAt =>
      cases choice <;> cases replied
      exact rfl

end Replies
end WorkflowWorld

section Services

variable {answers : Bool → WorkflowActionResult → Bool} {world next : WorkflowWorld}

/-- A call that fails has done what an answered one may do. -/
theorem workflowServices_changes {call : WorkflowCall} {choice : (workflowServices answers).Choice}
    {answer : workflowInterface.Answer call}
    (replied : (workflowServices answers).reply call choice world = some (answer, next)) :
    world.Changes call next := by
  rcases Services.reply_of_fallible replied with ⟨done, performed⟩ | ⟨_, _, same | performed⟩
  · exact WorkflowWorld.changes_of_reply performed
  · exact same ▸ .refl world call
  · obtain ⟨done, reply, performed⟩ := performed
    exact WorkflowWorld.changes_of_reply performed

/-- What a handler reports is permitted. -/
theorem workflowServices_handled {action : WorkflowAction} {result : WorkflowActionResult}
    {choice : (workflowServices answers).Choice}
    (replied : (workflowServices answers).reply (.act action) choice world =
      some (.ok result, next)) :
    answers (next.hasApplied action.executionId) result = true := by
  rcases Services.reply_of_fallible replied with ⟨done, performed⟩ | ⟨error, failed, _⟩
  · obtain ⟨_, reported, same, honest⟩ := WorkflowWorld.handled_of_reply performed
    cases same
    exact honest
  · cases failed

/-- A claim returns the record that is stored. -/
theorem workflowServices_claimed {record found : WorkflowExecutionRecord}
    {claim : WorkflowExecutionClaim} {choice : (workflowServices answers).Choice}
    (stored : world.executions record.id = some found)
    (replied : (workflowServices answers).reply (.claim record) choice world =
      some (.ok claim, next)) :
    claim.record = found := by
  rcases Services.reply_of_fallible replied with ⟨done, performed⟩ | ⟨error, failed, _⟩
  · cases done <;> cases performed
    simp only [WorkflowWorld.claim, stored]
  · cases failed

/-- Workflows are found under their own identifiers. -/
theorem workflowServices_possible {call : WorkflowCall} {choice : (workflowServices answers).Choice}
    {answer : workflowInterface.Answer call}
    (replied : (workflowServices answers).reply call choice world = some (answer, next)) :
    call.Possible answer := by
  rcases Services.reply_of_fallible replied with ⟨done, performed⟩ | ⟨error, failed, _⟩
  · cases call with
    | getWorkflow id version =>
        cases done <;> cases performed
        cases found : world.definitions.get id version with
        | none => trivial
        | some workflow => exact world.definitions.filed id version workflow found
    | _ => trivial
  · subst failed
    cases call <;> trivial

end Services
end InterWeave
