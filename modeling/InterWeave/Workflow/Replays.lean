import InterWeave.Workflow.Rejections

/-! # Replayed attestations

An execution is claimed under the identifier that its caller chose, and a handler applies the
action of an identifier once. Whether one attestation moves a workflow once is therefore up to
the callers: it does where they present it to a workflow version under one identifier.
-/

namespace InterWeave

open Async

section Replays

variable {answers : Bool → WorkflowActionResult → Bool} {Worker : Type} [DecidableEq Worker]
  {engine : WorkflowEngine} {platform : Platform}

/-- What an applied action owes to the call that asked for it. -/
def ExecuteWorkflowRequest.Asks (input : ExecuteWorkflowRequest) (action : WorkflowAction) :
    Prop :=
  action.executionId = input.id ∧ action.attestation = input.attestation ∧
    action.workflow.id = input.workflowId ∧ action.workflow.version = input.workflowVersion

/-- Applied actions were asked for, and no execution has two. -/
structure AppliedInvariant (view : WorkflowView answers Worker) : Prop where
  once : (view.state.applied.map WorkflowAction.executionId).Nodup
  asked : ∀ action ∈ view.state.applied, ∃ worker input,
    .started worker (.execute input) ∈ view.history ∧ input.Asks action

variable {view : WorkflowView answers Worker} {world : WorkflowWorld}

omit [DecidableEq Worker] in
theorem AppliedInvariant.empty : AppliedInvariant (WorkflowView.empty answers Worker) where
  once := List.nodup_nil
  asked _ member := (List.not_mem_nil member).elim

omit [DecidableEq Worker] in
theorem AppliedInvariant.keeps (valid : AppliedInvariant view)
    (event : Event workflowInterface Worker WorkflowCommand)
    (same : world.applied = view.state.applied) :
    AppliedInvariant (Protocol.after view event world) where
  once := by
    rw [Protocol.after_state, same]
    exact valid.once
  asked action member := by
    rw [Protocol.after_state, same] at member
    obtain ⟨worker, input, started, asks⟩ := valid.asked action member
    exact ⟨worker, input, List.mem_cons_of_mem _ started, asks⟩

/-- A worker that stands somewhere was started with its command. -/
theorem started_of_known {worker : Worker}
    {history : List (Event workflowInterface Worker WorkflowCommand)}
    {here : WorkflowCommand × WorkflowPhase}
    (known : (workflowProtocol engine).localOf worker history = some here) :
    .started worker here.1 ∈ history := by
  induction history generalizing here with
  | nil => cases known
  | cons event earlier ih =>
      by_cases own : event.worker = worker
      · subst own
        cases event with
        | started starter command =>
            rw [Event.worker, Protocol.localOf_started_self] at known
            cases known
            exact List.mem_cons_self
        | issued issuer call =>
            rw [Protocol.localOf_issued] at known
            exact List.mem_cons_of_mem _ (ih known)
        | answered asker call answer =>
            rw [Event.worker, Protocol.localOf_answered_self, Option.map_eq_some_iff] at known
            obtain ⟨⟨command, phase⟩, before, rfl⟩ := known
            have started := List.mem_cons_of_mem (.answered asker call answer) (ih before)
            cases command with
            | register definition => exact started
            | execute input => exact started
        | crashed crasher =>
            rw [Event.worker, Protocol.localOf_crashed_self] at known
            cases known
      · rw [Protocol.localOf_cons_of_ne own] at known
        exact List.mem_cons_of_mem _ (ih known)

theorem WorkflowWorld.not_mem_of_unapplied {id : JsString} (absent : world.hasApplied id = false) :
    id ∉ world.applied.map WorkflowAction.executionId := by
  intro member
  obtain ⟨action, among, same⟩ := List.mem_map.mp member
  rw [WorkflowWorld.hasApplied, List.any_eq_false] at absent
  exact absent action among (decide_eq_true same)

/-- **Every step keeps applied actions asked for.** -/
theorem AppliedInvariant.preserves {admits : WorkflowView answers Worker →
    Event workflowInterface Worker WorkflowCommand → Prop} :
    (workflowProtocol engine).Preserves admits
      (AppliedInvariant : WorkflowView answers Worker → Prop) where
  started view worker command valid _ _ := valid.keeps _ rfl
  issued view worker call here valid _ _ _ := valid.keeps _ rfl
  crashed view worker here valid _ _ := valid.keeps _ rfl
  answered view worker call answer here choice world valid _ _ known allowed replied := by
    have changes := workflowServices_changes replied
    cases call with
    | act action =>
        rcases changes with rfl | ⟨unapplied, rfl⟩
        · exact valid.keeps _ rfl
        · obtain ⟨command, phase⟩ := here
          cases command with
          | register definition => cases allowed
          | execute input =>
              obtain ⟨workflow, _, found, version, rfl⟩ := allowed
              constructor
              · exact List.nodup_cons.mpr ⟨WorkflowWorld.not_mem_of_unapplied unapplied, valid.once⟩
              · intro action member
                rcases List.mem_cons.mp member with rfl | earlier
                · exact ⟨worker, input, List.mem_cons_of_mem _ (started_of_known known), rfl, rfl,
                    found, version⟩
                · obtain ⟨other, asked, started, asks⟩ := valid.asked action earlier
                  exact ⟨other, asked, List.mem_cons_of_mem _ started, asks⟩
    | register definition => exact valid.keeps _ changes.2
    | claim record =>
        rcases changes with rfl | ⟨_, rfl⟩
        · exact valid.keeps _ rfl
        · exact valid.keeps _ rfl
    | finish id hash status evidence result updatedAt =>
        rcases changes with rfl | ⟨_, record, _, rfl⟩
        · exact valid.keeps _ rfl
        · exact valid.keeps _ rfl
    | _ => exact valid.keeps _ (congrArg WorkflowWorld.applied changes)

/-- Calls that present the same evidence to the same workflow version carry one identifier.
`evidence` is what makes two attestations the same: all of one, its digest or its identifier. -/
def OneIdentifier {Evidence : Type} (evidence : StoredGenericAttestation → Evidence)
    (history : List (Event workflowInterface Worker WorkflowCommand)) : Prop :=
  ∀ worker input other again, .started worker (.execute input) ∈ history →
    .started other (.execute again) ∈ history →
    evidence input.attestation = evidence again.attestation →
    input.workflowId = again.workflowId → input.workflowVersion = again.workflowVersion →
    input.id = again.id

/-- Runs of one input present their evidence under one identifier. -/
theorem oneIdentifier_of_repeats {Evidence : Type}
    {evidence : StoredGenericAttestation → Evidence} {input : ExecuteWorkflowRequest}
    {config : Config (workflowServices answers) Worker WorkflowCommand WorkflowReply}
    (reached : Reachable (WorkflowCommand.program platform engine)
      (fun _ event => Repeats input event) (WorkflowView.empty answers Worker) config) :
    OneIdentifier evidence config.history := by
  have same : ∀ worker other, .started worker (.execute other) ∈ config.history →
      other = input := by
    induction reached with
    | initial => exact fun worker other member => (List.not_mem_nil member).elim
    | step _ moved admitted ih =>
        intro worker other member
        rcases List.mem_cons.mp member with event | earlier
        · rw [← event] at admitted
          exact admitted
        · exact ih worker other earlier
  intro worker first other second started restarted _ _ _
  rw [same worker first started, same other second restarted]

/-- The actions of a workflow version that were applied on the same evidence. -/
def WorkflowWorld.appliedOn {Evidence : Type} [DecidableEq Evidence] (world : WorkflowWorld)
    (evidence : StoredGenericAttestation → Evidence) (shown : Evidence) (id version : JsString) :
    List WorkflowAction :=
  world.applied.filter fun action =>
    evidence action.attestation = shown ∧ action.workflow.id = id ∧ action.workflow.version = version

end Replays

theorem length_le_one_of_alike {α β : Type} {key : α → β} {items : List α}
    (once : (items.map key).Nodup)
    (alike : ∀ first ∈ items, ∀ second ∈ items, key first = key second) : items.length ≤ 1 := by
  cases items with
  | nil => exact Nat.zero_le 1
  | cons first rest =>
      cases rest with
      | nil => exact Nat.le_refl 1
      | cons second rest =>
          have same := alike first List.mem_cons_self second
            (List.mem_cons_of_mem _ List.mem_cons_self)
          exact absurd (List.mem_cons.mpr (.inl same)) (List.nodup_cons.mp once).1

/-- **Evidence moves a workflow once.** In every run whose callers present one attestation to a
workflow version under one identifier, its action is applied on the attestation at most once. -/
theorem evidence_applied_once {platform : Platform} {engine : WorkflowEngine}
    {answers : Bool → WorkflowActionResult → Bool} {Worker Evidence : Type} [DecidableEq Worker]
    [DecidableEq Evidence] {evidence : StoredGenericAttestation → Evidence}
    {config : Config (workflowServices answers) Worker WorkflowCommand WorkflowReply}
    (reached : Reachable (WorkflowCommand.program platform engine) (fun _ _ => True)
      (WorkflowView.empty answers Worker) config)
    (identified : OneIdentifier evidence config.history) (shown : Evidence)
    (id version : JsString) :
    (config.state.appliedOn evidence shown id version).length ≤ 1 := by
  have valid := Protocol.invariant (WorkflowCommand.program_follows platform engine)
    (fun _ _ _ _ _ => workflowServices_possible) rfl AppliedInvariant.empty
    AppliedInvariant.preserves reached
  have once : ((config.state.appliedOn evidence shown id version).map
      WorkflowAction.executionId).Nodup :=
    valid.once.sublist (List.filter_sublist.map _)
  refine length_le_one_of_alike once fun first firstly second secondly => ?_
  obtain ⟨firstly, here⟩ := List.mem_filter.mp firstly
  obtain ⟨secondly, there⟩ := List.mem_filter.mp secondly
  obtain ⟨worker, input, started, asks⟩ := valid.asked first firstly
  obtain ⟨other, again, restarted, asked⟩ := valid.asked second secondly
  obtain ⟨shownFirst, idFirst, versionFirst⟩ := of_decide_eq_true here
  obtain ⟨shownSecond, idSecond, versionSecond⟩ := of_decide_eq_true there
  rw [asks.1, asked.1]
  refine identified worker input other again started restarted ?_ ?_ ?_
  · rw [← asks.2.1, ← asked.2.1, shownFirst, shownSecond]
  · rw [← asks.2.2.1, ← asked.2.2.1, idFirst, idSecond]
  · rw [← asks.2.2.2, ← asked.2.2.2, versionFirst, versionSecond]

namespace Collateral

/-- An execution whose action is applied and that completes. -/
def completes (key : String) : List (Action (workflowServices rejectsUnapplied) Unit WorkflowCommand) :=
  acts key true (.applied evidence) ++
    [WorkflowChoice.instant instant, .stored].flatMap fun choice =>
      [.issue (), .answer () (.inl choice)]

/-- The actions that were applied on the deposit. -/
def credited (world : WorkflowWorld) : List WorkflowAction :=
  world.appliedOn (fun attestation => attestation) attestation (js "IW:WORKFLOW:collateral")
    (js "1.0.0")

end Collateral

open Collateral in
/-- An execution that is asked for again applies its action once. -/
theorem evidence_applied_once_repeated :
    ∃ config : Config (workflowServices rejectsUnapplied) Unit WorkflowCommand WorkflowReply,
      credited config.state ≠ [] ∧ (credited config.state).length ≤ 1 := by
  obtain ⟨config, reached, checked⟩ := Reachable.exists_of_run
    (WorkflowCommand.program isoPlatform engine) (fun _ event => Repeats (input "one") event)
    (WorkflowView.empty rejectsUnapplied Unit)
    (runs (.register workflow) [.stored] ++ completes "one" ++
      runs (.execute (input "one")) [.stored, .stored])
    (fun config => credited config.state ≠ []) (by decide +kernel)
  exact ⟨config, of_decide_eq_true checked, evidence_applied_once
    (reached.mono fun _ _ _ => trivial) (oneIdentifier_of_repeats reached) _ _ _⟩

open Collateral in
/-- **A used attestation is replayed.** Under another execution identifier the same attestation
has the same workflow apply its action again. -/
theorem evidence_applied_twice :
    ¬ ∀ (config : Config (workflowServices rejectsUnapplied) Unit WorkflowCommand WorkflowReply)
      (shown : StoredGenericAttestation) (id version : JsString),
      Reachable (WorkflowCommand.program isoPlatform engine) (fun _ _ => True)
        (WorkflowView.empty rejectsUnapplied Unit) config →
      (config.state.appliedOn (fun attestation => attestation) shown id version).length ≤ 1 := by
  intro claim
  obtain ⟨config, reached, twice⟩ := Reachable.exists_of_run
    (WorkflowCommand.program isoPlatform engine) (fun _ _ => True)
    (WorkflowView.empty rejectsUnapplied Unit)
    (runs (.register workflow) [.stored] ++ completes "one" ++ completes "two")
    (fun config => (credited config.state).length = 2) (by decide +kernel)
  have once := claim config attestation (js "IW:WORKFLOW:collateral") (js "1.0.0") reached
  have two : (credited config.state).length = 2 := of_decide_eq_true twice
  rw [credited] at two
  omega

end InterWeave
