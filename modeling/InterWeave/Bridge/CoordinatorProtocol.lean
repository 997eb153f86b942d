import InterWeave.Async.Protocol
import InterWeave.Bridge.Coordinator

/-! # The protocol of a coordinator run

A run knows the operations, the stage evidence and the clock readings it has
received. Whatever it holds, each transition it asks for is a step of the bridge
graph that its knowledge justifies, from the state of an operation it was given.
-/

namespace InterWeave

open Async (Program Protocol)

/-! ## Steps of the bridge graph -/

namespace BridgeStage

/-- The state in which the evidence of a stage is collected. -/
def state : BridgeStage → BridgeState
  | .sourceEffect => .sourcePreparing
  | .sourceConfirmation => .sourceSubmitted
  | .sourceFinality => .sourceConfirmed
  | .attestation => .attestationPending
  | .destinationEffect => .destinationPreparing
  | .destinationConfirmation => .destinationSubmitted
  | .destinationFinality => .destinationConfirmed
  | .reconciliation => .reconciliationPending

/-- The state that evidence of a stage leads to. -/
def outcome (data : StageData) : BridgeStage → BridgeState
  | .sourceEffect => .sourceSubmitted
  | .sourceConfirmation =>
      if data.isTrue (js "confirmed") then .sourceConfirmed else .sourceFailed
  | .sourceFinality => if data.isTrue (js "finalized") then .sourceFinalized else .sourceFailed
  | .attestation => if data.isTrue (js "satisfied") then .attested else .attestationFailed
  | .destinationEffect => .destinationSubmitted
  | .destinationConfirmation =>
      if data.isTrue (js "confirmed") then .destinationConfirmed else .destinationFailed
  | .destinationFinality =>
      if data.isTrue (js "finalized") then .destinationFinalized else .destinationFailed
  | .reconciliation => if data.isTrue (js "matched") then .reconciled else .reconciliationFailed

end BridgeStage

/-- The state that follows without evidence. -/
def BridgeState.proceeds : BridgeState → Option BridgeState
  | .policyChecked => some .sourcePreparing
  | .sourceFinalized => some .attestationPending
  | .attested => some .destinationPreparing
  | .destinationFinalized => some .reconciliationPending
  | .reconciled => some .completed
  | _ => none

/-- A step of the graph with what justifies it: a policy decision, evidence that is
known, or a clock reading past an expiry. -/
inductive BridgeStep (platform : Platform) (expiresAt : JsString)
    (known : BridgeStage → StageEvidence → Prop) (read : Int → Prop) :
    BridgeState → BridgeState → Prop where
  | approved : BridgeStep platform expiresAt known read .created .policyChecked
  | rejected : BridgeStep platform expiresAt known read .created .policyRejected
  | proceeds {source target : BridgeState} : source.proceeds = some target →
      BridgeStep platform expiresAt known read source target
  | evaluated {stage : BridgeStage} {evidence : StageEvidence} : known stage evidence →
      BridgeStep platform expiresAt known read stage.state (stage.outcome evidence.data)
  | expired {source : BridgeState} {instant : Int} : source.terminal = false → read instant →
      numberLe (platform.dateParse expiresAt) (some instant) →
      BridgeStep platform expiresAt known read source .expired
  | attestationExpired : BridgeStep platform expiresAt known read .destinationPreparing
      .destinationFailed

namespace BridgeStep

variable {platform : Platform} {expiresAt : JsString}
  {known more : BridgeStage → StageEvidence → Prop} {read later : Int → Prop}
  {source target : BridgeState}

theorem mono (step : BridgeStep platform expiresAt known read source target)
    (evidence : ∀ stage evidence, known stage evidence → more stage evidence)
    (readings : ∀ instant, read instant → later instant) :
    BridgeStep platform expiresAt more later source target := by
  cases step with
  | approved => exact .approved
  | rejected => exact .rejected
  | proceeds leads => exact .proceeds leads
  | evaluated held => exact .evaluated (evidence _ _ held)
  | expired running past reached => exact .expired running (readings _ past) reached
  | attestationExpired => exact .attestationExpired

end BridgeStep

/-! ## The protocol -/

/-- What a run has received. -/
structure BridgeLocal where
  operations : List DurableBridgeOperation
  evidence : List (JsString × StageEvidence)
  readings : List Int

namespace BridgeLocal

def fresh : BridgeLocal := ⟨[], [], []⟩

def next (here : BridgeLocal) : (call : BridgeCall) → bridgeInterface.Answer call → BridgeLocal
  | .now, .ok instant => { here with readings := instant :: here.readings }
  | .getOperation _, .ok (some operation) =>
      { here with operations := operation :: here.operations }
  | .append _, .ok operation => { here with operations := operation :: here.operations }
  | .getEvidence _ stage, .ok (some evidence) =>
      { here with evidence := (stage, evidence) :: here.evidence }
  | .putEvidence evidence, .ok stored =>
      { here with evidence := (evidence.stage, stored) :: here.evidence }
  | _, _ => here

/-- Knowledge only grows. -/
structure Grows (here there : BridgeLocal) : Prop where
  operations : here.operations ⊆ there.operations
  evidence : here.evidence ⊆ there.evidence
  readings : here.readings ⊆ there.readings

theorem Grows.refl (here : BridgeLocal) : here.Grows here :=
  ⟨List.Subset.refl _, List.Subset.refl _, List.Subset.refl _⟩

theorem Grows.trans {first second third : BridgeLocal} (one : first.Grows second)
    (two : second.Grows third) : first.Grows third :=
  ⟨List.Subset.trans one.operations two.operations, List.Subset.trans one.evidence two.evidence,
    List.Subset.trans one.readings two.readings⟩

theorem grows_next (here : BridgeLocal) (call : BridgeCall) (answer : bridgeInterface.Answer call) :
    here.Grows (here.next call answer) := by
  unfold next
  split
  · exact ⟨List.Subset.refl _, List.Subset.refl _, List.subset_cons_self _ _⟩
  · exact ⟨List.subset_cons_self _ _, List.Subset.refl _, List.Subset.refl _⟩
  · exact ⟨List.subset_cons_self _ _, List.Subset.refl _, List.Subset.refl _⟩
  · exact ⟨List.Subset.refl _, List.subset_cons_self _ _, List.Subset.refl _⟩
  · exact ⟨List.Subset.refl _, List.subset_cons_self _ _, List.Subset.refl _⟩
  · exact .refl here

/-- The evidence a run holds of a stage. -/
def Knows (route : BridgeRoute) (here : BridgeLocal) (stage : BridgeStage)
    (evidence : StageEvidence) : Prop :=
  (route.stageText stage, evidence) ∈ here.evidence

def Read (here : BridgeLocal) (instant : Int) : Prop := instant ∈ here.readings

/-- The policy decision that goes with a transition. -/
def Decides (policyDecision : Option PolicyDecision) : BridgeState → Prop
  | .policyChecked => policyDecision.map PolicyDecision.outcome = some .allow
  | .policyRejected => True
  | _ => policyDecision = none

/-- The calls a run may issue. -/
def Allows (platform : Platform) (route : BridgeRoute) (operationId : JsString)
    (here : BridgeLocal) : BridgeCall → Prop
  | .now => True
  | .getOperation id => id = operationId ∨ ∃ operation ∈ here.operations, operation.id = id
  | .findTransition _ _ => True
  | .append command => Decides command.policyDecision command.target ∧ ∃ operation ∈ here.operations,
      operation.id = command.operationId ∧ operation.version = command.expectedVersion ∧
      BridgeStep platform operation.expiresAt (here.Knows route) here.Read operation.state
        command.target
  | .getEvidence id _ => ∃ operation ∈ here.operations, operation.id = id
  | .putEvidence evidence => ∃ operation ∈ here.operations, operation.id = evidence.operationId ∧
      ∃ stage, evidence.stage = route.stageText stage ∧ operation.state = stage.state
  | .evaluate operation => operation ∈ here.operations
  | .perform stage operation _ => operation ∈ here.operations ∧ operation.state = stage.state

end BridgeLocal

abbrev bridgeProtocol (platform : Platform) (route : BridgeRoute) (operationId : JsString) :
    Protocol bridgeInterface Unit where
  Local := BridgeLocal
  start _ := .fresh
  next := BridgeLocal.next
  possible call answer := match call, answer with
    | .now, .error _ => False
    | _, _ => True
  allowed := BridgeLocal.Allows platform route operationId
  settles _ := True

namespace BridgeCoordinator

variable {platform : Platform} {route : BridgeRoute} {operationId : JsString}
  {here : BridgeLocal} {operation : DurableBridgeOperation}

theorem grows_answered (here : BridgeLocal) (call : BridgeCall)
    (answer : bridgeInterface.Answer call) :
    here.Grows ((bridgeProtocol platform route operationId).next here call answer) :=
  here.grows_next call answer

/-- A clock reading is known from then on. -/
theorem now_seq {α : Type} {post : BridgeLocal → Except Thrown α → Prop}
    {next : Int → BridgeProgram α}
    (rest : ∀ now there, here.Grows there → there.Read now →
      (next now).Follows (bridgeProtocol platform route operationId) post there) :
    (BridgeProgram.now >>= next).Follows (bridgeProtocol platform route operationId) post here := by
  refine .call_seq trivial (fun now _ => ?_) nofun
  exact rest now _ (grows_answered here .now (.ok now)) List.mem_cons_self

/-- The outcome is an operation the run was given. -/
def Given (there : BridgeLocal) (outcome : Except Thrown DurableBridgeOperation) : Prop :=
  ∀ next, outcome = .ok next → next ∈ there.operations

theorem transition_follows (held : operation ∈ here.operations) {target : BridgeState}
    {reason : JsString} {policyDecision : Option PolicyDecision}
    (step : BridgeStep platform operation.expiresAt (here.Knows route) here.Read operation.state
      target)
    (decides : BridgeLocal.Decides policyDecision target) :
    (transition platform route operation target reason policyDecision).Follows
      (bridgeProtocol platform route operationId) Given here := by
  refine now_seq fun now there grows _ => ?_
  have still := grows.operations held
  refine .ofExcept_seq (fun _ _ => ?_) fun _ _ => nofun
  refine .call_seq (.inr ⟨operation, still, rfl⟩) (fun found _ => ?_) fun _ _ => nofun
  cases found with
  | none => exact nofun
  | some current =>
      dsimp only
      split
      · refine .ofExcept_seq (fun _ _ => ?_) fun _ _ => nofun
        refine ⟨⟨decides, operation, List.mem_cons_of_mem _ still, rfl, rfl, ?_⟩,
          fun answer _ => ?_⟩
        · exact step.mono (fun _ _ known => grows.evidence known) fun _ read => grows.readings read
        · rintro next rfl
          exact List.mem_cons_self
      · refine .call_seq trivial (fun existing _ => ?_) fun _ _ => nofun
        split
        · rintro next same
          cases same
          exact List.mem_cons_self
        · exact nofun

theorem some_follows {program : BridgeProgram DurableBridgeOperation}
    (follows : program.Follows (bridgeProtocol platform route operationId) Given here) :
    (some <$> program).Follows (bridgeProtocol platform route operationId)
      (fun there outcome => ∀ next, outcome = .ok (some next) → next ∈ there.operations) here := by
  rw [Program.map_eq]
  refine follows.seq (fun there next given => ?_) fun _ _ _ => nofun
  rintro other same
  cases same
  exact given next rfl

theorem produce_follows (held : operation ∈ here.operations) {stage : BridgeStage}
    (state : operation.state = stage.state) {input : Except Thrown StageInput} :
    (produce route operation stage input).Follows (bridgeProtocol platform route operationId)
      (fun there _ => here.Grows there) here := by
  refine .ofExcept_seq (fun value _ => ?_) fun _ _ => .refl here
  refine .call_seq ⟨held, state⟩ (fun data _ => ?_) fun _ _ => grows_answered ..
  exact .ofExcept_seq (fun _ _ => grows_answered ..) fun _ _ => grows_answered ..

/-- The outcome is evidence of the stage that the run was given. -/
def Shown (route : BridgeRoute) (here : BridgeLocal) (stage : BridgeStage) (there : BridgeLocal)
    (outcome : Except Thrown StageEvidence) : Prop :=
  here.Grows there ∧ ∀ evidence, outcome = .ok evidence → there.Knows route stage evidence

theorem evidence_follows (stage : BridgeStage) (held : operation ∈ here.operations)
    (state : operation.state = stage.state) {input : Except Thrown StageInput} :
    (evidence platform route operation stage input).Follows
      (bridgeProtocol platform route operationId) (Shown route here stage) here := by
  have puts : ∀ {there : BridgeLocal} {data : StageData} {recordedAt : JsString},
      here.Grows there →
      (BridgeProgram.putEvidence
        { operationId := operation.id, stage := route.stageText stage, recordedAt, data }).Follows
        (bridgeProtocol platform route operationId) (Shown route here stage) there := by
    intro there data recordedAt grows
    refine ⟨⟨operation, grows.operations held, rfl, stage, rfl, state⟩, fun answer _ => ?_⟩
    refine ⟨grows.trans (grows_answered ..), ?_⟩
    rintro evidence rfl
    exact List.mem_cons_self
  refine .call_seq ⟨operation, held, rfl⟩ (fun found _ => ?_) fun _ _ =>
    ⟨grows_answered .., nofun⟩
  cases found with
  | some existing =>
      refine ⟨grows_answered .., ?_⟩
      rintro evidence same
      cases same
      exact List.mem_cons_self
  | none =>
      dsimp only
      split
      · refine now_seq fun now there read _ => ?_
        refine (produce_follows (read.operations held) state).seq (fun later data grows => ?_)
          fun later _ grows => ⟨read.trans grows, nofun⟩
        exact puts (read.trans grows)
      · refine (produce_follows held state).seq (fun there data grows => ?_) fun there _ grows =>
          ⟨grows, nofun⟩
        exact now_seq fun now later read _ => puts (grows.trans read)

theorem requiredEvidence_follows (held : operation ∈ here.operations) {stage : BridgeStage} :
    (requiredEvidence route operation.id stage).Follows
      (bridgeProtocol platform route operationId) (Shown route here stage) here := by
  refine .call_seq ⟨operation, held, rfl⟩ (fun found _ => ?_) fun _ _ =>
    ⟨grows_answered .., nofun⟩
  cases found with
  | none => exact ⟨grows_answered .., nofun⟩
  | some existing =>
      refine ⟨grows_answered .., ?_⟩
      rintro evidence same
      cases same
      exact List.mem_cons_self

/-- Evidence of a stage leads to the state it decides. -/
theorem evaluated_follows (stage : BridgeStage) (held : operation ∈ here.operations)
    (state : operation.state = stage.state) {there : BridgeLocal} (grows : here.Grows there)
    {evidence : StageEvidence} (known : there.Knows route stage evidence) {target : BridgeState}
    (outcome : target = stage.outcome evidence.data) {reason : JsString} :
    (transition platform route operation target reason none).Follows
      (bridgeProtocol platform route operationId) Given there := by
  subst outcome
  refine transition_follows (grows.operations held) ?_ ?_
  · rw [state]
    exact .evaluated known
  · cases stage <;> simp only [BridgeStage.outcome] <;> (try split) <;> rfl

theorem followUp_follows {effect : BridgeStage} (stage : BridgeStage)
    (held : operation ∈ here.operations) (state : operation.state = stage.state)
    {verdict : JsString} {passed failed : BridgeState}
    (outcome : ∀ data, stage.outcome data = if data.isTrue verdict then passed else failed) :
    (followUp platform route operation effect stage verdict passed failed).Follows
      (bridgeProtocol platform route operationId) Given here := by
  refine (requiredEvidence_follows held).seq (fun there submitted shown => ?_) fun _ _ _ => nofun
  refine (evidence_follows stage (shown.1.operations held) state).seq
    (fun later evidence known => ?_) fun _ _ _ => nofun
  exact evaluated_follows stage held state (shown.1.trans known.1) (known.2 evidence rfl)
    (outcome _).symm

theorem proceeds_follows (held : operation ∈ here.operations) {target : BridgeState}
    (leads : operation.state.proceeds = some target) {reason : JsString} :
    (transition platform route operation target reason none).Follows
      (bridgeProtocol platform route operationId) Given here := by
  refine transition_follows held (.proceeds leads) ?_
  cases state : operation.state <;> rw [state] at leads <;> cases leads <;> rfl

/-- What an iteration leaves: the next operation was given to the run. -/
def Advanced (there : BridgeLocal) (outcome : Except Thrown (Option DurableBridgeOperation)) :
    Prop :=
  ∀ next, outcome = .ok (some next) → next ∈ there.operations

theorem advance_follows (held : operation ∈ here.operations) :
    (advance platform route operation).Follows (bridgeProtocol platform route operationId)
      Advanced here := by
  unfold advance
  split <;> rename_i state
  · refine .call_seq held (fun decision _ => ?_) fun _ _ => nofun
    refine some_follows ?_
    split
    · rename_i allow
      exact transition_follows held (state ▸ .approved)
        (congrArg some allow : (some decision).map PolicyDecision.outcome = some .allow)
    · exact transition_follows held (state ▸ .rejected) trivial
  · exact some_follows (proceeds_follows held (by rw [state]; rfl))
  · refine (evidence_follows .sourceEffect held state).seq (fun there evidence shown => ?_)
      fun _ _ _ => nofun
    exact some_follows (evaluated_follows .sourceEffect held state shown.1 (shown.2 evidence rfl) rfl)
  · exact some_follows (followUp_follows .sourceConfirmation held state fun _ => rfl)
  · exact some_follows (followUp_follows .sourceFinality held state fun _ => rfl)
  · exact some_follows (proceeds_follows held (by rw [state]; rfl))
  · refine (requiredEvidence_follows held).seq (fun there finality shown => ?_) fun _ _ _ => nofun
    refine (evidence_follows .attestation (shown.1.operations held) state).seq
      (fun later evidence known => ?_) fun _ _ _ => nofun
    exact some_follows (evaluated_follows .attestation held state (shown.1.trans known.1)
      (known.2 evidence rfl) rfl)
  · exact some_follows (proceeds_follows held (by rw [state]; rfl))
  · refine (requiredEvidence_follows held).seq (fun there stored shown => ?_) fun _ _ _ => nofun
    refine .ofExcept_seq (fun attestation _ => ?_) fun _ _ => nofun
    refine now_seq fun now later read _ => ?_
    have grows := shown.1.trans read
    have still := grows.operations held
    split
    · refine some_follows (transition_follows still ?_ ?_)
      · rw [state]
        exact .attestationExpired
      · rfl
    · refine (evidence_follows .destinationEffect still state).seq
        (fun last evidence known => ?_) fun _ _ _ => nofun
      exact some_follows (evaluated_follows .destinationEffect held state (grows.trans known.1)
        (known.2 evidence rfl) rfl)
  · exact some_follows (followUp_follows .destinationConfirmation held state fun _ => rfl)
  · exact some_follows (followUp_follows .destinationFinality held state fun _ => rfl)
  · exact some_follows (proceeds_follows held (by rw [state]; rfl))
  · refine (evidence_follows .reconciliation held state).seq (fun there evidence shown => ?_)
      fun _ _ _ => nofun
    exact some_follows (evaluated_follows .reconciliation held state shown.1 (shown.2 evidence rfl) rfl)
  · exact some_follows (proceeds_follows held (by rw [state]; rfl))
  · exact nofun

theorem drive_follows (guard : Nat) (held : operation ∈ here.operations) :
    (drive platform route guard operation).Follows (bridgeProtocol platform route operationId)
      (fun _ _ => True) here := by
  induction guard generalizing here operation with
  | zero =>
      unfold drive
      split <;> trivial
  | succ guard ih =>
      unfold drive
      split
      · trivial
      · split
        · trivial
        · rename_i running
          refine now_seq fun now there grows read => ?_
          have still := grows.operations held
          split
          · rename_i past
            have step : BridgeStep platform operation.expiresAt (there.Knows route) there.Read
                operation.state .expired := .expired (Bool.eq_false_iff.mpr running) read past
            refine (transition_follows still step rfl).seq (fun later next given => ?_)
              fun _ _ _ => trivial
            exact ih (given next rfl)
          · refine (advance_follows still).seq (fun later found given => ?_) fun _ _ _ => trivial
            cases found with
            | none => trivial
            | some next => exact ih (given next rfl)

/-- **A run of a coordinator follows the protocol.** -/
theorem run_follows (platform : Platform) (route : BridgeRoute) (operationId : JsString) :
    (run platform route operationId).Follows (bridgeProtocol platform route operationId)
      (fun _ _ => True) .fresh := by
  refine .call_seq (.inl rfl) (fun found _ => ?_) fun _ _ => trivial
  cases found with
  | none => trivial
  | some operation => exact drive_follows 24 List.mem_cons_self

end BridgeCoordinator
end InterWeave
