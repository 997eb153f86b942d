import InterWeave.Bridge.CoordinatorProtocol

/-! # Runs on one operation

Whatever the workers of a pool do, the stored operation is a justified path through
the bridge graph: every transition in it has its evidence in the evidence table, its
policy decision in the record or its clock reading in the history. What a worker holds
is a beginning of the stored path, and evidence as it is stored.
-/

namespace InterWeave

open Async

/-! ## Progress through the graph -/

namespace BridgeState

/-- How far a state lies along the graph. -/
def progress : BridgeState → Nat
  | .created => 0
  | .policyChecked | .policyRejected => 1
  | .sourcePreparing => 2
  | .sourceSubmitted => 3
  | .sourceConfirmed => 4
  | .sourceFinalized | .sourceFailed => 5
  | .attestationPending => 6
  | .attested | .attestationFailed => 7
  | .destinationPreparing => 8
  | .destinationSubmitted => 9
  | .destinationConfirmed => 10
  | .destinationFinalized | .destinationFailed => 11
  | .reconciliationPending => 12
  | .reconciled | .reconciliationFailed => 13
  | .completed => 14
  | .expired | .manualReview => 15

theorem progress_lt_of_proceeds : ∀ source target : BridgeState,
    source.proceeds = some target → source.progress < target.progress := by
  decide

theorem progress_lt_of_not_terminal : ∀ source : BridgeState, source.terminal = false →
    source.progress < BridgeState.expired.progress := by
  decide

end BridgeState

namespace BridgeStep

variable {platform : Platform} {expiresAt : JsString}
  {known : BridgeStage → StageEvidence → Prop} {read : Int → Prop} {source target : BridgeState}

/-- Every step makes progress. -/
theorem progress (step : BridgeStep platform expiresAt known read source target) :
    source.progress < target.progress := by
  cases step with
  | approved => decide
  | rejected => decide
  | proceeds leads => exact BridgeState.progress_lt_of_proceeds _ _ leads
  | @evaluated stage evidence _ =>
      cases stage <;> simp only [BridgeStage.state, BridgeStage.outcome] <;> (try split) <;> decide
  | expired running _ _ => exact BridgeState.progress_lt_of_not_terminal _ running
  | attestationExpired => decide

end BridgeStep

/-! ## Stored operations and copies -/

/-- The states an operation has entered. -/
def DurableBridgeOperation.states (operation : DurableBridgeOperation) : List BridgeState :=
  operation.transitions.map PersistedTransition.target

/-- An operation as the engine writes it: one transition for every version, the last
of them into the current state. -/
structure DurableBridgeOperation.Recorded (input : CreateBridgeOperation)
    (operation : DurableBridgeOperation) : Prop where
  id : operation.id = input.id
  expiry : operation.expiresAt = input.expiresAt
  numbered : operation.transitions.length = operation.version + 1
  last : operation.states.getLast? = some operation.state

theorem DurableBridgeOperation.Recorded.state_mem {input : CreateBridgeOperation}
    {operation : DurableBridgeOperation} (recorded : operation.Recorded input) :
    operation.state ∈ operation.states :=
  List.mem_of_getLast? recorded.last

/-! ## What the stores do -/

/-- A new operation is stored in its first state. -/
theorem DurableTransactionEngine.create_ok {platform : Platform} {input : CreateBridgeOperation}
    {operation : DurableBridgeOperation} {table : OperationTable}
    (created : create platform input (fun _ => none) = (.ok operation, table)) :
    table input.id = some operation ∧ operation.Recorded input ∧ operation.state = .created ∧
      operation.states = [.created] := by
  unfold create at created
  dsimp only at created
  split at created
  · cases created
  · simp only [PostgresTransactionStore.create, Prod.mk.injEq, Except.ok.injEq] at created
    obtain ⟨rfl, rfl⟩ := created
    exact ⟨Function.update_self .., ⟨rfl, rfl, rfl, rfl⟩, rfl, rfl⟩

/-- An append fails, finds the transition there, or adds it, as a legal one, to the current
version. -/
theorem PostgresTransactionStore.append_cases (table : OperationTable)
    (command : TransitionCommand) :
    (∃ error, append table command = (.error error, table)) ∨
    (∃ existing, table command.operationId = some existing ∧ command.target ∈ existing.states ∧
      append table command = (.ok existing, table)) ∨
    ∃ operation, table command.operationId = some operation ∧
      operation.version = command.expectedVersion ∧
      operation.state.canTransition command.target = true ∧
      append table command = (.ok (appended operation command),
        Function.update table command.operationId (some (appended operation command))) := by
  unfold append
  cases known : findTransition table command.operationId command.transitionKey with
  | some duplicate =>
      by_cases reused : duplicate.target ≠ command.target
      · exact .inl ⟨_, if_pos reused⟩
      · cases found : table command.operationId with
        | none => exact .inl ⟨_, if_neg reused⟩
        | some existing =>
            rw [findTransition, found, Option.bind_some] at known
            refine .inr (.inl ⟨existing, rfl, ?_, if_neg reused⟩)
            rw [← not_not.mp reused]
            exact List.mem_map_of_mem (List.mem_of_find?_eq_some known)
  | none =>
      cases found : table command.operationId with
      | none => exact .inl ⟨_, rfl⟩
      | some operation =>
          by_cases stale : operation.version ≠ command.expectedVersion
          · exact .inl ⟨_, if_pos stale⟩
          · by_cases illegal : (!operation.state.canTransition command.target) = true
            · exact .inl ⟨_, (if_neg stale).trans (if_pos illegal)⟩
            · exact .inr (.inr ⟨operation, rfl, not_not.mp stale, by simpa using illegal,
                (if_neg stale).trans (if_neg illegal)⟩)

/-- Evidence is refused, found equal to what is stored, or stored for the first time. -/
theorem BridgeWorld.putEvidence_cases (world : BridgeWorld) (evidence : StageEvidence) :
    (∃ error, world.putEvidence evidence = (.error error, world)) ∨
    (∃ stored, world.evidence evidence.operationId evidence.stage = some stored ∧
      world.putEvidence evidence = (.ok stored, world)) ∨
    world.evidence evidence.operationId evidence.stage = none ∧
      world.putEvidence evidence = (.ok evidence, { world with
        evidence := fun operationId stage =>
          if operationId = evidence.operationId ∧ stage = evidence.stage then some evidence
          else world.evidence operationId stage }) := by
  unfold putEvidence
  cases found : world.evidence evidence.operationId evidence.stage with
  | none => exact .inr (.inr ⟨rfl, rfl⟩)
  | some stored =>
      by_cases same : (stored.recordedAt = evidence.recordedAt &&
          stored.data.equivalent evidence.data) = true
      · exact .inr (.inl ⟨stored, rfl, if_pos same⟩)
      · exact .inl ⟨_, if_neg same⟩

/-- Reading the clock does not throw. -/
theorem BridgeWorld.reply_possible {platform : Platform} {route : BridgeRoute}
    {operationId : JsString} : ∀ call choice world answer next,
      BridgeWorld.reply call choice world = some (answer, next) →
        (bridgeProtocol platform route operationId).possible call answer := by
  intro call choice world answer next replied
  cases call with
  | now =>
      cases choice <;> cases replied
      trivial
  | _ => trivial

/-- Stored evidence stays as it is. -/
theorem BridgeWorld.reply_evidence {call : BridgeCall} {choice : BridgeChoice}
    {world next : BridgeWorld} {answer : bridgeInterface.Answer call}
    (replied : world.reply call choice = some (answer, next)) {operationId stage : JsString}
    {evidence : StageEvidence} (found : world.evidence operationId stage = some evidence) :
    next.evidence operationId stage = some evidence := by
  cases call with
  | putEvidence put =>
      cases choice <;> cases replied
      rcases world.putEvidence_cases put with ⟨_, same⟩ | ⟨_, _, same⟩ | ⟨absent, same⟩
      · rw [same]
        exact found
      · rw [same]
        exact found
      · rw [same]
        have other : ¬ (operationId = put.operationId ∧ stage = put.stage) := by
          rintro ⟨rfl, rfl⟩
          cases found.symm.trans absent
        simp only [other, ↓reduceIte, found]
  | _ =>
      cases choice <;> cases replied
      all_goals exact found

section Runs

variable (platform : Platform) (route : BridgeRoute) (input : CreateBridgeOperation)
  {Worker : Type}

/-- A view of a pool of coordinator runs. -/
abbrev BridgeView (Worker : Type) : Type := View bridgeServices Worker Unit

/-- The evidence table holds this evidence of a stage. -/
def BridgeWorld.Holds (world : BridgeWorld) (stage : BridgeStage) (evidence : StageEvidence) :
    Prop :=
  world.evidence input.id (route.stageText stage) = some evidence

/-- Some worker has read this instant from the clock. -/
def ClockRead (history : List (Event bridgeInterface Worker Unit)) (instant : Int) : Prop :=
  ∃ worker, (.answered worker .now (.ok instant) : Event bridgeInterface Worker Unit) ∈ history

/-- Some worker has received a result of the stage's service. -/
def Performed (history : List (Event bridgeInterface Worker Unit)) (stage : BridgeStage) : Prop :=
  ∃ worker operation stageInput data,
    (.answered worker (.perform stage operation stageInput) (.ok data) :
      Event bridgeInterface Worker Unit) ∈ history

/-- A stored operation whose transitions are all justified. -/
structure Justified (view : BridgeView Worker) (operation : DurableBridgeOperation) : Prop where
  recorded : operation.Recorded input
  bounded : ∀ state ∈ operation.states, state.progress ≤ operation.state.progress
  entered : ∀ transition ∈ operation.transitions, transition.target = .created ∨
    ∃ source ∈ operation.states, transition.source = some source ∧
      BridgeStep platform input.expiresAt (view.state.Holds route input)
        (ClockRead view.history) source transition.target
  approved : .policyChecked ∈ operation.states →
    operation.policyDecision.map PolicyDecision.outcome = some .allow
  collected : ∀ stage evidence, view.state.Holds route input stage evidence →
    stage.state ∈ operation.states
  performed : ∀ stage, Performed view.history stage → stage.state ∈ operation.states

/-- A copy is a beginning of the stored operation. -/
def CopiedOperation (world : BridgeWorld) (operation : DurableBridgeOperation) : Prop :=
  operation.Recorded input ∧ ∃ stored, world.operations input.id = some stored ∧
    operation.transitions <+: stored.transitions

/-- What a worker holds is true of the stores. -/
structure Faithful (view : BridgeView Worker) (here : BridgeLocal) : Prop where
  operations : ∀ operation ∈ here.operations, CopiedOperation input view.state operation
  evidence : ∀ stage evidence, (stage, evidence) ∈ here.evidence →
    view.state.evidence input.id stage = some evidence
  readings : ∀ instant ∈ here.readings, ClockRead view.history instant

/-- A later view: the path is longer and nothing is lost. -/
structure Later (view later : BridgeView Worker) : Prop where
  operation : ∀ stored, view.state.operations input.id = some stored → ∃ next,
    later.state.operations input.id = some next ∧ stored.transitions <+: next.transitions
  evidence : ∀ stage evidence, view.state.evidence input.id stage = some evidence →
    later.state.evidence input.id stage = some evidence
  history : view.history ⊆ later.history

variable [DecidableEq Worker]

/-- What all runs preserve. -/
structure BridgeInvariant (view : BridgeView Worker) : Prop where
  stored : ∃ operation, view.state.operations input.id = some operation ∧
    Justified platform route input view operation
  faithful : ∀ worker here,
    (bridgeProtocol platform route input.id).localOf worker view.history = some here →
    Faithful input view here

variable {platform route input} {view later : BridgeView Worker}

omit [DecidableEq Worker] in
theorem Later.history_read (step : Later input view later) {instant : Int}
    (read : ClockRead view.history instant) : ClockRead later.history instant := by
  obtain ⟨worker, member⟩ := read
  exact ⟨worker, step.history member⟩

omit [DecidableEq Worker] in
theorem Faithful.mono {here : BridgeLocal} (faithful : Faithful input view here)
    (step : Later input view later) : Faithful input later here where
  operations operation held := by
    obtain ⟨recorded, stored, found, beginning⟩ := faithful.operations operation held
    obtain ⟨next, there, further⟩ := step.operation stored found
    exact ⟨recorded, next, there, beginning.trans further⟩
  evidence stage evidence held := step.evidence stage evidence (faithful.evidence stage evidence held)
  readings instant held := step.history_read (faithful.readings instant held)

omit [DecidableEq Worker] in
theorem Faithful.fresh : Faithful input view .fresh where
  operations _ held := nomatch held
  evidence _ _ held := nomatch held
  readings _ held := nomatch held

omit [DecidableEq Worker] in
theorem Faithful.operation {here : BridgeLocal} (faithful : Faithful input view here)
    {operation : DurableBridgeOperation} (copied : CopiedOperation input view.state operation) :
    Faithful input view { here with operations := operation :: here.operations } where
  operations other held := by
    rcases List.mem_cons.mp held with rfl | before
    · exact copied
    · exact faithful.operations other before
  evidence := faithful.evidence
  readings := faithful.readings

omit [DecidableEq Worker] in
theorem Faithful.shown {here : BridgeLocal} (faithful : Faithful input view here)
    {stage : JsString} {evidence : StageEvidence}
    (found : view.state.evidence input.id stage = some evidence) :
    Faithful input view { here with evidence := (stage, evidence) :: here.evidence } where
  operations := faithful.operations
  evidence other value held := by
    rcases List.mem_cons.mp held with same | before
    · cases same
      exact found
    · exact faithful.evidence other value before
  readings := faithful.readings

omit [DecidableEq Worker] in
theorem Faithful.reading {here : BridgeLocal} (faithful : Faithful input view here)
    {instant : Int} (read : ClockRead view.history instant) :
    Faithful input view { here with readings := instant :: here.readings } where
  operations := faithful.operations
  evidence := faithful.evidence
  readings other held := by
    rcases List.mem_cons.mp held with rfl | before
    · exact read
    · exact faithful.readings other before

omit [DecidableEq Worker] in
/-- The operations a worker holds are the operation of the pool. -/
theorem Faithful.id {here : BridgeLocal} (faithful : Faithful input view here) {id : JsString}
    (held : ∃ operation ∈ here.operations, operation.id = id) : id = input.id := by
  obtain ⟨operation, member, rfl⟩ := held
  exact (faithful.operations operation member).1.id

omit [DecidableEq Worker] in
/-- The state of a copy is one the stored operation has entered. -/
theorem CopiedOperation.state_mem {operation stored : DurableBridgeOperation}
    (copied : CopiedOperation input view.state operation)
    (found : view.state.operations input.id = some stored) :
    operation.state ∈ stored.states := by
  obtain ⟨recorded, other, same, beginning⟩ := copied
  cases found.symm.trans same
  exact (beginning.map _).subset recorded.state_mem

omit [DecidableEq Worker] in
/-- A copy of the current version is in the current state. -/
theorem CopiedOperation.current {operation stored : DurableBridgeOperation}
    (copied : CopiedOperation input view.state operation)
    (found : view.state.operations input.id = some stored) (recorded : stored.Recorded input)
    (version : operation.version = stored.version) : operation.state = stored.state := by
  obtain ⟨own, other, same, beginning⟩ := copied
  cases found.symm.trans same
  have transitions : operation.transitions = stored.transitions := by
    refine beginning.eq_of_length ?_
    rw [own.numbered, recorded.numbered, version]
  refine Option.some.inj ?_
  rw [← own.last, ← recorded.last, DurableBridgeOperation.states, transitions,
    DurableBridgeOperation.states]

/-! ## Steps -/

omit [DecidableEq Worker] in
theorem performed_cons {event : Event bridgeInterface Worker Unit}
    {history : List (Event bridgeInterface Worker Unit)} {stage : BridgeStage}
    (performed : Performed (event :: history) stage) :
    (∃ worker operation stageInput data,
      event = .answered worker (.perform stage operation stageInput) (.ok data)) ∨
      Performed history stage := by
  obtain ⟨worker, operation, stageInput, data, member⟩ := performed
  rcases List.mem_cons.mp member with same | before
  · exact .inl ⟨worker, operation, stageInput, data, same.symm⟩
  · exact .inr ⟨worker, operation, stageInput, data, before⟩

/-- Whatever a step adds to the stores, the stored operation and the copies of the
other workers stay true. -/
theorem BridgeInvariant.step (valid : BridgeInvariant platform route input view)
    {event : Event bridgeInterface Worker Unit} {world : BridgeWorld}
    (stored : ∀ operation, view.state.operations input.id = some operation →
      Justified platform route input view operation → ∃ next,
        world.operations input.id = some next ∧ operation.transitions <+: next.transitions ∧
        Justified platform route input (Protocol.after view event world) next)
    (evidence : ∀ stage evidence, view.state.evidence input.id stage = some evidence →
      world.evidence input.id stage = some evidence)
    (own : Later input view (Protocol.after view event world) → ∀ here,
      (bridgeProtocol platform route input.id).localOf event.worker (event :: view.history) =
        some here → Faithful input (Protocol.after view event world) here) :
    BridgeInvariant platform route input (Protocol.after view event world) := by
  obtain ⟨operation, found, justified⟩ := valid.stored
  obtain ⟨next, there, longer, after⟩ := stored operation found justified
  have later : Later input view (Protocol.after view event world) :=
    ⟨fun other same => ⟨next, there, by cases found.symm.trans same; exact longer⟩, evidence,
      List.subset_cons_self _ _⟩
  refine ⟨⟨next, there, after⟩, fun worker here known => ?_⟩
  by_cases same : event.worker = worker
  · subst same
    exact own later here known
  · rw [Protocol.after_history, Protocol.localOf_cons_of_ne same] at known
    exact (valid.faithful worker here known).mono later

omit [DecidableEq Worker] in
/-- A step that writes nothing. -/
theorem Justified.keeps {operation : DurableBridgeOperation}
    (justified : Justified platform route input view operation)
    {event : Event bridgeInterface Worker Unit}
    (performed : ∀ stage, Performed (event :: view.history) stage →
      stage.state ∈ operation.states) :
    Justified platform route input (Protocol.after view event view.state) operation where
  recorded := justified.recorded
  bounded := justified.bounded
  entered transition member := by
    refine (justified.entered transition member).imp_right ?_
    rintro ⟨source, entered, same, step⟩
    refine ⟨source, entered, same, step.mono (fun _ _ known => known) ?_⟩
    rintro instant ⟨worker, read⟩
    exact ⟨worker, List.mem_cons_of_mem _ read⟩
  approved := justified.approved
  collected := justified.collected
  performed := performed

/-- A step that writes nothing and performs nothing. -/
theorem BridgeInvariant.quiet (valid : BridgeInvariant platform route input view)
    {event : Event bridgeInterface Worker Unit}
    (idle : ∀ worker stage operation stageInput data,
      event ≠ .answered worker (.perform stage operation stageInput) (.ok data))
    (own : Later input view (Protocol.after view event view.state) → ∀ here,
      (bridgeProtocol platform route input.id).localOf event.worker (event :: view.history) =
        some here → Faithful input (Protocol.after view event view.state) here) :
    BridgeInvariant platform route input (Protocol.after view event view.state) := by
  refine valid.step (fun operation found justified => ?_) (fun _ _ found => found) own
  refine ⟨operation, found, List.prefix_rfl, justified.keeps fun stage performed => ?_⟩
  rcases performed_cons performed with ⟨worker, other, stageInput, data, same⟩ | before
  · exact (idle _ _ _ _ _ same).elim
  · exact justified.performed stage before

variable {worker : Worker} {here : BridgeLocal} {call : BridgeCall}
  {answer : bridgeInterface.Answer call}

/-- The local state after an answer. -/
theorem localOf_answer
    (known : (bridgeProtocol platform route input.id).localOf worker view.history = some here)
    {there : BridgeLocal}
    (after : (bridgeProtocol platform route input.id).localOf worker
      (.answered worker call answer :: view.history) = some there) :
    there = here.next call answer := by
  rw [Protocol.localOf_answered_self, known] at after
  exact (Option.some.inj after).symm

omit [DecidableEq Worker] in
/-- A permitted append of the current version extends the path by a justified
transition. -/
theorem Justified.append {operation copy : DurableBridgeOperation}
    (justified : Justified platform route input view operation)
    (faithful : Faithful input view here) (held : copy ∈ here.operations)
    {command : TransitionCommand} (state : copy.state = operation.state)
    (step : BridgeStep platform copy.expiresAt (here.Knows route) here.Read copy.state
      command.target)
    (decides : BridgeLocal.Decides command.policyDecision command.target)
    {event : Event bridgeInterface Worker Unit} {world : BridgeWorld}
    (evidence : world.evidence = view.state.evidence)
    (performed : ∀ stage, Performed (event :: view.history) stage → Performed view.history stage) :
    Justified platform route input (Protocol.after view event world)
      (PostgresTransactionStore.appended operation command) := by
  have expiry : copy.expiresAt = input.expiresAt := (faithful.operations copy held).1.expiry
  have holds : ∀ stage evidence, view.state.Holds route input stage evidence →
      world.Holds route input stage evidence := by
    intro stage value found
    rwa [BridgeWorld.Holds, evidence]
  have reads : ∀ instant, ClockRead view.history instant →
      ClockRead (event :: view.history) instant := by
    rintro instant ⟨worker, read⟩
    exact ⟨worker, List.mem_cons_of_mem _ read⟩
  have lands : BridgeStep platform input.expiresAt (world.Holds route input)
      (ClockRead (event :: view.history)) operation.state command.target := by
    rw [expiry, state] at step
    refine step.mono (fun stage evidence known => ?_) fun instant read => ?_
    · exact holds stage evidence (faithful.evidence _ _ known)
    · exact reads instant (faithful.readings instant read)
  have states : (PostgresTransactionStore.appended operation command).states =
      operation.states ++ [command.target] := by
    simp only [DurableBridgeOperation.states, PostgresTransactionStore.appended, List.map_append,
      List.map_cons, List.map_nil]
  have kept : ∀ {state : BridgeState}, state ∈ operation.states →
      state ∈ (PostgresTransactionStore.appended operation command).states := by
    intro state member
    rw [states]
    exact List.mem_append_left _ member
  refine ⟨⟨justified.recorded.id, justified.recorded.expiry, ?_, ?_⟩, ?_, ?_, ?_, ?_, ?_⟩
  · simp only [PostgresTransactionStore.appended, List.length_append, List.length_cons,
      List.length_nil, justified.recorded.numbered]
  · rw [states, List.getLast?_concat]
    rfl
  · intro entered member
    rw [states] at member
    rcases List.mem_append.mp member with before | last
    · exact (justified.bounded entered before).trans lands.progress.le
    · rw [List.mem_singleton.mp last]
      exact Nat.le_refl _
  · intro transition member
    rcases List.mem_append.mp member with before | last
    · refine (justified.entered transition before).imp_right ?_
      rintro ⟨source, entered, same, earlier⟩
      exact ⟨source, kept entered, same, earlier.mono holds reads⟩
    · rw [List.mem_singleton.mp last]
      exact .inr ⟨operation.state, kept justified.recorded.state_mem, rfl, lands⟩
  · intro member
    rw [states] at member
    -- Once the policy has approved, no later transition carries a decision.
    rcases List.mem_append.mp member with before | last
    · have decided : command.policyDecision = none := by
        have bound := justified.bounded _ before
        have further := lands.progress
        cases target : command.target <;> rw [target] at decides further <;>
          first | exact decides | simp only [BridgeState.progress] at bound further; omega
      simp only [PostgresTransactionStore.appended, decided, Option.none_or]
      exact justified.approved before
    · rw [← List.mem_singleton.mp last] at decides
      cases decision : command.policyDecision with
      | none => rw [decision] at decides; cases decides
      | some value =>
          rw [decision] at decides
          simp only [PostgresTransactionStore.appended, decision, Option.some_or]
          exact decides
  · intro stage value found
    rw [Protocol.after_state, BridgeWorld.Holds, evidence] at found
    exact kept (justified.collected stage value found)
  · exact fun stage done => kept (justified.performed stage (performed stage done))

/-- An append. -/
theorem BridgeInvariant.append (valid : BridgeInvariant platform route input view)
    (known : (bridgeProtocol platform route input.id).localOf worker view.history = some here)
    {command : TransitionCommand}
    (allowed : here.Allows platform route input.id (.append command)) :
    BridgeInvariant platform route input (Protocol.after view
      (.answered worker (.append command)
        (PostgresTransactionStore.append view.state.operations command).1)
      { view.state with
        operations := (PostgresTransactionStore.append view.state.operations command).2 }) := by
  have faithful := valid.faithful worker here known
  obtain ⟨decides, copy, held, id, version, step⟩ := allowed
  have named : command.operationId = input.id := faithful.id ⟨copy, held, id⟩
  rcases PostgresTransactionStore.append_cases view.state.operations command with
    ⟨error, refused⟩ | ⟨existing, found, _, replayed⟩ | ⟨operation, found, current, _, appended⟩
  · rw [refused]
    refine valid.quiet (fun _ _ _ _ _ => nofun) fun later there after => ?_
    rw [localOf_answer known after]
    exact faithful.mono later
  · rw [replayed]
    refine valid.quiet (fun _ _ _ _ _ => nofun) fun later there after => ?_
    rw [localOf_answer known after]
    obtain ⟨stored, same, justified⟩ := valid.stored
    rw [named] at found
    cases found.symm.trans same
    exact (faithful.mono later).operation ⟨justified.recorded, existing, found, List.prefix_rfl⟩
  · rw [appended]
    rw [named] at found
    have there : Function.update view.state.operations command.operationId
        (some (PostgresTransactionStore.appended operation command)) input.id =
          some (PostgresTransactionStore.appended operation command) := by
      rw [named]
      exact Function.update_self ..
    have extended : ∀ stored, view.state.operations input.id = some stored →
        Justified platform route input view stored →
        Justified platform route input (Protocol.after view (.answered worker (.append command)
            (.ok (PostgresTransactionStore.appended operation command)))
          { view.state with operations := (Function.update view.state.operations
              command.operationId (some (PostgresTransactionStore.appended operation command))) })
          (PostgresTransactionStore.appended operation command) := by
      intro stored same justified
      cases found.symm.trans same
      have state := (faithful.operations copy held).current found justified.recorded
        (version.trans current.symm)
      refine justified.append faithful held state step decides rfl fun stage performed => ?_
      rcases performed_cons performed with ⟨_, _, _, _, same⟩ | before
      · cases same
      · exact before
    refine valid.step (fun stored same justified => ?_) (fun _ _ found => found)
      fun later there' after => ?_
    · cases found.symm.trans same
      exact ⟨_, there, List.prefix_append _ _, extended operation found justified⟩
    · rw [localOf_answer known after]
      obtain ⟨stored, same, justified⟩ := valid.stored
      exact (faithful.mono later).operation
        ⟨(extended stored same justified).recorded, _, there, List.prefix_rfl⟩

/-- Evidence is put by a worker whose copy is in the state that collects it. -/
theorem BridgeInvariant.put (valid : BridgeInvariant platform route input view)
    (known : (bridgeProtocol platform route input.id).localOf worker view.history = some here)
    {evidence : StageEvidence}
    (allowed : here.Allows platform route input.id (.putEvidence evidence)) :
    BridgeInvariant platform route input (Protocol.after view
      (.answered worker (.putEvidence evidence) (view.state.putEvidence evidence).1)
      (view.state.putEvidence evidence).2) := by
  have faithful := valid.faithful worker here known
  obtain ⟨copy, held, id, stage, text, state⟩ := allowed
  have named : evidence.operationId = input.id := faithful.id ⟨copy, held, id⟩
  rcases view.state.putEvidence_cases evidence with
    ⟨error, refused⟩ | ⟨stored, found, same⟩ | ⟨absent, written⟩
  · rw [refused]
    refine valid.quiet (fun _ _ _ _ _ => nofun) fun later there after => ?_
    rw [localOf_answer known after]
    exact faithful.mono later
  · rw [same]
    refine valid.quiet (fun _ _ _ _ _ => nofun) fun later there after => ?_
    rw [localOf_answer known after]
    rw [named] at found
    exact (faithful.mono later).shown found
  · rw [written]
    rw [named] at absent
    refine valid.step (fun operation found justified => ?_) (fun other value found => ?_)
      fun later there after => ?_
    · refine ⟨operation, found, List.prefix_rfl, justified.recorded, justified.bounded, ?_,
        justified.approved, ?_, ?_⟩
      · intro transition member
        refine (justified.entered transition member).imp_right ?_
        rintro ⟨source, entered, same, step⟩
        refine ⟨source, entered, same, step.mono (fun other value shown => ?_) ?_⟩
        · have distinct : ¬ (input.id = evidence.operationId ∧
              route.stageText other = evidence.stage) := by
            rintro ⟨_, same⟩
            rw [BridgeWorld.Holds, same] at shown
            cases shown.symm.trans absent
          simp only [BridgeWorld.Holds, Protocol.after_state, distinct, ↓reduceIte]
          exact shown
        · rintro instant ⟨reader, read⟩
          exact ⟨reader, List.mem_cons_of_mem _ read⟩
      · intro other value shown
        by_cases same : other = stage
        · subst same
          rw [← state]
          exact (faithful.operations copy held).state_mem found
        · have distinct : ¬ (input.id = evidence.operationId ∧
              route.stageText other = evidence.stage) := by
            rintro ⟨_, equal⟩
            exact same (route.distinct (equal.trans text))
          simp only [BridgeWorld.Holds, Protocol.after_state, distinct, ↓reduceIte] at shown
          exact justified.collected other value shown
      · intro other performed
        rcases performed_cons performed with ⟨_, _, _, _, same⟩ | before
        · cases same
        · exact justified.performed other before
    · have distinct : ¬ (input.id = evidence.operationId ∧ other = evidence.stage) := by
        rintro ⟨_, rfl⟩
        cases found.symm.trans absent
      simp only [distinct, ↓reduceIte, found]
    · rw [localOf_answer known after]
      refine (faithful.mono later).shown ?_
      simp only [Protocol.after_state, named, and_self, ↓reduceIte]

/-- **Every step of the coordinators keeps the invariant.** -/
theorem BridgeInvariant.preserves
    (admits : BridgeView Worker → Event bridgeInterface Worker Unit → Prop) :
    (bridgeProtocol platform route input.id).Preserves admits
      (BridgeInvariant platform route input) where
  started view worker entry valid _ _ := by
    refine valid.quiet (fun _ _ _ _ _ same => by cases same) fun _ here known => ?_
    rw [Event.worker, Protocol.localOf_started_self] at known
    cases known
    exact .fresh
  issued view worker call here valid _ known _ := by
    refine valid.quiet (fun _ _ _ _ _ same => by cases same) fun later there after => ?_
    rw [Protocol.localOf_issued] at after
    exact (valid.faithful _ _ after).mono later
  crashed view worker here valid _ _ := by
    refine valid.quiet (fun _ _ _ _ _ same => by cases same) fun _ there after => ?_
    rw [Event.worker, Protocol.localOf_crashed_self] at after
    cases after
  answered view worker call answer here choice world valid _ _ known allowed replied := by
    have faithful := valid.faithful worker here known
    cases call with
    | now =>
        cases choice <;> cases replied
        refine valid.quiet (fun _ _ _ _ _ same => by cases same) fun later there after => ?_
        rw [localOf_answer known after]
        exact (faithful.mono later).reading ⟨worker, List.mem_cons_self⟩
    | getOperation id =>
        cases choice <;> cases replied
        obtain ⟨operation, found, justified⟩ := valid.stored
        have named : id = input.id := allowed.elim (fun same => same) faithful.id
        subst named
        rw [found]
        refine valid.quiet (fun _ _ _ _ _ same => by cases same) fun later there after => ?_
        rw [localOf_answer known after]
        exact (faithful.mono later).operation
          ⟨justified.recorded, operation, found, List.prefix_rfl⟩
    | findTransition operationId transitionKey =>
        cases choice <;> cases replied
        refine valid.quiet (fun _ _ _ _ _ same => by cases same) fun later there after => ?_
        rw [localOf_answer known after]
        exact faithful.mono later
    | append command =>
        cases choice <;> cases replied
        exact valid.append known allowed
    | getEvidence operationId stage =>
        cases choice <;> cases replied
        have named : operationId = input.id := faithful.id allowed
        subst named
        cases found : view.state.evidence input.id stage with
        | none =>
            refine valid.quiet (fun _ _ _ _ _ same => by cases same) fun later there after => ?_
            rw [localOf_answer known after]
            exact faithful.mono later
        | some evidence =>
            refine valid.quiet (fun _ _ _ _ _ same => by cases same) fun later there after => ?_
            rw [localOf_answer known after]
            exact (faithful.mono later).shown found
    | putEvidence evidence =>
        cases choice <;> cases replied
        exact valid.put known allowed
    | evaluate operation =>
        cases choice <;> cases replied
        all_goals
          refine valid.quiet (fun _ _ _ _ _ same => by cases same) fun later there after => ?_
          rw [localOf_answer known after]
          exact faithful.mono later
    | perform stage operation stageInput =>
        obtain ⟨held, state⟩ := allowed
        cases choice <;> cases replied
        · refine valid.step (fun stored found justified => ?_) (fun _ _ found => found)
            fun later there after => ?_
          · refine ⟨stored, found, List.prefix_rfl, justified.keeps fun other performed => ?_⟩
            rcases performed_cons performed with ⟨_, _, _, _, same⟩ | before
            · cases same
              rw [← state]
              exact (faithful.operations operation held).state_mem found
            · exact justified.performed other before
          · rw [localOf_answer known after]
            exact faithful.mono later
        · refine valid.quiet (fun _ _ _ _ _ same => by cases same) fun later there after => ?_
          rw [localOf_answer known after]
          exact faithful.mono later

/-! ## Runs -/

/-- An operation has been created and no stage has evidence. -/
def BridgeView.opened (Worker : Type) (table : OperationTable) : BridgeView Worker :=
  ⟨⟨table, fun _ _ => none⟩, []⟩

theorem BridgeInvariant.opened {operation : DurableBridgeOperation} {table : OperationTable}
    (created : DurableTransactionEngine.create platform input (fun _ => none) =
      (.ok operation, table)) :
    BridgeInvariant platform route input (BridgeView.opened Worker table) := by
  obtain ⟨found, recorded, state, states⟩ := DurableTransactionEngine.create_ok created
  refine ⟨⟨operation, found, recorded, ?_, ?_, ?_, nofun, ?_⟩, nofun⟩
  · intro entered member
    rw [states, List.mem_singleton] at member
    rw [member, state]
  · intro transition member
    have entered : transition.target ∈ operation.states := List.mem_map_of_mem member
    rw [states, List.mem_singleton] at entered
    exact .inl entered
  · intro member
    rw [states, List.mem_singleton] at member
    cases member
  · rintro stage ⟨_, _, _, _, member⟩
    cases member

/-- The invariant holds in every configuration that coordinator runs reach. -/
theorem BridgeInvariant.reachable {operation : DurableBridgeOperation} {table : OperationTable}
    (created : DurableTransactionEngine.create platform input (fun _ => none) =
      (.ok operation, table))
    {admits : BridgeView Worker → Event bridgeInterface Worker Unit → Prop}
    {config : Config bridgeServices Worker Unit DurableBridgeOperation}
    (reached : Reachable (fun _ => BridgeCoordinator.run platform route input.id) admits
      (BridgeView.opened Worker table) config) :
    BridgeInvariant platform route input config.toView :=
  Protocol.invariant (fun _ => BridgeCoordinator.run_follows platform route input.id)
    BridgeWorld.reply_possible rfl (.opened created) (BridgeInvariant.preserves admits) reached

end Runs
end InterWeave
