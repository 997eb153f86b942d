import InterWeave.Async.Transcript
import InterWeave.Bridge.TransactionRows
import InterWeave.Core.IsoDate
import Mathlib.Data.List.Chain

/-! # Histories of operations

Whatever commands are run, in whatever order and with whatever keys, versions and
targets, the log of an operation is one chain of legal transitions from its creation
to the state of its snapshot. Every step of the graph of states goes up in one order,
so that no state comes back, and nothing follows a terminal state.
-/

namespace InterWeave

open Async

/-- `assertTransitionChain`, from an index on, after the transition before. -/
def assertChainFrom (index : Nat) (previous : Option BridgeState) :
    List PersistedTransition → Except Thrown Unit
  | [] => .ok ()
  | transition :: rest =>
      if index = 0 ∧ transition.source ≠ none then
        .error (.error (js "first transition must start from null"))
      else if 0 < index ∧ transition.source ≠ previous then
        .error (.error (js "disconnected transition at index " ++ bigintText index))
      else assertChainFrom (index + 1) (some transition.target) rest

def assertTransitionChain (transitions : List PersistedTransition) : Except Thrown Unit :=
  assertChainFrom 0 none transitions

/-! ## The order of states -/

/-- How far a state is from `CREATED`; the terminal states are last. -/
def BridgeState.rank : BridgeState → Nat
  | .created => 0
  | .policyChecked => 1
  | .sourcePreparing => 2
  | .sourceSubmitted => 3
  | .sourceConfirmed => 4
  | .sourceFinalized => 5
  | .attestationPending => 6
  | .attested => 7
  | .destinationPreparing => 8
  | .destinationSubmitted => 9
  | .destinationConfirmed => 10
  | .destinationFinalized => 11
  | .reconciliationPending => 12
  | .reconciled => 13
  | _ => 14

theorem BridgeState.rank_lt_of_canTransition :
    ∀ source target : BridgeState, source.canTransition target = true →
      source.rank < target.rank := by
  decide

/-- Nothing follows a terminal state. -/
theorem BridgeState.canTransition_of_terminal {source : BridgeState}
    (final : source.terminal = true) (target : BridgeState) :
    source.canTransition target = false := by
  rw [canTransition, if_pos final]

/-- States that follow each other never repeat. -/
theorem BridgeState.nodup_of_isChain {states : List BridgeState}
    (chain : states.IsChain fun before after => before.canTransition after = true) :
    states.Nodup := by
  have ranks : (states.map rank).IsChain (· < ·) :=
    (List.isChain_map rank).mpr (chain.imp rank_lt_of_canTransition)
  exact List.Nodup.of_map rank (ranks.pairwise.imp Nat.ne_of_lt)

/-! ## Logs -/

/-- A transition starts where the one before ended, by a legal step. -/
def TransitionRow.Follows (before after : TransitionRow) : Prop :=
  after.fromState = some before.toState ∧ before.toState.canTransition after.toState = true

/-- A log that leads to the state and the version of an operation. -/
structure OperationRow.Recorded (row : OperationRow) (log : List TransitionRow) : Prop where
  sequences : log.map TransitionRow.sequence = List.range (row.version + 1)
  first : ∀ transition ∈ log.head?, transition.fromState = none ∧ transition.toState = .created
  chained : log.IsChain TransitionRow.Follows
  last : log.getLast?.map TransitionRow.toState = some row.state
  state : row.operation.state = row.state
  version : row.operation.version = row.version

theorem assertChainFrom_ok {log : List TransitionRow} {index : Nat} {previous : TransitionRow}
    (chained : (previous :: log).IsChain TransitionRow.Follows) (later : 0 < index) :
    assertChainFrom index (some previous.toState) (log.map TransitionRow.persisted) = .ok () := by
  induction log generalizing index previous with
  | nil => rfl
  | cons transition rest ih =>
      rw [List.isChain_cons_cons] at chained
      have source : transition.persisted.source = some previous.toState := chained.1.1
      rw [List.map_cons, assertChainFrom, if_neg (fun both => by omega),
        if_neg (fun both => both.2 source)]
      exact ih chained.2 (Nat.succ_pos index)

namespace OperationRow.Recorded

variable {row : OperationRow} {log : List TransitionRow}

theorem assertTransitionChain_ok (recorded : row.Recorded log) :
    assertTransitionChain (log.map TransitionRow.persisted) = .ok () := by
  cases log with
  | nil => rfl
  | cons transition rest =>
      obtain ⟨start, _⟩ := recorded.first transition rfl
      have source : transition.persisted.source = none := start
      rw [List.map_cons, assertTransitionChain, assertChainFrom,
        if_neg (fun both => both.2 source), if_neg (fun both => by omega)]
      exact assertChainFrom_ok recorded.chained Nat.one_pos

theorem states_nodup (recorded : row.Recorded log) :
    (log.map TransitionRow.toState).Nodup :=
  BridgeState.nodup_of_isChain
    ((List.isChain_map _).mpr (recorded.chained.imp fun _ _ follows => follows.2))

theorem ne_nil (recorded : row.Recorded log) : log ≠ [] := by
  rintro rfl
  cases recorded.last

/-- A log is in the order of its sequence numbers. -/
theorem sorted (recorded : row.Recorded log) :
    log.Pairwise fun left right => left.sequence ≤ right.sequence := by
  have ranged : (log.map TransitionRow.sequence).Pairwise (· ≤ ·) :=
    recorded.sequences ▸ List.pairwise_le_range
  exact List.pairwise_map.mp ranged

/-- The first transition of a new operation. -/
theorem created {transition : TransitionRow} (sequence : transition.sequence = 0)
    (start : transition.fromState = none) (state : transition.toState = .created)
    (version : row.version = 0) (fresh : row.state = .created)
    (snapshot : row.operation.state = .created ∧ row.operation.version = 0) :
    row.Recorded [transition] where
  sequences := by rw [List.map_singleton, sequence, version]; rfl
  first := fun other same => by cases same; exact ⟨start, state⟩
  chained := List.isChain_singleton _
  last := by rw [List.getLast?_singleton, Option.map_some, state, fresh]
  state := snapshot.1.trans fresh.symm
  version := snapshot.2.trans version.symm

/-- A legal transition after a log. -/
theorem appended (recorded : row.Recorded log) {transition : TransitionRow} {next : OperationRow}
    (sequence : transition.sequence = row.version + 1)
    (source : transition.fromState = some row.state)
    (legal : row.state.canTransition transition.toState = true)
    (version : next.version = row.version + 1) (state : next.state = transition.toState)
    (snapshot : next.operation.state = next.state ∧ next.operation.version = next.version) :
    next.Recorded (log ++ [transition]) where
  sequences := by
    rw [List.map_append, recorded.sequences, List.map_singleton, sequence, version,
      ← List.range_succ]
  first := fun other same => by
    rw [List.head?_append_of_ne_nil _ recorded.ne_nil] at same
    exact recorded.first other same
  chained := by
    refine recorded.chained.append (List.isChain_singleton _) fun before latest after same => ?_
    cases same
    have ends : before.toState = row.state := by
      have last := recorded.last
      rw [Option.mem_def.mp latest] at last
      exact Option.some.inj last
    exact ⟨source.trans (congrArg some ends.symm), ends ▸ legal⟩
  last := by rw [List.getLast?_concat, Option.map_some, state]
  state := snapshot.1
  version := snapshot.2

end OperationRow.Recorded

/-! ## The tables -/

namespace BridgeTables

/-- The transitions of an operation, in the order of their insertion. -/
def logOf (tables : BridgeTables) (id : JsString) : List TransitionRow :=
  tables.transitions.filter fun row => row.operationId = id

/-- Every operation has its log. -/
def Chronicled (tables : BridgeTables) : Prop :=
  ∀ row ∈ tables.operations, row.Recorded (tables.logOf row.id)

variable {platform : Platform} {tables next : BridgeTables}

theorem transitionsOf_eq_logOf (chronicled : tables.Chronicled) {row : OperationRow}
    (member : row ∈ tables.operations) : tables.transitionsOf row.id = tables.logOf row.id :=
  (chronicled row member).sorted.insertionSort_eq

theorem insertOperation_some {row : OperationRow}
    (inserted : tables.insertOperation row = some next) :
    row.id ∉ tables.operations.map OperationRow.id ∧
      next.operations = tables.operations ++ [row] ∧ next.transitions = tables.transitions := by
  rw [insertOperation] at inserted
  split at inserted
  · rename_i fresh
    cases inserted
    exact ⟨fresh, rfl, rfl⟩
  · cases inserted

theorem insertTransition_ok {row : TransitionRow}
    (inserted : tables.insertTransition platform row = .ok next) :
    next.operations = tables.operations ∧ next.transitions = tables.transitions ++ [row] := by
  rw [insertTransition] at inserted
  split at inserted
  · cases inserted
  · split at inserted
    · cases inserted
    · split at inserted
      · split at inserted
        · split at inserted
          · split at inserted
            · cases inserted
              exact ⟨rfl, rfl⟩
            · cases inserted
          · cases inserted
        · cases inserted
      · cases inserted

theorem load_some {id : JsString} {operation : DurableBridgeOperation}
    (loaded : tables.load id = some operation) :
    ∃ row ∈ tables.operations, row.id = id ∧ operation.state = row.operation.state ∧
      operation.version = row.operation.version := by
  obtain ⟨row, found, rfl⟩ := Option.map_eq_some_iff.mp loaded
  exact ⟨row, List.mem_of_find?_eq_some found, by simpa using List.find?_some found, rfl, rfl⟩

theorem findTransition_some {id key : JsString} {row : TransitionRow}
    (found : tables.findTransition id key = some row) :
    row ∈ tables.transitions ∧ row.operationId = id ∧ row.transitionKey = key := by
  have named := List.find?_some found
  rw [decide_eq_true_eq] at named
  exact ⟨List.mem_of_find?_eq_some found, named⟩

/-- The rows of one identifier are one row. -/
theorem row_unique {row other : OperationRow} (member : row ∈ tables.operations)
    (among : other ∈ tables.operations) (same : row.id = other.id) : row = other :=
  List.inj_on_of_nodup_map tables.operationsKey member among same

/-- The transactions of the store, by what they leave. -/
inductive Replies (tables : BridgeTables) :
    (call : TransactionCall) → transactionInterface.Answer call → BridgeTables → Prop where
  | unchanged {call : TransactionCall} (answer : transactionInterface.Answer call) :
      Replies tables call answer tables
  | created {input : CreateBridgeOperation} {initial : PersistedTransition}
      {operation : DurableBridgeOperation} {next : BridgeTables} :
      input.id ∉ tables.operations.map OperationRow.id →
      next.operations = tables.operations ++ [newRow input] →
      next.transitions = tables.transitions ++ [firstTransition input initial] →
      Replies tables (.create input initial) (.ok operation) next
  | appended {command : TransitionInput} {operation returned : DurableBridgeOperation}
      {attempt : Nat} {next : BridgeTables} :
      tables.load command.operationId = some operation →
      operation.state.canTransition command.target = true →
      next.operations = tables.operations.map
        (OperationRow.updated command.operationId (nextSnapshot operation command)) →
      next.transitions = tables.transitions ++ [nextTransition operation command attempt] →
      Replies tables (.append command) (.ok returned) next

theorem replies_of_create {input : CreateBridgeOperation} {initial : PersistedTransition}
    {answer : Except Thrown DurableBridgeOperation}
    (settled : tables.settle (tables.create platform input initial) = (answer, next)) :
    tables.Replies (.create input initial) answer next := by
  rw [create] at settled
  cases inserted : tables.insertOperation (newRow input) with
  | none =>
      rw [inserted] at settled
      cases settled
      exact .unchanged _
  | some between =>
      rw [inserted] at settled
      obtain ⟨fresh, rows, kept⟩ := insertOperation_some inserted
      cases logged : between.insertTransition platform (firstTransition input initial) with
      | error error =>
          simp only [logged] at settled
          cases settled
          exact .unchanged _
      | ok final =>
          simp only [logged] at settled
          cases settled
          obtain ⟨same, more⟩ := insertTransition_ok logged
          exact .created fresh (same.trans rows) (by rw [more, kept])

/-- An append finds its transition, writes the next one, or fails. -/
theorem append_cases {command : TransitionInput} {answer : Except Thrown DurableBridgeOperation}
    (settled : tables.settle (tables.append platform command) = (answer, next)) :
    (next = tables ∧ ∀ operation, answer = .ok operation → ∃ duplicate,
      tables.findTransition command.operationId command.transitionKey = some duplicate ∧
        duplicate.toState = command.target) ∨
    tables.findTransition command.operationId command.transitionKey = none ∧
      ∃ operation returned attempt, answer = .ok returned ∧
        tables.load command.operationId = some operation ∧
        operation.state.canTransition command.target = true ∧
        next.operations = tables.operations.map
          (OperationRow.updated command.operationId (nextSnapshot operation command)) ∧
        next.transitions = tables.transitions ++ [nextTransition operation command attempt] := by
  have refused : ∀ {error : Thrown}, tables.settle (.error error) = (answer, next) →
      next = tables ∧ ∀ operation, answer = .ok operation → ∃ duplicate,
        tables.findTransition command.operationId command.transitionKey = some duplicate ∧
          duplicate.toState = command.target := by
    intro error settled
    cases settled
    exact ⟨rfl, fun _ same => by cases same⟩
  rw [append] at settled
  split at settled
  · rename_i duplicate found
    split at settled
    · exact .inl (refused settled)
    rename_i same
    split at settled
    · exact .inl (refused settled)
    · cases settled
      exact .inl ⟨rfl, fun _ _ => ⟨duplicate, found, not_not.mp same⟩⟩
  · rename_i fresh
    split at settled
    · exact .inl (refused settled)
    rename_i operation loaded
    split at settled
    · exact .inl (refused settled)
    split at settled
    · exact .inl (refused settled)
    rename_i legal
    cases attempted : integerColumn command.attempt with
    | error error =>
        rw [attempted] at settled
        exact .inl (refused settled)
    | ok attempt =>
        cases logged : tables.insertTransition platform
            (nextTransition operation command attempt) with
        | error error =>
            simp only [attempted] at settled
            change tables.settle (tables.insertTransition _ _ >>= _) = _ at settled
            rw [logged] at settled
            exact .inl (refused settled)
        | ok final =>
            simp only [attempted] at settled
            change tables.settle (tables.insertTransition _ _ >>= _) = _ at settled
            rw [logged] at settled
            cases settled
            obtain ⟨same, more⟩ := insertTransition_ok logged
            exact .inr ⟨fresh, operation, _, attempt, rfl, loaded, by simpa using legal,
              congrArg (List.map _) same, more⟩

theorem replies_of_append {command : TransitionInput}
    {answer : Except Thrown DurableBridgeOperation}
    (settled : tables.settle (tables.append platform command) = (answer, next)) :
    tables.Replies (.append command) answer next := by
  rcases append_cases settled with ⟨rfl, _⟩ |
    ⟨_, operation, returned, attempt, rfl, loaded, legal, rows, more⟩
  · exact .unchanged _
  · exact .appended loaded legal rows more

theorem replies_of_reply {call : TransactionCall} {choice : TransactionChoice}
    {answer : transactionInterface.Answer call}
    (replied : reply platform call choice tables = some (answer, next)) :
    tables.Replies call answer next := by
  cases choice with
  | failed error =>
      cases call <;> cases replied <;> exact .unchanged _
  | committed =>
      cases call with
      | create input initial => exact replies_of_create (Option.some.inj replied)
      | append command => exact replies_of_append (Option.some.inj replied)
      | get id => cases replied; exact .unchanged _
      | findTransition operationId transitionKey => cases replied; exact .unchanged _

/-- A new transition belongs to the log of its operation only. -/
theorem logOf_append {transition : TransitionRow}
    (more : next.transitions = tables.transitions ++ [transition]) (id : JsString) :
    next.logOf id =
      tables.logOf id ++ if transition.operationId = id then [transition] else [] := by
  rw [logOf, more, List.filter_append, ← logOf]
  congr 1
  by_cases same : transition.operationId = id <;>
    simp only [List.filter_cons, List.filter_nil, same, decide_true, decide_false, ↓reduceIte,
      Bool.false_eq_true]

/-- An operation without a row has no log. -/
theorem logOf_eq_nil {id : JsString} (absent : id ∉ tables.operations.map OperationRow.id) :
    tables.logOf id = [] := by
  rw [logOf, List.filter_eq_nil_iff]
  intro transition member same
  exact absent (of_decide_eq_true same ▸ tables.references transition member)

theorem Chronicled.created (chronicled : tables.Chronicled) {input : CreateBridgeOperation}
    {initial : PersistedTransition} (start : initial.target = .created)
    (fresh : input.id ∉ tables.operations.map OperationRow.id)
    (rows : next.operations = tables.operations ++ [newRow input])
    (more : next.transitions = tables.transitions ++ [firstTransition input initial]) :
    next.Chronicled := by
  intro row member
  rw [rows] at member
  rw [logOf_append more]
  rcases List.mem_append.mp member with old | last
  · have other : (firstTransition input initial).operationId ≠ row.id :=
      fun same => fresh (List.mem_map.mpr ⟨row, old, same.symm⟩)
    rw [if_neg other, List.append_nil]
    exact chronicled row old
  · obtain rfl := List.mem_singleton.mp last
    have empty : tables.logOf (newRow input).id = [] := logOf_eq_nil fresh
    rw [empty, List.nil_append]
    change OperationRow.Recorded _ (if input.id = input.id then _ else _)
    rw [if_pos rfl]
    exact .created rfl rfl start rfl rfl ⟨rfl, rfl⟩

/-- Where an update finds a row, the row was loaded; it leaves every other row. -/
theorem mem_updated {id : JsString} {snapshot : DurableBridgeOperation} {row : OperationRow}
    (rows : next.operations = tables.operations.map (OperationRow.updated id snapshot))
    (member : row ∈ next.operations) :
    ∃ old ∈ tables.operations, old.id = row.id ∧
      (old.id = id → row.state = snapshot.state ∧ row.version = snapshot.version ∧
        row.operation = snapshot) ∧ (old.id ≠ id → row = old) := by
  rw [rows] at member
  obtain ⟨old, among, rfl⟩ := List.mem_map.mp member
  refine ⟨old, among, (old.updated_id id snapshot).symm, fun same => ?_, fun other => ?_⟩
  · rw [OperationRow.updated, if_pos same]
    exact ⟨rfl, rfl, rfl⟩
  · rw [OperationRow.updated, if_neg other]

theorem Chronicled.appended (chronicled : tables.Chronicled) {command : TransitionInput}
    {operation : DurableBridgeOperation} {attempt : Nat}
    (loaded : tables.load command.operationId = some operation)
    (legal : operation.state.canTransition command.target = true)
    (rows : next.operations = tables.operations.map
      (OperationRow.updated command.operationId (nextSnapshot operation command)))
    (more : next.transitions = tables.transitions ++ [nextTransition operation command attempt]) :
    next.Chronicled := by
  intro row member
  obtain ⟨old, among, id, changed, kept⟩ := mem_updated rows member
  have recorded := chronicled old among
  rw [logOf_append more, ← id]
  by_cases same : old.id = command.operationId
  · obtain ⟨found, listed, named, state, version⟩ := load_some loaded
    obtain rfl := row_unique among listed (same.trans named.symm)
    rw [recorded.state] at state
    rw [recorded.version] at version
    obtain ⟨nextState, nextVersion, snapshot⟩ := changed same
    change OperationRow.Recorded _ (_ ++ if command.operationId = old.id then _ else _)
    rw [if_pos same.symm]
    refine recorded.appended ?_ ?_ (state ▸ legal) ?_ nextState ⟨?_, ?_⟩
    · exact congrArg (· + 1) version
    · exact congrArg some state
    · exact nextVersion.trans (congrArg (· + 1) version)
    · rw [snapshot, nextState]
    · rw [snapshot, nextVersion]
  · have other : (nextTransition operation command attempt).operationId ≠ old.id :=
      fun equal => same equal.symm
    rw [if_neg other, List.append_nil, kept same]
    exact recorded

/-- A terminal operation stays as it is, with its log. -/
theorem Replies.terminal {call : TransactionCall} {answer : transactionInterface.Answer call}
    (replies : tables.Replies call answer next) (chronicled : tables.Chronicled)
    {row : OperationRow} (member : row ∈ tables.operations) (final : row.state.terminal = true) :
    row ∈ next.operations ∧ next.logOf row.id = tables.logOf row.id := by
  cases replies with
  | unchanged answer => exact ⟨member, rfl⟩
  | @created input initial operation _ fresh rows more =>
      have other : (firstTransition input initial).operationId ≠ row.id :=
        fun same => fresh (List.mem_map.mpr ⟨row, member, same.symm⟩)
      refine ⟨rows ▸ List.mem_append_left _ member, ?_⟩
      rw [logOf_append more, if_neg other, List.append_nil]
  | @appended command operation _ attempt _ loaded legal rows more =>
      have other : row.id ≠ command.operationId := by
        intro same
        obtain ⟨found, listed, named, state, _⟩ := load_some loaded
        obtain rfl := row_unique member listed (same.trans named.symm)
        rw [(chronicled row member).state] at state
        rw [state, BridgeState.canTransition_of_terminal final] at legal
        cases legal
      have foreign : (nextTransition operation command attempt).operationId ≠ row.id :=
        fun equal => other equal.symm
      refine ⟨rows ▸ List.mem_map.mpr ⟨row, member, ?_⟩, ?_⟩
      · rw [OperationRow.updated, if_neg other]
      · rw [logOf_append more, if_neg foreign, List.append_nil]

/-- What holds of a stored operation and its transitions, in the order of their sequence
numbers. -/
structure Consistent (tables : BridgeTables) (row : OperationRow) : Prop where
  sequences : (tables.transitionsOf row.id).map TransitionRow.sequence =
    List.range (row.version + 1)
  first : ∀ transition ∈ (tables.transitionsOf row.id).head?,
    transition.fromState = none ∧ transition.toState = .created
  chained : assertTransitionChain ((tables.transitionsOf row.id).map TransitionRow.persisted) =
    .ok ()
  steps : (tables.transitionsOf row.id).IsChain fun before after =>
    after.fromState = some before.toState ∧ before.toState.canTransition after.toState = true
  keys : ((tables.transitionsOf row.id).map TransitionRow.transitionKey).Nodup
  states : ((tables.transitionsOf row.id).map TransitionRow.toState).Nodup
  snapshot : (tables.transitionsOf row.id).getLast?.map TransitionRow.toState = some row.state
  operation : row.operation.state = row.state ∧ row.operation.version = row.version

theorem keys_nodup (tables : BridgeTables) (id : JsString) :
    ((tables.logOf id).map TransitionRow.transitionKey).Nodup := by
  have keyed : ((tables.logOf id).map fun row => (row.operationId, row.transitionKey)).Nodup :=
    tables.transitionsKey.sublist (List.filter_sublist.map _)
  have named : (tables.logOf id).map (fun row => (row.operationId, row.transitionKey)) =
      ((tables.logOf id).map TransitionRow.transitionKey).map fun key => (id, key) := by
    rw [List.map_map]
    refine List.map_congr_left fun row member => ?_
    have own : row.operationId = id := of_decide_eq_true (List.mem_filter.mp member).2
    rw [Function.comp, own]
  rw [named] at keyed
  exact keyed.of_map _

theorem Chronicled.consistent (chronicled : tables.Chronicled) {row : OperationRow}
    (member : row ∈ tables.operations) : tables.Consistent row := by
  have recorded := chronicled row member
  have sorted := transitionsOf_eq_logOf chronicled member
  rw [← sorted] at recorded
  exact {
    sequences := recorded.sequences
    first := recorded.first
    chained := recorded.assertTransitionChain_ok
    steps := recorded.chained
    keys := by rw [sorted]; exact tables.keys_nodup row.id
    states := recorded.states_nodup
    snapshot := recorded.last
    operation := ⟨recorded.state, recorded.version⟩ }

end BridgeTables

/-! ## The engine -/

/-- A transaction that may have written rows. -/
def Wrote : Exchange transactionInterface → Prop
  | ⟨.create _ _, .ok _⟩ => True
  | ⟨.append _, .ok _⟩ => True
  | _ => False

namespace TransactionEngine

/-- A command calls the store until it has written, and creates operations as `CREATED`. -/
def asks (exchanges : List (Exchange transactionInterface)) : TransactionCall → Prop
  | .create input initial => initial = initialTransition input ∧ ∀ exchange ∈ exchanges,
      ¬ Wrote exchange
  | _ => ∀ exchange ∈ exchanges, ¬ Wrote exchange

/-- A command that throws has written nothing. -/
def throws (exchanges : List (Exchange transactionInterface)) :
    Except Thrown DurableBridgeOperation → Prop
  | .ok _ => True
  | .error _ => ∀ exchange ∈ exchanges, ¬ Wrote exchange

variable {platform : Platform}

theorem create_asks (input : CreateBridgeOperation) :
    (create platform input).Follows (transcriptProtocol asks) throws [] := by
  rw [create]
  generalize checkCreate platform input = checks
  refine .ofExcept_seq (fun _ _ => ?_) fun _ _ _ member => (List.not_mem_nil member).elim
  refine ⟨⟨rfl, fun _ member => (List.not_mem_nil member).elim⟩, fun answer _ => ?_⟩
  cases answer with
  | ok operation => trivial
  | error error => simp [Program.Follows, throws, Wrote]

theorem transition_asks (command : TransitionInput) :
    (transition command).Follows (transcriptProtocol asks) throws [] := by
  rw [transition]
  generalize checkTransition command = checks
  generalize checkDecision command = decided
  refine .ofExcept_seq (fun _ _ => ?_) fun _ _ _ member => (List.not_mem_nil member).elim
  refine .call_seq (fun _ member => (List.not_mem_nil member).elim) (fun found _ => ?_) fun _ _ => by simp [throws, Wrote]
  have read : ∀ exchange ∈ [(⟨.get command.operationId, .ok found⟩ :
      Exchange transactionInterface)], ¬ Wrote exchange := by simp [Wrote]
  cases found with
  | none => exact read
  | some operation =>
      simp only
      split
      · refine .call_seq read (fun existing _ => ?_) fun _ _ => by simp [throws, Wrote]
        split
        · trivial
        · simp [Program.Follows, throws, Wrote, Program.reject]
      · refine .ofExcept_seq (fun _ _ => ?_) fun _ _ => read
        refine ⟨read, fun answer _ => ?_⟩
        cases answer with
        | ok operation => trivial
        | error error => simp [Program.Follows, throws, Wrote]

theorem run_asks (command : EngineCommand) :
    (run platform command).Follows (transcriptProtocol asks) throws [] := by
  cases command with
  | create input => exact create_asks input
  | transition command => exact transition_asks command

end TransactionEngine

/-! ## Runs -/

section Runs

variable {platform : Platform} {Worker : Type} [DecidableEq Worker]
  {config : Config (transactionServices platform) Worker EngineCommand DurableBridgeOperation}

/-- The configurations of the runs of the engine from empty tables. -/
abbrev TransactionEngine.Reachable (platform : Platform) {Worker : Type} [DecidableEq Worker] :
    Config (transactionServices platform) Worker EngineCommand DurableBridgeOperation → Prop :=
  Async.Reachable (TransactionEngine.run platform) (fun _ _ => True) ⟨BridgeTables.empty, []⟩

namespace TransactionEngine.Reachable

theorem chronicled (reached : TransactionEngine.Reachable platform config) :
    config.state.Chronicled := by
  refine Async.Reachable.invariant reached (fun view => view.state.Chronicled) rfl
    (fun _ member => nomatch member) ?_
  intro config event state before step _ ih
  cases step with
  | answered _ _ allowed replied =>
      obtain ⟨_, reaches⟩ := allowed
      have asked := (run_asks _).admits_of_reaches reaches
      cases BridgeTables.replies_of_reply replied with
      | unchanged answer => exact ih
      | created fresh rows more => exact ih.created (by rw [asked.1]; rfl) fresh rows more
      | appended loaded legal rows more => exact ih.appended loaded legal rows more
  | _ => exact ih

/-- A step that changes a row is the last step of a command that returns. -/
theorem returns_of_changed (reached : TransactionEngine.Reachable platform config)
    {move : Move (transactionServices platform) Worker EngineCommand DurableBridgeOperation}
    (moves : config.Moves (TransactionEngine.run platform) move)
    (changed : move.state ≠ config.state) :
    ∃ operation, move.status = .running (.settled (.ok operation)) := by
  cases moves with
  | start _ => exact absurd rfl changed
  | issue _ => exact absurd rfl changed
  | crash _ => exact absurd rfl changed
  | @answer worker call resume choice answer state status replied =>
      have tracks := Async.Reachable.tracks rfl reached worker
      rw [status] at tracks
      obtain ⟨⟨command, exchanges⟩, known, reaches⟩ := tracks
      have wrote : Wrote ⟨call, answer⟩ := by
        cases BridgeTables.replies_of_reply replied with
        | unchanged answer => exact absurd rfl changed
        | created _ _ _ => trivial
        | appended _ _ _ _ => trivial
      have last : (⟨call, answer⟩ : Exchange transactionInterface) ∈
          exchanges ++ [⟨call, answer⟩] := List.mem_append_right _ List.mem_cons_self
      have follows := (run_asks command).afterTranscript (reaches.snoc answer)
      cases left : resume answer with
      | settled outcome =>
          cases outcome with
          | ok operation => exact ⟨operation, rfl⟩
          | error error =>
              rw [left] at follows
              exact absurd wrote (follows _ last)
      | await next continue_ =>
          rw [left] at follows
          have admits := follows.1
          cases next with
          | create input initial => exact absurd wrote (admits.2 _ last)
          | _ => exact absurd wrote (admits _ last)

/-- A terminal operation never changes again, whatever is run. -/
theorem terminal_stays (reached : TransactionEngine.Reachable platform config)
    {row : OperationRow} (member : row ∈ config.state.operations)
    (ended : row.state.terminal = true)
    {schedule : List (Action (transactionServices platform) Worker EngineCommand)}
    {final : Config (transactionServices platform) Worker EngineCommand DurableBridgeOperation}
    (runs : config.run (TransactionEngine.run platform) (fun _ _ => True) schedule = some final) :
    row ∈ final.state.operations ∧ final.state.logOf row.id = config.state.logOf row.id := by
  induction schedule generalizing config with
  | nil =>
      cases Option.some.inj runs
      exact ⟨member, rfl⟩
  | cons action rest ih =>
      obtain ⟨move, moved, _, more⟩ := Config.run_cons runs
      have step : row ∈ move.state.operations ∧
          move.state.logOf row.id = config.state.logOf row.id := by
        cases Config.moves_of_move moved with
        | answer _ replied =>
            exact (BridgeTables.replies_of_reply replied).terminal (chronicled reached) member ended
        | _ => exact ⟨member, rfl⟩
      obtain ⟨stays, same⟩ := ih (reached.step moved trivial) step.1 more
      exact ⟨stays, same.trans step.2⟩

end TransactionEngine.Reachable

/-- **Histories of operations.** In every run of the engine from empty tables: the log of every
operation is numbered from 0 to its version, starts at `CREATED`, is one chain of legal
transitions without a repeated key or state, and ends in the state of the snapshot; every
transition belongs to an operation; a terminal operation keeps its row and its log whatever is run
afterwards; and no step of a command that throws changes a row. -/
theorem TransactionEngine.run_histories
    (reached : TransactionEngine.Reachable platform config) :
    (∀ row ∈ config.state.operations, config.state.Consistent row) ∧
    (∀ transition ∈ config.state.transitions, ∃ row ∈ config.state.operations,
      row.id = transition.operationId) ∧
    (∀ row ∈ config.state.operations, row.state.terminal = true → ∀ schedule final,
      config.run (TransactionEngine.run platform) (fun _ _ => True) schedule = some final →
      row ∈ final.state.operations ∧
        final.state.transitionsOf row.id = config.state.transitionsOf row.id) ∧
    (∀ action move rest final error,
      config.move (TransactionEngine.run platform) action = some move →
      (config.apply move).run (TransactionEngine.run platform) (fun _ _ => True) rest =
        some final →
      (∀ command, .start move.event.worker command ∉ rest) →
      final.workers move.event.worker = .running (.settled (.error error)) →
      move.state = config.state) := by
  have chronicled := reached.chronicled
  refine ⟨fun row member => chronicled.consistent member, fun transition member => ?_,
    fun row member ended schedule final runs => ?_,
    fun action move rest final error moved runs unstarted thrown => ?_⟩
  · exact List.mem_map.mp (config.state.references transition member)
  · obtain ⟨stays, same⟩ := reached.terminal_stays member ended runs
    have after : TransactionEngine.Reachable platform final :=
      Async.Reachable.of_run reached schedule runs
    refine ⟨stays, ?_⟩
    rw [BridgeTables.transitionsOf_eq_logOf after.chronicled stays,
      BridgeTables.transitionsOf_eq_logOf chronicled member, same]
  · by_contra changed
    obtain ⟨operation, returned⟩ :=
      reached.returns_of_changed (Config.moves_of_move moved) changed
    have settled : (config.apply move).workers move.event.worker =
        .running (.settled (.ok operation)) := (Function.update_self ..).trans returned
    cases thrown.symm.trans (Config.settled_of_run settled runs unstarted)

end Runs

/-! ## A rejected operation -/

namespace RejectedOperation

def input : CreateBridgeOperation where
  id := js "IW:BRIDGE:1"
  idempotencyKey := js "key"
  assetId := js "IW:ASSET:1"
  sourceNetworkId := js "IW:NETWORK:evm"
  destinationNetworkId := js "IW:NETWORK:canton"
  sender := js "alice"
  receiver := js "bob"
  amount := js "5"
  expiresAt := js "2026-08-13T13:00:00.000Z"
  createdAt := js "2026-08-13T12:00:00.000Z"
  actor := js "operator"

def command : TransitionInput where
  operationId := js "IW:BRIDGE:1"
  transitionKey := js "reject"
  expectedVersion := .ofNat 0
  target := .policyRejected
  occurredAt := js "2026-08-13T12:01:00.000Z"
  reason := js "policy"
  actor := js "operator"
  attempt := .ofNat 1
  policyDecision := some
    { outcome := .deny, reasonCodes := [], policyId := js "policy", policyVersion := js "1"
      decidedAt := js "2026-08-13T12:01:00.000Z", matchedRuleIds := none }

abbrev Engine : Type :=
  Config (transactionServices isoPlatform) Unit EngineCommand DurableBridgeOperation

/-- An operation is created, then rejected by its policy. -/
def schedule : List (Action (transactionServices isoPlatform) Unit EngineCommand) :=
  [.start () (.create input), .issue (), .answer () .committed,
    .start () (.transition command), .issue (), .answer () .committed, .issue (),
    .answer () .committed]

theorem rejected_consistent : ∃ config : Engine,
    TransactionEngine.Reachable isoPlatform config ∧ ∃ row ∈ config.state.operations,
      row.state = .policyRejected ∧ config.state.Consistent row := by
  obtain ⟨config, reached, checked⟩ := Async.Reachable.exists_of_run
    (TransactionEngine.run isoPlatform) (fun _ _ => True) ⟨BridgeTables.empty, []⟩ schedule
    (fun config : Engine => config.state.operations.any fun row =>
      decide (row.state = .policyRejected)) (by decide +kernel)
  obtain ⟨row, member, rejected⟩ := List.any_eq_true.mp checked
  exact ⟨config, reached, row, member, of_decide_eq_true rejected,
    (TransactionEngine.run_histories reached).1 row member⟩

end RejectedOperation

end InterWeave
