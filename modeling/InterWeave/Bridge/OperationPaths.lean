import InterWeave.Bridge.OperationRuns
import InterWeave.Bridge.TransactionHistories

/-! # Paths of operations

The transitions of a stored operation are one legal path, and whatever a store is asked, the path
only goes on. So a copy of an operation is the operation as it was, and a longer path has come to
a strictly later state.
-/

namespace InterWeave

open Async

/-! ## Paths -/

/-- An operation whose transitions are one legal path to its state. -/
structure DurableBridgeOperation.Logged (operation : DurableBridgeOperation) : Prop where
  legal : operation.states.IsChain fun before after => before.canTransition after = true
  last : operation.states.getLast? = some operation.state

/-- One state comes after another in the graph. -/
abbrev BridgeState.Precedes : BridgeState → BridgeState → Prop :=
  Relation.TransGen fun source target => source.canTransition target = true

theorem BridgeState.Precedes.rank_lt {source target : BridgeState}
    (precedes : source.Precedes target) : source.rank < target.rank := by
  induction precedes with
  | single legal => exact rank_lt_of_canTransition _ _ legal
  | tail _ legal ih => exact ih.trans (rank_lt_of_canTransition _ _ legal)

/-- A path leads from where it was to where it ends. -/
theorem BridgeState.precedes_of_isChain {states more : List BridgeState} {first last : BridgeState}
    (chain : (states ++ more).IsChain fun before after => before.canTransition after = true)
    (starts : states.getLast? = some first) (ends : (states ++ more).getLast? = some last)
    (nonempty : more ≠ []) : first.Precedes last := by
  induction more generalizing states first with
  | nil => exact absurd rfl nonempty
  | cons next rest ih =>
      obtain ⟨earlier, rfl⟩ := List.getLast?_eq_some_iff.mp starts
      have step : first.canTransition next = true := by
        rw [List.append_assoc] at chain
        exact (List.isChain_cons_cons.mp (List.isChain_append.mp chain).2.1).1
      by_cases final : rest = []
      · subst final
        rw [List.getLast?_concat] at ends
        cases ends
        exact .single step
      · rw [List.append_cons] at chain ends
        exact .head step (ih chain List.getLast?_concat ends final)

namespace DurableBridgeOperation.Logged

variable {operation later : DurableBridgeOperation} {target : BridgeState}

/-- A longer path has come to a later state. -/
theorem precedes (logged : operation.Logged) (further : later.Logged)
    (longer : operation.transitions <+: later.transitions)
    (different : operation.transitions ≠ later.transitions) :
    operation.state.Precedes later.state := by
  obtain ⟨more, split⟩ := longer
  have states : later.states = operation.states ++ more.map PersistedTransition.target := by
    rw [states, ← split, List.map_append]
    rfl
  refine BridgeState.precedes_of_isChain (states ▸ further.legal) logged.last
    (states ▸ further.last) fun none => different ?_
  rw [List.map_eq_nil_iff] at none
  rw [← split, none, List.append_nil]

/-- A path that goes on to a state has come to a later state than it was in before. -/
theorem precedes_of_mem (logged : operation.Logged) (further : later.Logged)
    (longer : operation.transitions <+: later.transitions)
    (legal : operation.state.canTransition target = true) (entered : target ∈ later.states) :
    operation.state.Precedes later.state := by
  refine logged.precedes further longer fun same => ?_
  have above := BridgeState.rank_lt_of_canTransition _ _ legal
  have among : target ∈ operation.states := by
    rw [states, same]
    exact entered
  obtain ⟨earlier, split⟩ := List.getLast?_eq_some_iff.mp logged.last
  rw [split] at among
  rcases List.mem_append.mp among with before | last
  · have ranks : (operation.states.map BridgeState.rank).Pairwise (· < ·) :=
      ((List.isChain_map _).mpr (logged.legal.imp BridgeState.rank_lt_of_canTransition)).pairwise
    rw [split, List.map_append] at ranks
    have below := (List.pairwise_append.mp ranks).2.2 _ (List.mem_map_of_mem before) _
      (List.mem_map_of_mem List.mem_cons_self)
    omega
  · rw [List.mem_singleton.mp last] at above
    omega

/-- A legal transition goes on with a path. -/
theorem appended (logged : operation.Logged) {command : TransitionCommand}
    (legal : operation.state.canTransition command.target = true) :
    (PostgresTransactionStore.appended operation command).Logged := by
  have states : (PostgresTransactionStore.appended operation command).states =
      operation.states ++ [command.target] := by
    simp only [DurableBridgeOperation.states, PostgresTransactionStore.appended, List.map_append,
      List.map_cons, List.map_nil]
  refine ⟨states ▸ logged.legal.append (List.isChain_singleton _) fun before last after same => ?_,
    states ▸ List.getLast?_concat⟩
  cases same
  cases logged.last.symm.trans last
  exact legal

end DurableBridgeOperation.Logged

/-! ## Interference -/

namespace BridgeWorld

variable {id : JsString} {world next : BridgeWorld} {operation : DurableBridgeOperation}

/-- The operation with an identifier is stored, on a legal path. -/
def Stores (world : BridgeWorld) (id : JsString) (stored : DurableBridgeOperation) : Prop :=
  world.operations id = some stored ∧ stored.id = id ∧ stored.Logged

/-- What others may do to an operation: take it further. -/
def Continues (id : JsString) (world next : BridgeWorld) : Prop :=
  ∀ stored, world.Stores id stored → ∃ later, next.Stores id later ∧
    stored.transitions <+: later.transitions

theorem Continues.refl (world : BridgeWorld) : Continues id world world :=
  fun stored stores => ⟨stored, stores, List.prefix_rfl⟩

theorem Continues.trans {last : BridgeWorld} (first : Continues id world next)
    (second : Continues id next last) : Continues id world last := by
  intro stored stores
  obtain ⟨later, there, longer⟩ := first stored stores
  obtain ⟨latest, then_, longest⟩ := second later there
  exact ⟨latest, then_, longer.trans longest⟩

/-- A copy of the stored operation, as it is or as it was. -/
def Copies (world : BridgeWorld) (id : JsString) (operation : DurableBridgeOperation) : Prop :=
  operation.id = id ∧ operation.Logged ∧ ∃ stored, world.Stores id stored ∧
    operation.transitions <+: stored.transitions

theorem Copies.continues (copies : world.Copies id operation) (continues : Continues id world next) :
    next.Copies id operation := by
  obtain ⟨named, logged, stored, stores, beginning⟩ := copies
  obtain ⟨later, there, longer⟩ := continues stored stores
  exact ⟨named, logged, later, there, beginning.trans longer⟩

theorem Stores.copies (stores : world.Stores id operation) : world.Copies id operation :=
  ⟨stores.2.1, stores.2.2, operation, stores, List.prefix_rfl⟩

/-- Whatever is called, the operation only goes further. -/
theorem continues_of_reply {call : BridgeCall} {choice : BridgeChoice}
    {answer : bridgeInterface.Answer call}
    (replied : world.reply call choice = some (answer, next)) : Continues id world next := by
  cases call with
  | append command =>
      cases choice <;> cases replied
      rcases PostgresTransactionStore.append_cases world.operations command with
        ⟨_, same⟩ | ⟨_, _, _, same⟩ | ⟨operation, found, _, legal, same⟩
      · rw [same]
        exact .refl world
      · rw [same]
        exact .refl world
      · rw [same]
        rintro stored ⟨there, named, logged⟩
        by_cases own : command.operationId = id
        · subst own
          cases found.symm.trans there
          exact ⟨_, ⟨Function.update_self .., named, logged.appended legal⟩,
            List.prefix_append _ _⟩
        · exact ⟨stored, ⟨(Function.update_of_ne (Ne.symm own) ..).trans there, named, logged⟩,
            List.prefix_rfl⟩
  | putEvidence evidence =>
      cases choice <;> cases replied
      rcases world.putEvidence_cases evidence with ⟨_, same⟩ | ⟨_, _, same⟩ | ⟨_, same⟩
      all_goals
        rw [same]
        exact .refl world
  | _ =>
      cases choice <;> cases replied
      all_goals exact .refl world

end BridgeWorld

end InterWeave
