import InterWeave.Settlement.SagaContents

/-! # Reservations of one worker

A reservation is returned before its evidence is checked and before DELIVERY_RESERVED is
written. Until then the record is in POLICY_CHECKED, and from there the code fails or expires
a settlement as one that has reserved nothing. A worker gives the settlement up there if an
iteration opens at or past the expiry, or if the reservation it asks for fails or returns
evidence that is not verifiable. The store does not fail here: it answers every call.
-/

namespace InterWeave

open Async

variable {platform : Platform}

/-! ## What a worker does on a record -/

/-- The record that a worker was last given, and its exchanges since. -/
def onRecord (exchanges : List (Exchange settlementInterface)) :
    Option (CrossNetworkSettlementRecord × List (Exchange settlementInterface)) :=
  exchanges.foldl (fun here exchange =>
    match returnedRecord exchange with
    | some record => some (record, [])
    | none => here.map fun held => (held.1, held.2 ++ [exchange])) none

/-- An attempt to reserve fails, or it returns evidence that is not verifiable. -/
def ReservationRefused (platform : Platform) (exchange : Exchange settlementInterface) : Prop :=
  ∃ request, (∃ error, exchange = ⟨.act .reserveDelivery request, .error error⟩) ∨
    ∃ result, exchange = ⟨.act .reserveDelivery request, .ok result⟩ ∧
      result.verifiable platform = false

/-- Why a worker gives up a record in POLICY_CHECKED. -/
def GivesUp (platform : Platform) (expiresAt : JsString)
    (since : List (Exchange settlementInterface)) : Prop :=
  (∃ (instant : Int) (rest : List (Exchange settlementInterface)),
    since = ⟨.now, .ok instant⟩ :: rest ∧
      numberLe (platform.dateParse expiresAt) (some instant) = true) ∨
    ∃ exchange ∈ since, ReservationRefused platform exchange

/-- The reservation opens an iteration before the expiry, and a record in POLICY_CHECKED is
failed or expired where the worker gives it up. -/
def Proceeds (platform : Platform) (expiresAt : JsString)
    (exchanges : List (Exchange settlementInterface)) : SettlementCall → Prop
  | .act .reserveDelivery _ => ∃ (record : CrossNetworkSettlementRecord) (instant : Int),
      onRecord exchanges = some (record, [⟨.now, .ok instant⟩]) ∧
        numberLe (platform.dateParse expiresAt) (some instant) = false
  | .transition _ _ transition => ∀ record since, onRecord exchanges = some (record, since) →
      record.state = .policyChecked → transition.state = .failed ∨ transition.state = .expired →
      GivesUp platform expiresAt since
  | _ => True

/-- The answers of a store whose only writer is the worker: it writes what it is asked to. -/
def Written : (call : SettlementCall) → settlementInterface.Answer call → Prop
  | .now, .error _ => False
  | .transition _ _ transition, .ok next => next.state = transition.state
  | .transition _ _ _, .error _ => False
  | _, _ => True

/-- The protocol of a worker whose writes succeed. -/
abbrev reserving (platform : Platform) (expiresAt : JsString) : Protocol settlementInterface Unit :=
  { transcriptProtocol (Proceeds platform expiresAt) with possible := Written }

/-- How far a settlement has come. -/
def CrossNetworkSettlementState.rank (state : CrossNetworkSettlementState) : Nat :=
  sagaStates.idxOf state

theorem CrossNetworkSettlementState.rank_of_leadsTo :
    ∀ source target : CrossNetworkSettlementState, source.leadsTo target →
      target.terminal ∨ target.rank = source.rank + 1 := by
  decide

section Walk

variable {exchanges since : List (Exchange settlementInterface)}
  {record : CrossNetworkSettlementRecord} {expiresAt : JsString}

theorem onRecord_append (exchanges : List (Exchange settlementInterface))
    (exchange : Exchange settlementInterface) :
    onRecord (exchanges ++ [exchange]) =
      match returnedRecord exchange with
      | some record => some (record, [])
      | none => (onRecord exchanges).map fun held => (held.1, held.2 ++ [exchange]) :=
  List.foldl_concat ..

theorem onRecord_given {exchange : Exchange settlementInterface}
    (returned : returnedRecord exchange = some record) :
    onRecord (exchanges ++ [exchange]) = some (record, []) := by
  rw [onRecord_append, returned]

theorem onRecord_kept {exchange : Exchange settlementInterface}
    (on : onRecord exchanges = some (record, since)) (nothing : returnedRecord exchange = none) :
    onRecord (exchanges ++ [exchange]) = some (record, since ++ [exchange]) := by
  rw [onRecord_append, nothing, on]
  rfl

/-- The record that a worker was last given is the one it holds. -/
theorem onRecord_map (exchanges : List (Exchange settlementInterface)) :
    (onRecord exchanges).map Prod.fst = (sagaLocal exchanges).copy := by
  induction exchanges using List.reverseRecOn with
  | nil => rfl
  | append_singleton earlier exchange ih =>
      rw [sagaLocal_append, SagaLocal.copy_next, onRecord_append, ← ih]
      cases returnedRecord exchange with
      | some given => rfl
      | none => rw [Option.map_map, Option.none_or]; rfl

theorem copy_of_onRecord (on : onRecord exchanges = some (record, since)) :
    (sagaLocal exchanges).copy = some record := by
  rw [← onRecord_map, on, Option.map_some]

theorem GivesUp.append (gives : GivesUp platform expiresAt since)
    (more : List (Exchange settlementInterface)) : GivesUp platform expiresAt (since ++ more) := by
  rcases gives with ⟨instant, rest, rfl, past⟩ | ⟨exchange, member, refused⟩
  · exact .inl ⟨instant, rest ++ more, rfl, past⟩
  · exact .inr ⟨exchange, List.mem_append_left _ member, refused⟩

theorem not_givesUp_nil : ¬ GivesUp platform expiresAt [] := by
  rintro (⟨_, _, same, _⟩ | ⟨_, member, _⟩)
  · cases same
  · cases member

/-- The exchange that makes a worker give up. -/
theorem GivesUp.of_append {exchange : Exchange settlementInterface}
    (gives : GivesUp platform expiresAt (since ++ [exchange])) :
    GivesUp platform expiresAt since ∨
      (since = [] ∧ ∃ instant : Int, exchange = ⟨.now, .ok instant⟩ ∧
        numberLe (platform.dateParse expiresAt) (some instant) = true) ∨
      ReservationRefused platform exchange := by
  rcases gives with ⟨instant, rest, same, past⟩ | ⟨refused, member, refuses⟩
  · cases since with
    | nil =>
        rw [List.nil_append, List.cons.injEq] at same
        exact .inr (.inl ⟨rfl, instant, same.1, past⟩)
    | cons first more =>
        rw [List.cons_append, List.cons.injEq] at same
        exact .inl (.inl ⟨instant, more, by rw [same.1], past⟩)
  · rcases List.mem_append.mp member with earlier | last
    · exact .inl (.inr ⟨refused, earlier, refuses⟩)
    · rw [List.mem_singleton.mp last] at refuses
      exact .inr (.inr refuses)

namespace CrossNetworkSettlementService

/-- What an attempt to advance leaves: the next record, or an error on the same one. -/
def AdvancedFrom (platform : Platform) (record : CrossNetworkSettlementRecord) (instant : Int)
    (there : List (Exchange settlementInterface))
    (outcome : Except Thrown CrossNetworkSettlementRecord) : Prop :=
  match outcome with
  | .ok next => onRecord there = some (next, []) ∧ record.state.leadsTo next.state
  | .error _ => ∃ more, onRecord there = some (record, ⟨.now, .ok instant⟩ :: more) ∧
      (record.state = .policyChecked → ∃ exchange ∈ more, ReservationRefused platform exchange)

theorem move_proceeds {post : List (Exchange settlementInterface) →
      Except Thrown CrossNetworkSettlementRecord → Prop} {state : CrossNetworkSettlementState}
    {evidence : List JsString} {reason : JsString}
    (on : onRecord exchanges = some (record, since))
    (gives : record.state = .policyChecked → state = .failed ∨ state = .expired →
      GivesUp platform expiresAt since)
    (implies : ∀ there next, next.state = state → onRecord there = some (next, []) →
      post there (.ok next)) :
    (move platform record state evidence reason).Follows (reserving platform expiresAt) post
      exchanges := by
  refine .call_seq trivial (fun now _ => ?_) fun _ impossible => impossible.elim
  have read : onRecord (exchanges ++ [⟨.now, .ok now⟩]) =
      some (record, since ++ [⟨.now, .ok now⟩]) := onRecord_kept on rfl
  refine ⟨fun held before same checked ends => ?_, fun answer written => ?_⟩
  · cases read.symm.trans same
    exact (gives checked ends).append _
  · cases answer with
    | error error => exact written.elim
    | ok next => exact implies _ next written (onRecord_given rfl)

theorem leadsTo_of_step {action : SettlementAction} {source state : CrossNetworkSettlementState}
    (steps : action.step = some (source, state)) : source.leadsTo state := by
  cases action <;> cases steps <;> rfl

theorem reserve_of_step {action : SettlementAction} {state : CrossNetworkSettlementState}
    (steps : action.step = some (.policyChecked, state)) : action = .reserveDelivery := by
  cases action <;> first | rfl | cases steps

theorem not_given_up_of_step {action : SettlementAction}
    {source state : CrossNetworkSettlementState} (steps : action.step = some (source, state)) :
    ¬ (state = .failed ∨ state = .expired) := by
  cases action <;> cases steps <;> decide

variable {instant : Int}

theorem effect_proceeds {action : SettlementAction} {state : CrossNetworkSettlementState}
    (on : onRecord exchanges = some (record, [⟨.now, .ok instant⟩]))
    (asks : Proceeds platform expiresAt exchanges (.act action record.request))
    (steps : action.step = some (record.state, state)) :
    (effect platform record state (SettlementProgram.act action record.request)).Follows
      (reserving platform expiresAt) (AdvancedFrom platform record instant) exchanges := by
  refine .call_seq asks (fun result _ => ?_) fun error _ => ?_
  · have acted : onRecord (exchanges ++ [⟨.act action record.request, .ok result⟩]) =
        some (record, [⟨.now, .ok instant⟩] ++ [⟨.act action record.request, .ok result⟩]) :=
      onRecord_kept on rfl
    refine .ofExcept_seq (fun _ valid => ?_) fun error invalid => ?_
    · refine move_proceeds acted (fun _ ends => (not_given_up_of_step steps ends).elim) ?_
      intro there next same given
      exact ⟨given, same ▸ leadsTo_of_step steps⟩
    · refine ⟨_, acted, fun checked => ⟨_, List.mem_cons_self, record.request, .inr ⟨result, ?_, ?_⟩⟩⟩
      · rw [checked] at steps
        rw [reserve_of_step steps]
      · unfold validateEvidence at invalid
        split at invalid
        · cases invalid
        · exact Bool.eq_false_iff.mpr ‹_›
  · have acted : onRecord (exchanges ++ [⟨.act action record.request, .error error⟩]) =
        some (record, [⟨.now, .ok instant⟩] ++ [⟨.act action record.request, .error error⟩]) :=
      onRecord_kept on rfl
    refine ⟨_, acted, fun checked => ⟨_, List.mem_cons_self, record.request, .inl ⟨error, ?_⟩⟩⟩
    rw [checked] at steps
    rw [reserve_of_step steps]

theorem advance_proceeds (on : onRecord exchanges = some (record, [⟨.now, .ok instant⟩]))
    (unexpired : numberLe (platform.dateParse expiresAt) (some instant) = false)
    (running : record.state.terminal = false) :
    (advance platform record).Follows (reserving platform expiresAt)
      (AdvancedFrom platform record instant) exchanges := by
  have asks : ∀ action, Proceeds platform expiresAt exchanges (.act action record.request) := by
    intro action
    cases action with
    | reserveDelivery => exact ⟨record, instant, on, unexpired⟩
    | _ => trivial
  have elsewhere : ∀ {state target : CrossNetworkSettlementState}, record.state = state →
      state ≠ .policyChecked → record.state = .policyChecked →
      target = .failed ∨ target = .expired →
      GivesUp platform expiresAt [⟨.now, .ok instant⟩] :=
    fun same other checked _ => (other (same.symm.trans checked)).elim
  unfold advance
  split <;> rename_i state
  · refine .call_seq trivial (fun result _ => ?_) fun error _ => ?_
    · have checked : onRecord (exchanges ++ [⟨.check record.request, .ok result⟩]) =
          some (record, [⟨.now, .ok instant⟩] ++ [⟨.check record.request, .ok result⟩]) :=
        onRecord_kept on rfl
      split
      · refine move_proceeds checked (fun held ends => (elsewhere state (by decide) held ends).append _) ?_
        intro there next same given
        exact ⟨given, by rw [same, state]; rfl⟩
      · refine move_proceeds checked (fun held ends => (elsewhere state (by decide) held ends).append _) ?_
        intro there next same given
        exact ⟨given, by rw [same, state]; rfl⟩
    · have failed : onRecord (exchanges ++ [⟨.check record.request, .error error⟩]) =
          some (record, [⟨.now, .ok instant⟩] ++ [⟨.check record.request, .error error⟩]) :=
        onRecord_kept on rfl
      exact ⟨_, failed, fun checked => by rw [state] at checked; cases checked⟩
  · exact effect_proceeds on (asks _) (by rw [state]; rfl)
  · exact effect_proceeds on (asks _) (by rw [state]; rfl)
  · exact effect_proceeds on (asks _) (by rw [state]; rfl)
  · exact effect_proceeds on (asks _) (by rw [state]; rfl)
  · exact effect_proceeds on (asks _) (by rw [state]; rfl)
  · exact effect_proceeds on (asks _) (by rw [state]; rfl)
  · exact effect_proceeds on (asks _) (by rw [state]; rfl)
  · refine .call_seq trivial (fun result _ => ?_) fun error _ => ?_
    · have checked : onRecord (exchanges ++ [⟨.reconcile record.request, .ok result⟩]) =
          some (record, [⟨.now, .ok instant⟩] ++ [⟨.reconcile record.request, .ok result⟩]) :=
        onRecord_kept on rfl
      split
      · refine move_proceeds checked (fun held ends => (elsewhere state (by decide) held ends).append _) ?_
        intro there next same given
        exact ⟨given, by rw [same, state]; rfl⟩
      · refine move_proceeds checked (fun held ends => (elsewhere state (by decide) held ends).append _) ?_
        intro there next same given
        exact ⟨given, by rw [same, state]; rfl⟩
    · have failed : onRecord (exchanges ++ [⟨.reconcile record.request, .error error⟩]) =
          some (record, [⟨.now, .ok instant⟩] ++ [⟨.reconcile record.request, .error error⟩]) :=
        onRecord_kept on rfl
      exact ⟨_, failed, fun checked => by rw [state] at checked; cases checked⟩
  · refine move_proceeds on (fun held ends => elsewhere state (by decide) held ends) ?_
    intro there next same given
    exact ⟨given, by rw [same, state]; rfl⟩
  · rename_i reconciled
    cases same : record.state <;> simp_all [CrossNetworkSettlementState.terminal]

/-- The record that a call returns is the one it was last given; it is terminal if the loop
could run to its end. -/
def Concluded (complete : Prop) (there : List (Exchange settlementInterface))
    (outcome : Except Thrown CrossNetworkSettlementRecord) : Prop :=
  ∃ record since, outcome = .ok record ∧ onRecord there = some (record, since) ∧
    (complete → record.state.terminal)

theorem concluded_of_given {complete : Prop} {state : CrossNetworkSettlementState}
    (terminal : state.terminal) {there : List (Exchange settlementInterface)}
    {next : CrossNetworkSettlementRecord} (same : next.state = state)
    (given : onRecord there = some (next, [])) : Concluded complete there (.ok next) :=
  ⟨next, [], rfl, given, fun _ => same ▸ terminal⟩

variable {complete : Prop}

theorem compensate_proceeds (on : onRecord exchanges = some (record, since))
    (cancellable : record.state.cancellable) {compensated uncertain : JsString} :
    (compensate platform record compensated uncertain).Follows (reserving platform expiresAt)
      (Concluded complete) exchanges := by
  have elsewhere : ∀ {target : CrossNetworkSettlementState}
      {since : List (Exchange settlementInterface)}, record.state = .policyChecked →
      target = .failed ∨ target = .expired → GivesUp platform expiresAt since := by
    intro target since checked
    rw [checked] at cancellable
    cases cancellable
  have cancels : (cancelled platform record).Follows (reserving platform expiresAt)
      (fun there _ => ∃ since, onRecord there = some (record, since)) exchanges :=
    .call_seq trivial
      (fun result _ => .ofExcept_seq (fun _ _ => ⟨_, onRecord_kept on rfl⟩)
        fun _ _ => ⟨_, onRecord_kept on rfl⟩)
      fun error _ => ⟨_, onRecord_kept on rfl⟩
  refine .attempt_seq cancels fun there outcome left => ?_
  obtain ⟨before, here⟩ := left
  cases outcome with
  | ok result => exact move_proceeds here elsewhere fun _ _ => concluded_of_given rfl
  | error error => exact move_proceeds here elsewhere fun _ _ => concluded_of_given rfl

/-- Failure and expiry do the same up to the texts they record. -/
theorem leave_proceeds (on : onRecord exchanges = some (record, since))
    (gives : record.state = .policyChecked → GivesUp platform expiresAt since)
    {state : CrossNetworkSettlementState} (terminal : state.terminal)
    {compensated uncertain before after : JsString} :
    (if record.state.cancellable then compensate platform record compensated uncertain
      else if record.state.beforePaymentFinality then move platform record state [] before
      else move platform record .manualReview [] after).Follows (reserving platform expiresAt)
        (Concluded complete) exchanges := by
  by_cases cancellable : record.state.cancellable
  · rw [if_pos cancellable]
    exact compensate_proceeds on cancellable
  · rw [if_neg cancellable]
    by_cases early : record.state.beforePaymentFinality
    · rw [if_pos early]
      exact move_proceeds on (fun checked _ => gives checked) fun _ _ => concluded_of_given terminal
    · rw [if_neg early]
      exact move_proceeds on (fun checked _ => gives checked) fun _ _ => concluded_of_given rfl

theorem drive_proceeds {request : CrossNetworkSettlementRequest} (bound : Nat)
    (on : onRecord exchanges = some (record, []))
    (enough : complete → record.state.terminal ∨ 10 ≤ bound + record.state.rank) :
    (drive platform request bound record).Follows (reserving platform request.expiresAt)
      (Concluded complete) exchanges := by
  induction bound generalizing record exchanges with
  | zero =>
      refine ⟨record, [], rfl, on, fun full => (enough full).elim id fun far => ?_⟩
      have last : ∀ state : CrossNetworkSettlementState, 10 ≤ state.rank → state.terminal := by
        decide
      exact last record.state (by omega)
  | succ bound ih =>
      unfold drive
      by_cases terminal : record.state.terminal
      · rw [if_pos terminal]
        exact ⟨record, [], rfl, on, fun _ => terminal⟩
      · rw [if_neg terminal]
        refine .call_seq trivial (fun instant _ => ?_) fun _ impossible => impossible.elim
        have read : onRecord (exchanges ++ [⟨.now, .ok instant⟩]) =
            some (record, [⟨.now, .ok instant⟩]) := onRecord_kept on rfl
        by_cases expired : numberLe (platform.dateParse request.expiresAt) (some instant)
        · rw [if_pos expired]
          exact leave_proceeds read (fun _ => .inl ⟨instant, [], rfl, expired⟩) rfl
        · rw [if_neg expired]
          rw [Bool.not_eq_true] at expired terminal
          refine .attempt_seq (advance_proceeds read expired terminal) fun there outcome left => ?_
          cases outcome with
          | ok next =>
              obtain ⟨given, leads⟩ := left
              refine ih given fun full => ?_
              rcases enough full with ended | far
              · rw [terminal] at ended
                cases ended
              · rcases CrossNetworkSettlementState.rank_of_leadsTo _ _ leads with ended | further
                · exact .inl ended
                · exact .inr (by omega)
          | error error =>
              obtain ⟨more, here, refused⟩ := left
              refine leave_proceeds here (fun checked => ?_) rfl
              obtain ⟨exchange, member, refuses⟩ := refused checked
              exact .inr ⟨exchange, List.mem_cons_of_mem _ member, refuses⟩

/-- How a call ends: with a record, or with an error before the loop. -/
def Settles (complete : Prop) (there : List (Exchange settlementInterface))
    (outcome : Except Thrown CrossNetworkSettlementRecord) : Prop :=
  Concluded complete there outcome ∨
    (∃ error, outcome = .error error) ∧ ∀ exchange ∈ there, exchange.call.enters = true

/-- **A call of `execute` whose writes succeed.** -/
theorem execute_proceeds (request : CrossNetworkSettlementRequest) (bound : Nat) :
    (execute platform request bound).Follows (reserving platform request.expiresAt)
      (Settles (10 ≤ bound)) [] := by
  have nothing : ∀ {error : Thrown}, Settles (10 ≤ bound) [] (.error error) :=
    fun {error} => .inr ⟨⟨error, rfl⟩, fun _ member => (List.not_mem_nil member).elim⟩
  refine .ofExcept_seq (fun _ _ => ?_) fun _ _ => nothing
  refine .ofExcept_seq (fun hash _ => ?_) fun _ _ => nothing
  have enough : ∀ state : CrossNetworkSettlementState, 10 ≤ bound →
      state.terminal ∨ 10 ≤ bound + state.rank := fun _ full => .inr (by omega)
  have asked : ∀ answer, ∀ exchange ∈ [(⟨.get request.id, answer⟩ : Exchange settlementInterface)],
      exchange.call.enters = true := fun _ _ member => by rw [List.mem_singleton.mp member]; rfl
  refine .call_seq trivial (fun found _ => ?_) fun error _ => .inr ⟨⟨error, rfl⟩, asked _⟩
  cases found with
  | none =>
      refine .call_seq trivial (fun record _ => ?_) fun error _ => ?_
      · exact (drive_proceeds bound (onRecord_given rfl) (enough _)).imp fun _ _ => .inl
      · refine .inr ⟨⟨error, rfl⟩, fun exchange member => ?_⟩
        rcases List.mem_append.mp member with earlier | last
        · exact asked _ exchange earlier
        · rw [List.mem_singleton.mp last]
          rfl
  | some record =>
      dsimp only
      split
      · exact .inr ⟨⟨_, rfl⟩, asked _⟩
      · exact (drive_proceeds bound (onRecord_given rfl) (enough _)).imp fun _ _ => .inl

end CrossNetworkSettlementService
end Walk

/-! ## Runs of one worker -/

/-- No settlement is stored, and the worker was not started. -/
def emptySagas (clock : Int) : View settlementServices Unit SagaEntry :=
  ⟨⟨fun _ => none, clock⟩, []⟩

/-- An answer that returns no record leaves the settlements alone. -/
theorem SettlementWorld.kept_of_reply {world next : SettlementWorld} {call : SettlementCall}
    {answer : settlementInterface.Answer call} {choice : SettlementChoice}
    (replied : world.reply call choice = some (answer, next))
    (nothing : returnedRecord ⟨call, answer⟩ = none) : next.settlements = world.settlements := by
  cases call with
  | create request requestHash transition =>
      cases choice <;> cases replied
      cases nothing
  | transition id expectedVersion transition =>
      cases choice <;> cases replied
      unfold SettlementWorld.transition at nothing ⊢
      cases found : world.settlements id with
      | none => rfl
      | some stored =>
          by_cases current : stored.version = expectedVersion
          · simp only [found, ne_eq, current, not_true_eq_false, ↓reduceIte] at nothing
            cases nothing
          · simp only [ne_eq, current, not_false_eq_true, ↓reduceIte]
  | _ =>
      cases choice <;> cases replied
      all_goals rfl

/-- A write on the stored record succeeds. -/
theorem SettlementWorld.written_of_reply {world next : SettlementWorld} {id : JsString}
    {record : CrossNetworkSettlementRecord} {transition : CrossNetworkTransition}
    {answer : settlementInterface.Answer (.transition id record.version transition)}
    {choice : SettlementChoice} (stored : world.settlements id = some record)
    (replied : world.reply (.transition id record.version transition) choice =
      some (answer, next)) : answer = .ok (record.append transition) := by
  cases choice <;> cases replied
  simp only [SettlementWorld.transition, stored, ne_eq, not_true_eq_false, ↓reduceIte]
  rfl

section Runs

variable {clock : Int}
  {admits : View settlementServices Unit SagaEntry →
    Event settlementInterface Unit SagaEntry → Prop}
  {config : Config settlementServices Unit SagaEntry CrossNetworkSettlementRecord}
  {entry : SagaEntry} {exchanges since : List (Exchange settlementInterface)}
  {record : CrossNetworkSettlementRecord} {call : SettlementCall}

theorem among_fallible
    (reached : Reachable (sagaProgram platform) admits (emptySagas clock) config) :
    Reachable (sagaProgram platform) (fun _ _ => True) (emptySettlements Unit clock)
      (config.fallible SettlementCall.fails) :=
  reached.fallible SettlementCall.fails

/-- The only worker holds what is stored. -/
theorem copy_stored
    (reached : Reachable (sagaProgram platform) admits (emptySagas clock) config)
    (known : transcriptOf (sagaProgram platform) () config.history = some (entry, exchanges))
    (copy : (sagaLocal exchanges).copy = some record) :
    config.state.settlements record.request.id = some record := by
  refine reached.invariant (fun view => ∀ entry exchanges record,
    transcriptOf (sagaProgram platform) () view.history = some (entry, exchanges) →
    (sagaLocal exchanges).copy = some record →
    view.state.settlements record.request.id = some record) rfl
    (fun _ _ _ known => by cases known) ?_ entry exchanges record known copy
  intro config event state before step _ stored entry exchanges record known copy
  cases step with
  | started _ =>
      rw [transcriptOf, Protocol.after_history, Protocol.localOf_started_self] at known
      cases known
      cases copy
  | issued _ _ =>
      rw [transcriptOf, Protocol.after_history, Protocol.localOf_issued] at known
      exact stored entry exchanges record known copy
  | crashed _ =>
      rw [transcriptOf, Protocol.after_history, Protocol.localOf_crashed_self] at known
      cases known
  | @answered worker call answer here choice state _ earlier allowed replied =>
      rw [transcriptOf, Protocol.after_history, Protocol.localOf_answered_self, earlier] at known
      cases known
      rw [sagaLocal_append, SagaLocal.copy_next, Option.or_eq_some_iff] at copy
      rw [Protocol.after_state]
      rcases copy with returned | ⟨nothing, held⟩
      · have allows := (saga_allows (among_fallible before) earlier allowed).1
        have filed := (SettlementWorld.stores_of_reply replied).filed
          (settlements_filed (among_fallible before)) (opens_of_allows allows)
        obtain ⟨id, _, found⟩ := SettlementWorld.stored_of_reply replied returned
        rw [(filed id record found).1, found]
      · rw [SettlementWorld.kept_of_reply replied nothing]
        exact stored _ _ record earlier held

/-- The writes of the only worker succeed. -/
theorem writes_succeed
    (reached : Reachable (sagaProgram platform) admits (emptySagas clock) config)
    (known : transcriptOf (sagaProgram platform) () config.history = some (entry, exchanges)) :
    ∀ exchange ∈ exchanges, Written exchange.call exchange.answer := by
  refine reached.exchanges_hold (fun _ _ exchange => Written exchange.call exchange.answer) rfl ?_
    (fun _ written => written) () entry exchanges known
  intro config worker entry exchanges call choice answer next before known allowed _ replied
  cases call with
  | now =>
      cases choice <;> cases replied
      trivial
  | transition id expectedVersion transition =>
      obtain ⟨copied, copy, rfl, rfl, _⟩ := (saga_allows (among_fallible before) known allowed).1
      rw [SettlementWorld.written_of_reply (copy_stored before known copy) replied]
      rfl
  | _ => trivial

theorem proceeds_of_allowed
    (reached : Reachable (sagaProgram platform) admits (emptySagas clock) config)
    (known : transcriptOf (sagaProgram platform) () config.history = some (entry, exchanges))
    (allowed : (recording (sagaProgram platform)).allowed (entry, exchanges) call) :
    Proceeds platform entry.1.expiresAt exchanges call := by
  obtain ⟨resume, reaches⟩ := allowed
  have left := reaches.follows (CrossNetworkSettlementService.execute_proceeds entry.1 entry.2)
    (writes_succeed reached known)
  rw [foldl_append_exchange, List.nil_append] at left
  exact left.1

/-- A reservation of the settlement has returned. -/
def reservationReturned (id : JsString)
    (history : List (Event settlementInterface Unit SagaEntry)) : Bool :=
  history.any fun event =>
    match event with
    | .answered _ (.act .reserveDelivery request) (.ok _) => request.id == id
    | _ => false

/-- The reading opens an iteration on a record in POLICY_CHECKED of a settlement whose
reservation has returned. -/
def opensReserved (platform : Platform)
    (history : List (Event settlementInterface Unit SagaEntry)) : Option SagaEntry :=
  match transcriptOf (sagaProgram platform) () history with
  | some (entry, exchanges) =>
      match onRecord exchanges with
      | some (record, []) =>
          if record.state = .policyChecked ∧ reservationReturned record.request.id history then
            some entry
          else none
      | _ => none
  | none => none

/-- What keeps a returned reservation: its evidence is verifiable, and until it is recorded no
iteration opens at or past the expiry and no further attempt to reserve fails. -/
def KeepsReservation (platform : Platform) (view : View settlementServices Unit SagaEntry) :
    Event settlementInterface Unit SagaEntry → Bool
  | .answered _ .now (.ok instant) =>
      (opensReserved platform view.history).all fun entry =>
        !numberLe (platform.dateParse entry.1.expiresAt) (some instant)
  | .answered _ (.act .reserveDelivery _) (.ok result) => result.verifiable platform
  | .answered _ (.act .reserveDelivery request) (.error _) =>
      !reservationReturned request.id view.history
  | _ => true

theorem reservationReturned_answered (id : JsString) (worker : Unit)
    (answer : settlementInterface.Answer call)
    (history : List (Event settlementInterface Unit SagaEntry)) :
    reservationReturned id (.answered worker call answer :: history) = true ↔
      (∃ request result, request.id = id ∧ (⟨call, answer⟩ : Exchange settlementInterface) =
        ⟨.act .reserveDelivery request, .ok result⟩) ∨ reservationReturned id history = true := by
  rw [reservationReturned, List.any_cons, Bool.or_eq_true]
  refine or_congr_left ⟨fun returned => ?_, ?_⟩
  · cases call with
    | act action request =>
        cases action with
        | reserveDelivery =>
            cases answer with
            | ok result => exact ⟨request, result, eq_of_beq returned, rfl⟩
            | error error => cases returned
        | _ => cases returned
    | _ => cases returned
  · rintro ⟨request, result, same, exchange⟩
    cases exchange
    exact beq_iff_eq.mpr same

/-- A kept reservation is not given up by an answer. -/
theorem not_given_up_answered {worker : Unit} {answer : settlementInterface.Answer call}
    (reached : Reachable (sagaProgram platform) admits (emptySagas clock) config)
    (known : transcriptOf (sagaProgram platform) () config.history = some (entry, exchanges))
    (allowed : (recording (sagaProgram platform)).allowed (entry, exchanges) call)
    (admitted : KeepsReservation platform config.toView (.answered worker call answer) = true)
    (on : onRecord exchanges = some (record, since)) (checked : record.state = .policyChecked)
    (returned : (∃ request result, request.id = record.request.id ∧
      (⟨call, answer⟩ : Exchange settlementInterface) =
        ⟨.act .reserveDelivery request, .ok result⟩) ∨
      reservationReturned record.request.id config.history = true)
    (keeps : reservationReturned record.request.id config.history = true →
      ¬ GivesUp platform entry.1.expiresAt since) :
    ¬ GivesUp platform entry.1.expiresAt (since ++ [⟨call, answer⟩]) := by
  intro gives
  rcases gives.of_append with earlier | ⟨rfl, instant, same, past⟩ | ⟨request, refused⟩
  · rcases returned with ⟨request, result, _, same⟩ | before
    · cases same
      obtain ⟨other, instant, opened, unexpired⟩ := proceeds_of_allowed reached known allowed
      cases on.symm.trans opened
      rcases earlier with ⟨read, rest, same, past⟩ | ⟨exchange, member, _, refused⟩
      · cases same
        exact nomatch unexpired.symm.trans past
      · cases List.mem_singleton.mp member
        rcases refused with ⟨_, same⟩ | ⟨_, same, _⟩ <;> cases same
    · exact keeps before earlier
  · cases same
    rcases returned with ⟨_, _, _, same⟩ | before
    · cases same
    · simp only [KeepsReservation, opensReserved, known, on, checked, before, and_self, ↓reduceIte,
        Option.all_some, Bool.not_eq_true'] at admitted
      exact nomatch admitted.symm.trans past
  · rcases refused with ⟨error, same⟩ | ⟨result, same, invalid⟩
    · cases same
      rcases returned with ⟨_, _, _, same⟩ | before
      · cases same
      · have carries := (saga_allows (among_fallible reached) known allowed).2
        rw [SagaLocal.Carries, copy_of_onRecord on] at carries
        simp only [KeepsReservation, ← Option.some.inj carries, before, Bool.not_true,
          Bool.false_eq_true] at admitted
    · cases same
      exact nomatch invalid.symm.trans admitted

/-- **A worker on a returned reservation does not give it up.** -/
theorem not_given_up
    (reached : Reachable (sagaProgram platform)
      (fun view event => KeepsReservation platform view event = true) (emptySagas clock) config)
    (known : transcriptOf (sagaProgram platform) () config.history = some (entry, exchanges))
    (on : onRecord exchanges = some (record, since)) (checked : record.state = .policyChecked)
    (returned : reservationReturned record.request.id config.history = true) :
    ¬ GivesUp platform entry.1.expiresAt since := by
  refine reached.invariant (fun view => ∀ entry exchanges record since,
    transcriptOf (sagaProgram platform) () view.history = some (entry, exchanges) →
    onRecord exchanges = some (record, since) → record.state = .policyChecked →
    reservationReturned record.request.id view.history = true →
    ¬ GivesUp platform entry.1.expiresAt since) rfl (fun _ _ _ _ known => by cases known) ?_
    entry exchanges record since known on checked returned
  intro config event state before step admitted keeps entry exchanges record since known on checked
    returned
  cases step with
  | started _ =>
      rw [transcriptOf, Protocol.after_history, Protocol.localOf_started_self] at known
      cases known
      cases on
  | issued _ _ =>
      rw [transcriptOf, Protocol.after_history, Protocol.localOf_issued] at known
      exact keeps entry exchanges record since known on checked returned
  | crashed _ =>
      rw [transcriptOf, Protocol.after_history, Protocol.localOf_crashed_self] at known
      cases known
  | @answered worker call answer here choice state _ earlier allowed replied =>
      rw [transcriptOf, Protocol.after_history, Protocol.localOf_answered_self, earlier] at known
      cases known
      rw [onRecord_append] at on
      cases given : returnedRecord ⟨call, answer⟩ with
      | some next =>
          rw [given] at on
          cases on
          exact not_givesUp_nil
      | none =>
          rw [given] at on
          obtain ⟨⟨held, since⟩, opened, same⟩ := Option.map_eq_some_iff.mp on
          cases same
          rw [Protocol.after_history, reservationReturned_answered] at returned
          exact not_given_up_answered before earlier allowed admitted opened checked returned
            fun still => keeps _ _ _ _ earlier opened checked still

/-- A settlement is past CREATED, and it was neither failed nor expired. -/
def CrossNetworkSettlementState.reservable (state : CrossNetworkSettlementState) : Bool :=
  state != .created && state != .failed && state != .expired

theorem CrossNetworkSettlementState.reservable_of_leadsTo :
    ∀ source target : CrossNetworkSettlementState, source.leadsTo target → source.reservable →
      target.reservable ∨ source = .policyChecked ∧ (target = .failed ∨ target = .expired) := by
  decide

/-- **What becomes of a returned reservation.** Its settlement is neither failed nor expired. -/
theorem reservation_kept
    (reached : Reachable (sagaProgram platform)
      (fun view event => KeepsReservation platform view event = true) (emptySagas clock) config)
    (id : JsString) (returned : reservationReturned id config.history = true) :
    ∃ stored, config.state.settlements id = some stored ∧ stored.state.reservable := by
  refine reached.invariant (fun view => ∀ id, reservationReturned id view.history = true →
    ∃ stored, view.state.settlements id = some stored ∧ stored.state.reservable) rfl
    (fun _ returned => by cases returned) ?_ id returned
  intro config event state before step admitted kept id returned
  cases step with
  | started _ => exact kept id returned
  | issued _ _ => exact kept id returned
  | crashed _ => exact kept id returned
  | @answered worker call answer here choice state _ known allowed replied =>
      rw [Protocol.after_history, reservationReturned_answered] at returned
      rw [Protocol.after_state]
      rcases returned with ⟨request, result, rfl, same⟩ | earlier
      · cases same
        obtain ⟨allows, carries⟩ := saga_allows (among_fallible before) known allowed
        obtain ⟨copied, copy, state, _⟩ := allows
        obtain rfl : copied.request = request := by
          rw [SagaLocal.Carries, copy] at carries
          exact Option.some.inj carries
        refine ⟨copied, ?_, by rw [state]; rfl⟩
        rw [SettlementWorld.kept_of_reply replied rfl]
        exact copy_stored before known copy
      · obtain ⟨stored, found, reservable⟩ := kept id earlier
        cases SettlementWorld.stores_of_reply replied with
        | nothing same => exact ⟨stored, by rw [same, found], reservable⟩
        | @created request requestHash transition empty same =>
            have apart : id ≠ request.id := by
              rintro rfl
              cases empty.symm.trans found
            exact ⟨stored, by rw [same, Function.update_of_ne apart, found], reservable⟩
        | @appended written held transition present same =>
            by_cases own : id = written
            · subst own
              cases found.symm.trans present
              refine ⟨stored.append transition, by rw [same, Function.update_self], ?_⟩
              have leads := (leadsTo_of_appended (among_fallible before) known allowed found).1
              rcases CrossNetworkSettlementState.reservable_of_leadsTo _ _ leads reservable with
                further | ⟨checked, ends⟩
              · exact further
              · obtain ⟨copied, copy, rfl, _⟩ :=
                  (saga_allows (among_fallible before) known allowed).1
                cases found.symm.trans (copy_stored before known copy)
                rw [← onRecord_map, Option.map_eq_some_iff] at copy
                obtain ⟨⟨held, since⟩, on, rfl⟩ := copy
                have gives := proceeds_of_allowed before known allowed _ _ on checked ends
                exact (not_given_up before known on checked earlier gives).elim
            · exact ⟨stored, by rw [same, Function.update_of_ne own, found], reservable⟩

/-- What becomes of the reservations of one worker: no settlement is failed or expired whose
reservation has returned; a settlement that ends after its reservation has returned is
compensated, in review or completed; and a call with enough iterations ends with a settlement
that has ended, or with an error before it has done anything. -/
structure ReservationsReported (platform : Platform)
    (config : Config settlementServices Unit SagaEntry CrossNetworkSettlementRecord) : Prop where
  unreserved : ∀ id record, config.state.settlements id = some record →
    record.state = .failed ∨ record.state = .expired →
    reservationReturned id config.history = false
  reported : ∀ id, reservationReturned id config.history = true → ∃ record,
    config.state.settlements id = some record ∧ (record.state.terminal →
      record.state = .compensated ∨ record.state = .manualReview ∨ record.state = .completed)
  ended : ∀ entry exchanges outcome, config.workers () = .running (.settled outcome) →
    transcriptOf (sagaProgram platform) () config.history = some (entry, exchanges) →
    10 ≤ entry.2 →
    (∃ record, outcome = .ok record ∧ record.state.terminal ∧
      config.state.settlements record.request.id = some record) ∨
    (∃ error, outcome = .error error) ∧ ∀ exchange ∈ exchanges, exchange.call.enters = true

theorem CrossNetworkSettlementState.end_of_reservable :
    ∀ state : CrossNetworkSettlementState, state.reservable → state.terminal →
      state = .compensated ∨ state = .manualReview ∨ state = .completed := by
  decide

/-- **No reservation is left unreported** in any run of one worker that keeps its returned
reservations. -/
theorem reservationsReported
    (reached : Reachable (sagaProgram platform)
      (fun view event => KeepsReservation platform view event = true) (emptySagas clock) config) :
    ReservationsReported platform config where
  unreserved id record stored ends := by
    by_contra returned
    rw [Bool.not_eq_false] at returned
    obtain ⟨kept, found, reservable⟩ := reservation_kept reached id returned
    cases stored.symm.trans found
    rcases ends with same | same <;> rw [same] at reservable <;> cases reservable
  reported id returned := by
    obtain ⟨record, stored, reservable⟩ := reservation_kept reached id returned
    exact ⟨record, stored, CrossNetworkSettlementState.end_of_reservable _ reservable⟩
  ended entry exchanges outcome settled known enough := by
    have tracks := reached.tracks rfl ()
    rw [settled] at tracks
    obtain ⟨here, same, reaches⟩ := tracks
    cases same.symm.trans known
    have left := reaches.follows (CrossNetworkSettlementService.execute_proceeds entry.1 entry.2)
      (writes_succeed reached known)
    rw [foldl_append_exchange, List.nil_append] at left
    rcases left with ⟨record, since, rfl, on, terminal⟩ | refused
    · exact .inl ⟨record, rfl, terminal enough,
        copy_stored reached known (copy_of_onRecord on)⟩
    · exact .inr refused

end Runs

/-! ## Returned reservations -/

namespace ReturnedReservation

open SagaExample

def answers (choices : List SettlementChoice) : List (Action settlementServices Unit SagaEntry) :=
  choices.flatMap fun choice => [.issue (), .answer () choice]

/-- Creation and the policy check. -/
def checks : List SettlementChoice :=
  [.stored, .stored, .instant early, .policy ⟨.allow, [], []⟩, .instant early, .stored]

/-- The reservation returns and the worker crashes; the next call reserves again, records it,
and finds it expired. -/
def repeats : List (Action settlementServices Unit SagaEntry) :=
  .start () (request, 12) :: answers (checks ++ [SettlementChoice.instant early, .evidence evidence]) ++
    [Action.crash (), .start () (request, 12)] ++
    answers ([SettlementChoice.stored] ++ SagaExample.iteration ++
      [SettlementChoice.instant late, .evidence evidence, .instant late, .stored])

/-- The reservation returns without a transaction identifier. -/
def fails : List (Action settlementServices Unit SagaEntry) :=
  .start () (request, 12) ::
    answers (checks ++ [SettlementChoice.instant early, .evidence { evidence with transactionId := [] },
      .instant early, .stored])

/-- The reservation has returned, and the settlement is in a state. -/
def reservedIn (state : CrossNetworkSettlementState)
    (config : Config settlementServices Unit SagaEntry CrossNetworkSettlementRecord) : Bool :=
  reservationReturned request.id config.history &&
    (config.state.settlements request.id).any fun record => record.state == state

end ReturnedReservation

open SagaExample ReturnedReservation in
/-- A reservation that is repeated after a crash is compensated when it expires. -/
theorem reservationsReported_compensated :
    ∃ config : Config settlementServices Unit SagaEntry CrossNetworkSettlementRecord,
      reservedIn .compensated config = true ∧ ReservationsReported isoPlatform config := by
  obtain ⟨config, reached, checked⟩ := Reachable.exists_of_run (sagaProgram isoPlatform)
    (fun view event => KeepsReservation isoPlatform view event = true) (emptySagas early) repeats
    (reservedIn .compensated) (by decide +kernel)
  exact ⟨config, checked, reservationsReported reached⟩

open SagaExample ReturnedReservation in
/-- **A reservation left behind.** A reservation that returned evidence without a transaction
identifier ends in FAILED, and nothing cancels it. -/
theorem reservation_left_behind :
    ¬ ∀ config : Config settlementServices Unit SagaEntry CrossNetworkSettlementRecord,
      Reachable (sagaProgram isoPlatform) (fun _ _ => True) (emptySagas early) config →
      ReservationsReported isoPlatform config := by
  intro claim
  obtain ⟨config, reached, checked⟩ := Reachable.exists_of_run (sagaProgram isoPlatform)
    (fun _ _ => True) (emptySagas early) fails (reservedIn .failed) (by decide +kernel)
  rw [reservedIn, Bool.and_eq_true, Option.any_eq_true] at checked
  obtain ⟨returned, record, stored, failed⟩ := checked
  have unreserved :=
    (claim config reached).unreserved request.id record stored (.inl (eq_of_beq failed))
  rw [returned] at unreserved
  cases unreserved

end InterWeave
