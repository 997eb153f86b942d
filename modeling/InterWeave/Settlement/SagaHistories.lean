import InterWeave.Async.Transcript
import InterWeave.Settlement.Cancellation

/-! # Histories of settlements

Any number of workers run `execute` on any settlements, and the store may fail before or
after it has written. A stored record only grows, by transitions that a worker computed from
a copy whose version is current. Such a copy is in the state of the stored record, so what
the service writes after a state is what the stored history goes on with.
-/

namespace InterWeave

open Async

/-- One call of `execute`, with the bound on its loop. -/
abbrev SagaEntry : Type := CrossNetworkSettlementRequest × Nat

abbrev sagaProgram (platform : Platform) (entry : SagaEntry) :
    SettlementProgram CrossNetworkSettlementRecord :=
  CrossNetworkSettlementService.execute platform entry.1 entry.2

/-- Every call but a reading of the clock may fail. -/
def SettlementCall.fails : SettlementCall → Bool
  | .now => false
  | _ => true

/-- The store and the outside world, with failures of both. -/
abbrev fallibleSettlements : Services settlementInterface :=
  settlementServices.fallible SettlementCall.fails

/-! ## The store -/

/-- The transition is appended and its state entered. -/
def CrossNetworkSettlementRecord.append (record : CrossNetworkSettlementRecord)
    (transition : CrossNetworkTransition) : CrossNetworkSettlementRecord :=
  { record with state := transition.state, version := record.version + 1
                transitions := record.transitions ++ [transition] }

/-- What an answered call does to the stored settlements. -/
inductive SettlementWorld.Stores (world next : SettlementWorld) : SettlementCall → Prop where
  | nothing {call : SettlementCall} : next.settlements = world.settlements →
      Stores world next call
  | created {request : CrossNetworkSettlementRequest} {requestHash : JsString}
      {transition : CrossNetworkTransition} : world.settlements request.id = none →
      next.settlements = Function.update world.settlements request.id (some
        { request, requestHash, state := .created, version := 0, transitions := [transition] }) →
      Stores world next (.create request requestHash transition)
  | appended {id : JsString} {record : CrossNetworkSettlementRecord}
      {transition : CrossNetworkTransition} : world.settlements id = some record →
      next.settlements = Function.update world.settlements id (some (record.append transition)) →
      Stores world next (.transition id record.version transition)

/-- The record that an exchange returned. -/
def returnedRecord : Exchange settlementInterface → Option CrossNetworkSettlementRecord
  | ⟨.get _, .ok found⟩ => found
  | ⟨.create _ _ _, .ok record⟩ => some record
  | ⟨.transition _ _ _, .ok record⟩ => some record
  | _ => none

/-- The settlement a call of the store is about. -/
def SettlementCall.settlement : SettlementCall → Option JsString
  | .get id => some id
  | .create request _ _ => some request.id
  | .transition id _ _ => some id
  | _ => none

namespace SettlementWorld

variable {world next : SettlementWorld} {call : SettlementCall}
  {answer : settlementInterface.Answer call}

theorem stores_of_create {request : CrossNetworkSettlementRequest} {requestHash : JsString}
    {transition : CrossNetworkTransition} :
    world.Stores (world.create request requestHash transition).2
      (.create request requestHash transition) := by
  unfold create
  cases found : world.settlements request.id with
  | some existing => exact .nothing rfl
  | none => exact .created found rfl

theorem stores_of_transition {id : JsString} {expectedVersion : Nat}
    {transition : CrossNetworkTransition} :
    world.Stores (world.transition id expectedVersion transition).2
      (.transition id expectedVersion transition) := by
  unfold SettlementWorld.transition
  cases found : world.settlements id with
  | none => exact .nothing rfl
  | some record =>
      by_cases current : record.version = expectedVersion
      · subst current
        simp only [ne_eq, not_true_eq_false, ↓reduceIte]
        exact .appended found rfl
      · simp only [ne_eq, current, not_false_eq_true, ↓reduceIte]
        exact .nothing rfl

theorem stores_of_reply {choice : SettlementChoice}
    (replied : world.reply call choice = some (answer, next)) : world.Stores next call := by
  cases call with
  | create request requestHash transition =>
      cases choice <;> cases replied
      exact stores_of_create
  | transition id expectedVersion transition =>
      cases choice <;> cases replied
      exact stores_of_transition
  | _ =>
      cases choice <;> cases replied
      all_goals exact .nothing rfl

/-- The record returned by a call that did not fail is the stored one. -/
theorem stored_of_reply {choice : SettlementChoice} {record : CrossNetworkSettlementRecord}
    (replied : world.reply call choice = some (answer, next))
    (returned : returnedRecord ⟨call, answer⟩ = some record) :
    ∃ id, call.settlement = some id ∧ next.settlements id = some record := by
  cases call with
  | get id =>
      cases choice <;> cases replied
      exact ⟨id, rfl, returned⟩
  | create request requestHash transition =>
      cases choice <;> cases replied
      cases returned
      refine ⟨request.id, rfl, ?_⟩
      unfold create
      cases found : world.settlements request.id with
      | some existing => exact found
      | none => exact Function.update_self ..
  | transition id expectedVersion transition =>
      cases choice <;> cases replied
      refine ⟨id, rfl, ?_⟩
      unfold SettlementWorld.transition at returned ⊢
      cases found : world.settlements id with
      | none =>
          simp only [found] at returned
          cases returned
      | some stored =>
          by_cases current : stored.version = expectedVersion
          · simp only [found, ne_eq, current, not_true_eq_false, ↓reduceIte] at returned ⊢
            cases returned
            exact Function.update_self ..
          · simp only [found, ne_eq, current, not_false_eq_true, ↓reduceIte] at returned
            cases returned
  | _ => cases choice <;> cases replied <;> cases returned

theorem stores_of_fallible {choice : fallibleSettlements.Choice}
    (replied : fallibleSettlements.reply call choice world = some (answer, next)) :
    world.Stores next call := by
  rcases Services.reply_of_fallible replied with ⟨_, reply⟩ | ⟨_, _, rfl | ⟨_, _, reply⟩⟩
  · exact stores_of_reply reply
  · exact .nothing rfl
  · exact stores_of_reply reply

theorem stored_of_fallible {choice : fallibleSettlements.Choice}
    {record : CrossNetworkSettlementRecord}
    (replied : fallibleSettlements.reply call choice world = some (answer, next))
    (returned : returnedRecord ⟨call, answer⟩ = some record) :
    ∃ id, call.settlement = some id ∧ next.settlements id = some record := by
  rcases Services.reply_of_fallible replied with ⟨_, reply⟩ | ⟨_, rfl, _⟩
  · exact stored_of_reply reply returned
  · cases call <;> cases returned

end SettlementWorld

/-! ## Records that grow -/

/-- A record has one transition for every version, the last of them into its state. -/
structure CrossNetworkSettlementRecord.Counted (record : CrossNetworkSettlementRecord) : Prop where
  length : record.transitions.length = record.version + 1
  last : record.transitions.getLast?.map CrossNetworkTransition.state = some record.state

/-- The later record goes on where the earlier one ends. -/
structure CrossNetworkSettlementRecord.Continues
    (later earlier : CrossNetworkSettlementRecord) : Prop where
  request : later.request = earlier.request
  requestHash : later.requestHash = earlier.requestHash
  transitions : earlier.transitions <+: later.transitions

/-- The records are stored under their identifiers. -/
def SettlementWorld.Filed (world : SettlementWorld) : Prop :=
  ∀ id record, world.settlements id = some record → record.request.id = id ∧ record.Counted

/-- A settlement is created in the state CREATED. -/
def SettlementCall.Opens : SettlementCall → Prop
  | .create _ _ opening => opening.state = .created
  | _ => True

section Records

variable {record earlier later : CrossNetworkSettlementRecord} {world next : SettlementWorld}
  {call : SettlementCall}

theorem CrossNetworkSettlementRecord.Continues.refl (record : CrossNetworkSettlementRecord) :
    record.Continues record :=
  ⟨rfl, rfl, List.prefix_rfl⟩

theorem CrossNetworkSettlementRecord.Continues.trans {latest : CrossNetworkSettlementRecord}
    (goes : latest.Continues later) (continues : later.Continues earlier) :
    latest.Continues earlier :=
  ⟨goes.request.trans continues.request, goes.requestHash.trans continues.requestHash,
    continues.transitions.trans goes.transitions⟩

theorem CrossNetworkSettlementRecord.Counted.append (counted : record.Counted)
    (transition : CrossNetworkTransition) : (record.append transition).Counted where
  length := by
    change (record.transitions ++ [transition]).length = record.version + 1 + 1
    rw [List.length_append, counted.length]
    rfl
  last := by
    change (record.transitions ++ [transition]).getLast?.map _ = _
    rw [List.getLast?_concat]
    rfl

/-- Of two records of which one continues the other, equal versions are equal histories. -/
theorem CrossNetworkSettlementRecord.Continues.current (continues : later.Continues earlier)
    (counted : later.Counted) (count : earlier.Counted) (version : later.version = earlier.version) :
    later.transitions = earlier.transitions ∧ later.state = earlier.state := by
  have same : earlier.transitions = later.transitions := by
    refine continues.transitions.eq_of_length ?_
    rw [counted.length, count.length, version]
  refine ⟨same.symm, Option.some.inj ?_⟩
  rw [← counted.last, ← same, count.last]

theorem SettlementWorld.Stores.filed (stores : world.Stores next call) (filed : world.Filed)
    (opens : call.Opens) : next.Filed := by
  intro id found stored
  cases stores with
  | nothing same =>
      rw [same] at stored
      exact filed id found stored
  | @created request requestHash transition _ same =>
      rw [same] at stored
      by_cases own : id = request.id
      · subst own
        rw [Function.update_self] at stored
        cases stored
        exact ⟨rfl, rfl, congrArg some opens⟩
      · rw [Function.update_of_ne own] at stored
        exact filed id found stored
  | @appended written record transition held same =>
      rw [same] at stored
      by_cases own : id = written
      · subst own
        rw [Function.update_self] at stored
        cases stored
        obtain ⟨named, counted⟩ := filed id record held
        exact ⟨named, counted.append transition⟩
      · rw [Function.update_of_ne own] at stored
        exact filed id found stored

/-- A stored record is only ever continued. -/
theorem SettlementWorld.Stores.continues (stores : world.Stores next call) {id : JsString}
    (stored : world.settlements id = some record) :
    ∃ later, next.settlements id = some later ∧ later.Continues record := by
  cases stores with
  | nothing same => exact ⟨record, by rw [same, stored], .refl record⟩
  | @created request requestHash transition free same =>
      have own : id ≠ request.id := by
        rintro rfl
        cases free.symm.trans stored
      exact ⟨record, by rw [same, Function.update_of_ne own, stored], .refl record⟩
  | @appended written held transition found same =>
      by_cases own : id = written
      · subst own
        cases found.symm.trans stored
        exact ⟨record.append transition, by rw [same, Function.update_self],
          rfl, rfl, List.prefix_append _ _⟩
      · exact ⟨record, by rw [same, Function.update_of_ne own, stored], .refl record⟩

end Records

/-! ## The language of histories -/

/-- The states of a settlement that completes, in their order. -/
def sagaStates : List CrossNetworkSettlementState :=
  [.created, .policyChecked, .deliveryReserved, .deliveryReservationVerified, .paymentSubmitted,
    .paymentFinalized, .paymentAttested, .deliveryReleased, .deliveryFinalized, .reconciled,
    .completed]

/-- After which state a settlement may end otherwise. -/
def CrossNetworkSettlementState.endsAfter :
    CrossNetworkSettlementState → CrossNetworkSettlementState → Bool
  | .failed, .created | .failed, .policyChecked => true
  | .expired, .created | .expired, .policyChecked => true
  | .compensated, .deliveryReserved | .compensated, .deliveryReservationVerified
  | .compensated, .paymentSubmitted => true
  | .manualReview, .deliveryReserved | .manualReview, .deliveryReservationVerified
  | .manualReview, .paymentSubmitted | .manualReview, .paymentFinalized
  | .manualReview, .paymentAttested | .manualReview, .deliveryReleased
  | .manualReview, .deliveryFinalized | .manualReview, .reconciled => true
  | _, _ => false

/-- The states a settlement goes through: a beginning of the order, and at most one other
ending after it. -/
def SagaHistory (states : List CrossNetworkSettlementState) : Prop :=
  (states ≠ [] ∧ states <+: sagaStates) ∨
    ∃ front last ending, states = front ++ [last, ending] ∧ front ++ [last] <+: sagaStates ∧
      ending.endsAfter last

theorem CrossNetworkSettlementState.terminal_of_endsAfter :
    ∀ ending last : CrossNetworkSettlementState, ending.endsAfter last → ending.terminal := by
  decide

/-- Nothing is written after a terminal state. -/
theorem CrossNetworkSettlementState.not_leadsTo_of_terminal :
    ∀ last state : CrossNetworkSettlementState, last.terminal → last.leadsTo state = false := by
  decide

/-- After a beginning of the order comes the next state of the order, or an ending. -/
theorem sagaStates_leadsTo : ∀ count : Fin 12, ∀ last state : CrossNetworkSettlementState,
    (sagaStates.take count).getLast? = some last → last.leadsTo state →
    sagaStates.take count ++ [state] = sagaStates.take (count + 1) ∨ state.endsAfter last := by
  decide

/-- What the service writes after a history goes on with it. -/
theorem SagaHistory.append {states : List CrossNetworkSettlementState}
    {last state : CrossNetworkSettlementState} (history : SagaHistory states)
    (ends : states.getLast? = some last) (leads : last.leadsTo state) :
    SagaHistory (states ++ [state]) := by
  rcases history with ⟨_, begins⟩ | ⟨front, before, ending, rfl, _, after⟩
  · have short : states.length < 12 := Nat.lt_succ_of_le begins.length_le
    have same := List.prefix_iff_eq_take.mp begins
    rw [same] at ends
    rcases sagaStates_leadsTo ⟨states.length, short⟩ last state ends leads with next | ending
    · left
      refine ⟨List.append_ne_nil_of_right_ne_nil _ (List.cons_ne_nil _ _), ?_⟩
      rw [same, next]
      exact List.take_prefix _ _
    · right
      obtain ⟨front, split⟩ := List.getLast?_eq_some_iff.mp ends
      refine ⟨front, last, state, ?_, ?_, ending⟩
      · rw [same, split, List.append_assoc, List.singleton_append]
      · rw [← split]
        exact List.take_prefix _ _
  · have terminal := CrossNetworkSettlementState.terminal_of_endsAfter ending before after
    have same : ending = last := by
      rw [List.append_cons, List.getLast?_concat] at ends
      exact Option.some.inj ends
    rw [← same, CrossNetworkSettlementState.not_leadsTo_of_terminal ending state terminal] at leads
    cases leads

/-- Payment is final in every history in which it is attested. -/
theorem SagaHistory.finalized {states : List CrossNetworkSettlementState}
    (history : SagaHistory states) (attested : .paymentAttested ∈ states) :
    .paymentFinalized ∈ states := by
  have begins : ∀ count : Fin 12, .paymentAttested ∈ sagaStates.take count →
      .paymentFinalized ∈ sagaStates.take count := by
    decide
  have earlier : ∀ states : List CrossNetworkSettlementState, states <+: sagaStates →
      .paymentAttested ∈ states → .paymentFinalized ∈ states := by
    intro states starts member
    have same := List.prefix_iff_eq_take.mp starts
    rw [same] at member ⊢
    exact begins ⟨states.length, Nat.lt_succ_of_le starts.length_le⟩ member
  rcases history with ⟨_, starts⟩ | ⟨front, last, ending, rfl, starts, after⟩
  · exact earlier states starts attested
  · rw [List.append_cons] at attested ⊢
    rcases List.mem_append.mp attested with member | member
    · exact List.mem_append_left _ (earlier _ starts member)
    · rw [← List.mem_singleton.mp member] at after
      cases after

/-! ## What a worker holds -/

/-- The local state that a transcript leaves. -/
def sagaLocal (exchanges : List (Exchange settlementInterface)) : SagaLocal :=
  exchanges.foldl (fun here exchange => here.next exchange.call exchange.answer) .fresh

theorem sagaLocal_append (exchanges : List (Exchange settlementInterface))
    (exchange : Exchange settlementInterface) :
    sagaLocal (exchanges ++ [exchange]) =
      (sagaLocal exchanges).next exchange.call exchange.answer :=
  List.foldl_concat ..

theorem SagaLocal.copy_next (here : SagaLocal) (call : SettlementCall)
    (answer : settlementInterface.Answer call) :
    (here.next call answer).copy = (returnedRecord ⟨call, answer⟩).or here.copy := by
  cases call with
  | get id =>
      cases answer with
      | error error => rfl
      | ok found => cases found <;> rfl
  | _ => cases answer <;> rfl

/-- A copy was returned by some exchange. -/
theorem exchange_of_copy {exchanges : List (Exchange settlementInterface)}
    {record : CrossNetworkSettlementRecord} (copy : (sagaLocal exchanges).copy = some record) :
    ∃ exchange ∈ exchanges, returnedRecord exchange = some record := by
  induction exchanges using List.reverseRecOn with
  | nil => cases copy
  | append_singleton earlier exchange ih =>
      rw [sagaLocal_append, SagaLocal.copy_next, Option.or_eq_some_iff] at copy
      rcases copy with returned | ⟨_, before⟩
      · exact ⟨exchange, List.mem_append_right _ List.mem_cons_self, returned⟩
      · obtain ⟨source, member, returned⟩ := ih before
        exact ⟨source, List.mem_append_left _ member, returned⟩

/-- What an action has returned to a worker is in its transcript, or it was there before. -/
theorem SagaLocal.returned_next {here : SagaLocal} {call : SettlementCall}
    {answer : settlementInterface.Answer call} {action : SettlementAction}
    {result : SettlementStepEvidence}
    (held : (here.next call answer).returned = some (action, result)) :
    here.returned = some (action, result) ∨
      ∃ request, (⟨call, answer⟩ : Exchange settlementInterface) =
        ⟨.act action request, .ok result⟩ := by
  cases call with
  | get id =>
      cases answer with
      | error error => exact .inl held
      | ok found => cases found <;> exact .inl held
  | transition id version transition => cases answer <;> cases held
  | act acted request =>
      cases answer with
      | error error => exact .inl held
      | ok value =>
          cases held
          exact .inr ⟨request, rfl⟩
  | _ => cases answer <;> exact .inl held

/-! ## Runs -/

/-- No settlement is stored and no worker was started. -/
def emptySettlements (Worker : Type) (clock : Int) : View fallibleSettlements Worker SagaEntry :=
  ⟨⟨fun _ => none, clock⟩, []⟩

section Runs

variable {platform : Platform} {Worker : Type} [DecidableEq Worker] {clock : Int}
  {admits : View fallibleSettlements Worker SagaEntry →
    Event settlementInterface Worker SagaEntry → Prop}
  {config : Config fallibleSettlements Worker SagaEntry CrossNetworkSettlementRecord}
  {worker : Worker} {entry : SagaEntry} {exchanges : List (Exchange settlementInterface)}
  {call : SettlementCall}

theorem clockAnswers_of_fallible {choice : fallibleSettlements.Choice}
    {world next : SettlementWorld} {answer : settlementInterface.Answer call}
    (replied : fallibleSettlements.reply call choice world = some (answer, next)) :
    ClockAnswers call answer := by
  cases call with
  | now =>
      rcases choice with done | ⟨error, _ | done⟩
      · exact SettlementWorld.reply_clockAnswers _ _ _ _ _ replied
      · cases replied
      · cases replied
  | _ => trivial

/-- **The calls of a run.** A worker issues the calls that its transcript allows, with the
data that the transcript holds. -/
theorem saga_allows
    (reached : Reachable (sagaProgram platform) admits (emptySettlements Worker clock) config)
    (known : transcriptOf (sagaProgram platform) worker config.history = some (entry, exchanges))
    (allowed : (recording (sagaProgram platform)).allowed (entry, exchanges) call) :
    (sagaLocal exchanges).Allows platform entry.1 call ∧
      (sagaLocal exchanges).Carries platform call := by
  have possible : ∀ exchange ∈ exchanges, ClockAnswers exchange.call exchange.answer :=
    reached.exchanges_hold (fun _ _ exchange => ClockAnswers exchange.call exchange.answer) rfl
      (fun _ _ _ _ replied => clockAnswers_of_fallible replied) (fun _ possible => possible)
      worker entry exchanges known
  obtain ⟨resume, reaches⟩ := allowed
  exact (reaches.follows
    (CrossNetworkSettlementService.execute_carries platform entry.1 entry.2) possible).1

theorem opens_of_allows {here : SagaLocal} {request : CrossNetworkSettlementRequest}
    (allows : here.Allows platform request call) : call.Opens := by
  cases call with
  | create created requestHash transition => exact allows.2
  | _ => trivial

/-- Every record is stored under its identifier. -/
theorem settlements_filed
    (reached : Reachable (sagaProgram platform) admits (emptySettlements Worker clock) config) :
    config.state.Filed := by
  refine reached.invariant (fun view => view.state.Filed) rfl (fun _ _ stored => nomatch stored) ?_
  intro config event state before step _ filed
  cases step with
  | started _ => exact filed
  | issued _ _ => exact filed
  | crashed _ => exact filed
  | answered _ known allowed replied =>
      exact (SettlementWorld.stores_of_fallible replied).filed filed
        (opens_of_allows (saga_allows before known allowed).1)

/-- A record that was returned goes on in the store. -/
theorem returned_continues
    (reached : Reachable (sagaProgram platform) admits (emptySettlements Worker clock) config)
    (known : transcriptOf (sagaProgram platform) worker config.history = some (entry, exchanges))
    {exchange : Exchange settlementInterface} (member : exchange ∈ exchanges)
    {record : CrossNetworkSettlementRecord} (returned : returnedRecord exchange = some record) :
    record.Counted ∧ ∃ stored, config.state.settlements record.request.id = some stored ∧
      stored.Continues record := by
  refine reached.exchanges_hold (fun _ world exchange => ∀ record,
    returnedRecord exchange = some record → record.Counted ∧ ∃ stored,
      world.settlements record.request.id = some stored ∧ stored.Continues record) rfl ?_ ?_
    worker entry exchanges known exchange member record returned
  · intro config worker entry exchanges call choice answer next before known allowed _ replied
      record returned
    have filed := (SettlementWorld.stores_of_fallible replied).filed (settlements_filed before)
      (opens_of_allows (saga_allows before known allowed).1)
    obtain ⟨id, _, stored⟩ := SettlementWorld.stored_of_fallible replied returned
    obtain ⟨rfl, counted⟩ := filed id record stored
    exact ⟨counted, record, stored, .refl record⟩
  · intro entry call choice world answer next exchange replied holds record returned
    obtain ⟨counted, stored, found, continues⟩ := holds record returned
    obtain ⟨later, present, goes⟩ :=
      (SettlementWorld.stores_of_fallible replied).continues found
    exact ⟨counted, later, present, goes.trans continues⟩

/-- **Copies.** What a worker holds goes on in the store. -/
theorem copy_continues
    (reached : Reachable (sagaProgram platform) admits (emptySettlements Worker clock) config)
    (known : transcriptOf (sagaProgram platform) worker config.history = some (entry, exchanges))
    {record : CrossNetworkSettlementRecord} (copy : (sagaLocal exchanges).copy = some record) :
    record.Counted ∧ ∃ stored, config.state.settlements record.request.id = some stored ∧
      stored.Continues record := by
  obtain ⟨exchange, member, returned⟩ := exchange_of_copy copy
  exact returned_continues reached known member returned

/-- A worker only ever holds records of the settlement it was called for. -/
theorem copy_named
    (reached : Reachable (sagaProgram platform) admits (emptySettlements Worker clock) config)
    (known : transcriptOf (sagaProgram platform) worker config.history = some (entry, exchanges))
    {record : CrossNetworkSettlementRecord} (copy : (sagaLocal exchanges).copy = some record) :
    record.request.id = entry.1.id := by
  refine reached.transcripts_hold (fun entry exchanges => ∀ record,
    (sagaLocal exchanges).copy = some record → record.request.id = entry.1.id) rfl
    (fun _ _ copy => nomatch copy) ?_ worker entry exchanges known record copy
  intro config worker entry exchanges call choice answer next before known allowed _ replied named
    record copy
  rw [sagaLocal_append, SagaLocal.copy_next, Option.or_eq_some_iff] at copy
  rcases copy with returned | ⟨_, earlier⟩
  · have allows := (saga_allows before known allowed).1
    have filed := (SettlementWorld.stores_of_fallible replied).filed (settlements_filed before)
      (opens_of_allows allows)
    obtain ⟨id, about, stored⟩ := SettlementWorld.stored_of_fallible replied returned
    rw [(filed id record stored).1]
    cases call with
    | get asked =>
        cases about
        exact allows
    | create request requestHash transition =>
        cases about
        rw [allows.1]
    | transition asked version transition =>
        cases about
        obtain ⟨held, copied, same, _⟩ := allows
        rw [same, named held copied]
    | _ => cases about
  · exact named record earlier

/-! ## What is stored -/

/-- A transition into a state that an action enters carries verifiable evidence that a call
of the action for the settlement has returned. -/
def CrossNetworkTransition.Evidenced (platform : Platform)
    (history : List (Event settlementInterface Worker SagaEntry)) (id : JsString)
    (transition : CrossNetworkTransition) : Prop :=
  transition.state.effected → ∃ worker action request result,
    .answered worker (.act action request) (.ok result) ∈ history ∧ request.id = id ∧
      action.enters = transition.state ∧ result.verifiable platform ∧
      transition.evidence = result.recorded

/-- A record with its whole history: numbered transitions, the last of them into its state,
through the states of a settlement, with the evidence of what was done. -/
structure CrossNetworkSettlementRecord.Chronicled (platform : Platform)
    (history : List (Event settlementInterface Worker SagaEntry)) (id : JsString)
    (record : CrossNetworkSettlementRecord) : Prop where
  named : record.request.id = id
  numbered : record.transitions.map CrossNetworkTransition.sequence =
    List.range (record.version + 1)
  last : record.transitions.getLast?.map CrossNetworkTransition.state = some record.state
  states : SagaHistory (record.transitions.map CrossNetworkTransition.state)
  evidenced : ∀ transition ∈ record.transitions, transition.Evidenced platform history id

omit [DecidableEq Worker] in
theorem CrossNetworkSettlementRecord.Chronicled.later
    {history : List (Event settlementInterface Worker SagaEntry)} {id : JsString}
    {record : CrossNetworkSettlementRecord} (chronicled : record.Chronicled platform history id)
    (event : Event settlementInterface Worker SagaEntry) :
    record.Chronicled platform (event :: history) id where
  named := chronicled.named
  numbered := chronicled.numbered
  last := chronicled.last
  states := chronicled.states
  evidenced transition member effected := by
    obtain ⟨worker, action, request, result, happened, rest⟩ :=
      chronicled.evidenced transition member effected
    exact ⟨worker, action, request, result, List.mem_cons_of_mem _ happened, rest⟩

omit [DecidableEq Worker] in
/-- A transition that goes on with a record. -/
theorem CrossNetworkSettlementRecord.Chronicled.append
    {history : List (Event settlementInterface Worker SagaEntry)} {id : JsString}
    {record : CrossNetworkSettlementRecord} {transition : CrossNetworkTransition}
    (chronicled : record.Chronicled platform history id)
    (sequence : transition.sequence = record.version + 1)
    (leads : record.state.leadsTo transition.state)
    (evidenced : transition.Evidenced platform history id) :
    (record.append transition).Chronicled platform history id where
  named := chronicled.named
  numbered := by
    change (record.transitions ++ [transition]).map _ = List.range (record.version + 1 + 1)
    rw [List.map_append, chronicled.numbered, List.map_singleton, sequence]
    exact List.range_succ.symm
  last := by
    change (record.transitions ++ [transition]).getLast?.map _ = _
    rw [List.getLast?_concat]
    rfl
  states := by
    change SagaHistory ((record.transitions ++ [transition]).map _)
    rw [List.map_append, List.map_singleton]
    refine chronicled.states.append ?_ leads
    rw [List.getLast?_map]
    exact chronicled.last
  evidenced other member := by
    rcases List.mem_append.mp member with earlier | added
    · exact chronicled.evidenced other earlier
    · rw [List.mem_singleton.mp added]
      exact evidenced

omit [DecidableEq Worker] in
/-- A new settlement has its first transition only. -/
theorem CrossNetworkSettlementRecord.Chronicled.opened
    {history : List (Event settlementInterface Worker SagaEntry)}
    {request : CrossNetworkSettlementRequest} {requestHash : JsString}
    {transition : CrossNetworkTransition} (state : transition.state = .created)
    (sequence : transition.sequence = 0) :
    CrossNetworkSettlementRecord.Chronicled platform history request.id
      { request, requestHash, state := .created, version := 0, transitions := [transition] } where
  named := rfl
  numbered := congrArg (fun number => [number]) sequence
  last := congrArg some state
  states := by
    rw [List.map_singleton, state]
    exact .inl ⟨List.cons_ne_nil _ _, by decide⟩
  evidenced other member effected := by
    rw [List.mem_singleton.mp member, state] at effected
    cases effected

/-- What a worker holds of an action, the action has returned for its settlement. -/
theorem event_of_returned
    (reached : Reachable (sagaProgram platform) admits (emptySettlements Worker clock) config)
    (known : transcriptOf (sagaProgram platform) worker config.history = some (entry, exchanges))
    {action : SettlementAction} {result : SettlementStepEvidence}
    (held : (sagaLocal exchanges).returned = some (action, result)) :
    ∃ request, request.id = entry.1.id ∧
      .answered worker (.act action request) (.ok result) ∈ config.history := by
  have listed : ∃ request, request.id = entry.1.id ∧
      (⟨.act action request, .ok result⟩ : Exchange settlementInterface) ∈ exchanges := by
    refine reached.transcripts_hold (fun entry exchanges => ∀ action result,
      (sagaLocal exchanges).returned = some (action, result) → ∃ request,
        request.id = entry.1.id ∧
          (⟨.act action request, .ok result⟩ : Exchange settlementInterface) ∈ exchanges) rfl
      (fun _ _ _ held => nomatch held) ?_ worker entry exchanges known action result held
    intro config worker entry exchanges call choice answer next before known allowed _ _ listed
      action result held
    rw [sagaLocal_append] at held
    rcases SagaLocal.returned_next held with earlier | ⟨request, same⟩
    · obtain ⟨request, named, member⟩ := listed action result earlier
      exact ⟨request, named, List.mem_append_left _ member⟩
    · cases same
      have carries := (saga_allows before known allowed).2
      obtain ⟨record, copy, same⟩ := Option.map_eq_some_iff.mp carries
      refine ⟨request, ?_, List.mem_append_right _ List.mem_cons_self⟩
      rw [← same, copy_named before known copy]
  obtain ⟨request, named, member⟩ := listed
  exact ⟨request, named, answered_of_transcriptOf known member⟩

/-- The copy whose version is current is in the state of the stored record. -/
theorem copy_current
    (reached : Reachable (sagaProgram platform) admits (emptySettlements Worker clock) config)
    (known : transcriptOf (sagaProgram platform) worker config.history = some (entry, exchanges))
    {copied stored : CrossNetworkSettlementRecord}
    (copy : (sagaLocal exchanges).copy = some copied)
    (found : config.state.settlements copied.request.id = some stored)
    (version : stored.version = copied.version) : stored.state = copied.state := by
  obtain ⟨counted, record, present, continues⟩ := copy_continues reached known copy
  cases found.symm.trans present
  exact (continues.current (settlements_filed reached _ _ found).2 counted version).2

/-- **What is written goes on with what is stored.** -/
theorem leadsTo_of_appended
    (reached : Reachable (sagaProgram platform) admits (emptySettlements Worker clock) config)
    (known : transcriptOf (sagaProgram platform) worker config.history = some (entry, exchanges))
    {id : JsString} {stored : CrossNetworkSettlementRecord} {transition : CrossNetworkTransition}
    (allowed : (recording (sagaProgram platform)).allowed (entry, exchanges)
      (.transition id stored.version transition))
    (found : config.state.settlements id = some stored) :
    stored.state.leadsTo transition.state ∧ transition.sequence = stored.version + 1 := by
  obtain ⟨copied, copy, rfl, version, sequence, writes⟩ := (saga_allows reached known allowed).1
  rw [copy_current reached known copy found version, version]
  exact ⟨writes.leadsTo, sequence⟩

/-- **Stored records are chronicled.** -/
theorem settlements_chronicled
    (reached : Reachable (sagaProgram platform) admits (emptySettlements Worker clock) config)
    (id : JsString) (record : CrossNetworkSettlementRecord)
    (stored : config.state.settlements id = some record) :
    record.Chronicled platform config.history id := by
  refine reached.invariant (fun view => ∀ id record, view.state.settlements id = some record →
    record.Chronicled platform view.history id) rfl (fun _ _ stored => nomatch stored) ?_ id record
    stored
  intro config event state before step _ chronicled id found stored
  cases step with
  | started _ => exact (chronicled id found stored).later _
  | issued _ _ => exact (chronicled id found stored).later _
  | crashed _ => exact (chronicled id found stored).later _
  | @answered worker call answer here choice state waits known allowed replied =>
      rw [Protocol.after_state] at stored
      cases SettlementWorld.stores_of_fallible replied with
      | nothing same =>
          rw [same] at stored
          exact (chronicled id found stored).later _
      | @created request requestHash transition _ same =>
          rw [same] at stored
          by_cases own : id = request.id
          · subst own
            rw [Function.update_self] at stored
            cases stored
            have allows := saga_allows before known allowed
            exact .opened allows.1.2 allows.2.1
          · rw [Function.update_of_ne own] at stored
            exact (chronicled id found stored).later _
      | @appended written record transition held same =>
          rw [same] at stored
          by_cases own : id = written
          · subst own
            rw [Function.update_self] at stored
            cases stored
            obtain ⟨leads, sequence⟩ := leadsTo_of_appended before known allowed held
            refine ((chronicled id record held).append sequence leads ?_).later _
            intro effected
            have allows := saga_allows before known allowed
            obtain ⟨copied, copy, named, _⟩ := allows.1
            obtain ⟨action, result, returned, rest⟩ := allows.2 effected
            obtain ⟨request, same, happened⟩ := event_of_returned before known returned
            refine ⟨worker, action, request, result, happened, ?_, rest⟩
            rw [same, named, copy_named before known copy]
          · rw [Function.update_of_ne own] at stored
            exact (chronicled id found stored).later _

/-- A terminal record is left as it is. -/
theorem terminal_kept
    (reached : Reachable (sagaProgram platform) admits (emptySettlements Worker clock) config)
    {event : Event settlementInterface Worker SagaEntry} {state : fallibleSettlements.State}
    (step : (recording (sagaProgram platform)).Step config.toView event state) {id : JsString}
    {record : CrossNetworkSettlementRecord} (stored : config.state.settlements id = some record)
    (terminal : record.state.terminal) : state.settlements id = some record := by
  cases step with
  | started _ => exact stored
  | issued _ _ => exact stored
  | crashed _ => exact stored
  | answered _ known allowed replied =>
      cases SettlementWorld.stores_of_fallible replied with
      | nothing same => rw [same, stored]
      | @created request requestHash transition free same =>
          have own : id ≠ request.id := by
            rintro rfl
            cases free.symm.trans stored
          rw [same, Function.update_of_ne own, stored]
      | @appended written held transition found same =>
          have own : id ≠ written := by
            rintro rfl
            cases found.symm.trans stored
            have leads := (leadsTo_of_appended reached known allowed found).1
            rw [CrossNetworkSettlementState.not_leadsTo_of_terminal _ _ terminal] at leads
            cases leads
          rw [same, Function.update_of_ne own, stored]

/-- A delivery is released only where its record holds the finality of the payment and its
attestation. -/
theorem attested_of_release
    (reached : Reachable (sagaProgram platform) admits (emptySettlements Worker clock) config)
    (known : transcriptOf (sagaProgram platform) worker config.history = some (entry, exchanges))
    {request : CrossNetworkSettlementRequest}
    (allowed : (recording (sagaProgram platform)).allowed (entry, exchanges)
      (.act .releaseDelivery request)) :
    ∃ stored, config.state.settlements request.id = some stored ∧ stored.request = request ∧
      .paymentFinalized ∈ stored.transitions.map CrossNetworkTransition.state ∧
      .paymentAttested ∈ stored.transitions.map CrossNetworkTransition.state := by
  obtain ⟨allows, carries⟩ := saga_allows reached known allowed
  obtain ⟨copied, copy, attested, _⟩ := allows
  obtain rfl : copied.request = request := by
    rw [SagaLocal.Carries, copy] at carries
    exact Option.some.inj carries
  obtain ⟨counted, stored, found, continues⟩ := copy_continues reached known copy
  have member : .paymentAttested ∈ stored.transitions.map CrossNetworkTransition.state := by
    refine (continues.transitions.map _).subset (List.mem_of_getLast? ?_)
    rw [List.getLast?_map, counted.last, attested]
  exact ⟨stored, found, continues.request,
    (settlements_chronicled reached _ _ found).states.finalized member, member⟩

/-- The histories of the settlements in a configuration of a pool. -/
structure SagaHistories (platform : Platform)
    (config : Config fallibleSettlements Worker SagaEntry CrossNetworkSettlementRecord) :
    Prop where
  chronicled : ∀ id record, config.state.settlements id = some record →
    record.Chronicled platform config.history id
  kept : ∀ schedule final,
    config.run (sagaProgram platform) (fun _ _ => True) schedule = some final →
    ∀ id record, config.state.settlements id = some record → record.state.terminal →
    final.state.settlements id = some record
  released : ∀ action move worker request,
    config.move (sagaProgram platform) action = some move →
    move.event = .issued worker (.act .releaseDelivery request) →
    ∃ stored, config.state.settlements request.id = some stored ∧ stored.request = request ∧
      .paymentFinalized ∈ stored.transitions.map CrossNetworkTransition.state ∧
      .paymentAttested ∈ stored.transitions.map CrossNetworkTransition.state

/-- **Saga histories.** Whatever the actions, the clock and the store do, and however the
workers step, fail and crash: every stored settlement has its numbered history through the
states of the saga, a terminal record never changes, and a delivery is released only when the
finality of the payment and its attestation are stored. -/
theorem sagaHistories (reached : Reachable (sagaProgram platform) (fun _ _ => True)
      (emptySettlements Worker clock) config) : SagaHistories platform config where
  chronicled := settlements_chronicled reached
  kept schedule := by
    induction schedule generalizing config with
    | nil =>
        intro final runs id record stored _
        cases runs
        exact stored
    | cons action rest ih =>
        intro final runs id record stored terminal
        obtain ⟨move, moved, admitted, more⟩ := Config.run_cons runs
        exact ih (.step reached moved admitted) final more id record
          (terminal_kept reached (reached.step_of_move rfl moved) stored terminal) terminal
  released action move worker request moved same := by
    have step := reached.step_of_move rfl moved
    obtain ⟨event, state, status⟩ := move
    obtain rfl : event = .issued worker (.act .releaseDelivery request) := same
    cases step with
    | issued known allowed => exact attested_of_release reached known allowed

end Runs

/-! ## A lost acknowledgement -/

namespace LostAcknowledgement

open SagaExample

def answers (worker : Bool) (choices : List fallibleSettlements.Choice) :
    List (Action fallibleSettlements Bool SagaEntry) :=
  choices.flatMap fun choice => [.issue worker, .answer worker choice]

/-- One worker reserves the delivery, and the answer to its write is lost; it fails to write
that it failed. Another worker finds the reservation expired and cancels it. -/
def schedule : List (Action fallibleSettlements Bool SagaEntry) :=
  .start true (request, 12) ::
    answers true [.inl .stored, .inl .stored, .inl (.instant early),
      .inl (.policy ⟨.allow, [], []⟩), .inl (.instant early), .inl .stored,
      .inl (.instant early), .inl (.evidence evidence), .inl (.instant early),
      .inr (.error (js "connection lost"), some .stored), .inl (.instant early), .inl .stored] ++
    (.start false (request, 12) ::
      answers false [.inl .stored, .inl (.instant late), .inl (.evidence evidence),
        .inl (.instant late), .inl .stored])

end LostAcknowledgement

open SagaExample LostAcknowledgement in
/-- The settlement is compensated, and its history is complete. -/
theorem sagaHistories_compensated :
    ∃ config : Config fallibleSettlements Bool SagaEntry CrossNetworkSettlementRecord,
      ((config.state.settlements request.id).map CrossNetworkSettlementRecord.state =
        some .compensated) ∧ SagaHistories isoPlatform config := by
  obtain ⟨config, reached, checked⟩ := Reachable.exists_of_run (sagaProgram isoPlatform)
    (fun _ _ => True) (emptySettlements Bool early) schedule
    (fun config => (config.state.settlements request.id).map CrossNetworkSettlementRecord.state ==
      some .compensated)
    (by decide +kernel)
  exact ⟨config, eq_of_beq checked, sagaHistories reached⟩

end InterWeave
