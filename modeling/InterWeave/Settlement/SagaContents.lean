import InterWeave.Core.Fingerprints
import InterWeave.Settlement.SagaHistories

/-! # One content for a settlement

A call of `execute` compares the fingerprint of its request with the stored one, unless it
found no record: then it goes on with whatever record `create` returns. A record that another
call has created in between may be that of another request, and the loop decides by the expiry
of the request it was called with.
-/

namespace InterWeave

open Async

variable {platform : Platform}

/-! ## Fingerprints of requests -/

theorem CrossNetworkLeg.eq_of_sorted {first second : CrossNetworkLeg}
    (same : first.json.sorted = second.json.sorted) : first = second := by
  have values := JsValue.values_eq_of_names same
    [js "assetId", js "networkId", js "sender", js "receiver", js "amount"]
    (by decide +kernel) rfl rfl
  cases first
  cases second
  simp only [List.map_cons, List.map_nil, JsValue.sorted, List.cons.injEq,
    JsValue.string.injEq, and_true] at values
  simp only [CrossNetworkLeg.mk.injEq]
  exact values

theorem CrossNetworkSettlementRequest.eq_of_sorted {first second : CrossNetworkSettlementRequest}
    (same : first.json.sorted = second.json.sorted) : first = second := by
  have values := JsValue.values_eq_of_names same
    [js "id", js "idempotencyKey", js "delivery", js "payment", js "policyVersion",
      js "createdAt", js "expiresAt"] (by decide +kernel) rfl rfl
  cases first
  cases second
  simp only [List.map_cons, List.map_nil, List.cons.injEq, and_true] at values
  obtain ⟨id, key, delivery, payment, policy, created, expires⟩ := values
  simp only [JsValue.sorted, JsValue.string.injEq] at id key policy created expires
  rw [CrossNetworkLeg.eq_of_sorted delivery, CrossNetworkLeg.eq_of_sorted payment, id, key, policy,
    created, expires]

theorem CrossNetworkLeg.json_over (leg : CrossNetworkLeg) : leg.json.Over fun _ => False := by
  simp [json, JsValue.Over, JsValue.propertiesOver]

theorem CrossNetworkSettlementRequest.json_over (request : CrossNetworkSettlementRequest) :
    request.json.Over fun _ => False := by
  simp [json, JsValue.Over, JsValue.propertiesOver, CrossNetworkLeg.json_over]

theorem CrossNetworkLeg.renders (leg : CrossNetworkLeg) : leg.json.Renders platform := by
  refine ⟨rfl, canonicalJson_object_ok ?_⟩
  simp only [List.forall_mem_cons]
  exact ⟨JsValue.renders_string _, JsValue.renders_string _, JsValue.renders_string _,
    JsValue.renders_string _, JsValue.renders_string _,
    fun _ member => (List.not_mem_nil member).elim⟩

/-- Every request has a fingerprint. -/
theorem CrossNetworkSettlementRequest.fingerprinted (platform : Platform)
    (request : CrossNetworkSettlementRequest) :
    ∃ hash, requestFingerprint platform request.json = .ok hash := by
  refine fingerprint_ok ?_
  simp only [List.forall_mem_cons]
  exact ⟨JsValue.renders_string _, JsValue.renders_string _, request.delivery.renders,
    request.payment.renders, JsValue.renders_string _, JsValue.renders_string _,
    JsValue.renders_string _, fun _ member => (List.not_mem_nil member).elim⟩

/-- Requests with one fingerprint are the same, where the hash has no collision. -/
theorem CrossNetworkSettlementRequest.eq_of_fingerprint {values : JsValue → Prop}
    (free : platform.CollisionFree values) {first second : CrossNetworkSettlementRequest}
    {hash : JsString} (chosen : values first.json) (chooses : values second.json)
    (fingerprint : requestFingerprint platform first.json = .ok hash)
    (other : requestFingerprint platform second.json = .ok hash) : first = second :=
  eq_of_sorted (sorted_eq_of_requestFingerprint platform.formats_none free chosen chooses
    first.json_over second.json_over fingerprint other)

/-! ## How a call enters the loop -/

/-- What `execute` throws where the identifier was used with another content. -/
def reusedWithOtherContent (id : JsString) : Thrown :=
  .registryError .conflict
    (js "settlement ID was reused with different content: " ++ id)

/-- The exchanges with the store before the loop: a record of the same fingerprint was found,
or none was found and one was created. -/
inductive Entered (platform : Platform) (request : CrossNetworkSettlementRequest) :
    List (Exchange settlementInterface) → Prop where
  | found {hash : JsString} {record : CrossNetworkSettlementRecord}
      {rest : List (Exchange settlementInterface)} :
      requestFingerprint platform request.json = .ok hash → record.requestHash = hash →
      Entered platform request (⟨.get request.id, .ok (some record)⟩ :: rest)
  | created {hash : JsString} {transition : CrossNetworkTransition}
      {record : CrossNetworkSettlementRecord} {rest : List (Exchange settlementInterface)} :
      Entered platform request (⟨.get request.id, .ok none⟩ ::
        ⟨.create request hash transition, .ok record⟩ :: rest)

theorem Entered.later {request : CrossNetworkSettlementRequest}
    {exchanges there : List (Exchange settlementInterface)}
    (entered : Entered platform request exchanges) (starts : exchanges <+: there) :
    Entered platform request there := by
  obtain ⟨more, rfl⟩ := starts
  cases entered with
  | found fingerprint same => exact .found fingerprint same
  | created => exact .created

/-- The calls that read or create the record. -/
def SettlementCall.enters : SettlementCall → Bool
  | .get _ => true
  | .create _ _ _ => true
  | _ => false

/-- A call reads or creates the record, or the record was entered. -/
def Enters (platform : Platform) (request : CrossNetworkSettlementRequest)
    (exchanges : List (Exchange settlementInterface)) (call : SettlementCall) : Prop :=
  call.enters = true ∨ Entered platform request exchanges

/-- How a call ends: with what the loop returns, or before the loop with an error. -/
def Leaves (platform : Platform) (request : CrossNetworkSettlementRequest)
    (exchanges : List (Exchange settlementInterface))
    (outcome : Except Thrown CrossNetworkSettlementRecord) : Prop :=
  Entered platform request exchanges ∨ ∃ error, outcome = .error error ∧
    (request.validate platform = .error error ∨
      (∃ call, (⟨call, .error error⟩ : Exchange settlementInterface) ∈ exchanges) ∨
      error = reusedWithOtherContent request.id)

/-- The calls of the loop come after the record was entered. -/
theorem CrossNetworkSettlementService.execute_enters (request : CrossNetworkSettlementRequest)
    (bound : Nat) :
    (execute platform request bound).Follows
      (transcriptProtocol (Enters platform request)) (Leaves platform request) [] := by
  have loops : ∀ record (exchanges : List (Exchange settlementInterface)),
      Entered platform request exchanges →
      (drive platform request bound record).Follows
        (transcriptProtocol (Enters platform request)) (Leaves platform request) exchanges := by
    intro record exchanges entered
    exact (Program.follows_of_forall _ exchanges fun there starts _ =>
      .inr (entered.later starts)).imp fun there _ starts => .inl (entered.later starts)
  refine .ofExcept_seq (fun _ _ => ?_) fun error invalid => .inr ⟨error, rfl, .inl invalid⟩
  refine .ofExcept_seq (fun hash fingerprint => ?_) fun error failed => ?_
  · refine .call_seq (.inl rfl) (fun found _ => ?_) fun error _ =>
      .inr ⟨error, rfl, .inr (.inl ⟨_, List.mem_cons_self⟩)⟩
    cases found with
    | none =>
        refine .call_seq (.inl rfl) (fun record _ => loops record _ .created) fun error _ =>
          .inr ⟨error, rfl, .inr (.inl ⟨_, List.mem_cons_of_mem _ List.mem_cons_self⟩)⟩
    | some record =>
        dsimp only
        split
        · exact .inr ⟨_, rfl, .inr (.inr rfl)⟩
        · rename_i same
          exact loops record _ (.found fingerprint (not_not.mp same))
  · obtain ⟨hash, fingerprint⟩ := request.fingerprinted platform
    cases failed.symm.trans fingerprint

/-! ## What a call decides by -/

/-- The clock was read at or past an expiry. -/
def Lapsed (platform : Platform) (expiresAt : JsString)
    (exchanges : List (Exchange settlementInterface)) : Prop :=
  ∃ instant : Int, (⟨.now, .ok instant⟩ : Exchange settlementInterface) ∈ exchanges ∧
    numberLe (platform.dateParse expiresAt) (some instant) = true

/-- A call failed, or an action returned evidence that is not verifiable. -/
def Failed (platform : Platform) (exchanges : List (Exchange settlementInterface)) : Prop :=
  (∃ call error, (⟨call, .error error⟩ : Exchange settlementInterface) ∈ exchanges) ∨
    ∃ action request result,
      (⟨.act action request, .ok result⟩ : Exchange settlementInterface) ∈ exchanges ∧
        result.verifiable platform = false

/-- What a state is written for, as far as failure and expiry go. -/
def Warrants (platform : Platform) (expiresAt : JsString)
    (exchanges : List (Exchange settlementInterface)) : CrossNetworkSettlementState → Prop
  | .expired => Lapsed platform expiresAt exchanges
  | .compensated => Lapsed platform expiresAt exchanges ∨ Failed platform exchanges
  | _ => True

/-- What the decisions on a record rest on: an expiry on a reading of the clock, a
compensation on such a reading or on a failure, an action on a reading before the expiry. -/
def Decides (platform : Platform) (expiresAt : JsString)
    (exchanges : List (Exchange settlementInterface)) : SettlementCall → Prop
  | .act .cancelDeliveryReservation _ =>
      Lapsed platform expiresAt exchanges ∨ Failed platform exchanges
  | .act _ _ => ∃ instant : Int,
      exchanges.getLast? = some ⟨.now, .ok instant⟩ ∧
        numberLe (platform.dateParse expiresAt) (some instant) = false
  | .transition _ _ transition => Warrants platform expiresAt exchanges transition.state
  | _ => True

section Decisions

variable {expiresAt : JsString} {exchanges there : List (Exchange settlementInterface)}

theorem Lapsed.later (lapsed : Lapsed platform expiresAt exchanges) (starts : exchanges <+: there) :
    Lapsed platform expiresAt there := by
  obtain ⟨instant, member, past⟩ := lapsed
  exact ⟨instant, starts.subset member, past⟩

theorem Failed.later (failed : Failed platform exchanges) (starts : exchanges <+: there) :
    Failed platform there := by
  rcases failed with ⟨call, error, member⟩ | ⟨action, request, result, member, invalid⟩
  · exact .inl ⟨call, error, starts.subset member⟩
  · exact .inr ⟨action, request, result, starts.subset member, invalid⟩

theorem Warrants.later {state : CrossNetworkSettlementState}
    (warrants : Warrants platform expiresAt exchanges state) (starts : exchanges <+: there) :
    Warrants platform expiresAt there state := by
  cases state with
  | expired => exact Lapsed.later warrants starts
  | compensated => exact warrants.imp (·.later starts) (·.later starts)
  | _ => trivial

theorem failed_of_error {call : SettlementCall} {error : Thrown} :
    Failed platform (exchanges ++ [⟨call, .error error⟩]) :=
  .inl ⟨call, error, List.mem_append_right _ List.mem_cons_self⟩

/-- The transcripts of a program that decides by an expiry. -/
abbrev decisions (platform : Platform) (expiresAt : JsString) :
    Protocol settlementInterface Unit :=
  transcriptProtocol (Decides platform expiresAt)

/-- Where a step of the loop throws, a call has failed or evidence was not verifiable. -/
def Throws (platform : Platform) (there : List (Exchange settlementInterface))
    (outcome : Except Thrown CrossNetworkSettlementRecord) : Prop :=
  ∀ error, outcome = .error error → Failed platform there

theorem throws_ok {record : CrossNetworkSettlementRecord} : Throws platform there (.ok record) :=
  fun _ same => by cases same

namespace CrossNetworkSettlementService

variable {request : CrossNetworkSettlementRequest} {record : CrossNetworkSettlementRecord}

theorem move_decides {state : CrossNetworkSettlementState} {evidence : List JsString}
    {reason : JsString} (warrants : Warrants platform expiresAt exchanges state) :
    (move platform record state evidence reason).Follows (decisions platform expiresAt)
      (Throws platform) exchanges := by
  refine .call_seq trivial (fun now _ => ?_) fun _ _ _ _ => failed_of_error
  refine ⟨warrants.later (List.prefix_append _ _), fun answer _ => ?_⟩
  cases answer with
  | ok next => exact throws_ok
  | error error => exact fun _ _ => failed_of_error

theorem effect_decides {action : SettlementAction} {state : CrossNetworkSettlementState}
    (decides : Decides platform expiresAt exchanges (.act action record.request))
    (warrants : Warrants platform expiresAt exchanges state) :
    (effect platform record state (SettlementProgram.act action record.request)).Follows
      (decisions platform expiresAt) (Throws platform) exchanges := by
  refine .call_seq decides (fun result _ => ?_) fun _ _ _ _ => failed_of_error
  refine .ofExcept_seq (fun _ valid => ?_) fun error invalid _ _ => ?_
  · exact move_decides (warrants.later (List.prefix_append _ _))
  · refine .inr ⟨action, record.request, result, List.mem_append_right _ List.mem_cons_self, ?_⟩
    unfold validateEvidence at invalid
    split at invalid
    · cases invalid
    · exact Bool.eq_false_iff.mpr ‹_›

theorem advance_decides {instant : Int} (read : exchanges.getLast? = some ⟨.now, .ok instant⟩)
    (unexpired : numberLe (platform.dateParse expiresAt) (some instant) = false) :
    (advance platform record).Follows (decisions platform expiresAt) (Throws platform)
      exchanges := by
  have forward : ∀ {action : SettlementAction}, action ≠ .cancelDeliveryReservation →
      Decides platform expiresAt exchanges (.act action record.request) := by
    intro action other
    cases action <;> first
      | exact absurd rfl other
      | exact ⟨instant, read, unexpired⟩
  unfold advance
  split
  · refine .call_seq trivial (fun result _ => ?_) fun _ _ _ _ => failed_of_error
    split
    · exact move_decides trivial
    · exact move_decides trivial
  · exact effect_decides (forward (by decide)) trivial
  · exact effect_decides (forward (by decide)) trivial
  · exact effect_decides (forward (by decide)) trivial
  · exact effect_decides (forward (by decide)) trivial
  · exact effect_decides (forward (by decide)) trivial
  · exact effect_decides (forward (by decide)) trivial
  · exact effect_decides (forward (by decide)) trivial
  · refine .call_seq trivial (fun result _ => ?_) fun _ _ _ _ => failed_of_error
    split
    · exact move_decides trivial
    · exact move_decides trivial
  · exact move_decides trivial
  · exact throws_ok

theorem compensate_decides {compensated uncertain : JsString}
    (warrants : Lapsed platform expiresAt exchanges ∨ Failed platform exchanges) :
    (compensate platform record compensated uncertain).Follows (decisions platform expiresAt)
      (fun _ _ => True) exchanges := by
  have cancels : (cancelled platform record).Follows (decisions platform expiresAt)
      (fun _ _ => True) exchanges :=
    .call_seq warrants (fun _ _ => .ofExcept_seq (fun _ _ => trivial) fun _ _ => trivial)
      fun _ _ => trivial
  refine .attempt_seq cancels.grows fun there outcome grown => ?_
  have compensates : Warrants platform expiresAt exchanges .compensated := warrants
  have reviews : Warrants platform expiresAt there .manualReview := trivial
  cases outcome with
  | ok result => exact (move_decides (compensates.later grown.1)).imp fun _ _ _ => trivial
  | error error => exact (move_decides reviews).imp fun _ _ _ => trivial

theorem expireOrCompensate_decides (lapsed : Lapsed platform expiresAt exchanges) :
    (expireOrCompensate platform record).Follows (decisions platform expiresAt)
      (fun _ _ => True) exchanges := by
  have expires : Warrants platform expiresAt exchanges .expired := lapsed
  have reviews : Warrants platform expiresAt exchanges .manualReview := trivial
  unfold expireOrCompensate
  split
  · exact compensate_decides (.inl lapsed)
  · split
    · exact (move_decides expires).imp fun _ _ _ => trivial
    · exact (move_decides reviews).imp fun _ _ _ => trivial

theorem handleFailure_decides {error : Thrown} (failed : Failed platform exchanges) :
    (handleFailure platform record error).Follows (decisions platform expiresAt)
      (fun _ _ => True) exchanges := by
  have fails : Warrants platform expiresAt exchanges .failed := trivial
  have reviews : Warrants platform expiresAt exchanges .manualReview := trivial
  rw [handleFailure]
  split
  · exact compensate_decides (.inr failed)
  · split
    · exact (move_decides fails).imp fun _ _ _ => trivial
    · exact (move_decides reviews).imp fun _ _ _ => trivial

/-- The loop decides by the expiry of the request it was called with. -/
theorem drive_decides (bound : Nat) :
    (drive platform request bound record).Follows (decisions platform request.expiresAt)
      (fun _ _ => True) exchanges := by
  induction bound generalizing record exchanges with
  | zero => trivial
  | succ bound ih =>
      unfold drive
      split
      · trivial
      · refine .call_seq trivial (fun instant _ => ?_) fun _ _ => trivial
        by_cases expired : numberLe (platform.dateParse request.expiresAt) (some instant)
        · rw [if_pos expired]
          exact expireOrCompensate_decides
            ⟨instant, List.mem_append_right _ List.mem_cons_self, expired⟩
        · rw [if_neg expired]
          refine .attempt_seq (advance_decides (List.getLast?_concat ..)
            (Bool.not_eq_true _ ▸ expired)) fun there outcome throws => ?_
          cases outcome with
          | ok next => exact ih
          | error error => exact handleFailure_decides (throws error rfl)

theorem execute_decides (request : CrossNetworkSettlementRequest) (bound : Nat) :
    (execute platform request bound).Follows (decisions platform request.expiresAt)
      (fun _ _ => True) [] := by
  refine .ofExcept_seq (fun _ _ => ?_) fun _ _ => trivial
  refine .ofExcept_seq (fun hash _ => ?_) fun _ _ => trivial
  refine .call_seq trivial (fun found _ => ?_) fun _ _ => trivial
  cases found with
  | none => exact .call_seq trivial (fun record _ => drive_decides bound) fun _ _ => trivial
  | some record =>
      dsimp only
      split
      · trivial
      · exact drive_decides bound

end CrossNetworkSettlementService
end Decisions

/-! ## Contents in a pool -/

section Runs

variable {Worker : Type} [DecidableEq Worker] {clock : Int}
  {admits : View fallibleSettlements Worker SagaEntry →
    Event settlementInterface Worker SagaEntry → Prop}
  {config : Config fallibleSettlements Worker SagaEntry CrossNetworkSettlementRecord}
  {worker : Worker} {entry : SagaEntry} {exchanges : List (Exchange settlementInterface)}

/-- The requests that `execute` was called with. -/
def Called (history : List (Event settlementInterface Worker SagaEntry)) (value : JsValue) : Prop :=
  ∃ worker entry, .started worker entry ∈ history ∧ value = entry.1.json

/-- A settlement that `create` finds has the content it was to be created with. -/
def CreatesOwn (view : View fallibleSettlements Worker SagaEntry) :
    Event settlementInterface Worker SagaEntry → Bool
  | .answered _ (.create request _ _) (.ok _) =>
      (view.state.settlements request.id).all fun stored => stored.request == request
  | _ => true

theorem called_of_known
    (known : transcriptOf (sagaProgram platform) worker config.history = some (entry, exchanges)) :
    Called config.history entry.1.json :=
  ⟨worker, entry, started_of_entryOf (entryOf_of_transcriptOf known), rfl⟩

/-- What is stored is the content of a call, with its fingerprint. -/
theorem stored_called
    (reached : Reachable (sagaProgram platform) admits (emptySettlements Worker clock) config)
    (id : JsString) (record : CrossNetworkSettlementRecord)
    (stored : config.state.settlements id = some record) :
    Called config.history record.request.json ∧
      requestFingerprint platform record.request.json = .ok record.requestHash := by
  refine reached.invariant (fun view => ∀ id record, view.state.settlements id = some record →
    Called view.history record.request.json ∧
      requestFingerprint platform record.request.json = .ok record.requestHash) rfl
    (fun _ _ stored => nomatch stored) ?_ id record stored
  intro config event state before step _ earlier id found stored
  have kept : ∀ {record : CrossNetworkSettlementRecord},
      Called config.history record.request.json ∧
        requestFingerprint platform record.request.json = .ok record.requestHash →
      Called (event :: config.history) record.request.json ∧
        requestFingerprint platform record.request.json = .ok record.requestHash := by
    rintro record ⟨⟨worker, entry, member, same⟩, fingerprint⟩
    exact ⟨⟨worker, entry, List.mem_cons_of_mem _ member, same⟩, fingerprint⟩
  cases step with
  | started _ => exact kept (earlier id found stored)
  | issued _ _ => exact kept (earlier id found stored)
  | crashed _ => exact kept (earlier id found stored)
  | @answered worker call answer here choice state waits known allowed replied =>
      rw [Protocol.after_state] at stored
      cases SettlementWorld.stores_of_fallible replied with
      | nothing same =>
          rw [same] at stored
          exact kept (earlier id found stored)
      | @created request requestHash transition _ same =>
          rw [same] at stored
          by_cases own : id = request.id
          · subst own
            rw [Function.update_self] at stored
            cases stored
            obtain ⟨⟨rfl, _⟩, _, fingerprint⟩ := saga_allows before known allowed
            exact kept ⟨called_of_known known, fingerprint⟩
          · rw [Function.update_of_ne own] at stored
            exact kept (earlier id found stored)
      | @appended written record transition held same =>
          rw [same] at stored
          by_cases own : id = written
          · subst own
            rw [Function.update_self] at stored
            cases stored
            exact kept (earlier id record held)
          · rw [Function.update_of_ne own] at stored
            exact kept (earlier id found stored)

/-- What a call has created is its own content. -/
theorem created_own
    (reached : Reachable (sagaProgram platform) (fun view event => CreatesOwn view event = true)
      (emptySettlements Worker clock) config)
    (known : transcriptOf (sagaProgram platform) worker config.history = some (entry, exchanges))
    {request : CrossNetworkSettlementRequest} {requestHash : JsString}
    {transition : CrossNetworkTransition} {record : CrossNetworkSettlementRecord}
    (member : (⟨.create request requestHash transition, .ok record⟩ :
      Exchange settlementInterface) ∈ exchanges) : record.request = request := by
  refine reached.exchanges_hold (fun _ _ exchange => ∀ request requestHash transition record,
    exchange = ⟨.create request requestHash transition, .ok record⟩ → record.request = request)
    rfl ?_ (fun _ same => same) worker entry exchanges known _ member _ _ _ _ rfl
  intro config worker entry exchanges call choice answer next before known allowed admitted replied
    request requestHash transition record same
  cases same
  obtain ⟨id, about, stored⟩ := SettlementWorld.stored_of_fallible replied rfl
  obtain rfl : request.id = id := Option.some.inj about
  have stores := SettlementWorld.stores_of_fallible replied
  cases found : config.state.settlements request.id with
  | none =>
      cases stores with
      | nothing same => exact nomatch (same ▸ stored).symm.trans found
      | created _ same =>
          rw [same, Function.update_self] at stored
          cases stored
          rfl
  | some existing =>
      obtain ⟨later, present, continues⟩ := stores.continues found
      cases stored.symm.trans present
      simp only [CreatesOwn, found, Option.all_some, beq_iff_eq] at admitted
      exact continues.request.trans admitted

/-- **One content.** A call that has entered the record has the stored content. -/
theorem content_of_entered
    (reached : Reachable (sagaProgram platform) (fun view event => CreatesOwn view event = true)
      (emptySettlements Worker clock) config)
    (free : platform.CollisionFree (Called config.history))
    (known : transcriptOf (sagaProgram platform) worker config.history = some (entry, exchanges))
    (entered : Entered platform entry.1 exchanges) :
    ∃ stored, config.state.settlements entry.1.id = some stored ∧ stored.request = entry.1 := by
  suffices holds : ∃ record stored, config.state.settlements record.request.id = some stored ∧
      stored.Continues record ∧ stored.request = entry.1 by
    obtain ⟨record, stored, found, continues, same⟩ := holds
    refine ⟨stored, ?_, same⟩
    rw [← same, continues.request, found]
  generalize same : exchanges = transcript at entered
  cases entered with
  | @found hash record rest fingerprint equal =>
      subst same
      obtain ⟨_, stored, found, continues⟩ :=
        returned_continues reached known List.mem_cons_self rfl
      obtain ⟨called, fingerprinted⟩ := stored_called reached _ _ found
      refine ⟨record, stored, found, continues, ?_⟩
      rw [continues.requestHash, equal] at fingerprinted
      exact CrossNetworkSettlementRequest.eq_of_fingerprint free called (called_of_known known)
        fingerprinted fingerprint
  | @created hash transition record rest =>
      subst same
      have member := List.mem_cons_of_mem (⟨.get entry.1.id, .ok none⟩ :
        Exchange settlementInterface) (List.mem_cons_self (a :=
          (⟨.create entry.1 hash transition, .ok record⟩ : Exchange settlementInterface)) (l := rest))
      obtain ⟨_, stored, found, continues⟩ := returned_continues reached known member rfl
      exact ⟨record, stored, found, continues,
        continues.request.trans (created_own reached known member)⟩

/-- A call of the loop comes after its record was entered. -/
theorem entered_of_allowed {call : SettlementCall}
    (allowed : (recording (sagaProgram platform)).allowed (entry, exchanges) call)
    (loops : call.enters = false) : Entered platform entry.1 exchanges := by
  obtain ⟨resume, reaches⟩ := allowed
  rcases (CrossNetworkSettlementService.execute_enters entry.1 entry.2).admits_of_reaches reaches
    with enters | entered
  · rw [loops] at enters
    cases enters
  · exact entered

theorem decides_of_allowed {call : SettlementCall}
    (allowed : (recording (sagaProgram platform)).allowed (entry, exchanges) call) :
    Decides platform entry.1.expiresAt exchanges call := by
  obtain ⟨resume, reaches⟩ := allowed
  exact (CrossNetworkSettlementService.execute_decides entry.1 entry.2).admits_of_reaches reaches

/-- One content for every settlement, in a configuration of a pool: it stays, the calls with
another content end with an error and leave the record alone, and what is done and decided is
done with the stored content. -/
structure SingleContents (platform : Platform)
    (config : Config fallibleSettlements Worker SagaEntry CrossNetworkSettlementRecord) :
    Prop where
  persisted : ∀ schedule final,
    config.run (sagaProgram platform) (fun _ _ => True) schedule = some final →
    ∀ id record, config.state.settlements id = some record → ∃ later,
      final.state.settlements id = some later ∧ later.request = record.request ∧
        later.requestHash = record.requestHash
  refused : ∀ worker entry exchanges outcome stored,
    config.workers worker = .running (.settled outcome) →
    transcriptOf (sagaProgram platform) worker config.history = some (entry, exchanges) →
    config.state.settlements entry.1.id = some stored → stored.request ≠ entry.1 →
    ∃ error, outcome = .error error ∧ (entry.1.validate platform = .error error ∨
      (∃ call, (⟨call, .error error⟩ : Exchange settlementInterface) ∈ exchanges) ∨
      error = reusedWithOtherContent entry.1.id)
  untouched : ∀ action move entry exchanges stored,
    config.move (sagaProgram platform) action = some move →
    transcriptOf (sagaProgram platform) move.event.worker config.history =
      some (entry, exchanges) →
    config.state.settlements entry.1.id = some stored → stored.request ≠ entry.1 →
    move.state.settlements entry.1.id = some stored
  decided : ∀ action move worker call entry exchanges,
    config.move (sagaProgram platform) action = some move → move.event = .issued worker call →
    call.enters = false →
    transcriptOf (sagaProgram platform) worker config.history = some (entry, exchanges) →
    ∃ stored, config.state.settlements entry.1.id = some stored ∧ stored.request = entry.1 ∧
      Decides platform stored.request.expiresAt exchanges call

theorem content_of_step {event : Event settlementInterface Worker SagaEntry}
    {state : fallibleSettlements.State}
    (step : (recording (sagaProgram platform)).Step config.toView event state) {id : JsString}
    {record : CrossNetworkSettlementRecord} (stored : config.state.settlements id = some record) :
    ∃ later, state.settlements id = some later ∧ later.Continues record := by
  cases step with
  | started _ => exact ⟨record, stored, .refl record⟩
  | issued _ _ => exact ⟨record, stored, .refl record⟩
  | crashed _ => exact ⟨record, stored, .refl record⟩
  | answered _ _ _ replied => exact (SettlementWorld.stores_of_fallible replied).continues stored

/-- A stored record is only ever continued. -/
theorem content_of_run {final : Config fallibleSettlements Worker SagaEntry
      CrossNetworkSettlementRecord}
    (reached : Reachable (sagaProgram platform) (fun _ _ => True) (emptySettlements Worker clock)
      config)
    (schedule : List (Action fallibleSettlements Worker SagaEntry))
    (runs : config.run (sagaProgram platform) (fun _ _ => True) schedule = some final)
    {id : JsString} {record : CrossNetworkSettlementRecord}
    (stored : config.state.settlements id = some record) :
    ∃ later, final.state.settlements id = some later ∧ later.Continues record := by
  induction schedule generalizing config record with
  | nil =>
      cases runs
      exact ⟨record, stored, .refl record⟩
  | cons action rest ih =>
      obtain ⟨move, moved, admitted, more⟩ := Config.run_cons runs
      obtain ⟨later, found, continues⟩ := content_of_step (reached.step_of_move rfl moved) stored
      obtain ⟨last, present, goes⟩ := ih (.step reached moved admitted) more found
      exact ⟨last, present, goes.trans continues⟩

/-- **One content for a settlement.** In every run in which no `create` finds a settlement of
another content, and whose requests the hash tells apart, a settlement has one content: calls
with another one end with an error and change nothing, and every action and every decision is
that of a call with the stored content. -/
theorem singleContents
    (reached : Reachable (sagaProgram platform) (fun view event => CreatesOwn view event = true)
      (emptySettlements Worker clock) config)
    (free : platform.CollisionFree (Called config.history)) : SingleContents platform config where
  persisted schedule final runs id record stored := by
    obtain ⟨later, found, continues⟩ :=
      content_of_run (reached.mono fun _ _ _ => trivial) schedule runs stored
    exact ⟨later, found, continues.request, continues.requestHash⟩
  refused worker entry exchanges outcome stored settled known found other := by
    have tracks := reached.tracks rfl worker
    rw [settled] at tracks
    obtain ⟨here, same, reaches⟩ := tracks
    cases same.symm.trans known
    rcases (CrossNetworkSettlementService.execute_enters entry.1 entry.2).post_of_reaches reaches
      with entered | refuses
    · obtain ⟨own, present, same⟩ := content_of_entered reached free known entered
      cases found.symm.trans present
      exact (other same).elim
    · exact refuses
  untouched action move entry exchanges stored moved known found other := by
    have step := reached.step_of_move rfl moved
    obtain ⟨event, state, status⟩ := move
    change state.settlements entry.1.id = some stored
    cases step with
    | started _ => exact found
    | issued _ _ => exact found
    | crashed _ => exact found
    | answered _ before allowed replied =>
        cases before.symm.trans known
        cases SettlementWorld.stores_of_fallible replied with
        | nothing same => rw [same, found]
        | @created request requestHash transition empty same =>
            have apart : entry.1.id ≠ request.id := by
              intro equal
              cases (equal ▸ empty).symm.trans found
            rw [same, Function.update_of_ne apart, found]
        | appended _ _ =>
            obtain ⟨own, present, same⟩ :=
              content_of_entered reached free known (entered_of_allowed allowed rfl)
            cases found.symm.trans present
            exact (other same).elim
  decided action move worker call entry exchanges moved same loops known := by
    have step := reached.step_of_move rfl moved
    obtain ⟨event, state, status⟩ := move
    obtain rfl : event = .issued worker call := same
    cases step with
    | issued before allowed =>
        cases before.symm.trans known
        obtain ⟨stored, found, own⟩ :=
          content_of_entered reached free known (entered_of_allowed allowed loops)
        exact ⟨stored, found, own, own ▸ decides_of_allowed allowed⟩

end Runs

/-! ## Two calls of one settlement -/

namespace CreationRace

open SagaExample LostAcknowledgement

/-- The same settlement with an earlier expiry. -/
def other : CrossNetworkSettlementRequest :=
  { request with expiresAt := js "2026-08-11T12:10:00.000Z" }

/-- The second call reads the settlement that the first one has created. -/
def conflicting : List (Action fallibleSettlements Bool SagaEntry) :=
  .start true (request, 12) :: answers true [.inl .stored, .inl .stored] ++
    (.start false (other, 12) :: answers false [.inl .stored])

/-- Both calls find no settlement, and the second one is given what the first one has
created. The clock is past the expiry of the second. -/
def racing : List (Action fallibleSettlements Bool SagaEntry) :=
  [.start true (request, 12), .start false (other, 12)] ++
    answers true [.inl .stored] ++ answers false [.inl .stored] ++ answers true [.inl .stored] ++
    answers false [.inl .stored, .inl (.instant early), .inl (.instant early), .inl .stored]

/-- The outcome of the second call. -/
def outcome (config : Config fallibleSettlements Bool SagaEntry CrossNetworkSettlementRecord) :
    Option (Except Thrown CrossNetworkSettlementRecord) :=
  match config.workers false with
  | .running (.settled outcome) => some outcome
  | _ => none

/-- The second call was refused. -/
def refused (config : Config fallibleSettlements Bool SagaEntry CrossNetworkSettlementRecord) :
    Bool :=
  match outcome config with
  | some (.error error) => error == reusedWithOtherContent request.id
  | _ => false

/-- The second call has expired the settlement of the first one. -/
def expired (config : Config fallibleSettlements Bool SagaEntry CrossNetworkSettlementRecord) :
    Bool :=
  entryOf false config.history == some (other, 12) &&
    match outcome config with
    | some (.ok record) => record.request == request && record.state == .expired &&
        config.state.settlements other.id == some record
    | _ => false

end CreationRace

open SagaExample CreationRace in
/-- A call with another content is refused once the settlement is stored. -/
theorem singleContents_refused :
    ∃ config : Config fallibleSettlements Bool SagaEntry CrossNetworkSettlementRecord,
      refused config = true ∧ SingleContents isoPlatform config := by
  obtain ⟨config, reached, checked⟩ := Reachable.exists_of_run (sagaProgram isoPlatform)
    (fun view event => CreatesOwn view event = true) (emptySettlements Bool early) conflicting
    refused (by decide +kernel)
  exact ⟨config, checked, singleContents reached (isoPlatform_collisionFree _)⟩

open SagaExample CreationRace in
/-- **A settlement expired by another request.** A call whose request expires at 12:10 expires
the stored settlement, which is valid until 13:00, and returns it. -/
theorem settlement_expired_by_other :
    ¬ ∀ config : Config fallibleSettlements Bool SagaEntry CrossNetworkSettlementRecord,
      Reachable (sagaProgram isoPlatform) (fun _ _ => True) (emptySettlements Bool early) config →
      isoPlatform.CollisionFree (Called config.history) → SingleContents isoPlatform config := by
  intro claim
  obtain ⟨config, reached, checked⟩ := Reachable.exists_of_run (sagaProgram isoPlatform)
    (fun _ _ => True) (emptySettlements Bool early) racing CreationRace.expired (by decide +kernel)
  have contents := claim config reached (isoPlatform_collisionFree _)
  have tracks := reached.tracks rfl false
  simp only [CreationRace.expired, outcome, Bool.and_eq_true, beq_iff_eq] at checked
  obtain ⟨entered, checked⟩ := checked
  cases status : config.workers false with
  | running left =>
      cases left with
      | settled outcome =>
          rw [status] at tracks checked
          obtain ⟨⟨entry, exchanges⟩, known, _⟩ := tracks
          cases (entryOf_of_transcriptOf known).symm.trans entered
          cases outcome with
          | error error => cases checked
          | ok record =>
              simp only [Bool.and_eq_true, beq_iff_eq] at checked
              obtain ⟨⟨content, _⟩, stored⟩ := checked
              have differ : record.request ≠ other := by
                rw [content]
                decide
              obtain ⟨error, same, _⟩ :=
                contents.refused false (other, 12) exchanges _ record status known stored differ
              cases same
      | await _ _ =>
          rw [status] at checked
          cases checked
  | _ =>
      rw [status] at checked
      cases checked

end InterWeave
