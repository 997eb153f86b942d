import InterWeave.Core.IsoDate
import InterWeave.Webhooks.WebhookService

/-! # Delivery logs

The number of an attempt is fixed before its post, and the log takes each number once. So an attempt
is logged only if nothing was logged since it read the log: the numbers have no gap, and what was
open when it was read is still open. A terminal delivery therefore comes last.
-/

namespace InterWeave

open Async

section Asks

variable {platform : WebhookPlatform} {command : WebhookCommand}
  {exchanges there : List (Exchange webhookInterface)} {endpoint : WebhookEndpoint}
  {delivery : WebhookDelivery}

/-- The identifier of an event, or one under which the event has been found. -/
def NamesEvent (exchanges : List (Exchange webhookInterface)) (asked id : JsString) : Prop :=
  asked = id ∨ ∃ event : WebhookEvent,
    (⟨.getEvent asked, .ok (some event)⟩ : Exchange webhookInterface) ∈ exchanges ∧ event.id = id

/-- A log that was read open allows its next delivery. -/
structure ReadOpen (exchanges : List (Exchange webhookInterface)) (endpointId eventId : JsString)
    (attempt : Nat) : Prop where
  log : ∃ asked history,
    (⟨.deliveries asked endpointId, .ok history⟩ : Exchange webhookInterface) ∈ exchanges ∧
      NamesEvent exchanges asked eventId ∧ history.any WebhookDelivery.terminal = false ∧
      attempt = history.length + 1

/-- The post of an attempt, and what is kept of its answer. -/
structure Posted (platform : WebhookPlatform) (delivery : WebhookDelivery)
    (request : WebhookRequest) (response : Except Thrown JsNumber) : Prop where
  event : request.eventId = delivery.eventId
  timestamp : request.timestamp = delivery.requestTimestamp
  signature : request.signature = delivery.signature
  status : delivery.responseStatus = response.toOption
  code : delivery.errorCode = postError platform.toPlatform response

/-- What an attempt saves. -/
structure Attempted (platform : WebhookPlatform) (exchanges : List (Exchange webhookInterface))
    (endpoint : WebhookEndpoint) (delivery : WebhookDelivery) : Prop where
  readOpen : ReadOpen exchanges endpoint.id delivery.eventId delivery.attempt
  endpointId : delivery.endpointId = endpoint.id
  id : delivery.id = deliveryId delivery.eventId delivery.endpointId delivery.attempt
  response : ∃ request response,
    (⟨.post request, response⟩ : Exchange webhookInterface) ∈ exchanges ∧
      Posted platform delivery request response
  status : delivery.status =
    deliveryStatus endpoint.maxAttempts delivery.attempt delivery.errorCode

/-- The endpoints that a call posts to. -/
def Offered (command : WebhookCommand) (exchanges : List (Exchange webhookInterface))
    (endpoint : WebhookEndpoint) : Prop :=
  (∃ eventId, command = .retry eventId endpoint) ∨ ∃ type endpoints,
    (⟨.endpointsFor type, .ok endpoints⟩ : Exchange webhookInterface) ∈ exchanges ∧
      endpoint ∈ endpoints

/-- The transcripts after which a delivery is saved. -/
def WebhookCommand.Asks (platform : WebhookPlatform) (command : WebhookCommand)
    (exchanges : List (Exchange webhookInterface)) : WebhookCall → Prop
  | .saveDelivery delivery => ∃ endpoint, Offered command exchanges endpoint ∧
      Attempted platform exchanges endpoint delivery
  | _ => True

theorem ReadOpen.mono {endpointId eventId : JsString} {attempt : Nat}
    (read : ReadOpen exchanges endpointId eventId attempt) (grows : exchanges <+: there) :
    ReadOpen there endpointId eventId attempt := by
  obtain ⟨asked, history, answered, names, unfinished, counted⟩ := read
  refine ⟨asked, history, grows.subset answered, ?_, unfinished, counted⟩
  rcases names with same | ⟨event, found, named⟩
  · exact .inl same
  · exact .inr ⟨event, grows.subset found, named⟩

theorem Offered.mono (offered : Offered command exchanges endpoint) (grows : exchanges <+: there) :
    Offered command there endpoint := by
  rcases offered with same | ⟨type, endpoints, answered, listed⟩
  · exact .inl same
  · exact .inr ⟨type, endpoints, grows.subset answered, listed⟩

theorem nextAttempt_asks (status : WebhookDeliveryStatus) (attempt : Nat) :
    (WebhookService.nextAttempt platform status attempt).Follows
      (transcriptProtocol (WebhookCommand.Asks platform command)) (fun _ _ => True) exchanges := by
  rw [WebhookService.nextAttempt]
  split
  · trivial
  · exact .call_seq trivial (fun _ _ => trivial) fun _ _ => trivial

/-- An attempt saves what it may save after the log it was numbered by. -/
theorem attempt_asks {event : WebhookEvent} {attempt : Nat}
    (offered : Offered command exchanges endpoint)
    (read : ReadOpen exchanges endpoint.id event.id attempt) :
    (WebhookService.attempt platform event endpoint attempt).Follows
      (transcriptProtocol (WebhookCommand.Asks platform command)) (fun _ _ => True) exchanges := by
  rw [WebhookService.attempt]
  refine .ofExcept_seq (fun body _ => ?_) fun _ _ => trivial
  refine .call_seq trivial (fun started _ => ?_) fun _ _ => trivial
  refine .ofExcept_seq (fun signature _ => ?_) fun _ _ => trivial
  refine .attempt_seq (.asked trivial) fun there response posted => ?_
  subst posted
  refine .call_seq trivial (fun answered _ => ?_) fun _ _ => trivial
  refine .seq (nextAttempt_asks _ _).grows (fun after nextAttemptAt further => ?_)
    fun _ _ _ => trivial
  have posted := (List.prefix_append _ _).trans further.1
  have grows : exchanges <+: after :=
    (List.prefix_append _ _).trans ((List.prefix_append _ _).trans posted)
  refine .call_seq ⟨endpoint, offered.mono grows, ?_⟩ (fun _ _ => trivial) fun _ _ => trivial
  have answer := posted.subset (List.mem_append_right _ (List.mem_singleton_self _))
  exact ⟨read.mono grows, rfl, rfl, ⟨_, response, answer, ⟨rfl, rfl, rfl, rfl, rfl⟩⟩, rfl⟩

theorem dispatch_asks {event : WebhookEvent} {endpoints : List WebhookEndpoint}
    (offered : ∀ endpoint ∈ endpoints, Offered command exchanges endpoint) :
    (WebhookService.dispatch platform event endpoints).Follows
      (transcriptProtocol (WebhookCommand.Asks platform command)) (fun _ _ => True) exchanges := by
  induction endpoints generalizing exchanges with
  | nil => trivial
  | cons endpoint rest ih =>
      rw [List.forall_mem_cons] at offered
      rw [WebhookService.dispatch]
      split
      · exact ih offered.2
      · refine .call_seq trivial (fun history _ => ?_) fun _ _ => trivial
        have grows := List.prefix_append exchanges
          [⟨.deliveries event.id endpoint.id, .ok history⟩]
        split
        · exact ih fun other listed => (offered.2 other listed).mono grows
        · rename_i unfinished
          have read : ReadOpen (exchanges ++ [⟨.deliveries event.id endpoint.id, .ok history⟩])
              endpoint.id event.id (history.length + 1) :=
            ⟨event.id, history, List.mem_append_right _ (List.mem_singleton_self _), .inl rfl,
              Bool.eq_false_iff.mpr unfinished, rfl⟩
          refine .seq (attempt_asks (offered.1.mono grows) read).grows
            (fun there delivery grown => ?_) fun _ _ _ => trivial
          refine .seq (ih fun other listed =>
            (offered.2 other listed).mono (grows.trans grown.1)) (fun _ _ _ => trivial)
            fun _ _ _ => trivial

/-- What a call saves, whatever it is answered. -/
theorem WebhookCommand.run_asks (command : WebhookCommand) :
    (command.run platform).Follows (transcriptProtocol (WebhookCommand.Asks platform command))
      (fun _ _ => True) [] := by
  cases command with
  | publish event =>
      refine Program.Follows.bind ?_
      refine .ofExcept_seq (fun _ _ => ?_) fun _ _ => trivial
      refine .ofExcept_seq (fun hash _ => ?_) fun _ _ => trivial
      refine .call_seq trivial (fun _ _ => ?_) fun _ _ => trivial
      refine .call_seq trivial (fun endpoints _ => ?_) fun _ _ => trivial
      refine (dispatch_asks fun endpoint listed => ?_).imp fun _ outcome _ => ?_
      · exact .inr ⟨event.type, endpoints,
          List.mem_append_right _ (List.mem_singleton_self _), listed⟩
      · cases outcome <;> trivial
  | retry eventId endpoint =>
      refine Program.Follows.bind ?_
      refine .call_seq trivial (fun found _ => ?_) fun _ _ => trivial
      cases found with
      | none => trivial
      | some event =>
          refine .call_seq trivial (fun history _ => ?_) fun _ _ => trivial
          dsimp only
          split
          · trivial
          · rename_i unfinished
            refine (attempt_asks (.inl ⟨eventId, rfl⟩) ?_).imp fun _ outcome _ => ?_
            · refine ⟨eventId, history, List.mem_append_right _ (List.mem_singleton_self _), ?_,
                Bool.eq_false_iff.mpr unfinished, rfl⟩
              exact .inr ⟨event, List.mem_append_left _ (List.mem_singleton_self _), rfl⟩
            · cases outcome <;> trivial

end Asks

/-! ## Logs -/

/-- The log of an event and an endpoint: numbered from one on, with a terminal delivery only at its
end. -/
structure Numbered (maxAttempts : JsNumber) (eventId endpointId : JsString)
    (log : List WebhookDelivery) : Prop where
  attempts : log.map WebhookDelivery.attempt = List.range' 1 log.length
  last : ∀ earlier delivery later, log = earlier ++ delivery :: later →
    delivery.terminal = true → later = []
  id : ∀ delivery ∈ log, delivery.id = deliveryId eventId endpointId delivery.attempt
  status : ∀ delivery ∈ log,
    delivery.status = deliveryStatus maxAttempts delivery.attempt delivery.errorCode

namespace Numbered

variable {maxAttempts : JsNumber} {eventId endpointId : JsString} {log : List WebhookDelivery}
  {earlier later : List WebhookDelivery} {delivery : WebhookDelivery}

theorem nil : Numbered maxAttempts eventId endpointId [] where
  attempts := rfl
  last _ _ _ split := by
    rw [List.nil_eq, List.append_eq_nil_iff] at split
    cases split.2
  id _ member := (List.not_mem_nil member).elim
  status _ member := (List.not_mem_nil member).elim

/-- A delivery is numbered by its place. -/
theorem attempt_eq (numbered : Numbered maxAttempts eventId endpointId log)
    (split : log = earlier ++ delivery :: later) : delivery.attempt = earlier.length + 1 := by
  have place := congrArg (fun numbers => numbers[earlier.length]?) numbered.attempts
  simp only [split, List.map_append, List.map_cons, List.length_append, List.length_cons] at place
  rw [List.getElem?_append_right (by simp), List.length_map, Nat.sub_self,
    List.getElem?_cons_zero, List.getElem?_range' (by omega)] at place
  have same := Option.some.inj place
  omega

/-- Whoever has read the log open may add the next delivery, if its number is still free. -/
theorem concat (numbered : Numbered maxAttempts eventId endpointId log)
    (unfinished : ∀ other ∈ log, other.terminal = false)
    (attempt : delivery.attempt = log.length + 1)
    (id : delivery.id = deliveryId eventId endpointId delivery.attempt)
    (status : delivery.status =
      deliveryStatus maxAttempts delivery.attempt delivery.errorCode) :
    Numbered maxAttempts eventId endpointId (log ++ [delivery]) where
  attempts := by
    rw [List.map_append, numbered.attempts, List.length_append, List.length_singleton,
      List.range'_concat, List.map_singleton, attempt, Nat.one_mul, Nat.add_comm]
  last earlier other later split terminal := by
    rcases List.eq_nil_or_concat later with rfl | ⟨front, final, rfl⟩
    · rfl
    · rw [List.concat_eq_append, ← List.cons_append, ← List.append_assoc] at split
      have among : other ∈ log := by
        rw [(List.append_singleton_inj.mp split).1]
        exact List.mem_append_right _ List.mem_cons_self
      rw [unfinished other among] at terminal
      cases terminal
  id other member := by
    rcases List.mem_append.mp member with before | added
    · exact numbered.id other before
    · rw [List.mem_singleton.mp added, id]
  status other member := by
    rcases List.mem_append.mp member with before | added
    · exact numbered.status other before
    · rw [List.mem_singleton.mp added, status]

/-- Each attempt is made while fewer than the limit have been. -/
theorem attempt_lt (numbered : Numbered maxAttempts eventId endpointId log)
    (positive : (JsNumber.ofNat 1).le maxAttempts = true) (member : delivery ∈ log) :
    (JsNumber.ofNat (delivery.attempt - 1)).lt maxAttempts = true := by
  obtain ⟨earlier, later, split⟩ := List.append_of_mem member
  have number : maxAttempts ≠ .nan := by
    rintro rfl
    cases positive
  rw [numbered.attempt_eq split, Nat.add_sub_cancel]
  rcases List.eq_nil_or_concat earlier with rfl | ⟨front, previous, rfl⟩
  · apply JsNumber.lt_of_not_le number
    exact JsNumber.not_le_zero (JsNumber.not_lt_of_le positive)
  · rw [List.concat_eq_append, List.append_assoc, List.singleton_append] at split
    have before : previous ∈ log := by
      rw [split]
      exact List.mem_append_right _ List.mem_cons_self
    have attempt := numbered.attempt_eq split
    have status := numbered.status previous before
    rw [attempt] at status
    rw [List.length_concat]
    cases reached : maxAttempts.le (.ofNat (front.length + 1)) with
    | false => exact JsNumber.lt_of_not_le number reached
    | true =>
        have terminal : previous.terminal = true := by
          rw [WebhookDelivery.terminal, status, deliveryStatus, reached, if_pos rfl]
          cases previous.errorCode <;> rfl
        cases numbered.last _ _ _ split terminal

/-- A whole limit bounds the log. -/
theorem length_le {limit : Nat} (numbered : Numbered (.ofNat limit) eventId endpointId log)
    (positive : 1 ≤ limit) : log.length ≤ limit := by
  rcases List.eq_nil_or_concat log with rfl | ⟨front, final, rfl⟩
  · exact Nat.zero_le _
  · rw [List.concat_eq_append] at numbered ⊢
    have attempt := numbered.attempt_eq rfl
    have below := numbered.attempt_lt (by simpa using positive)
      (List.mem_append_right _ (List.mem_singleton_self final))
    rw [attempt, JsNumber.lt_ofNat, decide_eq_true_eq] at below
    rw [List.length_append, List.length_singleton]
    omega

end Numbered

/-! ## What the store takes -/

section Replies

variable {kind : WebhookStoreKind} {world next : WebhookWorld} {call : WebhookCall}
  {answer : webhookInterface.Answer call}

/-- What the logs take from a call. -/
def WebhookLogs.Takes (logs next : WebhookLogs) (call : WebhookCall) : Prop :=
  next = logs ∨ ∃ delivery, call = .saveDelivery delivery ∧
    delivery.id ∉ logs.rows.map WebhookDelivery.id ∧ next.rows = logs.rows ++ [delivery]

theorem WebhookLogs.takes_of_save (logs : WebhookLogs) (delivery : WebhookDelivery) :
    logs.Takes (logs.save kind delivery).2 (.saveDelivery delivery) := by
  rw [WebhookLogs.save]
  split
  · exact .inl rfl
  · rename_i free
    split
    · exact .inl rfl
    · exact .inr ⟨delivery, rfl, free, rfl⟩

theorem WebhookWorld.takes_of_reply {choice : WebhookChoice}
    (replied : WebhookWorld.reply kind call choice world = some (answer, next)) :
    world.logs.Takes next.logs call ∧ next.endpoints = world.endpoints := by
  cases choice with
  | served =>
      cases call with
      | saveEvent event hash =>
          obtain rfl : (world.saveEvent event hash).2 = next :=
            congrArg Prod.snd (Option.some.inj replied)
          rw [WebhookWorld.saveEvent]
          split
          · split <;> exact ⟨.inl rfl, rfl⟩
          · exact ⟨.inl rfl, rfl⟩
      | saveDelivery delivery =>
          cases replied
          exact ⟨world.logs.takes_of_save delivery, rfl⟩
      | _ => cases replied <;> exact ⟨.inl rfl, rfl⟩
  | instant value =>
      cases call with
      | now =>
          cases replied
          exact ⟨.inl rfl, rfl⟩
      | _ => cases replied
  | responded status =>
      cases call with
      | post request =>
          cases replied
          exact ⟨.inl rfl, rfl⟩
      | _ => cases replied

/-- A call that fails may have done what it does. -/
theorem takes_of_fallible {choice : (webhookServices kind).Choice}
    (replied : (webhookServices kind).reply call choice world = some (answer, next)) :
    world.logs.Takes next.logs call ∧ next.endpoints = world.endpoints := by
  rcases Services.reply_of_fallible replied with
    ⟨done, performed⟩ | ⟨_, _, rfl | ⟨done, reply, performed⟩⟩
  · exact WebhookWorld.takes_of_reply performed
  · exact ⟨.inl rfl, rfl⟩
  · exact WebhookWorld.takes_of_reply performed

theorem WebhookLogs.Takes.log {logs after : WebhookLogs} (takes : logs.Takes after call)
    (eventId endpointId : JsString) :
    after.log eventId endpointId = logs.log eventId endpointId ∨
      ∃ delivery, call = .saveDelivery delivery ∧ delivery.eventId = eventId ∧
        delivery.endpointId = endpointId ∧ delivery.id ∉ logs.rows.map WebhookDelivery.id ∧
        after.log eventId endpointId = logs.log eventId endpointId ++ [delivery] := by
  rcases takes with rfl | ⟨delivery, asked, free, rows⟩
  · exact .inl rfl
  · rw [WebhookLogs.log, rows, List.filter_append]
    cases own : WebhookLogs.isFor eventId endpointId delivery with
    | true =>
        rw [List.filter_cons_of_pos own, List.filter_nil]
        rw [WebhookLogs.isFor, Bool.and_eq_true, decide_eq_true_eq, decide_eq_true_eq] at own
        exact .inr ⟨delivery, asked, own.1, own.2, free, rfl⟩
    | false =>
        rw [List.filter_cons_of_neg (Bool.eq_false_iff.mp own), List.filter_nil, List.append_nil]
        exact .inl rfl

/-- What calls have been answered, seen from the store. -/
def WebhookWorld.BearsOut (world : WebhookWorld) : Exchange webhookInterface → Prop
  | ⟨.getEvent id, .ok (some event)⟩ => event.id = id
  | ⟨.endpointsFor _, .ok endpoints⟩ => endpoints ⊆ world.endpoints
  | ⟨.deliveries eventId endpointId, .ok history⟩ => ∃ earlier later,
      world.logs.log eventId endpointId = earlier ++ later ∧ history.Perm earlier
  | _ => True

theorem WebhookWorld.BearsOut.of_reply {choice : WebhookChoice}
    (replied : WebhookWorld.reply kind call choice world = some (answer, next)) :
    next.BearsOut ⟨call, answer⟩ := by
  cases choice with
  | served =>
      cases call with
      | getEvent id =>
          cases replied
          cases found : world.find id with
          | none => trivial
          | some stored =>
              have holds := List.find?_some found
              exact (of_decide_eq_true holds : stored.event.id = id)
      | endpointsFor type =>
          cases replied
          exact List.filter_subset_self _
      | deliveries eventId endpointId =>
          cases replied
          refine ⟨world.logs.log eventId endpointId, [], (List.append_nil _).symm, ?_⟩
          cases kind with
          | inMemory => exact .refl _
          | postgres => exact List.mergeSort_perm _ _
      | saveEvent event hash => trivial
      | saveDelivery delivery => trivial
      | post request => cases replied
      | now => cases replied
  | instant value =>
      cases call with
      | now => trivial
      | _ => cases replied
  | responded status =>
      cases call with
      | post request => trivial
      | _ => cases replied

theorem WebhookWorld.BearsOut.of_error (error : Thrown) : world.BearsOut ⟨call, .error error⟩ := by
  cases call <;> trivial

/-- Logs only grow, and endpoints stay. -/
theorem WebhookWorld.BearsOut.stable {exchange : Exchange webhookInterface}
    (bears : world.BearsOut exchange) (takes : world.logs.Takes next.logs call)
    (endpoints : next.endpoints = world.endpoints) : next.BearsOut exchange := by
  obtain ⟨asked, answered⟩ := exchange
  cases answered with
  | error error => exact .of_error error
  | ok value =>
      cases asked with
      | getEvent id =>
          cases value with
          | none => trivial
          | some event => exact bears
      | endpointsFor type =>
          change value ⊆ next.endpoints
          rw [endpoints]
          exact bears
      | deliveries eventId endpointId =>
          obtain ⟨earlier, later, split, listed⟩ := bears
          rcases takes.log eventId endpointId with same | ⟨delivery, _, _, _, _, grown⟩
          · exact ⟨earlier, later, same.trans split, listed⟩
          · refine ⟨earlier, later ++ [delivery], ?_, listed⟩
            rw [grown, split, List.append_assoc]
      | _ => trivial

end Replies

/-! ## Runs -/

/-- Retries of the endpoint are started with its limit. -/
def RetriesWithin (kind : WebhookStoreKind) (Worker : Type) (endpointId : JsString)
    (maxAttempts : JsNumber) :
    View (webhookServices kind) Worker WebhookCommand →
      Event webhookInterface Worker WebhookCommand → Prop
  | _, .started _ (.retry _ endpoint) => endpoint.id = endpointId →
      endpoint.maxAttempts = maxAttempts
  | _, _ => True

section Runs

variable {platform : WebhookPlatform} {kind : WebhookStoreKind} {Worker : Type}
  [DecidableEq Worker] {endpointId : JsString} {maxAttempts : JsNumber}
  {endpoints : List WebhookEndpoint} {worker : Worker} {command : WebhookCommand}
  {exchanges : List (Exchange webhookInterface)}
  {config : Config (webhookServices kind) Worker WebhookCommand WebhookOutcome}
  (reached : Reachable (WebhookCommand.run platform)
    (RetriesWithin kind Worker endpointId maxAttempts) ⟨WebhookWorld.fresh endpoints, []⟩ config)
include reached

theorem webhook_bearsOut
    (known : transcriptOf (WebhookCommand.run platform) worker config.history =
      some (command, exchanges)) :
    ∀ exchange ∈ exchanges, WebhookWorld.BearsOut config.state exchange := by
  refine reached.exchanges_hold (fun _ (world : WebhookWorld) exchange => world.BearsOut exchange)
    rfl ?_ ?_ worker command exchanges known
  · intro config worker command exchanges call choice answer next _ _ _ _ replied
    rcases Services.reply_of_fallible replied with ⟨done, performed⟩ | ⟨error, rfl, _⟩
    · exact .of_reply performed
    · exact .of_error error
  · intro command call choice world answer next exchange replied bears
    obtain ⟨takes, same⟩ := takes_of_fallible replied
    exact bears.stable takes same

/-- Nobody registers an endpoint. -/
theorem endpoints_stay : WebhookWorld.endpoints config.state = endpoints := by
  refine reached.invariant (fun view => WebhookWorld.endpoints view.state = endpoints) rfl rfl ?_
  intro config event state _ step _ same
  cases step with
  | answered _ _ _ replied => exact (takes_of_fallible replied).2.trans same
  | _ => exact same

/-- Every call posts to the endpoint under its limit. -/
theorem offered_limit
    (registered : ∀ endpoint ∈ endpoints, endpoint.id = endpointId →
      endpoint.maxAttempts = maxAttempts)
    (known : transcriptOf (WebhookCommand.run platform) worker config.history =
      some (command, exchanges))
    {endpoint : WebhookEndpoint} (offered : Offered command exchanges endpoint)
    (named : endpoint.id = endpointId) : endpoint.maxAttempts = maxAttempts := by
  rcases offered with ⟨eventId, rfl⟩ | ⟨type, listed, answered, member⟩
  · obtain ⟨view, admitted⟩ := reached.admitted_entry rfl known
    exact admitted named
  · have among := webhook_bearsOut reached known _ answered member
    rw [endpoints_stay reached] at among
    exact registered endpoint among named

/-- What a call saves comes next in its log, which is open. -/
theorem saved_next {delivery : WebhookDelivery} {eventId : JsString}
    (numbered : Numbered maxAttempts eventId endpointId
      (WebhookLogs.log (WebhookWorld.logs config.state) eventId endpointId))
    (known : transcriptOf (WebhookCommand.run platform) worker config.history =
      some (command, exchanges))
    {endpoint : WebhookEndpoint} (attempted : Attempted platform exchanges endpoint delivery)
    (event : delivery.eventId = eventId) (own : delivery.endpointId = endpointId)
    (free : delivery.id ∉ (WebhookWorld.logs config.state).rows.map WebhookDelivery.id) :
    (∀ other ∈ WebhookLogs.log (WebhookWorld.logs config.state) eventId endpointId,
      other.terminal = false) ∧
      delivery.attempt =
        (WebhookLogs.log (WebhookWorld.logs config.state) eventId endpointId).length + 1 := by
  have bears := webhook_bearsOut reached known
  obtain ⟨asked, history, answered, names, unfinished, counted⟩ := attempted.readOpen
  have same : asked = eventId := by
    rcases names with same | ⟨found, listed, named⟩
    · exact same.trans event
    · have is_asked : found.id = asked := bears _ listed
      exact is_asked.symm.trans (named.trans event)
  obtain ⟨earlier, later, split, listed⟩ := bears _ answered
  rw [same, ← attempted.endpointId, own] at split
  rw [split] at numbered ⊢
  cases later with
  | nil =>
      rw [List.append_nil]
      refine ⟨fun other member => ?_, by rw [counted, listed.length_eq]⟩
      exact Bool.eq_false_iff.mpr
        (List.any_eq_false.mp unfinished other (listed.mem_iff.mpr member))
  | cons next more =>
      have attempt := numbered.attempt_eq rfl
      have member : next ∈ earlier ++ next :: more :=
        List.mem_append_right _ List.mem_cons_self
      have id := numbered.id next member
      refine absurd (List.mem_map.mpr ⟨next, ?_, ?_⟩) free
      · rw [← split] at member
        exact List.mem_of_mem_filter member
      · rw [id, attempted.id, event, own, attempt, counted, listed.length_eq]

/-- The log of an event and an endpoint is numbered. -/
theorem log_numbered
    (registered : ∀ endpoint ∈ endpoints, endpoint.id = endpointId →
      endpoint.maxAttempts = maxAttempts) (eventId : JsString) :
    Numbered maxAttempts eventId endpointId
      (WebhookLogs.log (WebhookWorld.logs config.state) eventId endpointId) := by
  refine reached.invariant (fun view => Numbered maxAttempts eventId endpointId
    (WebhookLogs.log (WebhookWorld.logs view.state) eventId endpointId)) rfl .nil ?_
  intro config event state reached step _ numbered
  cases step with
  | @answered worker call answer here choice state _ known allowed replied =>
      obtain ⟨resume, reaches⟩ := allowed
      have asks := (here.1.run_asks).admits_of_reaches reaches
      rcases (takes_of_fallible replied).1.log eventId endpointId with
        same | ⟨delivery, rfl, event, own, free, grown⟩
      · rw [Protocol.after_state, same]
        exact numbered
      · obtain ⟨endpoint, offered, attempted⟩ := asks
        obtain ⟨unfinished, attempt⟩ := saved_next reached numbered known attempted event own free
        have limit := offered_limit reached registered known offered
          (attempted.endpointId.symm.trans own)
        rw [Protocol.after_state, grown]
        refine numbered.concat unfinished attempt ?_ ?_
        · rw [attempted.id, event, own]
        · rw [attempted.status, limit]
  | _ => exact numbered

/-- What is logged of an attempt is its post and what that was answered. -/
theorem log_posted (eventId : JsString) :
    ∀ delivery ∈ WebhookLogs.log (WebhookWorld.logs config.state) eventId endpointId,
      ∃ worker request response, .answered worker (.post request) response ∈ config.history ∧
        Posted platform delivery request response := by
  refine reached.invariant (fun view =>
    ∀ delivery ∈ WebhookLogs.log (WebhookWorld.logs view.state) eventId endpointId,
      ∃ worker request response, .answered worker (.post request) response ∈ view.history ∧
        Posted platform delivery request response) rfl ?_ ?_
  · exact fun delivery member => (List.not_mem_nil member).elim
  · intro config event state reached step _ posted
    have kept : ∀ delivery ∈ WebhookLogs.log (WebhookWorld.logs config.state) eventId endpointId,
        ∃ worker request response,
          .answered worker (.post request) response ∈ event :: config.history ∧
            Posted platform delivery request response := by
      intro delivery member
      obtain ⟨worker, request, response, happened, own⟩ := posted delivery member
      exact ⟨worker, request, response, List.mem_cons_of_mem _ happened, own⟩
    cases step with
    | @answered worker call answer here choice state _ known allowed replied =>
        obtain ⟨resume, reaches⟩ := allowed
        have asks := (here.1.run_asks).admits_of_reaches reaches
        intro delivery member
        rw [Protocol.after_state] at member
        rcases (takes_of_fallible replied).1.log eventId endpointId with
          same | ⟨saved, rfl, _, _, _, grown⟩
        · rw [same] at member
          exact kept delivery member
        · rw [grown] at member
          rcases List.mem_append.mp member with before | added
          · exact kept delivery before
          · obtain rfl := List.mem_singleton.mp added
            obtain ⟨endpoint, _, attempted⟩ := asks
            obtain ⟨request, response, answered, own⟩ := attempted.response
            have happened := answered_of_transcriptOf known answered
            exact ⟨worker, request, response, List.mem_cons_of_mem _ happened, own⟩
    | _ => exact kept

/-- **Delivery logs.** In every run of calls that know one limit for an endpoint, the log of an
event and the endpoint is numbered from one on without gap or repetition, no attempt is logged once
the limit is reached, a terminal delivery is the last one, and a delivery is a dead letter exactly
where its own post, whose answer it keeps, has failed and its number has reached the limit. -/
theorem delivery_log_numbered
    (registered : ∀ endpoint ∈ endpoints, endpoint.id = endpointId →
      endpoint.maxAttempts = maxAttempts)
    (positive : (JsNumber.ofNat 1).le maxAttempts = true) (eventId : JsString)
    {log : List WebhookDelivery}
    (logged : WebhookLogs.log (WebhookWorld.logs config.state) eventId endpointId = log) :
    log.map WebhookDelivery.attempt = List.range' 1 log.length ∧
      (∀ delivery ∈ log, (JsNumber.ofNat (delivery.attempt - 1)).lt maxAttempts = true) ∧
      (∀ limit, maxAttempts = .ofNat limit → log.length ≤ limit) ∧
      (∀ earlier delivery later, log = earlier ++ delivery :: later →
        delivery.terminal = true → later = []) ∧
      ∀ delivery ∈ log,
        (delivery.status = .deadLetter ↔ delivery.errorCode.isSome = true ∧
          maxAttempts.le (.ofNat delivery.attempt) = true) ∧
        ∃ worker request response, .answered worker (.post request) response ∈ config.history ∧
          Posted platform delivery request response := by
  have numbered := log_numbered reached registered eventId
  have posted := log_posted reached eventId
  rw [logged] at numbered posted
  refine ⟨numbered.attempts, fun delivery => numbered.attempt_lt positive, ?_, numbered.last, ?_⟩
  · rintro limit rfl
    rw [JsNumber.le_ofNat, decide_eq_true_eq] at positive
    exact numbered.length_le positive
  · intro delivery member
    refine ⟨?_, posted delivery member⟩
    rw [numbered.status delivery member, deliveryStatus]
    cases delivery.errorCode with
    | none => simp
    | some text =>
        cases maxAttempts.le (.ofNat delivery.attempt) <;> simp

end Runs

/-! ## Two publishers -/

namespace TwoPublishers

/-- A platform whose codes are the secret and the message. -/
def signingPlatform : WebhookPlatform :=
  { isoPlatform with hmacSha256Hex := fun secret message => secret ++ message }

def event : WebhookEvent where
  id := js "IW:WEBHOOK_EVENT:one"
  type := .bridgeCompleted
  subjectId := js "IW:BRIDGE:one"
  data := [(js "amount", .string (js "10"))]
  occurredAt := js "2026-08-13T12:00:00.000Z"

def endpoint : WebhookEndpoint where
  id := js "IW:WEBHOOK:endpoint"
  url := js "https://example.test/hook"
  secret := js "secret"
  events := [.bridgeCompleted]
  enabled := true
  maxAttempts := .ofNat 2
  createdAt := js "2026-08-13T12:00:00.000Z"

abbrev Schedule := List (Action (webhookServices .postgres) Bool WebhookCommand)

def ask (worker : Bool) (choice : WebhookChoice) : Schedule :=
  [.issue worker, .answer worker (.inl choice)]

/-- Publish the event, up to the read of the log. -/
def reads (worker : Bool) : Schedule :=
  [.start worker (.publish event)] ++ ask worker .served ++ ask worker .served ++
    ask worker .served

/-- Post with this result, and save the delivery with a time for the next attempt. -/
def posts (worker : Bool) (status : Nat) : Schedule :=
  ask worker (.instant 1786622460000) ++ ask worker (.responded (.ofNat status)) ++
    ask worker (.instant 1786622461000) ++ ask worker (.instant 1786622461000) ++
    ask worker .served

/-- Two calls publish the event at once, and it is retried. -/
def schedule : Schedule :=
  reads false ++ reads true ++ posts false 500 ++ posts true 503 ++
    [.start true (.retry event.id endpoint)] ++ ask true .served ++ ask true .served ++
    ask true (.instant 1786622520000) ++ ask true (.responded (.ofNat 500)) ++
    ask true (.instant 1786622521000) ++ ask true .served

instance (view : View (webhookServices .postgres) Bool WebhookCommand) :
    (event : Event webhookInterface Bool WebhookCommand) →
      Decidable (RetriesWithin .postgres Bool endpoint.id endpoint.maxAttempts view event)
  | .started _ (.retry _ given) => inferInstanceAs (Decidable (given.id = endpoint.id →
      given.maxAttempts = endpoint.maxAttempts))
  | .started _ (.publish _) | .issued _ _ | .answered _ _ _ | .crashed _ => .isTrue trivial

/-- One of the overlapping attempts is logged, and the retry is the last one. -/
theorem second_attempt_dead : ∃ config : Config (webhookServices .postgres) Bool WebhookCommand
    WebhookOutcome, (WebhookLogs.log (WebhookWorld.logs config.state) event.id endpoint.id).map
      (fun delivery => (delivery.attempt, delivery.status)) =
        [(1, .retryScheduled), (2, .deadLetter)] ∧
    (WebhookLogs.log (WebhookWorld.logs config.state) event.id endpoint.id).map
      WebhookDelivery.attempt = List.range' 1
        (WebhookLogs.log (WebhookWorld.logs config.state) event.id endpoint.id).length := by
  obtain ⟨config, reached, checked⟩ := Reachable.exists_of_run
    (WebhookCommand.run signingPlatform)
    (RetriesWithin .postgres Bool endpoint.id endpoint.maxAttempts)
    ⟨WebhookWorld.fresh [endpoint], []⟩ schedule
    (fun config : Config (webhookServices .postgres) Bool WebhookCommand WebhookOutcome =>
      (WebhookLogs.log (WebhookWorld.logs config.state) event.id endpoint.id).map
        (fun delivery => (delivery.attempt, delivery.status)) =
          [(1, .retryScheduled), (2, .deadLetter)]) (by decide +kernel)
  have registered : ∀ given ∈ [endpoint], given.id = endpoint.id →
      given.maxAttempts = endpoint.maxAttempts := by
    intro given member _
    rw [List.mem_singleton.mp member]
  exact ⟨config, of_decide_eq_true checked,
    (delivery_log_numbered reached registered (by decide) event.id rfl).1⟩

end TwoPublishers
end InterWeave
