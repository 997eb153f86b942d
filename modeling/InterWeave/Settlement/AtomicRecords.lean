import InterWeave.Async.Transcript
import InterWeave.Core.Fingerprints
import InterWeave.Settlement.NativeCommits

/-! # The records of atomic settlements

A settlement is stored by the first call that claims it, and written once more, by the first
call that finishes it. Several workers may hold the claim at once; their results may come in
any order and disagree. What the executors answer is left open here, and every call may fail
before or after it has done what it does.
-/

namespace InterWeave

open Async

variable {platform : Platform}

/-! ## Fingerprints of requests -/

theorem SameNetworkSettlementLeg.eq_of_sorted {first second : SameNetworkSettlementLeg}
    (same : first.json.sorted = second.json.sorted) : first = second := by
  have values := JsValue.values_eq_of_names same
    [js "id", js "assetId", js "sender", js "receiver", js "amount"]
    (by decide +kernel) rfl rfl
  cases first
  cases second
  simp only [List.map_cons, List.map_nil, JsValue.sorted, List.cons.injEq,
    JsValue.string.injEq, and_true] at values
  simp only [SameNetworkSettlementLeg.mk.injEq]
  exact values

theorem SameNetworkSettlementRequest.eq_of_sorted {first second : SameNetworkSettlementRequest}
    (same : first.json.sorted = second.json.sorted) : first = second := by
  have values := JsValue.values_eq_of_names same
    [js "id", js "idempotencyKey", js "networkId", js "networkType", js "legs", js "expiresAt",
      js "createdAt"] (by decide +kernel) rfl rfl
  obtain ⟨id, key, network, type, ⟨delivery, payment⟩, expires, created⟩ := first
  obtain ⟨id', key', network', type', ⟨delivery', payment'⟩, expires', created'⟩ := second
  simp only [List.map_cons, List.map_nil, JsValue.sorted, JsValue.sortedItems, List.cons.injEq,
    JsValue.string.injEq, JsValue.array.injEq, and_true] at values
  obtain ⟨rfl, rfl, rfl, rfl, ⟨delivered, paid⟩, rfl, rfl⟩ := values
  rw [SameNetworkSettlementLeg.eq_of_sorted delivered, SameNetworkSettlementLeg.eq_of_sorted paid]

theorem SameNetworkSettlementLeg.json_over (leg : SameNetworkSettlementLeg) :
    leg.json.Over fun _ => False := by
  simp [json, JsValue.Over, JsValue.propertiesOver]

theorem SameNetworkSettlementRequest.json_over (request : SameNetworkSettlementRequest) :
    request.json.Over fun _ => False := by
  simp [json, JsValue.Over, JsValue.propertiesOver, JsValue.itemsOver,
    SameNetworkSettlementLeg.json_over]

/-- Requests with one fingerprint are the same, where the hash has no collision. -/
theorem SameNetworkSettlementRequest.eq_of_fingerprint {values : JsValue → Prop}
    (free : platform.CollisionFree values) {first second : SameNetworkSettlementRequest}
    {hash : JsString} (chosen : values first.json) (chooses : values second.json)
    (fingerprint : requestFingerprint platform first.json = .ok hash)
    (other : requestFingerprint platform second.json = .ok hash) : first = second :=
  eq_of_sorted (sorted_eq_of_requestFingerprint platform.formats_none free chosen chooses
    first.json_over second.json_over fingerprint other)

/-! ## What calls do to the records -/

/-- The store, and executors that may answer anything. -/
def AtomicWorld.anyReply (call : AtomicCall) (choice : AtomicChoice) (world : AtomicWorld) :
    Option (atomicInterface.Answer call × AtomicWorld) :=
  match call, choice with
  | .executeAtomically executor request, .native commits answer =>
      some (answer, if commits then world.commit executor.networkId request.id else world)
  | call, choice => AtomicWorld.reply call choice world

/-- Executors that may answer anything, and a store, a network and a clock that may fail. -/
abbrev openAtomicServices : Services atomicInterface :=
  Services.fallible ⟨AtomicWorld, AtomicChoice, AtomicWorld.anyReply⟩ fun _ => true

/-- The record of a claim. -/
def SameNetworkSettlementRequest.claimed (request : SameNetworkSettlementRequest)
    (requestHash recordedAt : JsString) : SameNetworkSettlementRecord :=
  { request, requestHash, status := .inProgress, result := none, recordedAt }

/-- The record with a result. -/
def SameNetworkSettlementRecord.finished (record : SameNetworkSettlementRecord)
    (status : SameNetworkSettlementStatus) (result : NativeAtomicSettlementResult)
    (recordedAt : JsString) : SameNetworkSettlementRecord :=
  { record with status, result := some result, recordedAt }

/-- What a call may do to the world. -/
inductive AtomicWorld.Stores (world : AtomicWorld) : AtomicCall → AtomicWorld → Prop where
  | nothing {call : AtomicCall} : Stores world call world
  | claimed {request : SameNetworkSettlementRequest} {requestHash recordedAt : JsString} :
      world.settlements request.id = none →
      Stores world (.claim request requestHash recordedAt)
        (world.put request.id (request.claimed requestHash recordedAt))
  | committed {executor : NativeAtomicSettlementExecutor}
      {request : SameNetworkSettlementRequest} :
      Stores world (.executeAtomically executor request)
        (world.commit executor.networkId request.id)
  | finished {id requestHash : JsString} {status : SameNetworkSettlementStatus}
      {result : NativeAtomicSettlementResult} {recordedAt : JsString}
      {record : SameNetworkSettlementRecord} :
      world.settlements id = some record → record.requestHash = requestHash →
      record.status = .inProgress →
      Stores world (.finish id requestHash status result recordedAt)
        (world.put id (record.finished status result recordedAt))

section Replies

variable {world next : AtomicWorld} {call : AtomicCall} {answer : atomicInterface.Answer call}

theorem stores_of_anyReply {choice : AtomicChoice}
    (replied : AtomicWorld.anyReply call choice world = some (answer, next)) :
    world.Stores call next := by
  cases call with
  | now =>
      cases choice <;> cases replied
      exact .nothing
  | claim request requestHash recordedAt =>
      cases choice <;> cases replied
      unfold AtomicWorld.claim
      cases found : world.settlements request.id with
      | none => exact .claimed found
      | some existing => exact .nothing
  | executeAtomically executor request =>
      cases choice with
      | native commits result =>
          cases replied
          cases commits with
          | true => exact .committed
          | false => exact .nothing
      | _ => cases replied
  | finish id requestHash status result recordedAt =>
      cases choice <;> cases replied
      unfold AtomicWorld.finish
      cases found : world.settlements id with
      | none => exact .nothing
      | some existing =>
          dsimp only
          split
          · exact .nothing
          · rename_i matched
            split
            · exact .nothing
            · rename_i progress
              exact .finished found (not_not.mp matched) (not_not.mp progress)

theorem stores_of_open {choice : openAtomicServices.Choice}
    (replied : openAtomicServices.reply call choice world = some (answer, next)) :
    world.Stores call next := by
  rcases Services.reply_of_fallible replied with
    ⟨done, performed⟩ | ⟨_, _, same | ⟨done, reply, performed⟩⟩
  · exact stores_of_anyReply performed
  · rw [same]
    exact .nothing
  · exact stores_of_anyReply performed

/-- A claim that is answered returns the stored record, and tells whether it has its hash. -/
theorem claim_of_open {choice : openAtomicServices.Choice} {request : SameNetworkSettlementRequest}
    {requestHash recordedAt : JsString} {claim : SettlementClaim}
    (replied : openAtomicServices.reply (.claim request requestHash recordedAt) choice world =
      some (.ok claim, next)) :
    next.settlements request.id = some claim.record ∧
      (claim.outcome = .conflict ↔ claim.record.requestHash ≠ requestHash) := by
  rcases Services.reply_of_fallible replied with ⟨done, performed⟩ | ⟨_, failed, _⟩
  · cases done <;> cases performed
    unfold AtomicWorld.claim
    cases found : world.settlements request.id with
    | none =>
        exact ⟨Function.update_self .., by simp⟩
    | some existing =>
        refine ⟨found, ?_⟩
        by_cases same : existing.requestHash = requestHash
        · simp [same]
        · simp [same]
  · cases failed

end Replies

/-! ## What a call does -/

/-- The claim that an exchange returned. -/
def claimOf : Exchange atomicInterface → Option SettlementClaim
  | ⟨.claim _ _ _, .ok claim⟩ => some claim
  | _ => none

/-- What `execute` throws where the identifier was used with another content. -/
def claimedWithOtherContent (id : JsString) : Thrown :=
  .registryError .conflict (js "settlement ID was reused with different content: " ++ id)

/-- The executor is the configured one of the request's network. -/
def SameNetworkSettlementService.Executes (service : SameNetworkSettlementService)
    (executor : NativeAtomicSettlementExecutor) (request : SameNetworkSettlementRequest) : Prop :=
  service.executor request.networkId = some executor ∧ executor.networkType = request.networkType

/-- The call has claimed a settlement in progress. -/
def InProgress (exchanges : List (Exchange atomicInterface)) : Prop :=
  ∃ claim, exchanges.filterMap claimOf = [claim] ∧ claim.outcome ≠ .conflict ∧
    claim.record.status = .inProgress

/-- What a call of `execute` may ask after its exchanges. -/
def AtomicAsks (platform : Platform) (service : SameNetworkSettlementService)
    (request : SameNetworkSettlementRequest) (exchanges : List (Exchange atomicInterface)) :
    AtomicCall → Prop
  | .now => True
  | .claim asked hash _ => asked = request ∧ requestFingerprint platform request.json = .ok hash
  | .executeAtomically executor asked =>
      asked = request ∧ service.Executes executor request ∧ InProgress exchanges
  | .finish id hash status result _ => id = request.id ∧
      requestFingerprint platform request.json = .ok hash ∧ InProgress exchanges ∧
      status ≠ .inProgress ∧ (status = .completed → result.status = .completed ∧
        assertResult platform result = .ok () ∧ ∃ executor, service.Executes executor request ∧
          (⟨.executeAtomically executor request, .ok result⟩ : Exchange atomicInterface) ∈
            exchanges)

/-- How a call ends: with an error before its claim is answered, or as the claim says. -/
def AtomicEnds (request : SameNetworkSettlementRequest)
    (exchanges : List (Exchange atomicInterface))
    (outcome : Except Thrown SameNetworkSettlementRecord) : Prop :=
  (exchanges.filterMap claimOf = [] ∧ ∃ error, outcome = .error error) ∨
    ∃ claim, exchanges.filterMap claimOf = [claim] ∧
      (claim.outcome = .conflict → outcome = .error (claimedWithOtherContent request.id)) ∧
      (claim.outcome ≠ .conflict → claim.record.status ≠ .inProgress → outcome = .ok claim.record)

theorem NativeAtomicSettlementResult.status_ne_inProgress (result : NativeAtomicSettlementResult) :
    result.status ≠ .inProgress := by
  intro same
  cases result <;> cases same

namespace SameNetworkSettlementService

variable {service : SameNetworkSettlementService} {request : SameNetworkSettlementRequest}

/-- What follows a claim of a settlement in progress may end in any way. -/
theorem ends_of_inProgress {claim : SettlementClaim} {exchanges : List (Exchange atomicInterface)}
    {outcome : Except Thrown SameNetworkSettlementRecord}
    (claims : exchanges.filterMap claimOf = [claim]) (owned : claim.outcome ≠ .conflict)
    (progress : claim.record.status = .inProgress) : AtomicEnds request exchanges outcome :=
  .inr ⟨claim, claims, fun conflict => absurd conflict owned,
    fun _ settled => absurd progress settled⟩

theorem settle_asks {executor : NativeAtomicSettlementExecutor} {hash : JsString}
    (executes : service.Executes executor request)
    (fingerprint : requestFingerprint platform request.json = .ok hash) :
    (settle platform executor request hash).Follows
      (transcriptProtocol (AtomicAsks platform service request)) (AtomicEnds request) [] := by
  refine .call_seq trivial (fun claimedAt _ => ?_) fun error _ => .inl ⟨rfl, error, rfl⟩
  refine .call_seq ⟨rfl, fingerprint⟩ (fun claim _ => ?_) fun error _ => .inl ⟨rfl, error, rfl⟩
  by_cases conflict : claim.outcome = .conflict
  · rw [if_pos conflict]
    exact .inr ⟨claim, rfl, fun _ => rfl, fun owned => absurd conflict owned⟩
  rw [if_neg conflict]
  by_cases progress : claim.record.status = .inProgress
  · rw [if_neg (not_not.mpr progress)]
    refine .call_seq trivial (fun now _ => ?_) fun _ _ => ends_of_inProgress rfl conflict progress
    by_cases expired : numberLe (platform.dateParse request.expiresAt) (some now)
    · rw [if_pos expired]
      refine .call_seq trivial (fun recordedAt _ => ?_) fun _ _ =>
        ends_of_inProgress rfl conflict progress
      refine ⟨⟨rfl, fingerprint, ⟨claim, rfl, conflict, progress⟩, by decide, ?_⟩, fun _ _ =>
        ends_of_inProgress rfl conflict progress⟩
      exact fun completed => by cases completed
    · rw [if_neg expired]
      refine .attempt_seq (.asked ⟨rfl, executes, claim, rfl, conflict, progress⟩)
        fun there outcome same => ?_
      subst same
      refine .ofExcept_seq (fun _ asserted => ?_) fun _ _ => ends_of_inProgress rfl conflict progress
      refine .call_seq trivial (fun recordedAt _ => ?_) fun _ _ =>
        ends_of_inProgress rfl conflict progress
      refine ⟨⟨rfl, fingerprint, ⟨claim, rfl, conflict, progress⟩, ?_, fun completed => ?_⟩,
        fun _ _ => ends_of_inProgress rfl conflict progress⟩
      · exact NativeAtomicSettlementResult.status_ne_inProgress _
      · cases outcome with
        | error error => cases completed
        | ok result =>
            refine ⟨completed, asserted, executor, executes, ?_⟩
            exact List.mem_append_left _ (List.mem_append_right _ List.mem_cons_self)
  · rw [if_pos progress]
    exact .inr ⟨claim, rfl, fun other => absurd other conflict, fun _ _ => rfl⟩

/-- **What a call of `execute` asks, and how it ends.** -/
theorem execute_asks (platform : Platform) (service : SameNetworkSettlementService)
    (request : SameNetworkSettlementRequest) :
    (service.execute platform request).Follows
      (transcriptProtocol (AtomicAsks platform service request)) (AtomicEnds request) [] := by
  refine .ofExcept_seq (fun _ _ => ?_) fun error _ => .inl ⟨rfl, error, rfl⟩
  cases found : service.executor request.networkId with
  | none => exact .inl ⟨rfl, _, rfl⟩
  | some executor =>
      dsimp only
      split
      · exact .inl ⟨rfl, _, rfl⟩
      · rename_i typed
        exact .ofExcept_seq (fun hash fingerprint =>
          settle_asks ⟨found, not_not.mp typed⟩ fingerprint) fun error _ => .inl ⟨rfl, error, rfl⟩

end SameNetworkSettlementService

/-! ## How records go on -/

/-- A later record of a settlement has the request and the hash of an earlier one, and it is the
earlier one if that has a result. -/
structure SameNetworkSettlementRecord.Continues (later earlier : SameNetworkSettlementRecord) :
    Prop where
  request : later.request = earlier.request
  requestHash : later.requestHash = earlier.requestHash
  settled : earlier.status ≠ .inProgress → later = earlier

theorem SameNetworkSettlementRecord.Continues.refl (record : SameNetworkSettlementRecord) :
    record.Continues record :=
  ⟨rfl, rfl, fun _ => rfl⟩

theorem SameNetworkSettlementRecord.Continues.trans
    {latest later earlier : SameNetworkSettlementRecord} (second : latest.Continues later)
    (first : later.Continues earlier) : latest.Continues earlier where
  request := second.request.trans first.request
  requestHash := second.requestHash.trans first.requestHash
  settled done := by
    have same := first.settled done
    exact (second.settled (same ▸ done)).trans same

/-- Whatever a call stores, a record goes on. -/
theorem AtomicWorld.Stores.continues {world next : AtomicWorld} {call : AtomicCall}
    (stores : world.Stores call next) {id : JsString} {record : SameNetworkSettlementRecord}
    (stored : world.settlements id = some record) :
    ∃ later, next.settlements id = some later ∧ later.Continues record := by
  cases stores with
  | nothing => exact ⟨record, stored, .refl record⟩
  | committed => exact ⟨record, stored, .refl record⟩
  | @claimed request requestHash recordedAt absent =>
      have other : id ≠ request.id := by
        rintro rfl
        cases absent.symm.trans stored
      exact ⟨record, (Function.update_of_ne other ..).trans stored, .refl record⟩
  | @finished finishes requestHash status result recordedAt existing held matched progress =>
      by_cases own : id = finishes
      · subst own
        cases held.symm.trans stored
        exact ⟨_, Function.update_self .., rfl, rfl, fun settled => absurd progress settled⟩
      · exact ⟨record, (Function.update_of_ne own ..).trans stored, .refl record⟩

/-! ## Runs -/

/-- The service of a worker, and the request that its `execute` is called with. -/
abbrev AtomicEntry : Type := SameNetworkSettlementService × SameNetworkSettlementRequest

abbrev atomicProgram (platform : Platform) (entry : AtomicEntry) :
    AtomicProgram SameNetworkSettlementRecord :=
  entry.1.execute platform entry.2

/-- No settlement is stored, nothing is committed and no worker was started. -/
def noSettlements (Worker : Type) : View openAtomicServices Worker AtomicEntry :=
  ⟨⟨fun _ => none, fun _ _ => false⟩, []⟩

/-- The requests that `execute` was called with. -/
def Executed {Worker : Type} (history : List (Event atomicInterface Worker AtomicEntry))
    (value : JsValue) : Prop :=
  ∃ worker entry, .started worker entry ∈ history ∧ value = entry.2.json

/-- The result of a completed record, an executor returned for a request with its hash. -/
def SameNetworkSettlementRecord.Returned {Worker : Type} (platform : Platform)
    (history : List (Event atomicInterface Worker AtomicEntry))
    (record : SameNetworkSettlementRecord) : Prop :=
  ∃ (worker : Worker) (entry : AtomicEntry) (executor : NativeAtomicSettlementExecutor)
      (result : NativeAtomicSettlementResult),
    record.result = some result ∧ result.status = .completed ∧
    assertResult platform result = .ok () ∧ entry.1.Executes executor entry.2 ∧
    Executed history entry.2.json ∧
    requestFingerprint platform entry.2.json = .ok record.requestHash ∧
    .answered worker (.executeAtomically executor entry.2) (.ok result) ∈ history

/-- What is known of a stored record. -/
structure SameNetworkSettlementRecord.Known {Worker : Type} (platform : Platform)
    (history : List (Event atomicInterface Worker AtomicEntry)) (id : JsString)
    (record : SameNetworkSettlementRecord) : Prop where
  named : record.request.id = id
  executed : Executed history record.request.json
  fingerprint : requestFingerprint platform record.request.json = .ok record.requestHash
  returned : record.status = .completed → record.Returned platform history

section Runs

variable {Worker : Type} [DecidableEq Worker]
  {config : Config openAtomicServices Worker AtomicEntry SameNetworkSettlementRecord}
  {worker : Worker} {entry : AtomicEntry} {exchanges : List (Exchange atomicInterface)}

omit [DecidableEq Worker] in
/-- What is known stays known. -/
theorem SameNetworkSettlementRecord.Known.later
    {history : List (Event atomicInterface Worker AtomicEntry)} {id : JsString}
    {record : SameNetworkSettlementRecord} (known : record.Known platform history id)
    (event : Event atomicInterface Worker AtomicEntry) :
    record.Known platform (event :: history) id where
  named := known.named
  fingerprint := known.fingerprint
  executed := by
    obtain ⟨worker, entry, started, same⟩ := known.executed
    exact ⟨worker, entry, List.mem_cons_of_mem _ started, same⟩
  returned completed := by
    obtain ⟨worker, entry, executor, result, holds, status, asserted, executes,
      ⟨starter, first, started, same⟩, fingerprint, answered⟩ := known.returned completed
    exact ⟨worker, entry, executor, result, holds, status, asserted, executes,
      ⟨starter, first, List.mem_cons_of_mem _ started, same⟩, fingerprint,
      List.mem_cons_of_mem _ answered⟩

theorem asks_of_allowed {call : AtomicCall}
    (allowed : (recording (atomicProgram platform)).allowed (entry, exchanges) call) :
    AtomicAsks platform entry.1 entry.2 exchanges call := by
  obtain ⟨resume, reaches⟩ := allowed
  exact (SameNetworkSettlementService.execute_asks platform entry.1 entry.2).admits_of_reaches
    reaches

theorem executed_of_known
    (known : transcriptOf (atomicProgram platform) worker config.history =
      some (entry, exchanges)) : Executed config.history entry.2.json :=
  ⟨worker, entry, started_of_entryOf (entryOf_of_transcriptOf known), rfl⟩

/-- **Stored records.** Whatever is stored is the claim of a request that was executed, with its
hash; a completed record has a result that an executor returned. -/
theorem records_known
    (reached : Reachable (atomicProgram platform) (fun _ _ => True) (noSettlements Worker) config) :
    ∀ id record, config.state.settlements id = some record →
      record.Known platform config.history id := by
  refine reached.invariant (fun view => ∀ id record, view.state.settlements id = some record →
    record.Known platform view.history id) rfl (fun _ _ stored => by cases stored) ?_
  intro config event state _ step _ earlier id record stored
  cases step with
  | started _ => exact (earlier id record stored).later _
  | issued _ _ => exact (earlier id record stored).later _
  | crashed _ => exact (earlier id record stored).later _
  | @answered worker call answer here choice state _ known allowed replied =>
      have asks := asks_of_allowed allowed
      cases stores_of_open replied with
      | nothing => exact (earlier id record stored).later _
      | committed => exact (earlier id record stored).later _
      | @claimed request requestHash recordedAt _ =>
          obtain ⟨rfl, fingerprint⟩ := asks
          by_cases own : id = here.1.2.id
          · subst own
            cases (Function.update_self ..).symm.trans stored
            refine SameNetworkSettlementRecord.Known.later ?_ _
            exact ⟨rfl, executed_of_known known, fingerprint, fun completed => by cases completed⟩
          · exact (earlier id record ((Function.update_of_ne own ..).symm.trans stored)).later _
      | @finished finishes requestHash status result recordedAt existing held matched _ =>
          obtain ⟨rfl, fingerprint, _, _, completes⟩ := asks
          by_cases own : id = here.1.2.id
          · subst own
            cases (Function.update_self ..).symm.trans stored
            have before := earlier _ existing held
            have finished : (existing.finished status result recordedAt).Known platform
                config.history here.1.2.id := by
              refine ⟨before.named, before.executed, before.fingerprint, fun completed => ?_⟩
              obtain ⟨outcome, asserted, executor, executes, member⟩ := completes completed
              refine ⟨worker, here.1, executor, result, rfl, outcome, asserted, executes,
                executed_of_known known, ?_, answered_of_transcriptOf known member⟩
              exact fingerprint.trans (congrArg _ matched.symm)
            exact finished.later _
          · exact (earlier id record ((Function.update_of_ne own ..).symm.trans stored)).later _

/-- **Claims.** What a claim has returned goes on in the store; it was a conflict if it had
another hash than the request. -/
theorem claim_continues
    (reached : Reachable (atomicProgram platform) (fun _ _ => True) (noSettlements Worker) config)
    (known : transcriptOf (atomicProgram platform) worker config.history = some (entry, exchanges))
    {claim : SettlementClaim} (claims : exchanges.filterMap claimOf = [claim]) :
    ∃ stored hash, config.state.settlements entry.2.id = some stored ∧
      stored.Continues claim.record ∧ requestFingerprint platform entry.2.json = .ok hash ∧
      (claim.outcome = .conflict ↔ claim.record.requestHash ≠ hash) := by
  have among : claim ∈ exchanges.filterMap claimOf := by
    rw [claims]
    exact List.mem_cons_self
  obtain ⟨exchange, member, same⟩ := List.mem_filterMap.mp among
  refine reached.exchanges_hold (fun entry (state : openAtomicServices.State) exchange =>
    ∀ claim, claimOf exchange = some claim → ∃ stored hash,
      state.settlements entry.2.id = some stored ∧ stored.Continues claim.record ∧
      requestFingerprint platform entry.2.json = .ok hash ∧
      (claim.outcome = .conflict ↔ claim.record.requestHash ≠ hash))
    rfl ?_ ?_ worker entry exchanges known exchange member claim same
  · intro config worker entry exchanges call choice answer next _ known allowed _ replied claim same
    cases call with
    | claim asked hash recordedAt =>
        cases answer with
        | error error => cases same
        | ok returned =>
            cases same
            obtain ⟨rfl, fingerprint⟩ := asks_of_allowed allowed
            obtain ⟨stored, conflicts⟩ := claim_of_open replied
            exact ⟨_, hash, stored, .refl _, fingerprint, conflicts⟩
    | now => cases same
    | executeAtomically executor asked => cases same
    | finish id hash status result recordedAt => cases same
  · intro entry call choice state answer next exchange replied holds claim same
    obtain ⟨stored, hash, found, continues, fingerprint, conflicts⟩ := holds claim same
    obtain ⟨later, present, goes⟩ := (stores_of_open replied).continues found
    exact ⟨later, hash, present, goes.trans continues, fingerprint, conflicts⟩

/-- A claim that is no conflict is that of the stored content. -/
theorem content_of_claim
    (reached : Reachable (atomicProgram platform) (fun _ _ => True) (noSettlements Worker) config)
    (free : platform.CollisionFree (Executed config.history))
    (known : transcriptOf (atomicProgram platform) worker config.history = some (entry, exchanges))
    {claim : SettlementClaim} (claims : exchanges.filterMap claimOf = [claim])
    (owned : claim.outcome ≠ .conflict) {stored : SameNetworkSettlementRecord}
    (found : config.state.settlements entry.2.id = some stored) : stored.request = entry.2 := by
  obtain ⟨other, hash, present, continues, fingerprint, conflicts⟩ :=
    claim_continues reached known claims
  cases found.symm.trans present
  have matched : claim.record.requestHash = hash := not_not.mp (mt conflicts.mpr owned)
  have record := records_known reached _ _ found
  refine SameNetworkSettlementRequest.eq_of_fingerprint free record.executed
    (executed_of_known known) record.fingerprint ?_
  rw [continues.requestHash, matched, fingerprint]

/-- A call with another content is told that it conflicts. -/
theorem conflict_of_other
    (reached : Reachable (atomicProgram platform) (fun _ _ => True) (noSettlements Worker) config)
    (free : platform.CollisionFree (Executed config.history))
    (known : transcriptOf (atomicProgram platform) worker config.history = some (entry, exchanges))
    {claim : SettlementClaim} (claims : exchanges.filterMap claimOf = [claim])
    {stored : SameNetworkSettlementRecord}
    (found : config.state.settlements entry.2.id = some stored)
    (other : stored.request ≠ entry.2) : claim.outcome = .conflict := by
  by_contra owned
  exact other (content_of_claim reached free known claims owned found)

theorem not_inProgress_of_other
    (reached : Reachable (atomicProgram platform) (fun _ _ => True) (noSettlements Worker) config)
    (free : platform.CollisionFree (Executed config.history))
    (known : transcriptOf (atomicProgram platform) worker config.history = some (entry, exchanges))
    {stored : SameNetworkSettlementRecord}
    (found : config.state.settlements entry.2.id = some stored)
    (other : stored.request ≠ entry.2) : ¬ InProgress exchanges := by
  rintro ⟨claim, claims, owned, _⟩
  exact owned (conflict_of_other reached free known claims found other)

/-! ## Calls of a settled settlement -/

/-- The worker runs a call all of whose claims have returned a record. -/
def Sees (platform : Platform) (worker : Worker) (entry : AtomicEntry)
    (record : SameNetworkSettlementRecord)
    (history : List (Event atomicInterface Worker AtomicEntry)) : Prop :=
  ∀ there exchanges, transcriptOf (atomicProgram platform) worker history =
    some (there, exchanges) → there = entry ∧
      ∀ exchange ∈ exchanges, ∀ claim, claimOf exchange = some claim → claim.record = record

/-- A step of the run of a settled settlement, in which the worker is not started again. -/
theorem Sees.move {action : Action openAtomicServices Worker AtomicEntry}
    {move : Move openAtomicServices Worker AtomicEntry SameNetworkSettlementRecord}
    {record : SameNetworkSettlementRecord} (sees : Sees platform worker entry record config.history)
    (stored : config.state.settlements entry.2.id = some record)
    (settled : record.status ≠ .inProgress)
    (reached : Reachable (atomicProgram platform) (fun _ _ => True) (noSettlements Worker) config)
    (moved : config.move (atomicProgram platform) action = some move)
    (unstarted : ∀ other, .start worker other ≠ action) :
    Sees platform worker entry record (move.event :: config.history) ∧
      move.state.settlements entry.2.id = some record := by
  have step := reached.step_of_move rfl moved
  obtain ⟨event, state, status⟩ := move
  have started : ∀ other, event ≠ .started worker other := fun other same =>
    unstarted other (Config.start_of_started moved same).symm
  refine ⟨?_, ?_⟩
  · intro there exchanges known
    by_cases own : event.worker = worker
    · cases step with
      | @started starter other _ =>
          obtain rfl : starter = worker := own
          exact absurd rfl (started other)
      | issued _ _ =>
          rw [transcriptOf, Protocol.localOf_issued] at known
          exact sees there exchanges known
      | crashed _ =>
          obtain rfl := own
          rw [transcriptOf, Event.worker, Protocol.localOf_crashed_self] at known
          cases known
      | @answered asker call answer here choice _ _ before allowed replied =>
          obtain rfl : asker = worker := own
          rw [transcriptOf, Protocol.localOf_answered_self, before] at known
          cases known
          obtain ⟨rfl, earlier⟩ := sees here.1 here.2 before
          refine ⟨rfl, fun exchange member claim same => ?_⟩
          rcases List.mem_append.mp member with old | last
          · exact earlier exchange old claim same
          · obtain rfl := List.mem_singleton.mp last
            cases call with
            | claim asked hash recordedAt =>
                cases answer with
                | error error => cases same
                | ok returned =>
                    cases same
                    obtain ⟨rfl, _⟩ := asks_of_allowed allowed
                    obtain ⟨later, present, continues⟩ := (stores_of_open replied).continues stored
                    rw [continues.settled settled] at present
                    exact Option.some.inj ((claim_of_open replied).1.symm.trans present)
            | now => cases same
            | executeAtomically executor asked => cases same
            | finish id hash status result recordedAt => cases same
    · rw [transcriptOf, Protocol.localOf_cons_of_ne own] at known
      exact sees there exchanges known
  · cases step with
    | started _ => exact stored
    | issued _ _ => exact stored
    | crashed _ => exact stored
    | answered _ _ _ replied =>
        obtain ⟨later, present, continues⟩ := (stores_of_open replied).continues stored
        exact (continues.settled settled) ▸ present

/-- What holds at the end of a run of a settled settlement, of a worker that began after. -/
theorem sees_of_run {schedule : List (Action openAtomicServices Worker AtomicEntry)}
    {final : Config openAtomicServices Worker AtomicEntry SameNetworkSettlementRecord}
    {record : SameNetworkSettlementRecord} (sees : Sees platform worker entry record config.history)
    (stored : config.state.settlements entry.2.id = some record)
    (settled : record.status ≠ .inProgress)
    (reached : Reachable (atomicProgram platform) (fun _ _ => True) (noSettlements Worker) config)
    (runs : config.run (atomicProgram platform) (fun _ _ => True) schedule = some final)
    (unstarted : ∀ other, .start worker other ∉ schedule) :
    Sees platform worker entry record final.history ∧
      final.state.settlements entry.2.id = some record := by
  induction schedule generalizing config with
  | nil =>
      cases runs
      exact ⟨sees, stored⟩
  | cons action rest ih =>
      obtain ⟨move, moved, admitted, more⟩ := Config.run_cons runs
      obtain ⟨still, kept⟩ := sees.move stored settled reached moved
        fun other same => unstarted other (same ▸ List.mem_cons_self)
      exact ih still kept (.step reached moved admitted) more
        fun other member => unstarted other (List.mem_cons_of_mem _ member)

/-- The records of a pool of settlement runs: a claim creates them, they go on in every later run,
calls with another content are refused and change nothing, a completed record has a committed
result of an executor, and calls that begin on a settled record return it and ask no executor. -/
structure RecordedOnce (platform : Platform)
    (config : Config openAtomicServices Worker AtomicEntry SameNetworkSettlementRecord) :
    Prop where
  claimed : ∀ action move id record, config.move (atomicProgram platform) action = some move →
    config.state.settlements id = none → move.state.settlements id = some record →
    record.request.id = id ∧ record.status = .inProgress ∧ ∃ worker recordedAt answer,
      move.event =
        .answered worker (.claim record.request record.requestHash recordedAt) answer
  persisted : ∀ schedule final,
    config.run (atomicProgram platform) (fun _ _ => True) schedule = some final →
    ∀ id record, config.state.settlements id = some record →
      ∃ later, final.state.settlements id = some later ∧ later.Continues record
  refused : ∀ worker entry exchanges outcome stored,
    config.workers worker = .running (.settled outcome) →
    transcriptOf (atomicProgram platform) worker config.history = some (entry, exchanges) →
    config.state.settlements entry.2.id = some stored → stored.request ≠ entry.2 →
    ∃ error, outcome = .error error ∧
      (exchanges.filterMap claimOf = [] ∨ error = claimedWithOtherContent entry.2.id)
  untouched : ∀ action move entry exchanges stored,
    config.move (atomicProgram platform) action = some move →
    transcriptOf (atomicProgram platform) move.event.worker config.history =
      some (entry, exchanges) →
    config.state.settlements entry.2.id = some stored → stored.request ≠ entry.2 →
    move.state = config.state
  completed : ∀ id record, config.state.settlements id = some record →
    record.status = .completed →
    ∃ (worker : Worker) (service : SameNetworkSettlementService)
        (executor : NativeAtomicSettlementExecutor) (result : NativeAtomicSettlementResult)
        (evidence : NativeAtomicSettlementEvidence),
      record.result = some result ∧
      (result = .committed evidence ∨ result = .alreadyCommitted evidence) ∧
      evidence.externalTransactionId.isBlank = false ∧ evidence.observedPosition.isBlank = false ∧
      evidence.evidence ≠ [] ∧ service.Executes executor record.request ∧
      .answered worker (.executeAtomically executor record.request) (.ok result) ∈ config.history
  replayed : ∀ worker entry record,
    transcriptOf (atomicProgram platform) worker config.history = some (entry, []) →
    config.state.settlements entry.2.id = some record → record.status ≠ .inProgress →
    ∀ schedule final, config.run (atomicProgram platform) (fun _ _ => True) schedule = some final →
    (∀ other, .start worker other ∉ schedule) →
    (∀ action move executor asked, final.move (atomicProgram platform) action = some move →
      move.event ≠ .issued worker (.executeAtomically executor asked)) ∧
    ∀ outcome exchanges, final.workers worker = .running (.settled outcome) →
      transcriptOf (atomicProgram platform) worker final.history = some (entry, exchanges) →
      record.request = entry.2 →
      outcome = .ok record ∨
        (exchanges.filterMap claimOf = [] ∧ ∃ error, outcome = .error error)

/-- A result that completes a settlement and passes the check has verified evidence. -/
theorem evidence_of_assertResult {result : NativeAtomicSettlementResult}
    (completes : result.status = .completed) (asserted : assertResult platform result = .ok ()) :
    ∃ evidence, (result = .committed evidence ∨ result = .alreadyCommitted evidence) ∧
      evidence.externalTransactionId.isBlank = false ∧ evidence.observedPosition.isBlank = false ∧
      evidence.evidence ≠ [] := by
  have verified : ∀ evidence : NativeAtomicSettlementEvidence,
      assertResult platform (.committed evidence) = .ok () →
      evidence.externalTransactionId.isBlank = false ∧ evidence.observedPosition.isBlank = false ∧
        evidence.evidence ≠ [] := by
    intro evidence asserted
    unfold assertResult at asserted
    dsimp only at asserted
    split at asserted
    · cases asserted
    · rename_i checks
      simp only [Bool.not_eq_true, Bool.or_eq_false_iff] at checks
      obtain ⟨⟨⟨transaction, position⟩, listed⟩, _⟩ := checks
      refine ⟨transaction, position, fun empty => ?_⟩
      rw [empty] at listed
      cases listed
  cases result with
  | committed evidence => exact ⟨evidence, .inl rfl, verified evidence asserted⟩
  | alreadyCommitted evidence => exact ⟨evidence, .inr rfl, verified evidence asserted⟩
  | rejected _ _ => cases completes
  | uncertain _ _ => cases completes

/-- **Atomic settlements are recorded once.** -/
theorem recordedOnce
    (reached : Reachable (atomicProgram platform) (fun _ _ => True) (noSettlements Worker) config)
    (free : platform.CollisionFree (Executed config.history)) : RecordedOnce platform config where
  claimed action move id record moved absent stored := by
    have step := reached.step_of_move rfl moved
    obtain ⟨event, state, status⟩ := move
    change state.settlements id = some record at stored
    cases step with
    | started _ => cases absent.symm.trans stored
    | issued _ _ => cases absent.symm.trans stored
    | crashed _ => cases absent.symm.trans stored
    | @answered worker _ _ _ _ _ _ _ _ replied =>
        cases stores_of_open replied with
        | nothing => cases absent.symm.trans stored
        | committed => cases absent.symm.trans stored
        | @claimed request requestHash recordedAt _ =>
            by_cases own : id = request.id
            · subst own
              cases (Function.update_self ..).symm.trans stored
              exact ⟨rfl, rfl, worker, recordedAt, _, rfl⟩
            · cases absent.symm.trans ((Function.update_of_ne own ..).symm.trans stored)
        | @finished finishes requestHash status result recordedAt existing held _ _ =>
            by_cases own : id = finishes
            · subst own
              cases absent.symm.trans held
            · cases absent.symm.trans ((Function.update_of_ne own ..).symm.trans stored)
  persisted schedule := by
    clear free
    induction schedule generalizing config with
    | nil =>
        intro final runs id record stored
        cases runs
        exact ⟨record, stored, .refl record⟩
    | cons action rest ih =>
        intro final runs id record stored
        obtain ⟨move, moved, admitted, more⟩ := Config.run_cons runs
        have goes : ∃ later, move.state.settlements id = some later ∧ later.Continues record := by
          have step := reached.step_of_move rfl moved
          obtain ⟨event, state, status⟩ := move
          cases step with
          | started _ => exact ⟨record, stored, .refl record⟩
          | issued _ _ => exact ⟨record, stored, .refl record⟩
          | crashed _ => exact ⟨record, stored, .refl record⟩
          | answered _ _ _ replied => exact (stores_of_open replied).continues stored
        obtain ⟨later, found, continues⟩ := goes
        obtain ⟨last, present, further⟩ := ih (.step reached moved admitted) final more id later found
        exact ⟨last, present, further.trans continues⟩
  refused worker entry exchanges outcome stored settled known found other := by
    have tracks := reached.tracks rfl worker
    rw [settled] at tracks
    obtain ⟨here, same, reaches⟩ := tracks
    cases same.symm.trans known
    rcases (SameNetworkSettlementService.execute_asks platform entry.1 entry.2).post_of_reaches
      reaches with ⟨unclaimed, error, failed⟩ | ⟨claim, claims, refuses, _⟩
    · exact ⟨error, failed, .inl unclaimed⟩
    · have conflict := conflict_of_other reached free known claims found other
      exact ⟨_, refuses conflict, .inr rfl⟩
  untouched action move entry exchanges stored moved known found other := by
    have step := reached.step_of_move rfl moved
    obtain ⟨event, state, status⟩ := move
    have outside := not_inProgress_of_other reached free known found other
    cases step with
    | started _ => rfl
    | issued _ _ => rfl
    | crashed _ => rfl
    | answered _ before allowed replied =>
        cases before.symm.trans known
        have asks := asks_of_allowed allowed
        cases stores_of_open replied with
        | nothing => rfl
        | claimed absent =>
            obtain ⟨rfl, _⟩ := asks
            cases absent.symm.trans found
        | committed => exact absurd asks.2.2 outside
        | finished _ _ _ => exact absurd asks.2.2.1 outside
  completed id record stored completed := by
    have known := records_known reached id record stored
    obtain ⟨worker, entry, executor, result, holds, completes, asserted, executes, executed,
      fingerprint, answered⟩ := known.returned completed
    have same : entry.2 = record.request :=
      SameNetworkSettlementRequest.eq_of_fingerprint free executed known.executed fingerprint
        known.fingerprint
    obtain ⟨evidence, verified⟩ := evidence_of_assertResult completes asserted
    rw [same] at executes answered
    exact ⟨worker, entry.1, executor, result, evidence, holds, verified.1, verified.2.1,
      verified.2.2.1, verified.2.2.2, executes, answered⟩
  replayed worker entry record known stored settled schedule final runs unstarted := by
    have sees : Sees platform worker entry record config.history := by
      intro there exchanges same
      cases known.symm.trans same
      exact ⟨rfl, fun _ member => (List.not_mem_nil member).elim⟩
    obtain ⟨still, kept⟩ := sees_of_run sees stored settled reached runs unstarted
    have arrived := reached.of_run schedule runs
    have returned : ∀ there exchanges,
        transcriptOf (atomicProgram platform) worker final.history = some (there, exchanges) →
        ∀ claim, exchanges.filterMap claimOf = [claim] → claim.record = record := by
      intro there exchanges known claim claims
      have among : claim ∈ exchanges.filterMap claimOf := claims ▸ List.mem_cons_self
      obtain ⟨exchange, member, same⟩ := List.mem_filterMap.mp among
      exact (still there exchanges known).2 exchange member claim same
    constructor
    · intro action move executor asked moved same
      have step := arrived.step_of_move rfl moved
      obtain ⟨event, state, status⟩ := move
      obtain rfl : event = .issued worker (.executeAtomically executor asked) := same
      cases step with
      | issued before allowed =>
          obtain ⟨_, _, claim, claims, _, progress⟩ := asks_of_allowed allowed
          rw [returned _ _ before claim claims] at progress
          exact settled progress
    · intro outcome exchanges ends current same
      have tracks := arrived.tracks rfl worker
      rw [ends] at tracks
      obtain ⟨here, now, reaches⟩ := tracks
      cases now.symm.trans current
      rcases (SameNetworkSettlementService.execute_asks platform entry.1 entry.2).post_of_reaches
        reaches with ⟨unclaimed, failed⟩ | ⟨claim, claims, _, returns⟩
      · exact .inr ⟨unclaimed, failed⟩
      · have record := returned _ _ current claim claims
        refine .inl (record ▸ returns ?_ (record ▸ settled))
        obtain ⟨_, hash, _, _, fingerprint, conflicts⟩ := claim_continues arrived current claims
        have print := (records_known arrived _ _ kept).fingerprint
        rw [same, fingerprint, Except.ok.injEq] at print
        intro conflict
        rw [record] at conflicts
        exact conflicts.mp conflict print.symm

end Runs

/-! ## A settlement that two workers settle -/

namespace TwoClaims

open AtomicExample

def answers (worker : Bool) (choices : List openAtomicServices.Choice) :
    List (Action openAtomicServices Bool AtomicEntry) :=
  choices.flatMap fun choice => [.issue worker, .answer worker choice]

/-- Both workers claim the settlement and ask the executor. The second one is answered first and
finishes; the acknowledgement of the first is lost. -/
def schedule : List (Action openAtomicServices Bool AtomicEntry) :=
  [.start true (service, request), .start false (service, request)] ++
    answers true [.inl (.instant early), .inl .stored, .inl (.instant early),
      .inr (.other, some (.native true (.ok (.committed evidence))))] ++
    answers false [.inl (.instant early), .inl .stored, .inl (.instant early),
      .inl (.native false (.ok (.alreadyCommitted evidence))), .inl (.instant early),
      .inl .stored] ++
    answers true [.inl (.instant early), .inl .stored]

/-- The first worker has settled with the record that the second one has finished. -/
def settled (config : Config openAtomicServices Bool AtomicEntry SameNetworkSettlementRecord) :
    Bool :=
  match config.workers true with
  | .running (.settled (.ok record)) => record.result == some (.alreadyCommitted evidence) &&
      config.state.settlements request.id == some record
  | _ => false

end TwoClaims

open TwoClaims AtomicExample in
/-- The worker without an answer returns what the other one has recorded. -/
theorem recordedOnce_twice :
    ∃ config : Config openAtomicServices Bool AtomicEntry SameNetworkSettlementRecord,
      settled config = true ∧ RecordedOnce isoPlatform config := by
  obtain ⟨config, reached, checked⟩ := Reachable.exists_of_run (atomicProgram isoPlatform)
    (fun _ _ => True) (noSettlements Bool) schedule settled (by decide +kernel)
  exact ⟨config, checked, recordedOnce reached (isoPlatform_collisionFree _)⟩

end InterWeave
