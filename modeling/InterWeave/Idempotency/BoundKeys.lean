import InterWeave.Core.IsoDate
import InterWeave.Core.PlainJson
import InterWeave.Idempotency.IdempotencyStore

/-! # What a key is bound to

The first claim of a key binds it to a request and an operation. The record moves between running
and failed until one completion succeeds, and from then on it stands still: every later claim
replays what the table keeps of the response of that completion. That is the response itself where
it is plain JSON; a date is replayed as a string.
-/

namespace InterWeave

/-- The calls of the store. Claims are those of `begin`. -/
inductive IdempotencyCall where
  | claim (request : IdempotencyRequest)
  | complete (scope key requestHash : JsString) (response : JsonSource) (updatedAt : JsString)
  | fail (scope key requestHash errorCode updatedAt : JsString)

inductive IdempotencyResult (Response : Type) where
  | claimed (claim : IdempotencyClaim Response)
  | finished (outcome : Except Thrown (IdempotencyRecord Response))

/-- The store, by what each call returns and leaves. `column` is what the `jsonb` column gives
back of a value: it may order properties anew. -/
def idempotencyStore (column : JsValue → JsValue) :
    Atomic.Machine (IdempotencyRecords JsValue) IdempotencyCall (IdempotencyResult JsValue) where
  execute
    | .claim request, records =>
        let claimed := records.claim request.record
        (.claimed claimed.1, claimed.2)
    | .complete scope key requestHash response updatedAt, records =>
        let finished := records.complete column scope key requestHash response updatedAt
        (.finished finished.1, finished.2)
    | .fail scope key requestHash errorCode updatedAt, records =>
        let finished := records.fail scope key requestHash errorCode updatedAt
        (.finished finished.1, finished.2)

section Key

variable (scope key : JsString)

/-- The request of a claim of the key. -/
def IdempotencyCall.claims : IdempotencyCall → Option IdempotencyRequest
  | .claim request => if request.scope = scope ∧ request.key = key then some request else none
  | _ => none

/-- Whether `complete` or `fail` returns. -/
def IdempotencyResult.returns {Response : Type} : IdempotencyResult Response → Bool
  | .finished (.ok _) => true
  | _ => false

/-- The response of a completion of the key that succeeds. -/
def IdempotencyCall.completes (result : IdempotencyResult JsValue) :
    IdempotencyCall → Option JsonSource
  | .complete asked named _ response _ =>
      if (asked = scope ∧ named = key) ∧ result.returns = true then some response else none
  | _ => none

/-- The first claim of the key in a run. -/
def firstClaim (calls : List IdempotencyCall) : Option IdempotencyRequest :=
  calls.findSome? (IdempotencyCall.claims scope key)

/-- The response of the first completion of the key that succeeds in a run. -/
def firstCompletion (column : JsValue → JsValue) :
    List IdempotencyCall → IdempotencyRecords JsValue → Option JsonSource
  | [], _ => none
  | call :: rest, records =>
      match call.completes scope key ((idempotencyStore column).execute call records).1 with
      | some response => some response
      | none => firstCompletion column rest ((idempotencyStore column).next call records)

/-- The request hash, the operation and the creation time. -/
def IdempotencyRecord.binding {Response : Type} (record : IdempotencyRecord Response) :
    JsString × JsString × JsString :=
  (record.requestHash, record.operationId, record.createdAt)

def IdempotencyRequest.binding (request : IdempotencyRequest) : JsString × JsString × JsString :=
  (request.requestHash, request.operationId, request.timestamp)

/-- The steps of the record of a key, by the call and what it returns. -/
inductive KeyStep (column : JsValue → JsValue) (call : IdempotencyCall)
    (result : IdempotencyResult JsValue) :
    Option (IdempotencyRecord JsValue) → Option (IdempotencyRecord JsValue) → Prop where
  | kept (found : Option (IdempotencyRecord JsValue)) :
      (call.claims scope key = none ∨ found ≠ none) →
      (call.completes scope key result = none ∨
        ∃ record, found = some record ∧ record.status = .completed) →
      KeyStep column call result found found
  | claimed (request : IdempotencyRequest) : call.claims scope key = some request →
      KeyStep column call result none (some request.record)
  | retried (request : IdempotencyRequest) (existing : IdempotencyRecord JsValue) :
      call.claims scope key = some request → existing.status = .failed →
      KeyStep column call result (some existing) (some (existing.retry request.timestamp))
  | completed (existing : IdempotencyRecord JsValue) (response : JsonSource)
      (kept : Option JsValue) (updatedAt : JsString) :
      call.completes scope key result = some response →
      IdempotencyRecords.kept column response = .ok kept → existing.status ≠ .completed →
      KeyStep column call result (some existing)
        (some (existing.patched (.completed kept updatedAt)))
  | failed (existing : IdempotencyRecord JsValue) (errorCode updatedAt : JsString) :
      call.completes scope key result = none → existing.status ≠ .completed →
      KeyStep column call result (some existing)
        (some (existing.patched (.failed errorCode updatedAt)))

end Key

section Steps

variable {column : JsValue → JsValue} {scope key : JsString}
  {records : IdempotencyRecords JsValue} {call : IdempotencyCall}

theorem keyStep_complete {asked named requestHash updatedAt : JsString} {response : JsonSource} :
    KeyStep scope key column (.complete asked named requestHash response updatedAt)
      ((idempotencyStore column).execute
        (.complete asked named requestHash response updatedAt) records).1
      (records.find scope key)
      ((records.complete column asked named requestHash response updatedAt).2.find scope key) := by
  change KeyStep scope key column _ (.finished (records.complete column asked named requestHash
    response updatedAt).1) _ _
  rw [IdempotencyRecords.complete]
  -- A completed record is returned whatever the response.
  have settled : ∀ existing : IdempotencyRecord JsValue, records.find asked named = some existing →
      existing.status = .completed →
      KeyStep scope key column (.complete asked named requestHash response updatedAt)
        (.finished (.ok existing)) (records.find scope key) (records.find scope key) := by
    intro existing found completed
    refine .kept _ (.inl rfl) ?_
    by_cases own : asked = scope ∧ named = key
    · obtain ⟨rfl, rfl⟩ := own
      exact .inr ⟨existing, found, completed⟩
    · exact .inl (if_neg fun both => own both.1)
  cases written : IdempotencyRecords.kept column response with
  | error error =>
      rcases records.finish_of_error asked named requestHash error with
        ⟨thrown, fails⟩ | ⟨existing, found, completed, same⟩
      · rw [Except.map, fails]
        exact .kept _ (.inl rfl) (.inl (if_neg fun both => by cases both.2))
      · rw [Except.map, same]
        exact settled existing found completed
  | ok kept =>
      rw [Except.map]
      rcases records.finish_cases asked named requestHash (.completed kept updatedAt) with
        ⟨error, _, fails⟩ | ⟨existing, found, _, ⟨completed, same⟩ | ⟨running, wrote⟩⟩
      · rw [fails]
        exact .kept _ (.inl rfl) (.inl (if_neg fun both => by cases both.2))
      · rw [same]
        exact settled existing found completed
      · rw [wrote]
        have place : existing.scope = asked ∧ existing.key = named := records.filed _ _ _ found
        by_cases own : asked = scope ∧ named = key
        · obtain ⟨rfl, rfl⟩ := own
          have stored : (records.put (existing.patched (.completed kept updatedAt))).find asked
              named = some (existing.patched (.completed kept updatedAt)) :=
            IdempotencyRecords.find_put place
          rw [found]
          dsimp only
          rw [stored]
          exact .completed existing response kept updatedAt (if_pos ⟨⟨rfl, rfl⟩, rfl⟩) written
            running
        · dsimp only
          rw [IdempotencyRecords.find_put_of_ne (by rwa [← place.1, ← place.2] at own)]
          exact .kept _ (.inl rfl) (.inl (if_neg fun both => own both.1))

theorem keyStep_fail {asked named requestHash errorCode updatedAt : JsString} :
    KeyStep scope key column (.fail asked named requestHash errorCode updatedAt)
      ((idempotencyStore column).execute
        (.fail asked named requestHash errorCode updatedAt) records).1
      (records.find scope key)
      ((records.fail asked named requestHash errorCode updatedAt).2.find scope key) := by
  rw [IdempotencyRecords.fail]
  rcases records.finish_cases asked named requestHash (.failed errorCode updatedAt) with
    ⟨error, _, fails⟩ | ⟨existing, found, _, ⟨completed, same⟩ | ⟨running, written⟩⟩
  · rw [fails]
    exact .kept _ (.inl rfl) (.inl rfl)
  · rw [same]
    exact .kept _ (.inl rfl) (.inl rfl)
  · rw [written]
    have place : existing.scope = asked ∧ existing.key = named := records.filed _ _ _ found
    by_cases own : asked = scope ∧ named = key
    · obtain ⟨rfl, rfl⟩ := own
      have stored : (records.put (existing.patched (.failed errorCode updatedAt))).find asked
          named = some (existing.patched (.failed errorCode updatedAt)) :=
        IdempotencyRecords.find_put place
      rw [found]
      dsimp only
      rw [stored]
      exact .failed existing errorCode updatedAt rfl running
    · dsimp only
      rw [IdempotencyRecords.find_put_of_ne (by rwa [← place.1, ← place.2] at own)]
      exact .kept _ (.inl rfl) (.inl rfl)

theorem keyStep_claim {request : IdempotencyRequest} :
    KeyStep scope key column (.claim request)
      ((idempotencyStore column).execute (.claim request) records).1 (records.find scope key)
      ((records.claim request.record).2.find scope key) := by
  by_cases own : request.scope = scope ∧ request.key = key
  · have claims : (IdempotencyCall.claim request).claims scope key =
        some request := if_pos own
    obtain ⟨rfl, rfl⟩ := own
    cases found : records.find request.scope request.key with
    | none =>
        have stored : (records.put request.record).find request.scope request.key =
            some request.record := IdempotencyRecords.find_put ⟨rfl, rfl⟩
        rw [IdempotencyRecords.claim_of_absent found]
        dsimp only
        rw [stored]
        exact .claimed request claims
    | some existing =>
        by_cases mismatch : existing.requestHash ≠ request.requestHash ∨
            existing.operationId ≠ request.operationId
        · rw [IdempotencyRecords.claim_of_mismatch found mismatch]
          dsimp only
          rw [found]
          exact .kept _ (.inr (Option.some_ne_none existing)) (.inl rfl)
        · rw [not_or, not_not, not_not] at mismatch
          rw [IdempotencyRecords.claim_of_agreement found mismatch.1 mismatch.2]
          cases status : existing.status with
          | failed =>
              have place : existing.scope = request.scope ∧ existing.key = request.key :=
                records.filed _ _ existing found
              have stored : (records.put (existing.retry request.timestamp)).find request.scope
                  request.key = some (existing.retry request.timestamp) :=
                IdempotencyRecords.find_put place
              change KeyStep _ _ _ _ _ _ ((records.put (existing.retry request.timestamp)).find _ _)
              rw [stored]
              exact .retried request existing claims status
          | completed =>
              dsimp only
              rw [found]
              exact .kept _ (.inr (Option.some_ne_none existing)) (.inl rfl)
          | inProgress =>
              dsimp only
              rw [found]
              exact .kept _ (.inr (Option.some_ne_none existing)) (.inl rfl)
  · rw [IdempotencyRecords.find_claim_of_ne own]
    exact .kept _ (.inl (if_neg own)) (.inl rfl)

/-- **What a call does to a key.** -/
theorem keyStep (column : JsValue → JsValue) (scope key : JsString) (call : IdempotencyCall)
    (records : IdempotencyRecords JsValue) :
    KeyStep scope key column call ((idempotencyStore column).execute call records).1
      (records.find scope key)
      (((idempotencyStore column).next call records).find scope key) := by
  cases call with
  | claim request => exact keyStep_claim
  | complete asked named requestHash response updatedAt => exact keyStep_complete
  | fail asked named requestHash errorCode updatedAt => exact keyStep_fail

theorem completes_of_claims {request : IdempotencyRequest} {result : IdempotencyResult JsValue}
    (claims : call.claims scope key = some request) : call.completes scope key result = none := by
  cases call with
  | claim other => rfl
  | complete asked named requestHash response updatedAt => cases claims
  | fail asked named requestHash errorCode updatedAt => cases claims

namespace KeyStep

variable {result : IdempotencyResult JsValue} {found after : Option (IdempotencyRecord JsValue)}

/-- A step binds an unbound key to the request that claims it, and keeps a binding. -/
theorem binding (step : KeyStep scope key column call result found after) :
    after.map IdempotencyRecord.binding = (found.map IdempotencyRecord.binding).or
      ((call.claims scope key).map IdempotencyRequest.binding) := by
  cases step with
  | kept _ present _ =>
      cases found with
      | some record => rfl
      | none =>
          rcases present with unclaimed | absent
          · rw [unclaimed]
            rfl
          · exact absurd rfl absent
  | claimed request claims =>
      rw [claims]
      rfl
  | retried _ _ _ _ => rfl
  | completed _ _ _ _ _ _ _ => rfl
  | failed _ _ _ _ _ => rfl

/-- A completion that succeeds leaves its response, unless the key was completed before. -/
theorem leaves_response {response : JsonSource}
    (step : KeyStep scope key column call result found after)
    (running : ∀ record, found = some record → record.status ≠ .completed)
    (completes : call.completes scope key result = some response) :
    ∃ record, after = some record ∧ record.status = .completed ∧
      IdempotencyRecords.kept column response = .ok record.response := by
  cases step with
  | kept _ _ settled =>
      rcases settled with incomplete | ⟨record, same, completed⟩
      · cases incomplete.symm.trans completes
      · exact absurd completed (running record same)
  | claimed request claims => cases (completes_of_claims claims).symm.trans completes
  | retried request _ claims _ => cases (completes_of_claims claims).symm.trans completes
  | completed existing given kept updatedAt given_completes written _ =>
      cases given_completes.symm.trans completes
      exact ⟨_, rfl, rfl, written⟩
  | failed _ _ _ incomplete _ => cases incomplete.symm.trans completes

/-- No other call completes a record. -/
theorem running (step : KeyStep scope key column call result found after)
    (running : ∀ record, found = some record → record.status ≠ .completed)
    (incomplete : call.completes scope key result = none) :
    ∀ record, after = some record → record.status ≠ .completed := by
  intro record stored
  cases step with
  | kept _ _ _ => exact running record stored
  | claimed request _ =>
      cases stored
      exact fun same => by cases same
  | retried _ _ _ _ =>
      cases stored
      exact fun same => by cases same
  | completed _ _ _ _ completes _ _ => cases incomplete.symm.trans completes
  | failed _ _ _ _ _ =>
      cases stored
      exact fun same => by cases same

/-- A completed record stands still. -/
theorem settled {record : IdempotencyRecord JsValue}
    (step : KeyStep scope key column call result (some record) after)
    (completed : record.status = .completed) : after = some record := by
  cases step with
  | kept _ _ _ => rfl
  | retried _ _ _ failed => cases completed.symm.trans failed
  | completed _ _ _ _ _ _ running => exact absurd completed running
  | failed _ _ _ _ running => exact absurd completed running

end KeyStep

end Steps

/-! ## Runs -/

/-- The records after a run from an empty table. -/
def recordsAfter (column : JsValue → JsValue) (calls : List IdempotencyCall) :
    IdempotencyRecords JsValue :=
  (idempotencyStore column).run calls .empty

section Runs

variable {column : JsValue → JsValue} {scope key : JsString}

theorem binding_run (calls : List IdempotencyCall) (records : IdempotencyRecords JsValue) :
    (((idempotencyStore column).run calls records).find scope key).map IdempotencyRecord.binding =
      ((records.find scope key).map IdempotencyRecord.binding).or
        ((firstClaim scope key calls).map IdempotencyRequest.binding) := by
  induction calls generalizing records with
  | nil => exact (Option.or_none ..).symm
  | cons call rest ih =>
      have first : firstClaim scope key (call :: rest) =
          (call.claims scope key).or (firstClaim scope key rest) := by
        rw [firstClaim, List.findSome?_cons]
        cases call.claims scope key with
        | none => rfl
        | some request => rfl
      rw [Atomic.Machine.run_cons, ih, (keyStep column scope key call records).binding,
        Option.or_assoc, first, Option.map_or]

theorem completed_run (calls : List IdempotencyCall) {records : IdempotencyRecords JsValue}
    {record : IdempotencyRecord JsValue} (found : records.find scope key = some record)
    (completed : record.status = .completed) :
    ((idempotencyStore column).run calls records).find scope key = some record := by
  induction calls generalizing records with
  | nil => exact found
  | cons call rest ih =>
      refine ih ?_
      have step := keyStep column scope key call records
      rw [found] at step
      exact step.settled completed

variable (column) in
/-- A key that no completion has settled is not completed, and one that has is completed with
what is kept of the response of the first that succeeded. -/
theorem firstCompletion_run (calls : List IdempotencyCall) {records : IdempotencyRecords JsValue}
    (running : ∀ record, records.find scope key = some record → record.status ≠ .completed) :
    match firstCompletion scope key column calls records with
    | none => ∀ record, ((idempotencyStore column).run calls records).find scope key = some record →
        record.status ≠ .completed
    | some response => ∃ record,
        ((idempotencyStore column).run calls records).find scope key = some record ∧
          record.status = .completed ∧
          IdempotencyRecords.kept column response = .ok record.response := by
  induction calls generalizing records with
  | nil => exact running
  | cons call rest ih =>
      have step := keyStep column scope key call records
      rw [firstCompletion]
      cases completes : call.completes scope key
          ((idempotencyStore column).execute call records).1 with
      | none => exact ih (step.running running completes)
      | some response =>
          obtain ⟨record, stored, completed, given⟩ := step.leaves_response running completes
          exact ⟨record, completed_run rest stored completed, completed, given⟩

/-- What the calls so far have settled about a key. -/
structure KeyRecord (column : JsValue → JsValue) (scope key : JsString)
    (calls : List IdempotencyCall) : Prop where
  /-- The record is bound to the first claim. -/
  bound : ((recordsAfter column calls).find scope key).map IdempotencyRecord.binding =
    (firstClaim scope key calls).map IdempotencyRequest.binding
  /-- A claim for another request or operation conflicts and changes nothing. -/
  conflicts : ∀ record request, (recordsAfter column calls).find scope key = some record →
    request.scope = scope → request.key = key →
    request.requestHash ≠ record.requestHash ∨ request.operationId ≠ record.operationId →
    (idempotencyStore column).execute (.claim request) (recordsAfter column calls) =
      (.claimed ⟨.conflict, record⟩, recordsAfter column calls)
  /-- A record is completed when a completion has succeeded. -/
  completed : ∀ record, (recordsAfter column calls).find scope key = some record →
    (record.status = .completed ↔ firstCompletion scope key column calls .empty ≠ none)
  /-- No later call changes a completed record. -/
  settled : ∀ record more, (recordsAfter column calls).find scope key = some record →
    record.status = .completed →
    (recordsAfter column (calls ++ more)).find scope key = some record
  /-- Every later claim for the request replays what is kept of the first response. -/
  replays : ∀ record request response, (recordsAfter column calls).find scope key = some record →
    firstCompletion scope key column calls .empty = some response →
    request.scope = scope → request.key = key →
    request.requestHash = record.requestHash → request.operationId = record.operationId →
    IdempotencyRecords.kept column response = .ok record.response ∧
      (idempotencyStore column).execute (.claim request) (recordsAfter column calls) =
        (.claimed ⟨.replay, record⟩, recordsAfter column calls)
  /-- Of plain JSON everything is kept. -/
  faithful : ∀ record response, (recordsAfter column calls).find scope key = some record →
    firstCompletion scope key column calls .empty = some response → response.plain = true →
    (response.seen.Plain fun _ => True) → record.response = some (column response.seen)

/-- Plain JSON is kept as it is read. -/
theorem kept_of_plain {response : JsonSource} (plain : response.plain = true)
    (json : response.seen.Plain fun _ => True) :
    IdempotencyRecords.kept column response = .ok (some (column response.seen)) := by
  obtain ⟨text, rendered⟩ :=
    show ∃ text, canonicalJson isoPlatform response.seen = .ok text from json.canonicalJson_ok
  rw [IdempotencyRecords.kept, response.json_eq_seen plain text rendered]
  rfl

/-- **A key is bound once and completed once.** In every run, the record of a key carries the
request hash, the operation and the creation time of its first claim, claims for anything else
conflict, and after the first completion that succeeds every claim replays what the column keeps
of its response. -/
theorem keyRecord (column : JsValue → JsValue) (scope key : JsString)
    (calls : List IdempotencyCall) : KeyRecord column scope key calls := by
  have unclaimed : ∀ record : IdempotencyRecord JsValue,
      (IdempotencyRecords.empty : IdempotencyRecords JsValue).find scope key = some record →
      record.status ≠ .completed := fun record found => by cases found
  have history := firstCompletion_run column calls unclaimed
  constructor
  · rw [recordsAfter, binding_run]
    rfl
  · rintro record request found rfl rfl other
    have mismatch : record.requestHash ≠ request.requestHash ∨
        record.operationId ≠ request.operationId := other.imp Ne.symm Ne.symm
    have conflict : (recordsAfter column calls).claim request.record =
        (⟨.conflict, record⟩, recordsAfter column calls) :=
      IdempotencyRecords.claim_of_mismatch found mismatch
    exact congrArg (fun reply => (IdempotencyResult.claimed reply.1, reply.2)) conflict
  · intro record found
    cases first : firstCompletion scope key column calls .empty with
    | none =>
        rw [first] at history
        exact ⟨fun completed => absurd completed (history record found), fun some => absurd rfl some⟩
    | some response =>
        rw [first] at history
        obtain ⟨other, stored, completed, _⟩ := history
        cases found.symm.trans stored
        exact ⟨fun _ => Option.some_ne_none response, fun _ => completed⟩
  · intro record more found completed
    rw [recordsAfter, Atomic.Machine.run_append]
    exact completed_run more found completed
  · rintro record request response found first rfl rfl hash operation
    rw [first] at history
    obtain ⟨other, stored, completed, given⟩ := history
    cases found.symm.trans stored
    have replay : (recordsAfter column calls).claim request.record = _ :=
      IdempotencyRecords.claim_of_agreement found hash.symm operation.symm
    rw [completed] at replay
    exact ⟨given, congrArg (fun reply => (IdempotencyResult.claimed reply.1, reply.2)) replay⟩
  · intro record response found first plain json
    rw [first] at history
    obtain ⟨other, stored, _, given⟩ := history
    cases found.symm.trans stored
    exact Except.ok.inj (given.symm.trans (kept_of_plain plain json))

end Runs

namespace DatedResponse

def request : IdempotencyRequest where
  scope := js "tenant-a:settlement"
  key := js "request-0001"
  requestHash := js "sha256:10"
  operationId := js "IW:BRIDGE:one"
  timestamp := js "2026-08-08T00:00:00.000Z"

/-- `{ settledAt: new Date(1786147200000) }`. -/
def response : JsonSource :=
  .object [(js "settledAt", .date isoPlatform (some 1786147200000))]

def calls : List IdempotencyCall :=
  [.claim request, .complete request.scope request.key request.requestHash response
    (js "2026-08-08T00:00:01.000Z")]

/-- **A date is replayed as a string.** -/
theorem replayed_as_text : ¬ ∀ (calls : List IdempotencyCall) (scope key : JsString)
    (record : IdempotencyRecord JsValue) (response : JsonSource),
    (recordsAfter id calls).find scope key = some record →
    firstCompletion scope key id calls .empty = some response →
    record.response = some response.seen := by
  intro claim
  have same := claim calls request.scope request.key _ response rfl rfl
  change some (JsValue.object [(_, .string _)]) = some (.object [(_, .object [])]) at same
  simp only [Option.some.injEq, JsValue.object.injEq, List.cons.injEq, Prod.mk.injEq, reduceCtorEq,
    and_false, false_and] at same

end DatedResponse
end InterWeave
