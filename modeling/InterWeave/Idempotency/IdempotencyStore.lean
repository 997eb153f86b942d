import InterWeave.Atomic.Machine
import InterWeave.Core.Stringify
import Mathlib.Logic.Function.Basic

/-! # The store of idempotent writes

`idempotency.ts`: the coordinator that claims a key for a write, and the table of claims. Every
call of the store is one transaction, so a run of any number of clients is a sequence of calls;
a transaction that the database or `structuredClone` aborts is a call that was not made. The
table holds the JSON of a record in a `jsonb` column, so a response is kept as what
`JSON.stringify` writes of it and the column gives back.
-/

namespace InterWeave

inductive IdempotencyStatus where
  | inProgress
  | completed
  | failed
  deriving DecidableEq, Repr

structure IdempotencyRecord (Response : Type) where
  scope : JsString
  key : JsString
  requestHash : JsString
  status : IdempotencyStatus
  operationId : JsString
  response : Option Response
  errorCode : Option JsString
  createdAt : JsString
  updatedAt : JsString
  deriving DecidableEq, Repr

inductive IdempotencyOutcome where
  | claimed
  | replay
  | inProgress
  | conflict
  deriving DecidableEq, Repr

structure IdempotencyClaim (Response : Type) where
  outcome : IdempotencyOutcome
  record : IdempotencyRecord Response
  deriving DecidableEq, Repr

/-! ## The coordinator -/

/-- `/[A-Za-z0-9]/`. -/
def isAlphanumeric (unit : UInt16) : Bool :=
  (48 ≤ unit && unit ≤ 57) || (65 ≤ unit && unit ≤ 90) || (97 ≤ unit && unit ≤ 122)

/-- `/^[A-Za-z0-9][A-Za-z0-9._:-]{7,127}$/`. -/
def isIdempotencyKey : JsString → Bool
  | [] => false
  | first :: rest => isAlphanumeric first && 7 ≤ rest.length && rest.length ≤ 127 &&
      rest.all fun unit => isAlphanumeric unit || unit ∈ js "._:-"

def assertIdempotencyKey (key : JsString) : Except Thrown Unit :=
  if isIdempotencyKey key then .ok ()
  else .error (.registryError .invalidArgument
    (js "idempotency key must be 8-128 safe characters"))

/-- What `begin` claims: a record in progress, without a response. -/
structure IdempotencyRequest where
  scope : JsString
  key : JsString
  requestHash : JsString
  operationId : JsString
  timestamp : JsString
  deriving DecidableEq, Repr

variable {Response : Type}

def IdempotencyRequest.record (request : IdempotencyRequest) : IdempotencyRecord Response where
  scope := request.scope
  key := request.key
  requestHash := request.requestHash
  status := .inProgress
  operationId := request.operationId
  response := none
  errorCode := none
  createdAt := request.timestamp
  updatedAt := request.timestamp

namespace IdempotentWriteCoordinator

/-- `begin(input)`, up to the claim of the store. -/
def begin (platform : Platform) (scope key operationId : JsString) (request : JsValue)
    (now : Int) : Except Thrown IdempotencyRequest := do
  assertIdempotencyKey key
  if scope.isBlank then
    throw (.registryError .invalidArgument (js "idempotency scope is required"))
  if !operationId.startsWith (js "IW:BRIDGE:") || operationId = js "IW:BRIDGE:" then
    throw (.registryError .invalidArgument (js "immutable bridge operation ID is required"))
  let requestHash ← requestFingerprint platform request
  return { scope, key, requestHash, operationId, timestamp := platform.toISOString now }

end IdempotentWriteCoordinator

/-! ## The table -/

/-- The records of `idempotency_records`, each under its own scope and key, as they are read
back. -/
structure IdempotencyRecords (Response : Type) where
  find : JsString → JsString → Option (IdempotencyRecord Response)
  filed : ∀ scope key record, find scope key = some record →
    record.scope = scope ∧ record.key = key

/-- What `complete` and `fail` change in the table. -/
inductive IdempotencyPatch (Response : Type) where
  | completed (response : Option Response) (updatedAt : JsString)
  | failed (errorCode updatedAt : JsString)
  deriving DecidableEq, Repr

/-- `{ ...existing, ...patch }`. -/
def IdempotencyRecord.patched (existing : IdempotencyRecord Response) :
    IdempotencyPatch Response → IdempotencyRecord Response
  | .completed response updatedAt =>
      { existing with status := .completed, response, updatedAt }
  | .failed errorCode updatedAt =>
      { existing with status := .failed, errorCode := some errorCode, updatedAt }

/-- A failed record that is claimed again. -/
def IdempotencyRecord.retry (existing : IdempotencyRecord Response) (updatedAt : JsString) :
    IdempotencyRecord Response :=
  { existing with status := .inProgress, response := none, errorCode := none, updatedAt }

namespace IdempotencyRecords

def empty : IdempotencyRecords Response where
  find _ _ := none
  filed _ _ _ found := by cases found

/-- Insert or replace the record of a key. -/
def put (records : IdempotencyRecords Response) (record : IdempotencyRecord Response) :
    IdempotencyRecords Response where
  find scope key :=
    if record.scope = scope ∧ record.key = key then some record else records.find scope key
  filed scope key other found := by
    by_cases same : record.scope = scope ∧ record.key = key
    · simp only [same, and_self, ↓reduceIte, Option.some.injEq] at found
      exact found ▸ same
    · simp only [same, ↓reduceIte] at found
      exact records.filed scope key other found

/-- `PostgresIdempotencyStore.claim`. -/
def claim (records : IdempotencyRecords Response) (record : IdempotencyRecord Response) :
    IdempotencyClaim Response × IdempotencyRecords Response :=
  match records.find record.scope record.key with
  | none => (⟨.claimed, record⟩, records.put record)
  | some existing =>
      if existing.requestHash ≠ record.requestHash ∨ existing.operationId ≠ record.operationId then
        (⟨.conflict, existing⟩, records)
      else
        match existing.status with
        | .failed =>
            let retry := existing.retry record.updatedAt
            (⟨.claimed, retry⟩, records.put retry)
        | .completed => (⟨.replay, existing⟩, records)
        | .inProgress => (⟨.inProgress, existing⟩, records)

/-- `PostgresIdempotencyStore.#finish`, given what `JSON.stringify` makes of the patch. Of a record
that it writes it returns a clone of what it was given. -/
def finish (records : IdempotencyRecords Response) (scope key requestHash : JsString)
    (patch : Except Thrown (IdempotencyPatch Response)) :
    Except Thrown (IdempotencyRecord Response) × IdempotencyRecords Response :=
  match records.find scope key with
  | none => (.error (.registryError .notFound (js "idempotency record not found")), records)
  | some existing =>
      if existing.requestHash ≠ requestHash then
        (.error (.registryError .conflict (js "idempotency request hash mismatch")), records)
      else
        match existing.status, patch with
        | .completed, _ => (.ok existing, records)
        | _, .error error => (.error error, records)
        | _, .ok patch => (.ok (existing.patched patch), records.put (existing.patched patch))

/-- What is kept of a response: what the column gives back of what `JSON.stringify` writes. -/
def kept (column : JsValue → JsValue) (response : JsonSource) : Except Thrown (Option JsValue) := do
  let written ← response.json
  return written.map column

def complete (column : JsValue → JsValue) (records : IdempotencyRecords JsValue)
    (scope key requestHash : JsString) (response : JsonSource) (updatedAt : JsString) :
    Except Thrown (IdempotencyRecord JsValue) × IdempotencyRecords JsValue :=
  records.finish scope key requestHash ((kept column response).map fun response =>
    .completed response updatedAt)

def fail (records : IdempotencyRecords Response) (scope key requestHash errorCode : JsString)
    (updatedAt : JsString) :
    Except Thrown (IdempotencyRecord Response) × IdempotencyRecords Response :=
  records.finish scope key requestHash (.ok (.failed errorCode updatedAt))

/-! ## What a call does to a key -/

variable {records : IdempotencyRecords Response} {record existing : IdempotencyRecord Response}
  {scope key requestHash : JsString}

theorem find_put (place : record.scope = scope ∧ record.key = key) :
    (records.put record).find scope key = some record :=
  if_pos place

theorem find_put_of_ne (other : ¬(record.scope = scope ∧ record.key = key)) :
    (records.put record).find scope key = records.find scope key :=
  if_neg other

theorem claim_of_absent (absent : records.find record.scope record.key = none) :
    records.claim record = (⟨.claimed, record⟩, records.put record) := by
  simp only [claim, absent]

theorem claim_of_mismatch (found : records.find record.scope record.key = some existing)
    (mismatch : existing.requestHash ≠ record.requestHash ∨
      existing.operationId ≠ record.operationId) :
    records.claim record = (⟨.conflict, existing⟩, records) := by
  simp only [claim, found, mismatch, ↓reduceIte]

/-- A claim with the hash and the operation of the record. -/
theorem claim_of_agreement (found : records.find record.scope record.key = some existing)
    (hash : existing.requestHash = record.requestHash)
    (operation : existing.operationId = record.operationId) :
    records.claim record = match existing.status with
      | .failed => (⟨.claimed, existing.retry record.updatedAt⟩,
          records.put (existing.retry record.updatedAt))
      | .completed => (⟨.replay, existing⟩, records)
      | .inProgress => (⟨.inProgress, existing⟩, records) := by
  simp only [claim, found, hash, operation, ne_eq, not_true_eq_false, or_self, ↓reduceIte]

/-- A claim does not touch the other keys. -/
theorem find_claim_of_ne (other : ¬(record.scope = scope ∧ record.key = key)) :
    (records.claim record).2.find scope key = records.find scope key := by
  cases found : records.find record.scope record.key with
  | none => rw [claim_of_absent found, find_put_of_ne other]
  | some existing =>
      obtain ⟨filedScope, filedKey⟩ := records.filed _ _ existing found
      by_cases mismatch : existing.requestHash ≠ record.requestHash ∨
          existing.operationId ≠ record.operationId
      · rw [claim_of_mismatch found mismatch]
      · rw [not_or, not_not, not_not] at mismatch
        rw [claim_of_agreement found mismatch.1 mismatch.2]
        cases existing.status with
        | failed =>
            refine find_put_of_ne ?_
            rw [IdempotencyRecord.retry, filedScope, filedKey]
            exact other
        | completed => rfl
        | inProgress => rfl

/-- A claim of a request is refused and changes nothing, or it takes a key that is free or
failed. -/
theorem claim_cases (records : IdempotencyRecords Response) (request : IdempotencyRequest) :
    (records.claim request.record).1.outcome ≠ .claimed ∧
        (records.claim request.record).2 = records ∨
      ∃ record, records.claim request.record = (⟨.claimed, record⟩, records.put record) ∧
        record.scope = request.scope ∧ record.key = request.key ∧ record.status = .inProgress ∧
        ∀ existing, records.find request.scope request.key = some existing →
          existing.status = .failed ∧ existing.requestHash = record.requestHash := by
  cases found : records.find request.scope request.key with
  | none =>
      refine .inr ⟨request.record, claim_of_absent found, rfl, rfl, rfl, ?_⟩
      exact fun existing present => by cases present
  | some existing =>
      by_cases mismatch : existing.requestHash ≠ request.requestHash ∨
          existing.operationId ≠ request.operationId
      · rw [claim_of_mismatch found mismatch]
        exact .inl ⟨fun same => (by cases same), rfl⟩
      · rw [not_or, not_not, not_not] at mismatch
        rw [claim_of_agreement found mismatch.1 mismatch.2]
        obtain ⟨filedScope, filedKey⟩ := records.filed _ _ existing found
        cases status : existing.status with
        | failed =>
            refine .inr ⟨_, rfl, filedScope, filedKey, rfl, fun other present => ?_⟩
            cases present
            exact ⟨status, rfl⟩
        | completed => exact .inl ⟨fun same => (by cases same), rfl⟩
        | inProgress => exact .inl ⟨fun same => (by cases same), rfl⟩

/-- Finishing a claim fails, or finds the record completed, or patches it. -/
theorem finish_cases (records : IdempotencyRecords Response) (scope key requestHash : JsString)
    (patch : IdempotencyPatch Response) :
    (∃ error, (∀ existing, records.find scope key = some existing →
        existing.requestHash ≠ requestHash) ∧
        records.finish scope key requestHash (.ok patch) = (.error error, records)) ∨
      ∃ existing, records.find scope key = some existing ∧ existing.requestHash = requestHash ∧
        (existing.status = .completed ∧
            records.finish scope key requestHash (.ok patch) = (.ok existing, records) ∨
          existing.status ≠ .completed ∧ records.finish scope key requestHash (.ok patch) =
            (.ok (existing.patched patch), records.put (existing.patched patch))) := by
  cases found : records.find scope key with
  | none =>
      left
      simp only [finish, found]
      exact ⟨_, fun existing present => (by cases present), rfl⟩
  | some existing =>
      by_cases hash : existing.requestHash = requestHash
      · refine .inr ⟨existing, rfl, hash, ?_⟩
        cases status : existing.status with
        | completed =>
            left
            simp only [finish, found, hash, status, ne_eq, not_true_eq_false, ↓reduceIte, and_self]
        | inProgress =>
            right
            simp only [finish, found, hash, status, ne_eq, not_true_eq_false, ↓reduceIte,
              reduceCtorEq, not_false_eq_true, and_self]
        | failed =>
            right
            simp only [finish, found, hash, status, ne_eq, not_true_eq_false, ↓reduceIte,
              reduceCtorEq, not_false_eq_true, and_self]
      · left
        simp only [finish, found, ne_eq, hash, not_false_eq_true, ↓reduceIte]
        refine ⟨_, fun other present => ?_, rfl⟩
        cases present
        exact hash

/-- A patch that cannot be written changes nothing, and only a completed record is returned. -/
theorem finish_of_error (records : IdempotencyRecords Response) (scope key requestHash : JsString)
    (error : Thrown) :
    (∃ thrown, records.finish scope key requestHash (.error error) = (.error thrown, records)) ∨
      ∃ existing, records.find scope key = some existing ∧ existing.status = .completed ∧
        records.finish scope key requestHash (.error error) = (.ok existing, records) := by
  unfold finish
  cases found : records.find scope key with
  | none => exact .inl ⟨_, rfl⟩
  | some existing =>
      by_cases hash : existing.requestHash = requestHash
      · simp only [hash, ne_eq, not_true_eq_false, ↓reduceIte]
        cases status : existing.status with
        | completed => exact .inr ⟨existing, rfl, status, rfl⟩
        | inProgress => exact .inl ⟨_, rfl⟩
        | failed => exact .inl ⟨_, rfl⟩
      · simp only [hash, ne_eq, not_false_eq_true, ↓reduceIte]
        exact .inl ⟨_, rfl⟩

end IdempotencyRecords
end InterWeave
