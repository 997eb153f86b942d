import InterWeave.Events.DomainEvents
import InterWeave.Core.IsoDate
import Mathlib.Data.List.Induction

/-! # Stored events and reorganizations

An indexer reports a log again when its block is abandoned or replaced. The identity of
an event leaves block and status aside, and the table keeps the first event of each
identity: what later observations say of the same log is dropped.
-/

namespace InterWeave

/-- A report of a log: in a block, or removed from it. -/
structure LogObservation where
  event : ParsedEvmEvent
  input : EvmEventInput

namespace EvmEventNormalizer

variable {platform : Platform} {normalizer : EvmEventNormalizer}

/-- The event of an observation, if there is one. -/
def eventOf (platform : Platform) (normalizer : EvmEventNormalizer)
    (observation : LogObservation) : Option NormalizedDomainEvent :=
  match normalizer.normalize platform observation.event observation.input with
  | .ok event => event
  | .error _ => none

/-- Normalize an observation and ingest its event. -/
def observe (platform : Platform) (normalizer : EvmEventNormalizer) (events : NormalizedEvents)
    (observation : LogObservation) : Except Thrown (Option IngestOutcome × NormalizedEvents) := do
  match ← normalizer.normalize platform observation.event observation.input with
  | none => return (none, events)
  | some event => do
      let (outcome, events) ← events.ingest event
      return (some outcome, events)

/-- The table after an observation. What throws leaves it as it was. -/
def afterObservation (platform : Platform) (normalizer : EvmEventNormalizer)
    (events : NormalizedEvents) (observation : LogObservation) : NormalizedEvents :=
  match normalizer.observe platform events observation with
  | .ok (_, next) => next
  | .error _ => events

/-- The table after a sequence of observations. -/
def run (platform : Platform) (normalizer : EvmEventNormalizer)
    (observations : List LogObservation) : NormalizedEvents :=
  observations.foldl (normalizer.afterObservation platform) .empty

theorem run_append (front : List LogObservation) (observation : LogObservation) :
    normalizer.run platform (front ++ [observation]) =
      normalizer.afterObservation platform (normalizer.run platform front) observation := by
  rw [run, List.foldl_append]
  rfl

theorem eventOf_fields {observation : LogObservation} {event : NormalizedDomainEvent}
    (normalized : normalizer.eventOf platform observation = some event) :
    event.networkTransactionId = observation.event.log.transactionHash ∧
      event.position = observation.event.log.position ∧
      event.observation = observation.event.log.observation := by
  rw [eventOf] at normalized
  split at normalized
  · rename_i returned
    rw [normalized, normalize] at returned
    cases decoding : normalizer.decode observation.event with
    | error error =>
        rw [decoding] at returned
        cases returned
    | ok decoded =>
        rw [decoding] at returned
        cases decoded with
        | none => cases returned
        | some decoded =>
            cases asserted : assertDecoded decoded with
            | error error =>
                simp only [bind, Except.bind, asserted] at returned
                cases returned
            | ok _ =>
                simp only [bind, Except.bind, asserted] at returned
                split at returned
                · cases returned
                split at returned
                · cases returned
                cases returned
                exact ⟨rfl, rfl, rfl⟩
  · cases normalized

/-- An observation adds the row of its event, or none. -/
theorem afterObservation_rows (platform : Platform) (normalizer : EvmEventNormalizer)
    (events : NormalizedEvents) (observation : LogObservation) :
    (normalizer.afterObservation platform events observation).rows = events.rows ∨
      ∃ event, normalizer.eventOf platform observation = some event ∧
        (normalizer.afterObservation platform events observation).rows =
          events.rows ++ [event] := by
  rw [afterObservation, observe, eventOf]
  cases normalizer.normalize platform observation.event observation.input with
  | error error => exact Or.inl rfl
  | ok event =>
      cases event with
      | none => exact Or.inl rfl
      | some event =>
          simp only [bind, Except.bind, NormalizedEvents.ingest]
          split_ifs
          · exact Or.inl rfl
          · exact Or.inl rfl
          · exact Or.inr ⟨event, rfl, rfl⟩

end EvmEventNormalizer

/-! ## The latest observation of a log -/

/-- The row of an event was written for the log of an observation: the transaction and the
index of the log are the same. -/
def NormalizedDomainEvent.isOf (row : NormalizedDomainEvent) (observation : LogObservation) :
    Bool :=
  row.networkTransactionId.toLowerCase = observation.event.log.transactionHash.toLowerCase &&
    match row.position with
    | .evmLog _ _ logIndex => logIndex = bigintText observation.event.log.logIndex
    | .cantonOffset _ _ => false

/-- The row says what the observation says. -/
def NormalizedDomainEvent.Repeats (row : NormalizedDomainEvent) (observation : LogObservation) :
    Prop :=
  row.observation = observation.event.log.observation ∧
    row.position = observation.event.log.position

namespace EvmEventNormalizer

variable {platform : Platform} {normalizer : EvmEventNormalizer}

/-- The latest observation of the log that a row was written for. -/
def latest (platform : Platform) (normalizer : EvmEventNormalizer) (row : NormalizedDomainEvent)
    (observations : List LogObservation) : Option LogObservation :=
  (observations.filter fun observation =>
    (normalizer.eventOf platform observation).isSome && row.isOf observation).getLast?

/-- Every stored event says what the latest observation of its log says. -/
def CarriesLatest (platform : Platform) (normalizer : EvmEventNormalizer)
    (observations : List LogObservation) : Prop :=
  ∀ row ∈ (normalizer.run platform observations).rows, ∀ observation,
    normalizer.latest platform row observations = some observation → row.Repeats observation

/-- The next observation says nothing new: a stored event of its log already says it. -/
def SaysNothingNew (platform : Platform) (normalizer : EvmEventNormalizer)
    (events : NormalizedEvents) (observation : LogObservation) : Prop :=
  (normalizer.eventOf platform observation).isSome = true →
    ∀ row ∈ events.rows, row.isOf observation = true → row.Repeats observation

theorem latest_append {row : NormalizedDomainEvent} {front : List LogObservation}
    {observation : LogObservation} :
    normalizer.latest platform row (front ++ [observation]) =
      if (normalizer.eventOf platform observation).isSome && row.isOf observation then
        some observation
      else normalizer.latest platform row front := by
  rw [latest, latest, List.filter_append]
  split_ifs with concerns
  · simp only [List.filter_cons, concerns, if_true, List.filter_nil, List.getLast?_concat]
  · simp only [List.filter_cons, concerns, if_false, List.filter_nil, List.append_nil,
      Bool.false_eq_true]

/-- The event of an observation is of the log of that observation. -/
theorem isOf_of_eventOf {observation : LogObservation} {event : NormalizedDomainEvent}
    (normalized : normalizer.eventOf platform observation = some event) :
    event.isOf observation = true ∧ event.Repeats observation := by
  obtain ⟨transaction, position, status⟩ := eventOf_fields normalized
  refine ⟨?_, status, position⟩
  simp only [NormalizedDomainEvent.isOf, transaction, position, EvmLog.position, decide_true,
    Bool.and_self]

theorem mem_run_append {row : NormalizedDomainEvent} {front : List LogObservation}
    (member : row ∈ (normalizer.run platform front).rows) (observation : LogObservation) :
    row ∈ (normalizer.run platform (front ++ [observation])).rows := by
  rw [run_append]
  rcases normalizer.afterObservation_rows platform
    (normalizer.run platform front) observation with same | ⟨event, _, added⟩
  · rw [same]
    exact member
  · rw [added]
    exact List.mem_append_left _ member

/-- One observation that says nothing new keeps the law. -/
theorem CarriesLatest.step {front : List LogObservation} {observation : LogObservation}
    (carries : normalizer.CarriesLatest platform front)
    (nothingNew : normalizer.SaysNothingNew platform (normalizer.run platform front)
      observation) :
    normalizer.CarriesLatest platform (front ++ [observation]) := by
  have kept : ∀ row ∈ (normalizer.run platform front).rows, ∀ other,
      normalizer.latest platform row (front ++ [observation]) = some other →
        row.Repeats other := by
    intro row member other newest
    rw [latest_append] at newest
    split_ifs at newest with concerns
    · cases newest
      rw [Bool.and_eq_true] at concerns
      exact nothingNew concerns.1 row member concerns.2
    · exact carries row member other newest
  intro row member other newest
  rw [run_append] at member
  rcases normalizer.afterObservation_rows platform
    (normalizer.run platform front) observation with same | ⟨event, normalized, added⟩
  · rw [same] at member
    exact kept row member other newest
  · rw [added] at member
    rcases List.mem_append.mp member with earlier | here
    · exact kept row earlier other newest
    · obtain rfl := List.mem_singleton.mp here
      obtain ⟨own, repeats⟩ := isOf_of_eventOf normalized
      rw [latest_append, normalized, own] at newest
      cases newest
      exact repeats

/-- **When stored events keep up with a reorganization.** After every step of a sequence of
observations, each stored event carries the status and the block position of the latest
observation of its log, exactly when no observation of a log that is already stored says
anything new. -/
theorem carriesLatest_iff (platform : Platform) (normalizer : EvmEventNormalizer)
    (observations : List LogObservation) :
    (∀ front rest, observations = front ++ rest → normalizer.CarriesLatest platform front) ↔
      ∀ front observation rest, observations = front ++ observation :: rest →
        normalizer.SaysNothingNew platform (normalizer.run platform front) observation := by
  constructor
  · intro carries front observation rest split normalized row member own
    have after := carries (front ++ [observation]) rest (by rw [split, List.append_assoc]; rfl)
    refine after row (mem_run_append member observation) observation ?_
    rw [latest_append, normalized, own]
    rfl
  · intro nothingNew front
    induction front using List.reverseRecOn with
    | nil =>
        intro _ _ row member
        cases member
    | append_singleton front observation ih =>
        intro rest split
        rw [List.append_assoc, List.singleton_append] at split
        exact (ih (observation :: rest) split).step (nothingNew front observation rest split)

end EvmEventNormalizer

/-! ## A removed log -/

namespace RemovedLog

def normalizer : EvmEventNormalizer where
  networkId := js "IW:NETWORK:evm-test"
  decode _ := .ok (some ⟨.assetTransferred, js "IW:ASSET:usd", [(js "amount", .string (js "5"))]⟩)

def report (removed : Bool) : LogObservation where
  event := {
    name := js "Transfer"
    signature := js "Transfer(address,address,uint256)"
    address := js "0x01"
    arguments := []
    log := ⟨js "0x01", [], js "0x", 10, js "0xaa", js "0xbb", 2, removed⟩ }
  input := ⟨js "2026-08-08T00:00:00.000Z", js "2026-08-08T00:00:01.000Z", js "1"⟩

theorem removed_left_canonical :
    ¬ ∀ front rest, [report false, report true] = front ++ rest →
      normalizer.CarriesLatest isoPlatform front := by
  intro carries
  have stored : (normalizer.run isoPlatform [report false, report true]).rows.map
      (fun row => (row.observation, (normalizer.latest isoPlatform row
        [report false, report true]).map fun latest => latest.event.log.removed)) =
      [(.canonical, some true)] := by decide +kernel
  obtain ⟨row, member, told⟩ := List.mem_map.mp (stored ▸ List.mem_singleton_self _)
  rw [Prod.mk.injEq, Option.map_eq_some_iff] at told
  obtain ⟨canonical, latest, newest, removed⟩ := told
  have repeats := (carries _ [] rfl row member latest newest).1
  rw [canonical, EvmLog.observation, removed] at repeats
  cases repeats

end RemovedLog
end InterWeave
