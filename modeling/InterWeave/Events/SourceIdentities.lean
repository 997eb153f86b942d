import InterWeave.Atomic.Machine
import InterWeave.Core.Fingerprints
import InterWeave.Core.IsoDate
import InterWeave.Core.Unicode
import InterWeave.Events.DomainEvents
import InterWeave.Text.Separators
import Mathlib.Data.List.Induction

/-! # Source identities

The source key of an event joins by colons what its network says of the place of the event, and
the identifier hashes network and key joined by a bar. Transactions, offsets and networks are free
texts and may contain both: the table of events tells two sources apart where neither can be read
into the other.
-/

namespace InterWeave

open Atomic JsString Text

variable {platform : Platform}

/-! ## Places -/

/-- The place of an event in the records of its network, as far as the normalizers look at it. -/
inductive SourcePlace where
  | canton (transactionId offset eventIndex : JsString)
  | evm (transactionHash : JsString) (logIndex : Int)
  deriving DecidableEq, Repr

namespace SourcePlace

variable {first second other : SourcePlace}

/-- The source key that the normalizers write for a place. -/
def sourceEventKey : SourcePlace → JsString
  | canton transactionId offset eventIndex =>
      js "canton:" ++ transactionId ++ js ":" ++ offset ++ js ":" ++ eventIndex
  | evm transactionHash logIndex =>
      js "evm:" ++ transactionHash.toLowerCase ++ js ":" ++ bigintText logIndex

/-- The places are one. The case of a transaction hash says nothing. -/
def Same : SourcePlace → SourcePlace → Prop
  | canton transactionId offset eventIndex, canton otherTransaction otherOffset otherIndex =>
      transactionId = otherTransaction ∧ offset = otherOffset ∧ eventIndex = otherIndex
  | evm transactionHash logIndex, evm otherHash otherIndex =>
      transactionHash.toLowerCase = otherHash.toLowerCase ∧ logIndex = otherIndex
  | _, _ => False

/-- The transaction or the offset of one Canton event goes on with a colon, into the offset or the
index of the other. -/
def Shifted : SourcePlace → SourcePlace → Prop
  | canton transactionId offset eventIndex, canton otherTransaction otherOffset otherIndex =>
      Rereads 58 transactionId offset eventIndex otherTransaction otherOffset otherIndex ∨
        Rereads 58 otherTransaction otherOffset otherIndex transactionId offset eventIndex
  | _, _ => False

theorem Shifted.symm (shifted : first.Shifted second) : second.Shifted first := by
  cases first with
  | canton transactionId offset eventIndex =>
      cases second with
      | canton otherTransaction otherOffset otherIndex => exact Or.symm shifted
      | evm otherHash otherIndex => exact shifted.elim
  | evm transactionHash logIndex => exact shifted.elim

theorem Shifted.not_same (shifted : first.Shifted second) : ¬ first.Same second := by
  intro same
  cases first with
  | canton transactionId offset eventIndex =>
      cases second with
      | canton otherTransaction otherOffset otherIndex =>
          obtain ⟨rfl, rfl, rfl⟩ := same
          rcases shifted with rereads | rereads
          · exact rereads.ne rfl
          · exact rereads.ne rfl
      | evm otherHash otherIndex => exact shifted
  | evm transactionHash logIndex => exact shifted

/-- A Canton event is read into every report of another one alike. -/
theorem Shifted.of_same (shifted : first.Shifted second) (same : other.Same second) :
    first.Shifted other := by
  cases first with
  | canton transactionId offset eventIndex =>
      cases second with
      | canton otherTransaction otherOffset otherIndex =>
          cases other with
          | canton =>
              obtain ⟨rfl, rfl, rfl⟩ := same
              exact shifted
          | evm => exact same.elim
      | evm otherHash otherIndex => exact shifted.elim
  | evm transactionHash logIndex => exact shifted.elim

/-- The places with one key. -/
theorem sourceEventKey_eq_iff :
    first.sourceEventKey = second.sourceEventKey ↔ first.Same second ∨ first.Shifted second := by
  have colon : js ":" = [58] := by decide
  cases first with
  | canton transactionId offset eventIndex =>
      cases second with
      | canton otherTransaction otherOffset otherIndex =>
          simp only [sourceEventKey, Same, Shifted, colon, List.append_assoc, List.cons_append,
            List.nil_append, List.append_cancel_left_eq, joined_three_iff, Prod.mk.injEq]
      | evm otherHash otherIndex =>
          refine iff_of_false (fun same => ?_) (fun either => either.elim id id)
          have starts : some (99 : UInt16) = some 101 := congrArg List.head? same
          exact absurd starts (by decide)
  | evm transactionHash logIndex =>
      cases second with
      | canton otherTransaction otherOffset otherIndex =>
          refine iff_of_false (fun same => ?_) (fun either => either.elim id id)
          have starts : some (101 : UInt16) = some 99 := congrArg List.head? same
          exact absurd starts (by decide)
      | evm otherHash otherIndex =>
          have noColon : ∀ value, (58 : UInt16) ∉ bigintText value := by
            intro value member
            rcases bigintText_units member with sign | digit
            · exact absurd sign (by decide)
            · simp only [UInt16.reduceToNat, Nat.reduceLeDiff, and_false] at digit
          simp only [sourceEventKey, Same, Shifted, colon, List.append_assoc, List.singleton_append,
            List.append_cancel_left_eq, or_false]
          constructor
          · intro same
            obtain ⟨hashes, indices⟩ := split_last (noColon logIndex) (noColon otherIndex) same
            exact ⟨hashes, bigintText_injective indices⟩
          · rintro ⟨hashes, rfl⟩
            rw [hashes]

theorem Same.key (same : first.Same second) : first.sourceEventKey = second.sourceEventKey :=
  sourceEventKey_eq_iff.mpr (.inl same)

end SourcePlace

/-! ## Identifiers -/

/-- A network with a key is read, in UTF-8, into another one: they differ in lone surrogates only,
or one network goes on with a bar, into the key behind the other. -/
def Blurred (first second : JsString × JsString) : Prop :=
  (first.1.encode = second.1.encode ∧ first.2.encode = second.2.encode ∧ first ≠ second) ∨
    Continues 124 first.1.encode first.2.encode second.1.encode second.2.encode ∨
    Continues 124 second.1.encode second.2.encode first.1.encode first.2.encode

theorem Blurred.symm {first second : JsString × JsString} (blurred : Blurred first second) :
    Blurred second first := by
  rcases blurred with ⟨networks, keys, differ⟩ | continues | continues
  · exact .inl ⟨networks.symm, keys.symm, differ.symm⟩
  · exact .inr (.inr continues)
  · exact .inr (.inl continues)

theorem Blurred.ne {first second : JsString × JsString} (blurred : Blurred first second) :
    first ≠ second := by
  rcases blurred with ⟨_, _, differ⟩ | continues | continues
  · exact differ
  · exact fun same => continues.ne (congrArg (fun source => source.1.encode) same)
  · exact fun same => continues.ne (congrArg (fun source => source.1.encode) same.symm)

/-- The networks and keys with one identifier. -/
theorem stableEventId_eq_iff (collisionFree : Function.Injective platform.sha256Hex)
    {first second : JsString × JsString} :
    stableEventId platform first.1 first.2 = stableEventId platform second.1 second.2 ↔
      first = second ∨ Blurred first second := by
  have bar : js "|" = [124] := by decide
  have joined : ∀ source : JsString × JsString, (source.1 ++ js "|" ++ source.2).encode =
      source.1.encode ++ 124 :: source.2.encode := by
    intro source
    rw [bar, List.append_assoc, List.singleton_append]
    exact encode_separated (by decide) source.1 source.2
  rw [stableEventId, stableEventId, List.append_cancel_left_eq, collisionFree.eq_iff, joined,
    joined, joined_eq_iff]
  constructor
  · rintro (⟨networks, keys⟩ | continues)
    · by_cases same : first = second
      · exact .inl same
      · exact .inr (.inl ⟨networks, keys, same⟩)
    · exact .inr (.inr continues)
  · rintro (rfl | ⟨networks, keys, _⟩ | continues)
    · exact .inl ⟨rfl, rfl⟩
    · exact .inl ⟨networks, keys⟩
    · exact .inr continues

/-! ## Reports -/

/-- A place on a network. -/
structure EventSource where
  networkId : JsString
  place : SourcePlace
  deriving DecidableEq, Repr

namespace EventSource

variable {first second other : EventSource}

/-- What the unique columns hold of a source. -/
def columns (source : EventSource) : JsString × JsString :=
  (source.networkId, source.place.sourceEventKey)

def Same (first second : EventSource) : Prop :=
  first.networkId = second.networkId ∧ first.place.Same second.place

/-- One source is read into the other, by the key or by the identifier. -/
def Confused (first second : EventSource) : Prop :=
  (first.networkId = second.networkId ∧ first.place.Shifted second.place) ∨
    Blurred first.columns second.columns

theorem columns_eq_iff : first.columns = second.columns ↔ first.Same second ∨
    (first.networkId = second.networkId ∧ first.place.Shifted second.place) := by
  rw [columns, columns, Prod.mk.injEq, SourcePlace.sourceEventKey_eq_iff, and_or_left, Same]

theorem Confused.symm (confused : first.Confused second) : second.Confused first := by
  rcases confused with ⟨network, shifted⟩ | blurred
  · exact .inl ⟨network.symm, shifted.symm⟩
  · exact .inr blurred.symm

theorem not_confused_self (source : EventSource) : ¬ source.Confused source := by
  rintro (⟨_, shifted⟩ | blurred)
  · apply shifted.not_same
    cases source.place with
    | canton => exact ⟨rfl, rfl, rfl⟩
    | evm => exact ⟨rfl, rfl⟩
  · exact blurred.ne rfl

theorem Confused.of_same (confused : first.Confused second) (same : other.Same second) :
    first.Confused other := by
  rcases confused with ⟨network, shifted⟩ | blurred
  · exact .inl ⟨network.trans same.1.symm, shifted.of_same same.2⟩
  · apply Or.inr
    rwa [columns_eq_iff.mpr (.inl same)]

end EventSource

/-- One of the normalizers returns the event for the source. -/
inductive Normalizes (platform : Platform) : EventSource → NormalizedDomainEvent → Prop where
  | canton {normalizer : CantonEventNormalizer} {event : CantonEvent} {input : CantonEventInput}
      {normalized : NormalizedDomainEvent}
      (returned : normalizer.normalize platform event input = .ok (some normalized)) :
      Normalizes platform ⟨normalizer.networkId,
        .canton event.transactionId event.offset input.eventIndex⟩ normalized
  | evm {normalizer : EvmEventNormalizer} {event : ParsedEvmEvent} {input : EvmEventInput}
      {normalized : NormalizedDomainEvent}
      (returned : normalizer.normalize platform event input = .ok (some normalized)) :
      Normalizes platform ⟨normalizer.networkId,
        .evm event.log.transactionHash event.log.logIndex⟩ normalized

/-- What the table looks at in an event. -/
theorem Normalizes.columns {source : EventSource} {event : NormalizedDomainEvent}
    (normalizes : Normalizes platform source event) : event.source = source.columns ∧
      event.id = stableEventId platform source.columns.1 source.columns.2 := by
  cases normalizes with
  | @canton normalizer event input normalized returned =>
      obtain ⟨decoded, _, returned⟩ := ok_of_bind returned
      cases decoded with
      | none => cases returned
      | some decoded =>
          obtain ⟨_, _, returned⟩ := ok_of_bind returned
          obtain ⟨_, _, returned⟩ := ok_of_bind returned
          obtain ⟨_, _, returned⟩ := ok_of_bind returned
          split at returned
          · cases returned
          · cases returned
            exact ⟨rfl, rfl⟩
  | @evm normalizer event input normalized returned =>
      obtain ⟨decoded, _, returned⟩ := ok_of_bind returned
      cases decoded with
      | none => cases returned
      | some decoded =>
          obtain ⟨_, _, returned⟩ := ok_of_bind returned
          obtain ⟨_, _, returned⟩ := ok_of_bind returned
          obtain ⟨_, _, returned⟩ := ok_of_bind returned
          cases returned
          exact ⟨rfl, rfl⟩

/-- An event with the source that it was normalized for. -/
structure EventReport (platform : Platform) where
  source : EventSource
  event : NormalizedDomainEvent
  normalizes : Normalizes platform source event

/-! ## The table -/

namespace NormalizedEvents

variable {events next : NormalizedEvents} {event : NormalizedDomainEvent} {outcome : IngestOutcome}

/-- The table after an event. What throws leaves it as it was. -/
def afterEvent (events : NormalizedEvents) (event : NormalizedDomainEvent) : NormalizedEvents :=
  match events.ingest event with
  | .ok (_, next) => next
  | .error _ => events

/-- The outcome of an event that is ingested, and the rows after it. -/
theorem ingest_ok (ingested : events.ingest event = .ok (outcome, next)) :
    (outcome = .duplicate ∧ event.source ∈ events.rows.map NormalizedDomainEvent.source ∧
        next = events) ∨
      (outcome = .inserted ∧ event.source ∉ events.rows.map NormalizedDomainEvent.source ∧
        event.id ∉ events.rows.map NormalizedDomainEvent.id ∧
        next.rows = events.rows ++ [event]) := by
  rw [ingest] at ingested
  split_ifs at ingested with known taken
  · cases ingested
    exact .inl ⟨rfl, known, rfl⟩
  · cases ingested
    exact .inr ⟨rfl, known, taken, rfl⟩

theorem afterEvent_rows (events : NormalizedEvents) (event : NormalizedDomainEvent) :
    (events.afterEvent event).rows = events.rows ∨
      (events.afterEvent event).rows = events.rows ++ [event] := by
  rw [afterEvent]
  split
  · rename_i ingested
    rcases ingest_ok ingested with ⟨_, _, rfl⟩ | ⟨_, _, _, added⟩
    · exact .inl rfl
    · exact .inr added
  · exact .inl rfl

theorem mem_sources_of_ingest (ingested : events.ingest event = .ok (outcome, next))
    {source : JsString × JsString} :
    source ∈ next.rows.map NormalizedDomainEvent.source ↔
      source ∈ events.rows.map NormalizedDomainEvent.source ∨ source = event.source := by
  rcases ingest_ok ingested with ⟨_, known, rfl⟩ | ⟨_, _, _, added⟩
  · refine ⟨Or.inl, fun either => either.elim id ?_⟩
    rintro rfl
    exact known
  · rw [added, List.map_append, List.mem_append, List.map_singleton, List.mem_singleton]

end NormalizedEvents

namespace EventReport

variable {next : EventReport platform} {reports front : List (EventReport platform)}

/-- The table after ingesting the events of reports, one after the other. -/
def table (reports : List (EventReport platform)) : NormalizedEvents :=
  reports.foldl (fun events report => events.afterEvent report.event) .empty

/-- The next event is ingested, and reported as a duplicate if and only if its source was reported
before. -/
def ToldApart (front : List (EventReport platform)) (next : EventReport platform) : Prop :=
  ∃ outcome events, (table front).ingest next.event = .ok (outcome, events) ∧
    (outcome = .duplicate ↔ ∃ report ∈ front, report.source.Same next.source)

/-- Every event of a run is told from the events before it. -/
def AllToldApart (reports : List (EventReport platform)) : Prop :=
  ∀ front next rest, reports = front ++ next :: rest → ToldApart front next

theorem table_append (front : List (EventReport platform)) (next : EventReport platform) :
    table (front ++ [next]) = (table front).afterEvent next.event := by
  rw [table, List.foldl_append]
  rfl

theorem allToldApart_append :
    AllToldApart (front ++ [next]) ↔ AllToldApart front ∧ ToldApart front next := by
  constructor
  · intro told
    refine ⟨fun earlier report rest split => ?_, told front next [] rfl⟩
    exact told earlier report (rest ++ [next]) (by rw [split, List.append_assoc, List.cons_append])
  · rintro ⟨told, last⟩ earlier report rest split
    rcases rest.eq_nil_or_concat' with rfl | ⟨rest, final, rfl⟩
    · obtain ⟨rfl, same⟩ := List.append_inj' split rfl
      rwa [← (List.cons.inj same).1]
    · rw [← List.cons_append, ← List.append_assoc] at split
      exact told earlier report rest (List.append_inj' split rfl).1

/-- Rows are events of reports. -/
theorem exists_report_of_row {row : NormalizedDomainEvent} (member : row ∈ (table reports).rows) :
    ∃ report ∈ reports, report.event = row := by
  induction reports using List.reverseRecOn with
  | nil => cases member
  | append_singleton front next ih =>
      rw [table_append] at member
      have earlier : row ∈ (table front).rows → ∃ report ∈ front ++ [next], report.event = row := by
        intro stored
        obtain ⟨report, among, own⟩ := ih stored
        exact ⟨report, List.mem_append_left _ among, own⟩
      rcases (table front).afterEvent_rows next.event with same | added
      · exact earlier (same ▸ member)
      · rw [added, List.mem_append, List.mem_singleton] at member
        rcases member with stored | rfl
        · exact earlier stored
        · exact ⟨next, List.mem_append_right _ List.mem_cons_self, rfl⟩

/-- Every source of a run whose events were told apart is stored. -/
theorem stored_of_told (told : AllToldApart reports) {source : JsString × JsString} :
    source ∈ (table reports).rows.map NormalizedDomainEvent.source ↔
      ∃ report ∈ reports, report.source.columns = source := by
  induction reports using List.reverseRecOn with
  | nil => exact iff_of_false List.not_mem_nil fun ⟨_, member, _⟩ => List.not_mem_nil member
  | append_singleton front next ih =>
      obtain ⟨earlier, outcome, events, ingested, _⟩ := allToldApart_append.mp told
      rw [table_append, NormalizedEvents.afterEvent, ingested,
        NormalizedEvents.mem_sources_of_ingest ingested, ih earlier, next.normalizes.columns.1]
      simp only [List.mem_append, List.mem_singleton, or_and_right, exists_or, exists_eq_left]
      rw [@eq_comm _ source]

/-- Whether an identifier is taken is known from the reports. -/
theorem taken_iff (told : AllToldApart front) :
    next.event.id ∈ (table front).rows.map NormalizedDomainEvent.id ↔
      ∃ report ∈ front, report.event.id = next.event.id := by
  rw [List.mem_map]
  constructor
  · rintro ⟨row, stored, same⟩
    obtain ⟨report, member, rfl⟩ := exists_report_of_row stored
    exact ⟨report, member, same⟩
  · rintro ⟨report, member, same⟩
    have reported := (stored_of_told told).mpr ⟨report, member, rfl⟩
    obtain ⟨row, stored, columns⟩ := List.mem_map.mp reported
    obtain ⟨other, _, rfl⟩ := exists_report_of_row stored
    refine ⟨other.event, stored, ?_⟩
    rw [← same, other.normalizes.columns.2, report.normalizes.columns.2,
      ← other.normalizes.columns.1, columns]

theorem id_eq_iff (collisionFree : Function.Injective platform.sha256Hex)
    (first second : EventReport platform) : first.event.id = second.event.id ↔
      first.source.columns = second.source.columns ∨
        Blurred first.source.columns second.source.columns := by
  rw [first.normalizes.columns.2, second.normalizes.columns.2, stableEventId_eq_iff collisionFree]

/-- One event is told from the events before it if and only if none of these is confused with it. -/
theorem toldApart_iff (collisionFree : Function.Injective platform.sha256Hex)
    (told : AllToldApart front)
    (apart : front.Pairwise fun first second => ¬ first.source.Confused second.source) :
    ToldApart front next ↔ ∀ report ∈ front, ¬ report.source.Confused next.source := by
  have unconfused : ∀ report ∈ front, ∀ other ∈ front,
      ¬ report.source.Confused other.source := fun report member other among =>
    List.Pairwise.forall_of_forall_of_flip
      (fun report _ => EventSource.not_confused_self report.source) apart
      (apart.imp fun clear confused => clear confused.symm) member among
  by_cases known : ∃ report ∈ front, report.source.columns = next.source.columns
  · have ingested : (table front).ingest next.event = .ok (.duplicate, table front) := by
      rw [NormalizedEvents.ingest, dif_pos]
      rw [next.normalizes.columns.1]
      exact (stored_of_told told).mpr known
    constructor
    · rintro ⟨outcome, events, own, duplicate⟩ report member confused
      rw [ingested] at own
      cases own
      obtain ⟨other, among, same⟩ := duplicate.mp rfl
      exact unconfused report member other among (confused.of_same same)
    · intro clear
      refine ⟨.duplicate, table front, ingested, iff_of_true rfl ?_⟩
      obtain ⟨report, member, columns⟩ := known
      rcases EventSource.columns_eq_iff.mp columns with same | shifted
      · exact ⟨report, member, same⟩
      · exact (clear report member (.inl shifted)).elim
  · have new : next.event.source ∉ (table front).rows.map NormalizedDomainEvent.source := by
      rw [next.normalizes.columns.1, stored_of_told told]
      exact known
    have unreported : ¬ ∃ report ∈ front, report.source.Same next.source :=
      fun ⟨report, member, same⟩ =>
        known ⟨report, member, EventSource.columns_eq_iff.mpr (.inl same)⟩
    constructor
    · rintro ⟨outcome, events, own, _⟩ report member confused
      rcases NormalizedEvents.ingest_ok own with ⟨_, stored, _⟩ | ⟨_, _, untaken, _⟩
      · exact new stored
      · rcases confused with shifted | blurred
        · exact known ⟨report, member, EventSource.columns_eq_iff.mpr (.inr shifted)⟩
        · exact untaken ((taken_iff told).mpr
            ⟨report, member, (id_eq_iff collisionFree report next).mpr (.inr blurred)⟩)
    · intro clear
      have untaken : next.event.id ∉ (table front).rows.map NormalizedDomainEvent.id := by
        rw [taken_iff told]
        rintro ⟨report, member, same⟩
        rcases (id_eq_iff collisionFree report next).mp same with columns | blurred
        · exact known ⟨report, member, columns⟩
        · exact clear report member (.inr blurred)
      refine ⟨.inserted, (table front).afterEvent next.event, ?_, iff_of_false nofun unreported⟩
      rw [NormalizedEvents.afterEvent, NormalizedEvents.ingest, dif_neg new, dif_neg untaken]

/-- A run tells its events apart if and only if no two of its sources are confused. -/
theorem allToldApart_iff (collisionFree : Function.Injective platform.sha256Hex) :
    AllToldApart reports ↔
      reports.Pairwise fun first second => ¬ first.source.Confused second.source := by
  induction reports using List.reverseRecOn with
  | nil =>
      refine iff_of_true (fun front next rest split => ?_) .nil
      exact (List.append_ne_nil_of_right_ne_nil front (List.cons_ne_nil next rest) split.symm).elim
  | append_singleton front next ih =>
      rw [allToldApart_append, List.pairwise_append, ih]
      constructor
      · rintro ⟨apart, told⟩
        refine ⟨apart, List.pairwise_singleton _ _, fun report member other among => ?_⟩
        rw [List.mem_singleton.mp among]
        exact (toldApart_iff collisionFree (ih.mpr apart) apart).mp told report member
      · rintro ⟨apart, _, clear⟩
        refine ⟨apart, (toldApart_iff collisionFree (ih.mpr apart) apart).mpr ?_⟩
        exact fun report member => clear report member next List.mem_cons_self

end EventReport

/-- **When identities tell sources apart.** Two events have one key for one place only if and only
if neither place is shifted into the other, as no EVM log is. They have one identifier for one
network and key only if and only if these are not blurred into each other. And the table takes every
event of a run, reporting as duplicates the ones whose source was reported before and no others, if
and only if no two sources of the run are confused. -/
theorem sourceIdentities_iff (collisionFree : Function.Injective platform.sha256Hex) :
    (∀ first second : EventReport platform,
      (first.event.sourceEventKey = second.event.sourceEventKey ↔
        first.source.place.Same second.source.place) ↔
          ¬ first.source.place.Shifted second.source.place) ∧
    (∀ first second : EventReport platform,
      (first.event.id = second.event.id ↔ first.event.networkId = second.event.networkId ∧
        first.event.sourceEventKey = second.event.sourceEventKey) ↔
          ¬ Blurred first.source.columns second.source.columns) ∧
    ∀ reports : List (EventReport platform), EventReport.AllToldApart reports ↔
      reports.Pairwise fun first second => ¬ first.source.Confused second.source := by
  refine ⟨fun first second => ?_, fun first second => ?_,
    fun reports => EventReport.allToldApart_iff collisionFree⟩
  · have own : ∀ report : EventReport platform,
        report.event.sourceEventKey = report.source.place.sourceEventKey :=
      fun report => congrArg Prod.snd report.normalizes.columns.1
    rw [own first, own second, SourcePlace.sourceEventKey_eq_iff]
    constructor
    · exact fun claim shifted => shifted.not_same (claim.mp (.inr shifted))
    · exact fun clear => or_iff_left clear
  · rw [EventReport.id_eq_iff collisionFree, ← Prod.mk.injEq]
    change (_ ↔ first.event.source = second.event.source) ↔ _
    rw [first.normalizes.columns.1, second.normalizes.columns.1]
    constructor
    · exact fun claim blurred => blurred.ne (claim.mp (.inr blurred))
    · exact fun clear => or_iff_left clear

/-! ## Moved separators -/

namespace MovedSeparators

def released : DecodedDomainEvent :=
  ⟨.assetReleased, js "IW:ASSET:usd",
    [(js "owner", .string (js "bob")), (js "amount", .string (js "5"))]⟩

def normalizer (networkId : JsString) : CantonEventNormalizer :=
  ⟨networkId, fun _ => .ok (some released)⟩

def created (transactionId offset : JsString) : CantonEvent :=
  ⟨offset, transactionId, js "CREATED", js "Token:Transfer", .object [], [js "Bob::p"]⟩

def received (eventIndex : JsString) : CantonEventInput :=
  ⟨eventIndex, js "2026-08-08T00:00:00.000Z", js "2026-08-08T00:00:01.000Z", js "participant-1"⟩

/-- Any filled place of any Canton network is reported. -/
theorem reported (networkId transactionId offset eventIndex : JsString)
    (filled : (transactionId.isBlank || offset.isBlank || eventIndex.isBlank) = false) :
    ∃ report : EventReport isoPlatform,
      report.source = ⟨networkId, .canton transactionId offset eventIndex⟩ := by
  have decoded : assertDecoded released = .ok () := by decide
  have timed : (isoPlatform.dateParse (js "2026-08-08T00:00:00.000Z")).isNone = false := by decide
  have taken : (isoPlatform.dateParse (js "2026-08-08T00:00:01.000Z")).isNone = false := by decide
  have returned : ∃ normalized, (normalizer networkId).normalize isoPlatform
      (created transactionId offset) (received eventIndex) = .ok (some normalized) := by
    simp only [CantonEventNormalizer.normalize, normalizer, received, created, bind, Except.bind,
      decoded, assertTimestamp, timed, taken, filled, Bool.false_eq_true, ↓reduceIte]
    exact ⟨_, rfl⟩
  obtain ⟨normalized, returned⟩ := returned
  exact ⟨⟨_, normalized, .canton returned⟩, rfl⟩

/-- The table after one event holds that event. -/
theorem table_single (report : EventReport isoPlatform) :
    (EventReport.table [report]).rows = [report.event] := by
  have untaken : report.event.source ∉ NormalizedEvents.empty.rows.map
      NormalizedDomainEvent.source := List.not_mem_nil
  have free : report.event.id ∉ NormalizedEvents.empty.rows.map NormalizedDomainEvent.id :=
    List.not_mem_nil
  change (NormalizedEvents.empty.afterEvent report.event).rows = _
  rw [NormalizedEvents.afterEvent, NormalizedEvents.ingest, dif_neg untaken, dif_neg free]
  rfl

def canton : JsString := js "IW:NETWORK:canton"

/-- **Two events with one key, two with one identifier.** A colon moves from a transaction into an
offset: the second event is dropped as a duplicate. A bar moves from a transaction into a network:
the second event fails on the primary key. -/
theorem identities_shared :
    (∃ first second : EventReport isoPlatform,
      first.source = ⟨canton, .canton (js "tx:7") (js "42") (js "0")⟩ ∧
      second.source = ⟨canton, .canton (js "tx") (js "7:42") (js "0")⟩ ∧
      ¬ first.source.place.Same second.source.place ∧
      first.event.sourceEventKey = second.event.sourceEventKey ∧
      (EventReport.table [first]).ingest second.event =
        .ok (.duplicate, EventReport.table [first])) ∧
    ∃ first second : EventReport isoPlatform,
      first.source = ⟨canton, .canton (js "tx|canton:ty") (js "42") (js "0")⟩ ∧
      second.source = ⟨canton ++ js "|canton:tx", .canton (js "ty") (js "42") (js "0")⟩ ∧
      first.event.networkId ≠ second.event.networkId ∧ first.event.id = second.event.id ∧
      (EventReport.table [first]).ingest second.event =
        .error (.error (js "duplicate key value violates unique constraint")) := by
  constructor
  · obtain ⟨first, own⟩ := reported canton (js "tx:7") (js "42") (js "0") (by decide)
    obtain ⟨second, other⟩ := reported canton (js "tx") (js "7:42") (js "0") (by decide)
    have columns : first.event.source = second.event.source := by
      rw [first.normalizes.columns.1, second.normalizes.columns.1, own, other]
      decide
    refine ⟨first, second, own, other, ?_, congrArg Prod.snd columns, ?_⟩
    · rw [own, other]
      rintro ⟨transactions, _⟩
      exact absurd transactions (by decide)
    · rw [NormalizedEvents.ingest, dif_pos]
      rw [table_single, ← columns]
      exact List.mem_singleton_self _
  · obtain ⟨first, own⟩ := reported canton (js "tx|canton:ty") (js "42") (js "0") (by decide)
    obtain ⟨second, other⟩ := reported (canton ++ js "|canton:tx") (js "ty") (js "42") (js "0")
      (by decide)
    have networks : first.event.networkId ≠ second.event.networkId := by
      have differ : first.event.source.1 ≠ second.event.source.1 := by
        rw [first.normalizes.columns.1, second.normalizes.columns.1, own, other]
        decide
      exact differ
    have ids : first.event.id = second.event.id := by
      rw [first.normalizes.columns.2, second.normalizes.columns.2, own, other, stableEventId,
        stableEventId]
      decide +kernel
    refine ⟨first, second, own, other, networks, ids, ?_⟩
    rw [NormalizedEvents.ingest, dif_neg, dif_pos]
    · rw [table_single, ← ids]
      exact List.mem_singleton_self _
    · rw [table_single]
      intro known
      exact networks (congrArg Prod.fst (List.mem_singleton.mp known)).symm

/-- Two events of a transaction and a second report of the first one. -/
theorem transaction_told_apart : ∃ first again second : EventReport isoPlatform,
    first.source = ⟨canton, .canton (js "tx") (js "42") (js "0")⟩ ∧
    again.source = first.source ∧
    second.source = ⟨canton, .canton (js "tx") (js "42") (js "1")⟩ ∧
    EventReport.AllToldApart [first, again, second] := by
  obtain ⟨first, own⟩ := reported canton (js "tx") (js "42") (js "0") (by decide)
  obtain ⟨again, repeated⟩ := reported canton (js "tx") (js "42") (js "0") (by decide)
  obtain ⟨second, other⟩ := reported canton (js "tx") (js "42") (js "1") (by decide)
  have clear : ¬ EventSource.Confused ⟨canton, .canton (js "tx") (js "42") (js "0")⟩
      ⟨canton, .canton (js "tx") (js "42") (js "1")⟩ := by
    rintro (⟨_, (⟨_, inner⟩ | outer) | ⟨_, inner⟩ | outer⟩ | written | network | network)
    · exact absurd inner.mem (by decide)
    · exact absurd outer.mem (by decide)
    · exact absurd inner.mem (by decide)
    · exact absurd outer.mem (by decide)
    · exact absurd written.2.1 (by decide)
    · exact absurd network.mem (by decide)
    · exact absurd network.mem (by decide)
  refine ⟨first, again, second, own, repeated.trans own.symm, other, ?_⟩
  apply ((sourceIdentities_iff isoPlatform_sha256Hex_injective).2.2 _).mpr
  simp only [List.pairwise_cons, List.mem_cons, List.not_mem_nil, or_false, forall_eq_or_imp,
    forall_eq, own, repeated, other]
  exact ⟨⟨EventSource.not_confused_self _, clear⟩, clear, fun _ member => member.elim, .nil⟩

end MovedSeparators

end InterWeave
