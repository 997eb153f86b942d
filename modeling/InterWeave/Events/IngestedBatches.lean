import InterWeave.Core.IsoDate
import InterWeave.Events.EventIndexer

/-! # Ingested batches

An item is skipped when its sequence is not beyond the checkpoint, and the checkpoint moves with
every item that is not skipped. Whether skipping loses an event is therefore up to the batch: two
items may carry one sequence, as the logs of one block do. A batch that skips only events which
are stored, or which it has taken before, is ingested as a whole.
-/

namespace InterWeave

open Async

namespace EventBatch

variable {Source : Type} (processor : CheckpointedEventProcessor Source)

/-- The items that are not skipped, from a checkpoint's sequence on. -/
def taken (position : Option JsString) : List (EventBatchItem Source) → List (EventBatchItem Source)
  | [] => []
  | item :: rest =>
      if item.skippedAt position then taken position rest
      else item :: taken (some item.sequence) rest

/-- The items that have been skipped when a number of checkpoints have been saved. -/
def skipped (position : Option JsString) (saves : Nat) :
    List (EventBatchItem Source) → List (EventBatchItem Source)
  | [] => []
  | item :: rest =>
      if item.skippedAt position then item :: skipped position saves rest
      else
        match saves with
        | 0 => []
        | saves + 1 => skipped (some item.sequence) saves rest

/-- The events that items carry, by the columns that identify them. -/
def carried (items : List (EventBatchItem Source)) : List (JsString × JsString) :=
  (items.filterMap processor.eventOf).map NormalizedDomainEvent.source

/-- Every item that is skipped carries an event that is stored, or that an item before it carries
which is not skipped, or none. -/
def SkipsStored (stored : List (JsString × JsString)) :
    Option JsString → List (EventBatchItem Source) → Prop
  | _, [] => True
  | position, item :: rest =>
      if item.skippedAt position then
        (∀ source ∈ carried processor [item], source ∈ stored) ∧
          SkipsStored stored position rest
      else SkipsStored (stored ++ carried processor [item]) (some item.sequence) rest

instance SkipsStored.decide (stored : List (JsString × JsString)) (position : Option JsString)
    (items : List (EventBatchItem Source)) :
    Decidable (SkipsStored processor stored position items) :=
  match items with
  | [] => .isTrue trivial
  | item :: rest =>
      if skips : item.skippedAt position then
        have := SkipsStored.decide stored position rest
        decidable_of_iff ((∀ source ∈ carried processor [item], source ∈ stored) ∧
          SkipsStored processor stored position rest) (by simp only [SkipsStored, skips, ↓reduceIte])
      else
        have := SkipsStored.decide (stored ++ carried processor [item]) (some item.sequence) rest
        decidable_of_iff (SkipsStored processor (stored ++ carried processor [item])
          (some item.sequence) rest) (by
            simp only [SkipsStored, skips, Bool.false_eq_true, ↓reduceIte])

variable {processor}

theorem carried_append (front back : List (EventBatchItem Source)) :
    carried processor (front ++ back) = carried processor front ++ carried processor back := by
  rw [carried, List.filterMap_append, List.map_append]
  rfl

theorem carried_cons (item : EventBatchItem Source) (rest : List (EventBatchItem Source)) :
    carried processor (item :: rest) = carried processor [item] ++ carried processor rest :=
  carried_append [item] rest

theorem carried_singleton (item : EventBatchItem Source) :
    carried processor [item] =
      (processor.eventOf item).toList.map NormalizedDomainEvent.source := by
  rw [carried, List.filterMap_cons]
  cases processor.eventOf item <;> rfl

theorem mem_carried {items : List (EventBatchItem Source)} {item : EventBatchItem Source}
    {event : NormalizedDomainEvent} (member : item ∈ items)
    (normalizes : processor.normalize item.source = .ok (some event)) :
    event.source ∈ carried processor items := by
  apply List.mem_map_of_mem
  apply List.mem_filterMap.mpr
  refine ⟨item, member, ?_⟩
  rw [CheckpointedEventProcessor.eventOf, normalizes]

/-- Items that are taken carry events, and so do items that are skipped. -/
theorem mem_taken_or_skipped (position : Option JsString) {items : List (EventBatchItem Source)}
    {source : JsString × JsString} (member : source ∈ carried processor items) :
    source ∈ carried processor (taken position items) ∨
      source ∈ carried processor (skipped position (taken position items).length items) := by
  induction items generalizing position with
  | nil => exact .inl member
  | cons item rest ih =>
      rw [carried_cons, List.mem_append] at member
      by_cases skips : item.skippedAt position = true
      · simp only [taken, skipped, skips, ↓reduceIte]
        rw [carried_cons item, List.mem_append]
        rcases member with own | later
        · exact .inr (.inl own)
        · exact (ih position later).imp_right .inr
      · simp only [taken, skipped, skips, ↓reduceIte, Bool.false_eq_true, List.length_cons]
        rw [carried_cons item, List.mem_append]
        rcases member with own | later
        · exact .inl (.inl own)
        · exact (ih _ later).imp_left .inr

/-- When the items taken so far have been stored, so have the items skipped so far. -/
theorem SkipsStored.skipped_subset {stored reached : List (JsString × JsString)}
    {position : Option JsString} {items : List (EventBatchItem Source)} {saves : Nat}
    (skips : SkipsStored processor stored position items) (kept : stored ⊆ reached)
    (ingested : carried processor ((taken position items).take saves) ⊆ reached) :
    carried processor (skipped position saves items) ⊆ reached := by
  induction items generalizing stored position saves with
  | nil => exact List.nil_subset _
  | cons item rest ih =>
      by_cases skip : item.skippedAt position = true
      · simp only [SkipsStored, skip, ↓reduceIte] at skips
        simp only [taken, skip, ↓reduceIte] at ingested
        simp only [skipped, skip, ↓reduceIte]
        rw [carried_cons item]
        apply List.append_subset_of_subset_of_subset
        · intro source own
          exact kept (skips.1 source own)
        · exact ih skips.2 kept ingested
      · simp only [SkipsStored, skip, Bool.false_eq_true, ↓reduceIte] at skips
        simp only [taken, skip, Bool.false_eq_true, ↓reduceIte] at ingested
        simp only [skipped, skip, Bool.false_eq_true, ↓reduceIte]
        cases saves with
        | zero => exact List.nil_subset _
        | succ saves =>
            rw [List.take_succ_cons, carried_cons item, List.append_subset] at ingested
            exact ih skips (List.append_subset_of_subset_of_subset kept ingested.1) ingested.2

end EventBatch

/-! ## Transcripts -/

section Transcripts

variable {Source : Type}

/-- The checkpoint that a call of `process` has loaded. -/
def loaded : List (Exchange indexerInterface) → Option (Option IndexerCheckpoint)
  | ⟨.loadCheckpoint _ _, .ok checkpoint⟩ :: _ => some checkpoint
  | _ => none

/-- The events that a call has ingested. -/
def ingested (exchanges : List (Exchange indexerInterface)) : List (JsString × JsString) :=
  exchanges.filterMap fun
    | ⟨.ingest event, .ok _⟩ => some event.source
    | _ => none

/-- The number of checkpoints that a call has saved. -/
def saves (exchanges : List (Exchange indexerInterface)) : Nat :=
  exchanges.countP fun
    | ⟨.saveCheckpoint _ _, .ok _⟩ => true
    | _ => false

/-- A checkpoint is returned as it was saved. -/
def SavedAsGiven : (call : IndexerCall) → indexerInterface.Answer call → Prop
  | .saveCheckpoint checkpoint _, .ok saved => saved = checkpoint
  | _, _ => True

/-- With each checkpoint that it saves, a call has ingested what the items taken so far carry. -/
def IngestsTaken (call : ProcessCall Source) (exchanges : List (Exchange indexerInterface)) :
    Prop :=
  ∀ start ∈ loaded exchanges, EventBatch.carried call.processor
    ((EventBatch.taken (start.map IndexerCheckpoint.sequence) call.items).take (saves exchanges)) ⊆
      ingested exchanges

/-- A call that returns has saved a checkpoint for each item that it has taken. -/
def SavesTaken (call : ProcessCall Source) (exchanges : List (Exchange indexerInterface)) : Prop :=
  ∃ start ∈ loaded exchanges,
    saves exchanges = (EventBatch.taken (start.map IndexerCheckpoint.sequence) call.items).length

/-- The loop stands before the items that are left. -/
structure Standing (call : ProcessCall Source) (start : Option IndexerCheckpoint)
    (passed rest : List (EventBatchItem Source)) (position : Option JsString)
    (exchanges : List (Exchange indexerInterface)) : Prop where
  loads : loaded exchanges = some start
  split : EventBatch.taken (start.map IndexerCheckpoint.sequence) call.items =
    passed ++ EventBatch.taken position rest
  saves : saves exchanges = passed.length
  ingests : EventBatch.carried call.processor passed ⊆ ingested exchanges

variable {call : ProcessCall Source} {start : Option IndexerCheckpoint}
  {passed rest : List (EventBatchItem Source)} {item : EventBatchItem Source}
  {position : Option JsString} {exchanges : List (Exchange indexerInterface)}

theorem loaded_append (more : List (Exchange indexerInterface))
    (loads : loaded exchanges = some start) : loaded (exchanges ++ more) = some start := by
  cases exchanges with
  | nil => cases loads
  | cons exchange later =>
      obtain ⟨asked, answer⟩ := exchange
      cases asked with
      | loadCheckpoint indexerId networkId =>
          cases answer with
          | ok checkpoint => exact loads
          | error error => cases loads
      | _ => cases loads

theorem ingested_append (more : List (Exchange indexerInterface)) :
    ingested (exchanges ++ more) = ingested exchanges ++ ingested more :=
  List.filterMap_append

theorem saves_append (more : List (Exchange indexerInterface)) :
    saves (exchanges ++ more) = saves exchanges + saves more :=
  List.countP_append

namespace Standing

theorem ingestsTaken (standing : Standing call start passed rest position exchanges) :
    IngestsTaken call exchanges := by
  intro other loads
  cases standing.loads.symm.trans loads
  rw [standing.split, standing.saves, List.take_left]
  exact standing.ingests

theorem savesTaken (standing : Standing call start passed [] position exchanges) :
    SavesTaken call exchanges := by
  refine ⟨start, standing.loads, ?_⟩
  rw [standing.split, standing.saves, EventBatch.taken, List.append_nil]

theorem skip (standing : Standing call start passed (item :: rest) position exchanges)
    (skips : item.skippedAt position = true) :
    Standing call start passed rest position exchanges :=
  { standing with
    split := by
      rw [standing.split, EventBatch.taken, if_pos skips] }

/-- An exchange that saves no checkpoint leaves the loop where it stands. -/
theorem grow (standing : Standing call start passed rest position exchanges)
    {exchange : Exchange indexerInterface} (unsaved : InterWeave.saves [exchange] = 0) :
    Standing call start passed rest position (exchanges ++ [exchange]) where
  loads := loaded_append _ standing.loads
  split := standing.split
  saves := by rw [saves_append, unsaved, standing.saves, Nat.add_zero]
  ingests := by
    rw [ingested_append]
    exact List.subset_append_of_subset_left _ standing.ingests

/-- A checkpoint takes the loop past its item. -/
theorem advance (standing : Standing call start passed (item :: rest) position exchanges)
    (beyond : item.skippedAt position ≠ true)
    (carries : EventBatch.carried call.processor [item] ⊆ ingested exchanges)
    (checkpoint saved : IndexerCheckpoint) (expected : Option JsString) :
    Standing call start (passed ++ [item]) rest (some item.sequence)
      (exchanges ++ [⟨.saveCheckpoint checkpoint expected, .ok saved⟩]) where
  loads := loaded_append _ standing.loads
  split := by
    rw [standing.split, EventBatch.taken, if_neg beyond, List.append_assoc, List.singleton_append]
  saves := by
    rw [saves_append, standing.saves, List.length_append]
    rfl
  ingests := by
    rw [EventBatch.carried_append, ingested_append]
    apply List.subset_append_of_subset_left
    exact List.append_subset_of_subset_of_subset standing.ingests carries

end Standing

/-- What calls of `process` do, and what they have done when they settle. -/
abbrev indexerProtocol (call : ProcessCall Source) : Protocol indexerInterface Unit :=
  { transcriptProtocol (fun exchanges _ => IngestsTaken call exchanges) with
    possible := SavedAsGiven }

abbrev BatchSettled (call : ProcessCall Source) (exchanges : List (Exchange indexerInterface))
    (outcome : Except Thrown ProcessedBatch) : Prop :=
  IngestsTaken call exchanges ∧ ∀ result, outcome = .ok result → SavesTaken call exchanges

variable (platform : Platform)

theorem BatchSettled.of_error (standing : Standing call start passed rest position exchanges)
    (error : Thrown) : BatchSettled call exchanges (.error error) :=
  ⟨standing.ingestsTaken, fun _ returned => nomatch returned⟩

/-- Counting an event ingests it, and leaves the loop where it stands. -/
theorem count_follows (standing : Standing call start passed rest position exchanges)
    (inserted duplicates : Nat) (event : Option NormalizedDomainEvent) :
    (CheckpointedEventProcessor.count inserted duplicates event).Follows (indexerProtocol call)
      (fun there outcome => Standing call start passed rest position there ∧
        ∀ counts, outcome = .ok counts →
          event.toList.map NormalizedDomainEvent.source ⊆ ingested there) exchanges := by
  cases event with
  | none => exact ⟨standing, fun _ _ => List.nil_subset _⟩
  | some event =>
      apply Program.Follows.call_seq standing.ingestsTaken
      · intro outcome _
        have ingests : [event.source] ⊆
            ingested (exchanges ++ [⟨.ingest event, .ok outcome⟩]) := by
          rw [ingested_append]
          exact List.subset_append_right _ _
        cases outcome with
        | inserted => exact ⟨standing.grow rfl, fun _ _ => ingests⟩
        | duplicate => exact ⟨standing.grow rfl, fun _ _ => ingests⟩
      · intro error _
        exact ⟨standing.grow rfl, fun _ returned => nomatch returned⟩

theorem processItems_follows {inserted duplicates : Nat} {checkpoint : Option IndexerCheckpoint}
    (standing : Standing call start passed rest (checkpoint.map IndexerCheckpoint.sequence)
      exchanges) :
    (call.processor.processItems platform inserted duplicates checkpoint rest).Follows
      (indexerProtocol call) (BatchSettled call) exchanges := by
  induction rest generalizing passed inserted duplicates checkpoint exchanges with
  | nil => exact ⟨standing.ingestsTaken, fun _ _ => standing.savesTaken⟩
  | cons item rest ih =>
      rw [CheckpointedEventProcessor.processItems]
      by_cases digits : isAtomicAmount item.sequence = true
      · rw [digits, Bool.not_true, if_neg Bool.false_ne_true]
        by_cases skips : item.skippedAt (checkpoint.map IndexerCheckpoint.sequence) = true
        · rw [if_pos skips]
          exact ih (standing.skip skips)
        · rw [if_neg skips]
          apply Program.Follows.ofExcept_seq
          · intro event normalized
            have carries : EventBatch.carried call.processor [item] =
                event.toList.map NormalizedDomainEvent.source := by
              rw [EventBatch.carried_singleton, CheckpointedEventProcessor.eventOf, normalized]
            apply (count_follows standing inserted duplicates event).seq
            · rintro there counts ⟨standing, ingests⟩
              have ingests := ingests counts rfl
              apply Program.Follows.call_seq standing.ingestsTaken
              · intro now _
                have standing := standing.grow
                  (rfl : InterWeave.saves [⟨.now, .ok now⟩] = 0)
                apply Program.Follows.call_seq standing.ingestsTaken
                · rintro saved rfl
                  apply ih
                  apply standing.advance skips
                  rw [carries, ingested_append]
                  exact List.subset_append_of_subset_left _ ingests
                · intro error _
                  exact .of_error (standing.grow rfl) error
              · intro error _
                exact .of_error (standing.grow rfl) error
            · rintro there error ⟨standing, _⟩
              exact .of_error standing error
          · intro error _
            exact .of_error standing error
      · rw [if_pos (by rw [Bool.not_eq_true] at digits; rw [digits]; rfl)]
        exact .of_error standing _

theorem process_follows (call : ProcessCall Source) :
    (call.run platform).Follows (indexerProtocol call) (BatchSettled call) [] := by
  have none_loaded {there : List (Exchange indexerInterface)} (fresh : loaded there = none) :
      IngestsTaken call there := by
    intro start loads
    rw [fresh] at loads
    cases loads
  apply Program.Follows.call_seq (none_loaded rfl)
  · intro checkpoint _
    have standing : Standing call checkpoint [] call.items
        (checkpoint.map IndexerCheckpoint.sequence)
        [⟨.loadCheckpoint call.processor.indexerId call.processor.networkId, .ok checkpoint⟩] :=
      ⟨rfl, rfl, rfl, List.nil_subset _⟩
    exact processItems_follows platform standing
  · intro error _
    exact ⟨none_loaded rfl, fun _ returned => nomatch returned⟩

end Transcripts

/-! ## Runs -/

section Runs

variable {platform : Platform} {Source Worker : Type} {call : ProcessCall Source}

/-- A stored event stays stored, and an ingested one is. -/
theorem EventDatabase.sources_of_ingest {database next : EventDatabase}
    {event : NormalizedDomainEvent} {answer : Except Thrown IngestOutcome}
    (replied : database.ingest event = (answer, next)) :
    database.sources ⊆ next.sources ∧
      ∀ outcome, answer = .ok outcome → event.source ∈ next.sources := by
  rw [EventDatabase.ingest] at replied
  by_cases known : event.source ∈ database.events.rows.map NormalizedDomainEvent.source
  · have kept : database.events.ingest event = .ok (.duplicate, database.events) := dif_pos known
    rw [kept] at replied
    cases replied
    exact ⟨List.Subset.refl _, fun _ _ => known⟩
  · cases stores : database.events.ingest event with
    | error error =>
        rw [stores] at replied
        cases replied
        exact ⟨List.Subset.refl _, fun _ returned => nomatch returned⟩
    | ok stored =>
        rw [stores] at replied
        cases replied
        have rows : stored.2.rows = database.events.rows ++ [event] := by
          rw [NormalizedEvents.ingest, dif_neg known] at stores
          split at stores
          · cases stores
          · cases stores
            rfl
        rw [EventDatabase.sources, EventDatabase.sources, rows, List.map_append]
        exact ⟨List.subset_append_left _ _, fun _ _ => List.subset_append_right _ _
          (List.mem_singleton_self _)⟩

theorem EventDatabase.sources_of_saveCheckpoint {database next : EventDatabase}
    {current : Option IndexerCheckpoint} {checkpoint : IndexerCheckpoint}
    {expected : Option JsString} {answer : Except Thrown IndexerCheckpoint}
    (replied : database.saveCheckpoint platform current checkpoint expected = (answer, next)) :
    next.sources = database.sources ∧ SavedAsGiven (.saveCheckpoint checkpoint expected) answer := by
  rw [EventDatabase.saveCheckpoint] at replied
  split at replied
  · cases replied
    exact ⟨rfl, trivial⟩
  · split at replied
    · cases replied
      exact ⟨rfl, trivial⟩
    · split at replied
      · cases replied
        exact ⟨rfl, trivial⟩
      · split at replied
        · cases replied
          exact ⟨rfl, trivial⟩
        · cases replied
          exact ⟨rfl, rfl⟩

/-- What the database bears out of an exchange of a call. -/
def EventDatabase.BearsOut (call : ProcessCall Source) (database : EventDatabase) :
    Exchange indexerInterface → Prop
  | ⟨.loadCheckpoint _ _, .ok checkpoint⟩ => ∃ stored, stored ⊆ database.sources ∧
      EventBatch.SkipsStored call.processor stored
        (checkpoint.map IndexerCheckpoint.sequence) call.items
  | ⟨.ingest event, .ok _⟩ => event.source ∈ database.sources
  | ⟨.saveCheckpoint checkpoint _, .ok saved⟩ => saved = checkpoint
  | _ => True

theorem EventDatabase.BearsOut.mono {database next : EventDatabase}
    {exchange : Exchange indexerInterface} (bears : database.BearsOut call exchange)
    (grows : database.sources ⊆ next.sources) : next.BearsOut call exchange := by
  obtain ⟨asked, answer⟩ := exchange
  cases answer with
  | error error => cases asked <;> trivial
  | ok value =>
      cases asked with
      | loadCheckpoint indexerId networkId =>
          obtain ⟨stored, kept, skips⟩ := bears
          exact ⟨stored, List.Subset.trans kept grows, skips⟩
      | ingest event => exact grows bears
      | saveCheckpoint checkpoint expected => exact bears
      | now => trivial

/-- The calls that load a checkpoint, by what they are about to skip. -/
def SkipsOnlyStored [DecidableEq Worker]
    (view : View (indexerServices platform) Worker (ProcessCall Source)) :
    Event indexerInterface Worker (ProcessCall Source) → Prop
  | .answered worker (.loadCheckpoint _ _) (.ok checkpoint) =>
      ∀ call ∈ entryOf worker view.history, EventBatch.SkipsStored call.processor
        view.state.sources (checkpoint.map IndexerCheckpoint.sequence) call.items
  | _ => True

instance [DecidableEq Worker]
    (view : View (indexerServices platform) Worker (ProcessCall Source)) :
    (event : Event indexerInterface Worker (ProcessCall Source)) →
      Decidable (SkipsOnlyStored view event)
  | .answered worker (.loadCheckpoint _ _) (.ok checkpoint) =>
      inferInstanceAs (Decidable (∀ call ∈ entryOf worker view.history,
        EventBatch.SkipsStored call.processor view.state.sources
          (checkpoint.map IndexerCheckpoint.sequence) call.items))
  | .answered _ (.loadCheckpoint _ _) (.error _) | .answered _ (.ingest _) _
  | .answered _ (.saveCheckpoint _ _) _ | .answered _ .now _ | .started _ _ | .issued _ _
  | .crashed _ => .isTrue trivial

/-- What a call may be answered when it does not fail, and what it leaves. -/
inductive EventDatabase.Replies (platform : Platform) (database : EventDatabase) :
    (call : IndexerCall) → indexerInterface.Answer call → EventDatabase → Prop where
  | loaded (indexerId networkId : JsString) :
      Replies platform database (.loadCheckpoint indexerId networkId)
        (.ok (database.checkpoints (indexerId, networkId))) database
  | ingested {event : NormalizedDomainEvent} {answer : Except Thrown IngestOutcome}
      {next : EventDatabase} : database.ingest event = (answer, next) →
      Replies platform database (.ingest event) answer next
  | saved {checkpoint : IndexerCheckpoint} {expected : Option JsString}
      {current : Option IndexerCheckpoint} {answer : Except Thrown IndexerCheckpoint}
      {next : EventDatabase} :
      database.saveCheckpoint platform current checkpoint expected = (answer, next) →
      Replies platform database (.saveCheckpoint checkpoint expected) answer next
  | now (instant : Int) : Replies platform database .now (.ok instant) database

theorem EventDatabase.replies_of_reply {call : IndexerCall} {choice : IndexerChoice}
    {database next : EventDatabase} {answer : indexerInterface.Answer call}
    (replied : (servedIndexerServices platform).reply call choice database = some (answer, next)) :
    database.Replies platform call answer next := by
  cases call with
  | loadCheckpoint indexerId networkId =>
      cases choice with
      | served =>
          cases replied
          exact .loaded indexerId networkId
      | unlocked => cases replied
      | clock now => cases replied
  | ingest event =>
      cases choice with
      | served => exact .ingested (Option.some.inj replied)
      | unlocked => cases replied
      | clock now => cases replied
  | saveCheckpoint checkpoint expected =>
      cases choice with
      | served => exact .saved (Option.some.inj replied)
      | unlocked => exact .saved (Option.some.inj replied)
      | clock now => cases replied
  | now =>
      cases choice with
      | served => cases replied
      | unlocked => cases replied
      | clock now =>
          cases replied
          exact .now now

theorem EventDatabase.Replies.sources_subset {call : IndexerCall} {database next : EventDatabase}
    {answer : indexerInterface.Answer call}
    (replies : database.Replies platform call answer next) : database.sources ⊆ next.sources := by
  cases replies with
  | loaded _ _ => exact List.Subset.refl _
  | ingested stored => exact (sources_of_ingest stored).1
  | saved stored =>
      rw [(sources_of_saveCheckpoint stored).1]
      exact List.Subset.refl _
  | now _ => exact List.Subset.refl _

theorem EventDatabase.Replies.bearsOut {database next : EventDatabase} {asked : IndexerCall}
    {answer : indexerInterface.Answer asked}
    (replies : database.Replies platform asked answer next)
    (covered : ∀ indexerId networkId checkpoint,
      (⟨asked, answer⟩ : Exchange indexerInterface) =
        ⟨.loadCheckpoint indexerId networkId, .ok checkpoint⟩ →
      EventBatch.SkipsStored call.processor database.sources
        (checkpoint.map IndexerCheckpoint.sequence) call.items) :
    next.BearsOut call ⟨asked, answer⟩ := by
  cases replies with
  | loaded indexerId networkId =>
      exact ⟨database.sources, List.Subset.refl _, covered indexerId networkId _ rfl⟩
  | @ingested event answer _ stored =>
      cases answer with
      | ok outcome => exact (sources_of_ingest stored).2 outcome rfl
      | error error => trivial
  | @saved checkpoint expected _ answer _ stored =>
      cases answer with
      | ok saved => exact (sources_of_saveCheckpoint stored).2
      | error error => trivial
  | now _ => trivial

variable [DecidableEq Worker]

/-- A stored event stays stored, whatever a call is answered. -/
theorem sources_of_reply {asked : IndexerCall} {choice : (indexerServices platform).Choice}
    {database next : EventDatabase} {answer : indexerInterface.Answer asked}
    (replied : (indexerServices platform).reply asked choice database = some (answer, next)) :
    database.sources ⊆ next.sources := by
  rcases Services.reply_of_fallible replied with ⟨_, served⟩ | ⟨_, _, rfl | ⟨_, _, served⟩⟩
  · exact (EventDatabase.replies_of_reply served).sources_subset
  · exact List.Subset.refl _
  · exact (EventDatabase.replies_of_reply served).sources_subset

variable {database : EventDatabase}
  {config : Config (indexerServices platform) Worker (ProcessCall Source) ProcessedBatch}

/-- The database bears out every exchange. -/
theorem exchanges_borne_out
    (reached : Reachable (ProcessCall.run platform) SkipsOnlyStored ⟨database, []⟩ config)
    {worker : Worker} {exchanges : List (Exchange indexerInterface)}
    (known : transcriptOf (ProcessCall.run platform) worker config.history =
      some (call, exchanges)) :
    ∀ exchange ∈ exchanges, config.state.BearsOut call exchange := by
  refine reached.exchanges_hold (fun call database exchange =>
    EventDatabase.BearsOut call database exchange) rfl ?_ ?_ worker call exchanges known
  · intro config worker call exchanges asked choice answer next _ known _ admitted replied
    rcases Services.reply_of_fallible replied with ⟨_, served⟩ | ⟨error, rfl, _⟩
    · refine (EventDatabase.replies_of_reply served).bearsOut ?_
      intro indexerId networkId checkpoint same
      cases same
      exact admitted call (entryOf_of_transcriptOf known)
    · cases asked <;> trivial
  · intro call asked choice database answer next exchange replied bears
    exact bears.mono (sources_of_reply replied)

/-- What is left of a call follows from where its transcript has taken it. -/
theorem left_follows {exchanges : List (Exchange indexerInterface)}
    {left : IndexerProgram ProcessedBatch}
    (reaches : (call.run platform).Reaches exchanges left)
    (bears : ∀ exchange ∈ exchanges, database.BearsOut call exchange) :
    left.Follows (indexerProtocol call) (BatchSettled call) exchanges := by
  have follows := reaches.follows (process_follows platform call) ?_
  · rwa [foldl_append_exchange, List.nil_append] at follows
  · intro exchange member
    obtain ⟨asked, answer⟩ := exchange
    have borne := bears _ member
    cases asked with
    | saveCheckpoint checkpoint expected =>
        cases answer with
        | ok saved => exact borne
        | error error => trivial
    | _ => trivial

theorem ingestsTaken_of_follows {exchanges : List (Exchange indexerInterface)}
    {left : IndexerProgram ProcessedBatch}
    (follows : left.Follows (indexerProtocol call) (BatchSettled call) exchanges) :
    IngestsTaken call exchanges := by
  cases left with
  | settled outcome => exact follows.1
  | await asked resume => exact follows.1

theorem ingested_subset {exchanges : List (Exchange indexerInterface)}
    (bears : ∀ exchange ∈ exchanges, database.BearsOut call exchange) :
    ingested exchanges ⊆ database.sources := by
  intro source member
  obtain ⟨⟨asked, answer⟩, among, same⟩ := List.mem_filterMap.mp member
  have borne := bears _ among
  cases asked with
  | ingest event =>
      cases answer with
      | ok outcome =>
          cases same
          exact borne
      | error error => cases same
  | _ => cases same

/-- The calls to load a checkpoint have been answered with what they skip in mind. -/
theorem skipsStored_of_loaded {exchanges : List (Exchange indexerInterface)}
    {start : Option IndexerCheckpoint} (loads : loaded exchanges = some start)
    (bears : ∀ exchange ∈ exchanges, database.BearsOut call exchange) :
    ∃ stored, stored ⊆ database.sources ∧ EventBatch.SkipsStored call.processor stored
      (start.map IndexerCheckpoint.sequence) call.items := by
  cases exchanges with
  | nil => cases loads
  | cons exchange later =>
      obtain ⟨asked, answer⟩ := exchange
      cases asked with
      | loadCheckpoint indexerId networkId =>
          cases answer with
          | ok checkpoint =>
              cases loads
              exact bears _ List.mem_cons_self
          | error error => cases loads
      | _ => cases loads

/-- Wherever a call stands, the events of the items that it has skipped are stored. -/
theorem skipped_stored {exchanges : List (Exchange indexerInterface)}
    {start : Option IndexerCheckpoint} (loads : loaded exchanges = some start)
    (ingests : IngestsTaken call exchanges)
    (bears : ∀ exchange ∈ exchanges, database.BearsOut call exchange) :
    EventBatch.carried call.processor (EventBatch.skipped
      (start.map IndexerCheckpoint.sequence) (saves exchanges) call.items) ⊆ database.sources := by
  obtain ⟨stored, kept, skips⟩ := skipsStored_of_loaded loads bears
  exact skips.skipped_subset kept
    (List.Subset.trans (ingests start loads) (ingested_subset bears))

/-- When a call returns, the events of all its items are stored. -/
theorem returned_stored {exchanges : List (Exchange indexerInterface)}
    (ingests : IngestsTaken call exchanges) (saved : SavesTaken call exchanges)
    (bears : ∀ exchange ∈ exchanges, database.BearsOut call exchange) :
    EventBatch.carried call.processor call.items ⊆ database.sources := by
  obtain ⟨start, loads, complete⟩ := saved
  intro source member
  rcases EventBatch.mem_taken_or_skipped (start.map IndexerCheckpoint.sequence) member with
    among | passed
  · apply ingested_subset bears
    apply ingests start loads
    rw [complete, List.take_length]
    exact among
  · apply skipped_stored loads ingests bears
    rw [complete]
    exact passed

/-- What is stored is stored once. -/
theorem EventDatabase.count_source {event : NormalizedDomainEvent}
    (stored : event.source ∈ database.sources) : database.sources.count event.source = 1 :=
  List.count_eq_one_of_mem database.events.sources stored

/-- **Batches are ingested as a whole.** In every run whose calls load a checkpoint only where
they are going to skip stored events, or ones that an earlier item carries which is not skipped,
the store has the event of each item of a call that has returned, once, and of each item that a
call has skipped, wherever the call stands. -/
theorem batches_ingested
    (reached : Reachable (ProcessCall.run platform) SkipsOnlyStored ⟨database, []⟩ config) :
    (∀ worker call result, entryOf worker config.history = some call →
      config.workers worker = .running (.settled (.ok result)) →
      ∀ item ∈ call.items, ∀ event, call.processor.normalize item.source = .ok (some event) →
        config.state.sources.count event.source = 1) ∧
    (∀ worker call exchanges start,
      transcriptOf (ProcessCall.run platform) worker config.history = some (call, exchanges) →
      loaded exchanges = some start →
      ∀ item ∈ EventBatch.skipped (start.map IndexerCheckpoint.sequence) (saves exchanges)
        call.items, ∀ event, call.processor.normalize item.source = .ok (some event) →
        config.state.sources.count event.source = 1) := by
  constructor
  · intro worker call result entered returned item member event normalizes
    have tracked := reached.tracks rfl worker
    rw [returned] at tracked
    obtain ⟨⟨other, exchanges⟩, known, reaches⟩ := tracked
    cases (entryOf_of_transcriptOf known).symm.trans entered
    have bears := exchanges_borne_out reached known
    have settled := left_follows reaches bears
    apply EventDatabase.count_source
    exact returned_stored settled.1 (settled.2 result rfl) bears
      (EventBatch.mem_carried member normalizes)
  · intro worker call exchanges start known loads item member event normalizes
    have bears := exchanges_borne_out reached known
    obtain ⟨left, reaches⟩ := reached.reaches rfl known
    have ingests := ingestsTaken_of_follows (left_follows reaches bears)
    apply EventDatabase.count_source
    exact skipped_stored loads ingests bears (EventBatch.mem_carried member normalizes)

end Runs

/-! ## Logs of blocks -/

namespace BlockLogs

/-- The event of a log of one transaction. -/
def transfer (logIndex : JsString) : NormalizedDomainEvent where
  schemaVersion := js "1"
  id := js "IW:EVENT:" ++ logIndex
  type := .assetTransferred
  networkId := js "IW:NETWORK:evm"
  networkType := .evm
  networkTransactionId := js "0xab"
  assetId := js "IW:ASSET:usd"
  position := .evmLog (js "10") (js "0xcd") logIndex
  sourceEventKey := js "evm:0xab:" ++ logIndex
  eventTimestamp := js "2026-08-08T00:00:00.000Z"
  payload := [(js "amount", .string (js "5"))]
  ingestionTimestamp := js "2026-08-08T00:00:01.000Z"
  observation := .canonical
  provenance := [(js "chainId", js "1")]

def indexer : CheckpointedEventProcessor NormalizedDomainEvent where
  indexerId := js "evm-indexer"
  networkId := js "IW:NETWORK:evm"
  normalize event := .ok (some event)

abbrev Index := Config (indexerServices isoPlatform) Unit (ProcessCall NormalizedDomainEvent)
  ProcessedBatch

abbrev Schedule := List (Action (indexerServices isoPlatform) Unit
  (ProcessCall NormalizedDomainEvent))

/-- Serve one call. -/
def serve (choice : IndexerChoice) : Schedule := [.issue (), .answer () (.inl choice)]

/-- Ingest an event, read the clock and save the checkpoint. -/
def take : Schedule := serve .served ++ serve (.clock 1786147200000) ++ serve .served

/-- Whether the call that has returned had an item with an event that passes a check. -/
def returnedWith (check : NormalizedDomainEvent → Bool) (config : Index) : Bool :=
  match config.workers (), entryOf () config.history with
  | .running (.settled (.ok _)), some call => call.items.any fun item =>
      match call.processor.normalize item.source with
      | .ok (some event) => check event
      | _ => false
  | _, _ => false

theorem call_of_returnedWith {check : NormalizedDomainEvent → Bool} {config : Index}
    (returned : returnedWith check config = true) :
    ∃ call result, entryOf () config.history = some call ∧
      config.workers () = .running (.settled (.ok result)) ∧ ∃ item ∈ call.items, ∃ event,
        call.processor.normalize item.source = .ok (some event) ∧ check event = true := by
  rw [returnedWith] at returned
  split at returned
  · rename_i result call settled entered
    obtain ⟨item, member, passes⟩ := List.any_eq_true.mp returned
    refine ⟨call, result, entered, settled, item, member, ?_⟩
    split at passes
    · rename_i event normalizes
      exact ⟨event, normalizes, passes⟩
    · cases passes
  · cases returned

/-- A crash after the second event, before its checkpoint, and a second attempt. -/
theorem replayed_batch_ingested : ∃ config : Index,
    Reachable (ProcessCall.run isoPlatform) SkipsOnlyStored ⟨EventDatabase.empty, []⟩ config ∧
      config.state.sources.count (transfer (js "0")).source = 1 := by
  obtain ⟨config, reached, checked⟩ := Reachable.exists_of_run (ProcessCall.run isoPlatform)
    SkipsOnlyStored ⟨EventDatabase.empty, []⟩
    ([.start () ⟨indexer, [⟨transfer (js "0"), js "1"⟩, ⟨transfer (js "1"), js "2"⟩]⟩] ++
      serve .served ++ take ++ serve .served ++ [.crash ()] ++
      [.start () ⟨indexer, [⟨transfer (js "0"), js "1"⟩, ⟨transfer (js "1"), js "2"⟩]⟩] ++
      serve .served ++ take)
    (returnedWith fun event => event = transfer (js "0")) (by decide +kernel)
  obtain ⟨call, result, entered, settled, item, member, event, normalizes, same⟩ :=
    call_of_returnedWith checked
  cases of_decide_eq_true same
  exact ⟨config, reached, (batches_ingested reached).1 () call result entered settled item member _
    normalizes⟩

/-- **An event is lost.** Two logs of one block carry its number. The first one moves the
checkpoint to the block, and the second one is skipped. -/
theorem second_log_lost : ∃ (config : Index) (call : ProcessCall NormalizedDomainEvent)
    (result : ProcessedBatch),
    Reachable (ProcessCall.run isoPlatform) (fun _ _ => True) ⟨EventDatabase.empty, []⟩ config ∧
      entryOf () config.history = some call ∧
      config.workers () = .running (.settled (.ok result)) ∧
      ∃ item ∈ call.items, ∃ event, call.processor.normalize item.source = .ok (some event) ∧
        config.state.sources.count event.source = 0 := by
  obtain ⟨config, reached, checked⟩ := Reachable.exists_of_run (ProcessCall.run isoPlatform)
    (fun _ _ => True) ⟨EventDatabase.empty, []⟩
    ([.start () ⟨indexer, [⟨transfer (js "0"), js "10"⟩, ⟨transfer (js "1"), js "10"⟩]⟩] ++
      serve .served ++ take)
    (fun config : Index => returnedWith (fun event => config.state.sources.count event.source = 0) config)
    (by decide +kernel)
  obtain ⟨call, result, entered, settled, item, member, event, normalizes, lost⟩ :=
    call_of_returnedWith checked
  exact ⟨config, call, result, reached, entered, settled, item, member, event, normalizes,
    of_decide_eq_true lost⟩

end BlockLogs
end InterWeave
