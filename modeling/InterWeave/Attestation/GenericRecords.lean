import InterWeave.Attestation.GenericTranscripts

/-! # Records of generic attestations

What a transcript of `request` shows holds of the records of a pool of workers. Positions and
times are compared as one text, so the agreement of the validators is that of these texts.
-/

namespace InterWeave

open Async Atomic

variable {platform : Platform} {numbers : Rat → Prop}

/-! ## Records in a pool -/

/-- The observations in a transcript that were counted for a request. -/
def counted (platform : Platform) (input : GenericAttestationRequest)
    (exchanges : List (Exchange genericInterface)) : List GenericSourceObservation :=
  exchanges.filterMap fun exchange =>
    match exchange with
    | ⟨.observe _ asked, .ok (some observation)⟩ =>
        if asked = input ∧ observationMismatch platform input observation = .ok none then
          some observation
        else none
    | _ => none

/-- Observations with one position text have one position and one time. -/
def GenericSourceObservation.Agrees (observation other : GenericSourceObservation) : Prop :=
  observation.positionText = other.positionText →
    observation.observedStatePosition = other.observedStatePosition ∧
      observation.observedAt = other.observedAt

instance (observation other : GenericSourceObservation) : Decidable (observation.Agrees other) :=
  inferInstanceAs (Decidable (_ → _))

section Pools

variable (platform : Platform) (localeCompare : LocaleCompare)
  (service : GenericAttestationService) {Worker : Type} [DecidableEq Worker]

/-- The observations counted so far by a worker for its request. -/
def countedBy (worker : Worker)
    (history : List (Event genericInterface Worker GenericAttestationRequest)) :
    List GenericSourceObservation :=
  ((transcriptOf (service.request platform localeCompare) worker history).map fun here =>
    counted platform here.1 here.2).getD []

/-- **No ambiguous positions.** An observation that a worker counts agrees with those that
it has counted before. -/
def Unambiguous (view : View genericServices Worker GenericAttestationRequest) :
    Event genericInterface Worker GenericAttestationRequest → Prop
  | .answered worker (.observe _ input) (.ok (some observation)) =>
      observationMismatch platform input observation = .ok none →
        ∀ other ∈ countedBy platform localeCompare service worker view.history,
          other.Agrees observation
  | _ => True

instance (view : View genericServices Worker GenericAttestationRequest)
    (event : Event genericInterface Worker GenericAttestationRequest) :
    Decidable (Unambiguous platform localeCompare service view event) :=
  match event with
  | .answered _ (.observe _ _) (.ok (some _)) => inferInstanceAs (Decidable (_ → _))
  | .answered _ (.observe _ _) (.ok none) => isTrue trivial
  | .answered _ (.observe _ _) (.error _) => isTrue trivial
  | .answered _ (.get _) _ => isTrue trivial
  | .answered _ .now _ => isTrue trivial
  | .answered _ (.sign _ _) _ => isTrue trivial
  | .answered _ (.save _) _ => isTrue trivial
  | .started _ _ => isTrue trivial
  | .issued _ _ => isTrue trivial
  | .crashed _ => isTrue trivial

/-- No record stored and no worker started. -/
def GenericView.empty (Worker : Type) :
    View genericServices Worker GenericAttestationRequest where
  state := fun _ => none
  history := []

variable {platform} {localeCompare} {service}

theorem GenericSourceObservation.Agrees.symm {observation other : GenericSourceObservation}
    (agrees : observation.Agrees other) : other.Agrees observation := by
  intro same
  obtain ⟨position, time⟩ := agrees same.symm
  exact ⟨position.symm, time.symm⟩

theorem counted_append (input : GenericAttestationRequest)
    (exchanges : List (Exchange genericInterface)) (exchange : Exchange genericInterface) :
    counted platform input (exchanges ++ [exchange]) =
      counted platform input exchanges ++ counted platform input [exchange] :=
  List.filterMap_append

theorem AcceptedObservation.HeardIn.mem_counted {input : GenericAttestationRequest}
    {exchanges : List (Exchange genericInterface)} {item : AcceptedObservation}
    (heard : item.HeardIn platform input exchanges) :
    item.observation ∈ counted platform input exchanges := by
  rw [counted, List.mem_filterMap]
  exact ⟨_, heard.1, if_pos ⟨rfl, heard.2⟩⟩

variable {config : Config genericServices Worker GenericAttestationRequest GenericAttestationRecord}

/-- What a worker counts agrees, as far as the position texts do. -/
theorem counted_agree
    (reached : Reachable (service.request platform localeCompare)
      (Unambiguous platform localeCompare service) (GenericView.empty Worker) config) :
    ∀ worker input exchanges, transcriptOf (service.request platform localeCompare) worker
      config.history = some (input, exchanges) →
      (counted platform input exchanges).Pairwise GenericSourceObservation.Agrees := by
  refine reached.transcripts_hold (fun input exchanges =>
    (counted platform input exchanges).Pairwise GenericSourceObservation.Agrees) rfl
    (fun _ => .nil) ?_
  intro config worker input exchanges call choice answer next _ known _ admitted _ agree
  rw [counted_append]
  have silent : counted platform input [⟨call, answer⟩] = [] →
      (counted platform input exchanges ++ counted platform input [⟨call, answer⟩]).Pairwise
        GenericSourceObservation.Agrees := by
    intro none
    rwa [none, List.append_nil]
  cases call with
  | observe validator asked =>
      cases answer with
      | error error => exact silent rfl
      | ok answer =>
          cases answer with
          | none => exact silent rfl
          | some observation =>
              by_cases counts : asked = input ∧
                  observationMismatch platform input observation = .ok none
              · obtain ⟨rfl, fine⟩ := counts
                have last : counted platform asked
                    [⟨.observe validator asked, .ok (some observation)⟩] = [observation] := by
                  exact List.filterMap_cons_some (if_pos ⟨rfl, fine⟩)
                have before := admitted fine
                rw [countedBy, known, Option.map_some, Option.getD_some] at before
                rw [last, List.pairwise_append]
                refine ⟨agree, List.pairwise_singleton _ _, fun other member final same => ?_⟩
                rw [List.mem_singleton.mp same]
                exact before other member
              · exact silent (List.filterMap_cons_none (if_neg counts))
  | _ => exact silent rfl

/-- Every exchange of a transcript happened. -/
def HappenedIn (history : List (Event genericInterface Worker GenericAttestationRequest))
    (exchanges : List (Exchange genericInterface)) : Prop :=
  ∀ exchange ∈ exchanges, ∃ worker, .answered worker exchange.call exchange.answer ∈ history

theorem happenedIn_of_transcriptOf
    {history : List (Event genericInterface Worker GenericAttestationRequest)} {worker : Worker}
    {input : GenericAttestationRequest} {exchanges : List (Exchange genericInterface)}
    (known : transcriptOf (service.request platform localeCompare) worker history =
      some (input, exchanges)) : HappenedIn history exchanges :=
  fun _ member => ⟨worker, answered_of_transcriptOf known member⟩

/-- What is known of a stored record. -/
structure GenericAttestationRecord.Recorded (platform : Platform)
    (service : GenericAttestationService)
    (history : List (Event genericInterface Worker GenericAttestationRequest)) (id : JsString)
    (record : GenericAttestationRecord) : Prop where
  named : record.request.id = id
  bears : ∃ exchanges, HappenedIn history exchanges ∧
    (counted platform record.request exchanges).Pairwise GenericSourceObservation.Agrees ∧
    service.Bears platform exchanges record

omit [DecidableEq Worker] in
theorem GenericAttestationRecord.Recorded.later
    {history : List (Event genericInterface Worker GenericAttestationRequest)} {id : JsString}
    {record : GenericAttestationRecord} (recorded : record.Recorded platform service history id)
    (event : Event genericInterface Worker GenericAttestationRequest) :
    record.Recorded platform service (event :: history) id := by
  obtain ⟨named, exchanges, happened, agree, bears⟩ := recorded
  refine ⟨named, exchanges, fun exchange member => ?_, agree, bears⟩
  obtain ⟨worker, answered⟩ := happened exchange member
  exact ⟨worker, List.mem_cons_of_mem _ answered⟩

theorem records_recorded
    (reached : Reachable (service.request platform localeCompare)
      (Unambiguous platform localeCompare service) (GenericView.empty Worker) config) :
    ∀ id record, config.state id = some record →
      record.Recorded platform service config.history id := by
  refine reached.invariant (fun view => ∀ id record, view.state id = some record →
    record.Recorded platform service view.history id) rfl (fun _ _ none => by cases none) ?_
  intro config event state reachable step _ ih id record found
  cases step with
  | started _ => exact (ih id record found).later _
  | issued _ _ => exact (ih id record found).later _
  | crashed _ => exact (ih id record found).later _
  | @answered worker call answer here choice _ _ known allowed replied =>
      rcases GenericWorld.reply_new replied found with before | ⟨rfl, rfl⟩
      · exact (ih id record before).later _
      · obtain ⟨resume, reaches⟩ := allowed
        obtain ⟨same, bears⟩ := (GenericAttestationService.request_asks localeCompare service
          here.1).admits_of_reaches reaches
        have recorded : record.Recorded platform service config.history record.request.id :=
          ⟨rfl, here.2, happenedIn_of_transcriptOf known,
            same ▸ counted_agree reachable worker here.1 here.2 known, bears⟩
        exact recorded.later _

/-- What was saved or found is stored. -/
def Stands (world : GenericWorld) : Exchange genericInterface → Prop
  | ⟨.save record, .ok _⟩ => world record.request.id = some record
  | ⟨.get id, .ok (some record)⟩ => world id = some record
  | _ => True

theorem Stands.kept {world next : GenericWorld} {call : GenericCall} {choice : GenericChoice}
    {answer : genericInterface.Answer call} {exchange : Exchange genericInterface}
    (replied : world.reply call choice = some (answer, next)) (stands : Stands world exchange) :
    Stands next exchange := by
  obtain ⟨made, answered⟩ := exchange
  cases made with
  | save record =>
      cases answered with
      | error error => trivial
      | ok value => exact GenericWorld.reply_kept replied stands
  | get id =>
      cases answered with
      | error error => trivial
      | ok value =>
          cases value with
          | none => trivial
          | some record => exact GenericWorld.reply_kept replied stands
  | _ => trivial

theorem Stands.of_reply {world next : GenericWorld} {call : GenericCall} {choice : GenericChoice}
    {answer : genericInterface.Answer call}
    (replied : world.reply call choice = some (answer, next)) : Stands next ⟨call, answer⟩ := by
  cases call with
  | save record =>
      rcases GenericWorld.reply_save replied with ⟨_, error, rfl⟩ | ⟨_, rfl⟩
      · trivial
      · cases answer with
        | error error => trivial
        | ok value => exact Function.update_self ..
  | get id =>
      cases choice with
      | stored =>
          rw [GenericWorld.reply, Option.some.injEq, Prod.mk.injEq] at replied
          obtain ⟨rfl, rfl⟩ := replied
          cases found : world id with
          | none => trivial
          | some record => exact found
      | failed error written =>
          cases replied
          trivial
      | _ => cases replied
  | _ => trivial

theorem transcripts_stand
    (reached : Reachable (service.request platform localeCompare)
      (Unambiguous platform localeCompare service) (GenericView.empty Worker) config) :
    ∀ worker input exchanges, transcriptOf (service.request platform localeCompare) worker
      config.history = some (input, exchanges) →
      ∀ exchange ∈ exchanges, Stands config.state exchange :=
  reached.exchanges_hold (fun _ world exchange => Stands world exchange) rfl
    (fun _ _ _ _ replied => .of_reply replied) (fun replied stands => stands.kept replied)

/-! ## What records say -/

/-- Distinct validators with distinct keys, as many as the threshold of the request, each
observed exactly what was requested, all at the position and time of the statement. -/
def AgreedOn (numbers : Rat → Prop) (service : GenericAttestationService)
    (history : List (Event genericInterface Worker GenericAttestationRequest))
    (request : GenericAttestationRequest) (statement : GenericAttestationStatement) : Prop :=
  ∃ observed : List AcceptedObservation,
    (observed.map fun item => item.validator.validatorId).Nodup ∧
    (observed.map fun item => (item.validator.algorithm, item.validator.publicKeyId)).Nodup ∧
    request.threshold.le (.ofNat observed.length) = true ∧
    ∀ item ∈ observed, item.validator ∈ service.validators ∧
      (∃ worker, .answered worker (.observe item.validator request)
        (.ok (some item.observation)) ∈ history) ∧
      item.observation.Confirms numbers request ∧
      item.observation.observedStatePosition = statement.observedStatePosition ∧
      item.observation.observedAt = statement.observedAt

/-- Whoever accepts the signatures that validators gave accepts the attestation until it
expires. -/
def VerifiesUntilExpiry (platform : Platform)
    (history : List (Event genericInterface Worker GenericAttestationRequest))
    (request : GenericAttestationRequest) (attestation : GenericStateAttestation) : Prop :=
  ∀ verifier : AttestationSignatureVerifier,
    (∀ worker validator bytes signature,
      .answered worker (.sign validator bytes) (.ok signature) ∈ history →
      verifier validator.algorithm validator.publicKeyId signature bytes = .ok true) →
    ∀ now, numberLt (some now) (platform.dateParse attestation.statement.expiresAt) = true →
      verifyGenericAttestation platform attestation request.threshold verifier now = .ok true

/-- What a record says is borne out by the history. -/
def GenericAttestationRecord.Holds (platform : Platform) (numbers : Rat → Prop)
    (service : GenericAttestationService)
    (history : List (Event genericInterface Worker GenericAttestationRequest))
    (record : GenericAttestationRecord) : Prop :=
  record.outcome = .rejected ∧ record.attestation = none ∨
    record.outcome = .verified ∧ ∃ attestation, record.attestation = some attestation ∧
      AgreedOn numbers service history record.request attestation.statement ∧
      VerifiesUntilExpiry platform history record.request attestation.toGenericStateAttestation

/-- Records are never replaced, every call that returns has its record stored, and what
stored records say is borne out. -/
structure SoundRecords (platform : Platform) (localeCompare : LocaleCompare)
    (numbers : Rat → Prop) (service : GenericAttestationService)
    (config : Config genericServices Worker GenericAttestationRequest GenericAttestationRecord) :
    Prop where
  fixed : ∀ action move, config.move (service.request platform localeCompare) action = some move →
    ∀ id record, config.state id = some record → move.state id = some record
  returned : ∀ worker input record, entryOf worker config.history = some input →
    config.workers worker = .running (.settled (.ok record)) →
    config.state input.id = some record
  stored : ∀ id record, config.state id = some record →
    record.request.id = id ∧ record.Holds platform numbers service config.history

omit [DecidableEq Worker] in
theorem GenericAttestationService.Issues.agreedOn (formats : platform.Formats numbers)
    {input : GenericAttestationRequest} {exchanges : List (Exchange genericInterface)}
    {attestation : GenericStateAttestation} {accepted : List AcceptedObservation}
    {first : GenericSourceObservation}
    {history : List (Event genericInterface Worker GenericAttestationRequest)}
    (issues : service.Issues platform input exchanges attestation accepted first)
    (happened : HappenedIn history exchanges)
    (agree : (counted platform input exchanges).Pairwise GenericSourceObservation.Agrees) :
    AgreedOn numbers service history input attestation.statement := by
  obtain ⟨count, same, _, enough⟩ := issues.threshold
  refine ⟨accepted, issues.identities, issues.keys, ?_, fun item member => ?_⟩
  · rw [same, JsNumber.le_ofNat, decide_eq_true_eq]
    exact enough
  have heard := issues.heard item member
  obtain ⟨worker, answered⟩ := happened _ heard.1
  obtain ⟨leader, leads, rfl⟩ := issues.leads
  have symmetric : Std.Symm GenericSourceObservation.Agrees := ⟨fun _ _ agrees => agrees.symm⟩
  have reflexive : ∀ observation : GenericSourceObservation, observation.Agrees observation :=
    fun _ _ => ⟨rfl, rfl⟩
  have agrees := agree.forall_of_forall (fun observation _ => reflexive observation)
    heard.mem_counted (issues.heard leader leads).mem_counted (issues.agree item member)
  rw [issues.statement]
  exact ⟨issues.among.subset (List.mem_map_of_mem member), ⟨worker, answered⟩,
    (GenericSourceObservation.Accepted.of_mismatch heard.2).confirms numbers formats, agrees⟩

omit [DecidableEq Worker] in
theorem GenericAttestationRecord.Recorded.holds (formats : platform.Formats numbers)
    {history : List (Event genericInterface Worker GenericAttestationRequest)} {id : JsString}
    {record : GenericAttestationRecord} (recorded : record.Recorded platform service history id) :
    record.Holds platform numbers service history := by
  obtain ⟨_, exchanges, happened, agree, rejected | ⟨verified, attestation, accepted, first, same,
    issues⟩⟩ := recorded
  · exact .inl rejected
  · refine .inr ⟨verified, attestation, same, issues.agreedOn formats happened agree, ?_⟩
    intro verifier sound now unexpired
    refine issues.verifies (fun validator bytes signature member => ?_) ?_
    · obtain ⟨worker, answered⟩ := happened _ member
      exact sound worker validator bytes signature answered
    · rw [issues.statement] at unexpired
      exact unexpired

/-- **Records of generic attestations.** In every run without ambiguous positions, a verified
record rests on enough validators that observed exactly what was requested at one position and
time, every other stored record is a rejection without an attestation, no record is replaced,
and what a verified record contains is accepted until it expires. -/
theorem genericRecords_sound (formats : platform.Formats numbers)
    (reached : Reachable (service.request platform localeCompare)
      (Unambiguous platform localeCompare service) (GenericView.empty Worker) config) :
    SoundRecords platform localeCompare numbers service config where
  fixed := by
    intro action move moved id record found
    cases Config.moves_of_move moved with
    | answer _ replied => exact GenericWorld.reply_kept replied found
    | _ => exact found
  returned := by
    intro worker input record entry settled
    have tracks := reached.tracks rfl worker
    rw [settled] at tracks
    obtain ⟨here, known, reaches⟩ := tracks
    have same := (entryOf_of_transcriptOf known).symm.trans entry
    cases same
    have stand := transcripts_stand reached worker here.1 here.2 known
    rcases (GenericAttestationService.request_asks localeCompare service
      here.1).post_of_reaches reaches with ⟨named, saved⟩ | found
    · rw [← named]
      exact stand _ saved
    · exact stand _ found
  stored := by
    intro id record found
    have recorded := records_recorded reached id record found
    exact ⟨recorded.named, recorded.holds formats⟩

end Pools

/-! ## One text for two positions -/

namespace SplitPosition

/-- `Date.parse` falls back to a parser that skips a symbol and blanks in front of a date. -/
def lenient : Platform :=
  { isoPlatform with
    dateParse := fun text =>
      if text = js " 2026-08-11 11:58:00Z" ∨ text = js "| 2026-08-11 11:58:00Z" then
        some 1786449480000
      else isoInstant text }

def validator (validatorId publicKeyId : JsString) : GenericAttestationValidator :=
  ⟨validatorId, js "ED25519", publicKeyId⟩

def service : GenericAttestationService where
  validators := [validator (js "validator-1") (js "key-1"), validator (js "validator-2") (js "key-2")]
  identities := by decide
  keys := by decide

/-- Two validators are to agree. -/
def request : GenericAttestationRequest := RelabelledKey.statement.toGenericAttestationRequest

def observation (observedStatePosition observedAt : JsString) : GenericSourceObservation where
  networkId := request.sourceNetworkId
  networkType := request.sourceNetworkType
  transactionId := request.sourceTransactionId
  eventPosition := request.sourceEventPosition
  predicateType := request.predicateType
  claims := request.claims
  canonical := true
  finalitySatisfied := true
  observedStatePosition := observedStatePosition
  observedAt := observedAt
  finalityEvidence := [js "finalized"]

def localeCompare : LocaleCompare := TwoMembers.aggregator.localeCompare

/-- A worker asks both validators, which answer with some observations and sign. -/
def asksBoth (first second : GenericSourceObservation) :
    List (Action genericServices Unit GenericAttestationRequest) :=
  .start () request :: [.stored, .instant TwoMembers.halfPastNoon,
    .instant TwoMembers.halfPastNoon, .observed (.ok (some first)), .observed (.ok (some second)),
    .signed (.ok (js "s1")), .instant TwoMembers.halfPastNoon, .signed (.ok (js "s2")),
    .instant TwoMembers.halfPastNoon, .instant TwoMembers.halfPastNoon,
    .instant TwoMembers.halfPastNoon, .stored].flatMap
      fun choice => [.issue (), .answer () choice]

def verified
    (config : Config genericServices Unit GenericAttestationRequest GenericAttestationRecord) :
    Bool :=
  match config.state request.id with
  | some record => record.outcome = .verified ∧ record.request = request
  | none => false

/-- Both validators observed one position. -/
def agreed : GenericSourceObservation :=
  observation (js "finalized:20") (js "2026-08-11T11:58:00.000Z")

theorem verified_after_agreement :
    ∃ config, verified config = true ∧
      SoundRecords isoPlatform localeCompare (fun value => value = 2) service config := by
  obtain ⟨config, reached, done⟩ := Reachable.exists_of_run
    (service.request isoPlatform localeCompare) (Unambiguous isoPlatform localeCompare service)
    (GenericView.empty Unit) (asksBoth agreed agreed) verified (by decide +kernel)
  have formats : isoPlatform.Formats fun value => value = 2 := by
    refine ⟨fun value same => ?_, fun value other same equal _ => same.trans equal.symm⟩
    subst same
    exact ⟨by decide, List.all_eq_true.mp (by decide)⟩
  exact ⟨config, done, genericRecords_sound formats reached⟩

/-- The same text with the separator in the position, and with the separator in the time. -/
def ahead : GenericSourceObservation := observation (js "100|") (js " 2026-08-11 11:58:00Z")

def behind : GenericSourceObservation := observation (js "100") (js "| 2026-08-11 11:58:00Z")

/-- What validators answered in a run. -/
def heardFrom (history : List (Event genericInterface Unit GenericAttestationRequest)) :
    List AcceptedObservation :=
  history.filterMap fun event =>
    match event with
    | .answered _ (.observe validator _) (.ok (some observation)) => some ⟨validator, observation⟩
    | _ => none

theorem mem_heardFrom {history : List (Event genericInterface Unit GenericAttestationRequest)}
    {worker : Unit} {item : AcceptedObservation} {input : GenericAttestationRequest}
    (answered : .answered worker (.observe item.validator input) (.ok (some item.observation)) ∈
      history) : item ∈ heardFrom history :=
  List.mem_filterMap.mpr ⟨_, answered, rfl⟩

/-- **A disagreement is verified.** -/
theorem disagreement_verified : ¬ ∀ config,
    Reachable (service.request lenient localeCompare) (fun _ _ => True) (GenericView.empty Unit)
      config → SoundRecords lenient localeCompare (fun _ => False) service config := by
  intro sound
  obtain ⟨config, reached, both⟩ := Reachable.exists_of_run
    (service.request lenient localeCompare) (fun _ _ => True) (GenericView.empty Unit)
    (asksBoth ahead behind) (fun config => verified config && decide (heardFrom config.history =
      [⟨validator (js "validator-2") (js "key-2"), behind⟩,
        ⟨validator (js "validator-1") (js "key-1"), ahead⟩])) (by decide +kernel)
  rw [Bool.and_eq_true, decide_eq_true_eq] at both
  obtain ⟨stored, heard⟩ := both
  rw [verified] at stored
  split at stored
  · rename_i record found
    obtain ⟨outcome, same⟩ := of_decide_eq_true stored
    obtain ⟨_, ⟨rejected, _⟩ | ⟨_, attestation, _, ⟨observed, distinct, _, enough, each⟩, _⟩⟩ :=
      (sound config reached).stored _ record found
    · rw [outcome] at rejected
      cases rejected
    · -- all observed validators are the one at the position of the statement
      have one : ∀ item ∈ observed, ∀ other ∈ observed,
          item.validator.validatorId = other.validator.validatorId := by
        intro item member other further
        obtain ⟨_, ⟨_, answered⟩, _, position, _⟩ := each item member
        obtain ⟨_, ⟨_, answers⟩, _, place, _⟩ := each other further
        have first := mem_heardFrom answered
        have second := mem_heardFrom answers
        rw [heard, List.mem_pair] at first second
        rcases first with rfl | rfl <;> rcases second with rfl | rfl
        · rfl
        · exact absurd (position.trans place.symm) (by decide)
        · exact absurd (position.trans place.symm) (by decide)
        · rfl
      rw [same] at enough
      cases observed with
      | nil => exact absurd enough (by decide +kernel)
      | cons item rest =>
          cases rest with
          | nil =>
              rw [List.length_singleton] at enough
              exact absurd enough (by decide +kernel)
          | cons other rest =>
              rw [List.map_cons, List.nodup_cons] at distinct
              refine distinct.1 ?_
              rw [one item List.mem_cons_self other (List.mem_cons_of_mem _ List.mem_cons_self)]
              exact List.mem_map_of_mem List.mem_cons_self
  · cases stored

end SplitPosition
end InterWeave
