import InterWeave.Bridge.CoordinatorRuns

/-! # Evidence that is read back

A coordinator reads texts back from the evidence of earlier stages, and throws where one of them is
missing or blank. It stores what a service returned, once the texts that it requires of the result
are there. Stored evidence therefore passes the later checks in every run whose services return the
texts that are read back without having been required.
-/

namespace InterWeave

open Async

/-! ## Texts of results -/

namespace StageData

/-- A property is a text with more than white space. -/
def hasText (data : StageData) (key : JsString) : Bool :=
  match data.value key with
  | some (.text value) => !value.isBlank
  | _ => false

theorem hasText_of_requireText {data : StageData} {key name : JsString}
    (required : data.requireText key name = .ok ()) : data.hasText key = true := by
  unfold requireText at required
  unfold hasText
  split at required
  · split at required
    · cases required
    · simp_all
  · cases required
  · cases required

/-- What the object literal has of a property. -/
theorem value_select (data : StageData) (keys : List JsString) (key : JsString) :
    (data.select keys).value key = if key ∈ keys then data.value key else none := by
  induction keys with
  | nil => rfl
  | cons first rest ih =>
      have tail : (data.select rest).lookup key = if key ∈ rest then data.value key else none := ih
      rw [select, List.filterMap_cons]
      by_cases same : key = first
      · subst same
        rw [if_pos List.mem_cons_self]
        cases found : data.value key with
        | none =>
            simp only [Option.map_none]
            refine tail.trans ?_
            rw [found, ite_self]
        | some value => exact List.lookup_cons_self
      · have among : key ∈ first :: rest ↔ key ∈ rest := by
          rw [List.mem_cons, or_iff_right same]
        simp only [among]
        cases data.value first with
        | none => exact tail
        | some value =>
            have other : (key == first) = false := beq_eq_false_iff_ne.mpr same
            refine Eq.trans ?_ tail
            simp only [Option.map_some, StageData.value, List.lookup_cons, other]
            rfl

theorem hasText_select {data : StageData} {keys : List JsString} {key : JsString}
    (among : key ∈ keys) : (data.select keys).hasText key = data.hasText key := by
  rw [hasText, value_select, if_pos among, hasText]

theorem isTrue_select {data : StageData} {keys : List JsString} {key : JsString}
    (among : key ∈ keys) : (data.select keys).isTrue key = data.isTrue key := by
  rw [isTrue, value_select, if_pos among, isTrue]

end StageData

/-- A text that is there is read back. -/
theorem StageEvidence.stringValue_of_hasText {evidence : StageEvidence} {key : JsString}
    (has : evidence.data.hasText key = true) : ∃ value, evidence.stringValue key = .ok value := by
  rw [StageData.hasText] at has
  rw [stringValue]
  cases found : evidence.data.value key with
  | none =>
      rw [found] at has
      cases has
  | some data =>
      rw [found] at has
      cases data with
      | flag value => cases has
      | text value =>
          have filled : ¬ value.isBlank = true := by simpa using has
          exact ⟨value, if_neg filled⟩

theorem attestationFrom_of_hasText {evidence : StageEvidence}
    (has : ∀ key ∈ attestationKeys.tail, evidence.data.hasText key = true) :
    ∃ attestation, attestationFrom evidence = .ok attestation := by
  have read : ∀ key ∈ attestationKeys.tail, ∃ value, evidence.stringValue key = .ok value :=
    fun key among => StageEvidence.stringValue_of_hasText (has key among)
  simp only [attestationKeys, List.tail_cons, List.forall_mem_cons] at read
  obtain ⟨⟨_, digest⟩, ⟨_, set⟩, ⟨_, count⟩, ⟨_, threshold⟩, ⟨_, expiry⟩, _⟩ := read
  rw [attestationFrom, digest, set, count, threshold, expiry]
  exact ⟨_, rfl⟩

/-! ## What is read back -/

/-- The texts that later stages read back from the evidence of a stage. -/
def BridgeStage.readBack (data : StageData) : BridgeStage → List JsString
  | .sourceEffect | .destinationEffect => [js "transactionId"]
  | .attestation => if data.isTrue (js "satisfied") then attestationKeys.tail else []
  | _ => []

/-- Evidence of a stage passes the checks of the stages that read it. Only a satisfied attestation
is read. -/
def StageEvidence.ReadsBack (evidence : StageEvidence) : BridgeStage → Prop
  | .sourceEffect | .destinationEffect =>
      ∃ transactionId, evidence.stringValue (js "transactionId") = .ok transactionId
  | .attestation => evidence.data.isTrue (js "satisfied") = true →
      ∃ attestation, attestationFrom evidence = .ok attestation
  | _ => True

theorem StageEvidence.readsBack_of_hasText {evidence : StageEvidence} {stage : BridgeStage}
    (has : ∀ key ∈ stage.readBack evidence.data, evidence.data.hasText key = true) :
    evidence.ReadsBack stage := by
  cases stage with
  | sourceEffect => exact stringValue_of_hasText (has _ List.mem_cons_self)
  | destinationEffect => exact stringValue_of_hasText (has _ List.mem_cons_self)
  | attestation =>
      intro satisfied
      rw [BridgeStage.readBack, if_pos satisfied] at has
      exact attestationFrom_of_hasText has
  | _ => trivial

namespace BridgeRoute

variable (route : BridgeRoute)

/-- What is kept of a result. -/
def kept (stage : BridgeStage) (result : StageData) : StageData :=
  match route.selected stage with
  | some keys => result.select keys
  | none => result

/-- The texts that are read back later and not required of the result. -/
def unchecked (stage : BridgeStage) (result : StageData) : List JsString :=
  (stage.readBack result).filter fun key => !(route.required stage).any (·.1 == key)

/-- A result has the texts that nothing checks. -/
def usable (stage : BridgeStage) (result : StageData) : Bool :=
  (route.unchecked stage result).all result.hasText

/-- The services of a step return usable results. -/
def returnsUsable {Worker : Type} : Event bridgeInterface Worker Unit → Bool
  | .answered _ (.perform stage _ _) (.ok result) => route.usable stage result
  | _ => true

/-- What a route keeps of results includes what it reads back. -/
def KeepsRead : Prop :=
  ∀ stage keys, route.selected stage = some keys → (stage = .attestation → js "satisfied" ∈ keys) ∧
    ∀ result, stage.readBack result ⊆ keys

variable {route}

theorem keepsRead {actor : Option JsString}
    (known : route = lockMintRoute actor ∨ route = burnReleaseRoute actor) : route.KeepsRead := by
  intro stage keys selected
  have attested : ∀ result, BridgeStage.readBack result .attestation ⊆ attestationKeys := by
    intro result
    simp only [BridgeStage.readBack]
    split
    · exact List.tail_subset _
    · exact List.nil_subset _
  rcases known with rfl | rfl <;> cases stage <;> cases selected
  · refine ⟨fun other => (by cases other), fun result => ?_⟩
    simp [BridgeStage.readBack]
  · exact ⟨fun _ => List.mem_cons_self, attested⟩
  · exact ⟨fun _ => List.mem_cons_self, attested⟩

/-- The texts that results lack are not named as those of evidence are. -/
theorem required_named {actor : Option JsString}
    (known : route = lockMintRoute actor ∨ route = burnReleaseRoute actor) :
    ∀ stage, ∀ property ∈ route.required stage, property.2.head?.any (· != 105) = true := by
  have mints : ∀ stage, ∀ property ∈ (lockMintRoute none).required stage,
      property.2.head?.any (· != 105) = true := by decide
  have releases : ∀ stage, ∀ property ∈ (burnReleaseRoute none).required stage,
      property.2.head?.any (· != 105) = true := by decide
  rcases known with rfl | rfl
  · exact mints
  · exact releases

/-- What is kept of a usable result has every text that is read back. -/
theorem kept_hasText (keeps : route.KeepsRead) {stage : BridgeStage} {result : StageData}
    (required : ∀ property ∈ route.required stage, result.hasText property.1 = true)
    (usable : route.usable stage result = true) :
    ∀ key ∈ stage.readBack (route.kept stage result),
      (route.kept stage result).hasText key = true := by
  have has : ∀ key ∈ stage.readBack result, result.hasText key = true := by
    intro key read
    by_cases checked : (route.required stage).any (·.1 == key) = true
    · obtain ⟨property, member, same⟩ := List.any_eq_true.mp checked
      rw [← eq_of_beq same]
      exact required property member
    · refine List.all_eq_true.mp usable key (List.mem_filter.mpr ⟨read, ?_⟩)
      rw [Bool.not_eq_true] at checked
      rw [checked, Bool.not_false]
  unfold kept
  cases selected : route.selected stage with
  | none => exact has
  | some keys =>
      obtain ⟨verdict, among⟩ := keeps stage keys selected
      have same : stage.readBack (result.select keys) = stage.readBack result := by
        cases stage with
        | attestation =>
            simp only [BridgeStage.readBack, StageData.isTrue_select (verdict rfl)]
        | _ => rfl
      dsimp only
      rw [same]
      intro key read
      rw [StageData.hasText_select (among result read)]
      exact has key read

end BridgeRoute

/-! ## What is stored -/

/-- The service of a stage has returned what is kept as this, with the texts that are required. -/
def Produced (route : BridgeRoute) (exchanges : List (Exchange bridgeInterface))
    (stage : BridgeStage) (data : StageData) : Prop :=
  ∃ operation stageInput result, ⟨.perform stage operation stageInput, .ok result⟩ ∈ exchanges ∧
    (∀ property ∈ route.required stage, result.hasText property.1 = true) ∧
    data = route.kept stage result

/-- Evidence is stored of what was produced. -/
def Puts (route : BridgeRoute) (exchanges : List (Exchange bridgeInterface)) : BridgeCall → Prop
  | .putEvidence evidence =>
      ∃ stage, evidence.stage = route.stageText stage ∧ Produced route exchanges stage evidence.data
  | _ => True

namespace BridgeCoordinator

variable {platform : Platform} {route : BridgeRoute} {operation : DurableBridgeOperation}
  {exchanges : List (Exchange bridgeInterface)}

/-- A part of a run that stores only what was produced. -/
abbrev StoresProduced {α : Type} (route : BridgeRoute) (program : BridgeProgram α)
    (exchanges : List (Exchange bridgeInterface)) : Prop :=
  program.Follows (transcriptProtocol (Puts route)) (fun _ _ => True) exchanges

/-- A call that stores no evidence. -/
theorem call_stores {β : Type} {call : BridgeCall} {next : call.Value → BridgeProgram β}
    (plain : ∀ exchanges, Puts route exchanges call)
    (rest : ∀ value, StoresProduced route (next value) (exchanges ++ [⟨call, .ok value⟩])) :
    StoresProduced route (Program.call (I := bridgeInterface) call >>= next) exchanges :=
  .call_seq (plain exchanges) (fun value _ => rest value) fun _ _ => trivial

theorem StoresProduced.seq {α β : Type} {program : BridgeProgram α} {next : α → BridgeProgram β}
    (stores : StoresProduced route program exchanges)
    (rest : ∀ value more, StoresProduced route (next value) more) :
    StoresProduced route (program >>= next) exchanges :=
  Program.Follows.seq stores (fun more value _ => rest value more) fun _ _ _ => trivial

theorem transition_stores {target : BridgeState} {reason : JsString}
    {policyDecision : Option PolicyDecision} :
    StoresProduced route (transition platform route operation target reason policyDecision)
      exchanges := by
  refine call_stores (fun _ => trivial) fun now => ?_
  refine .ofExcept_seq (fun _ _ => ?_) fun _ _ => trivial
  refine call_stores (fun _ => trivial) fun found => ?_
  cases found with
  | none => trivial
  | some operation =>
      dsimp only
      split
      · exact .ofExcept_seq (fun _ _ => ⟨trivial, fun _ _ => trivial⟩) fun _ _ => trivial
      · refine call_stores (fun _ => trivial) fun existing => ?_
        split <;> trivial

theorem some_stores {target : BridgeState} {reason : JsString}
    {policyDecision : Option PolicyDecision} :
    StoresProduced route (some <$> transition platform route operation target reason policyDecision)
      exchanges := by
  rw [Program.map_eq]
  exact transition_stores.seq fun _ _ => trivial

theorem produce_produces {stage : BridgeStage} {input : Except Thrown StageInput} :
    (produce route operation stage input).Follows (transcriptProtocol (Puts route))
      (fun there outcome => ∀ data, outcome = .ok data → Produced route there stage data)
      exchanges := by
  refine .ofExcept_seq (fun value _ => ?_) fun _ _ _ same => by cases same
  refine .call_seq trivial (fun result _ => ?_) fun _ _ _ same => by cases same
  refine .ofExcept_seq (fun _ checked => ?_) fun _ _ _ same => by cases same
  rintro data same
  cases same
  refine ⟨operation, value, result, List.mem_append_right _ List.mem_cons_self, ?_, rfl⟩
  revert checked
  generalize route.required stage = properties
  intro checked
  induction properties with
  | nil => exact fun _ member => (by cases member)
  | cons first rest ih =>
      obtain ⟨_, head, tail⟩ := Atomic.ok_of_bind checked
      rw [List.forall_mem_cons]
      exact ⟨StageData.hasText_of_requireText head, ih tail⟩

theorem evidence_stores {stage : BridgeStage} {input : Except Thrown StageInput} :
    StoresProduced route (evidence platform route operation stage input) exchanges := by
  refine call_stores (fun _ => trivial) fun found => ?_
  cases found with
  | some existing => trivial
  | none =>
      dsimp only
      split
      · refine call_stores (fun _ => trivial) fun now => ?_
        refine produce_produces.seq (fun more data produced => ?_) fun _ _ _ => trivial
        exact ⟨⟨stage, rfl, produced data rfl⟩, fun _ _ => trivial⟩
      · refine produce_produces.seq (fun more data produced => ?_) fun _ _ _ => trivial
        refine call_stores (fun _ => trivial) fun now => ⟨⟨stage, rfl, ?_⟩, fun _ _ => trivial⟩
        obtain ⟨performed, stageInput, result, member, kept⟩ := produced data rfl
        exact ⟨performed, stageInput, result, List.mem_append_left _ member, kept⟩

theorem required_stores {operationId : JsString} {stage : BridgeStage} :
    StoresProduced route (requiredEvidence route operationId stage) exchanges := by
  refine call_stores (fun _ => trivial) fun found => ?_
  cases found <;> trivial

theorem followUp_stores {effect stage : BridgeStage} {verdict : JsString}
    {passed failed : BridgeState} : StoresProduced route
      (some <$> followUp platform route operation effect stage verdict passed failed)
      exchanges := by
  rw [Program.map_eq]
  refine StoresProduced.seq ?_ fun _ _ => trivial
  exact required_stores.seq fun _ _ => evidence_stores.seq fun _ _ => transition_stores

theorem advance_stores : StoresProduced route (advance platform route operation) exchanges := by
  unfold advance
  split
  · exact call_stores (fun _ => trivial) fun _ => some_stores
  · exact some_stores
  · exact evidence_stores.seq fun _ _ => some_stores
  · exact followUp_stores
  · exact followUp_stores
  · exact some_stores
  · exact required_stores.seq fun _ _ => evidence_stores.seq fun _ _ => some_stores
  · exact some_stores
  · refine required_stores.seq fun stored _ => ?_
    refine .ofExcept_seq (fun attestation _ => ?_) fun _ _ => trivial
    refine call_stores (fun _ => trivial) fun now => ?_
    split
    · exact some_stores
    · exact evidence_stores.seq fun _ _ => some_stores
  · exact followUp_stores
  · exact followUp_stores
  · exact some_stores
  · exact evidence_stores.seq fun _ _ => some_stores
  · exact some_stores
  · trivial

theorem drive_stores (guard : Nat) :
    StoresProduced route (drive platform route guard operation) exchanges := by
  induction guard generalizing operation exchanges with
  | zero =>
      unfold drive
      split <;> trivial
  | succ guard ih =>
      rw [drive_succ]
      split
      · trivial
      · refine StoresProduced.seq ?_ fun found more => ?_
        · refine call_stores (fun _ => trivial) fun now => ?_
          split
          · exact some_stores
          · exact advance_stores
        · cases found with
          | none => trivial
          | some next => exact ih

/-- A run stores only what the services have produced. -/
theorem run_stores (platform : Platform) (route : BridgeRoute) (operationId : JsString) :
    StoresProduced route (run platform route operationId) [] := by
  refine call_stores (fun _ => trivial) fun found => ?_
  cases found with
  | none => trivial
  | some operation => exact drive_stores 24

end BridgeCoordinator

/-! ## Runs -/

/-- The refusal of evidence without a text. -/
def invalidEvidence (stage key : JsString) : Thrown :=
  .registryError .invalidArgument (js "invalid " ++ stage ++ js " evidence: " ++ key)

section Runs

variable {platform : Platform} {route : BridgeRoute} {input : CreateBridgeOperation}
  {actor : Option JsString} {Worker : Type} {operation : DurableBridgeOperation}
  {table : OperationTable} {config : Config bridgeServices Worker Unit DurableBridgeOperation}

/-- Stored evidence passes the checks of the stages that read it, and a run fails with a refusal
of evidence only where that was thrown at it. -/
structure PassesBack (route : BridgeRoute) (input : CreateBridgeOperation)
    (config : Config bridgeServices Worker Unit DurableBridgeOperation) : Prop where
  stored : ∀ stage evidence, config.state.Holds route input stage evidence →
    evidence.ReadsBack stage
  thrown : ∀ worker stage key,
    config.workers worker = .running (.settled (.error (invalidEvidence stage key))) →
    ∃ call, .answered worker call (.error (invalidEvidence stage key)) ∈ config.history

theorem invalidEvidence_start {stage key text : JsString} {code : RegistryErrorCode}
    (same : invalidEvidence stage key = .registryError code text) :
    code = .invalidArgument ∧ text.head? = some 105 := by
  have start : (js "invalid ").head? = some 105 := by decide
  rw [invalidEvidence, Thrown.registryError.injEq] at same
  obtain ⟨rfl, rfl⟩ := same
  refine ⟨rfl, ?_⟩
  rw [List.append_assoc, List.append_assoc, List.head?_append, start]
  rfl

/-- A refusal that is not of evidence says so. -/
theorem BridgeRefusal.invalidEvidence {id stage key : JsString} {copy : DurableBridgeOperation}
    {served : List (Served bridgeServices)}
    (refusal : BridgeRefusal route id copy served (invalidEvidence stage key))
    (named : ∀ stage, ∀ property ∈ route.required stage, property.2.head?.any (· != 105) = true) :
    ∃ answered ∈ served, (∃ effect submitted error,
        (effect = .sourceEffect ∨ effect = .destinationEffect) ∧
        Finds route id copy effect (some submitted) answered ∧
        submitted.stringValue (js "transactionId") = .error error) ∨
      ∃ stored error, copy.state = .destinationPreparing ∧
        Finds route id copy .attestation (some stored) answered ∧
        attestationFrom stored = .error error := by
  generalize same : InterWeave.invalidEvidence stage key = error at refusal
  cases refusal with
  | actor blank => exact absurd (invalidEvidence_start same).2 (by decide)
  | illegal => exact absurd (invalidEvidence_start same).1 (by decide)
  | @result _ _ stage _ property data _ _ _ among refused =>
      rcases requireText_error refused with rfl | ⟨message, rfl⟩
      · have start := (invalidEvidence_start same).2
        have other := named _ _ among
        cases known : property.2 with
        | nil =>
            rw [known] at other
            cases other
        | cons unit rest =>
            rw [known, List.cons_append, List.head?_cons, Option.some.injEq] at start
            rw [known, start] at other
            cases other
      · cases same
  | missing => exact absurd (invalidEvidence_start same).1 (by decide)
  | transaction member finds _ effects refused =>
      exact ⟨_, member, .inl ⟨_, _, _, effects, finds, refused⟩⟩
  | attestation finds state refused =>
      exact ⟨_, List.mem_cons_self, .inr ⟨_, _, state, finds, refused⟩⟩

variable [DecidableEq Worker]

/-- The configurations that runs of a coordinator reach while its services return usable results. -/
abbrev UsableRuns (platform : Platform) (route : BridgeRoute) (input : CreateBridgeOperation)
    (table : OperationTable) (config : Config bridgeServices Worker Unit DurableBridgeOperation) :
    Prop :=
  Reachable (fun _ => BridgeCoordinator.run platform route input.id)
    (fun _ event => route.returnsUsable event = true) (BridgeView.opened Worker table) config

/-- All evidence that is stored has what is read back. -/
theorem BridgeCoordinator.evidence_has (keeps : route.KeepsRead)
    (reached : UsableRuns platform route input table config) {operationId : JsString}
    {stage : BridgeStage} {evidence : StageEvidence}
    (found : config.state.evidence operationId (route.stageText stage) = some evidence) :
    ∀ key ∈ stage.readBack evidence.data, evidence.data.hasText key = true := by
  refine reached.invariant (fun view => ∀ operationId stage evidence,
    view.state.evidence operationId (route.stageText stage) = some evidence →
    ∀ key ∈ stage.readBack evidence.data, evidence.data.hasText key = true) rfl nofun ?_ operationId
    stage evidence found
  intro config event state reachable step admitted ih operationId stage evidence found
  cases step with
  | started _ => exact ih operationId stage evidence found
  | issued _ _ => exact ih operationId stage evidence found
  | crashed _ => exact ih operationId stage evidence found
  | @answered worker call answer here choice state before known allowed replied =>
      cases call with
      | putEvidence put =>
          cases choice <;> cases replied
          rcases config.state.putEvidence_cases put with ⟨_, same⟩ | ⟨_, _, same⟩ | ⟨_, same⟩
          · rw [Protocol.after_state, same] at found
            exact ih operationId stage evidence found
          · rw [Protocol.after_state, same] at found
            exact ih operationId stage evidence found
          · rw [Protocol.after_state, same] at found
            dsimp only at found
            split at found
            · rename_i own
              cases found
              obtain ⟨resume, reaches⟩ := allowed
              obtain ⟨produced, named, performed, stageInput, result, member, required, data⟩ :=
                (run_stores platform route input.id).admits_of_reaches reaches
              cases route.distinct (own.2.trans named)
              obtain ⟨later, earlier, split⟩ :=
                List.append_of_mem (answered_of_transcriptOf known member)
              have usable := reachable.forall_moves (fun _ event =>
                route.returnsUsable event = true) rfl (fun _ _ admitted => admitted) split
              rw [data]
              exact BridgeRoute.kept_hasText keeps required usable
            · exact ih operationId stage evidence found
      | _ =>
          cases choice <;> cases replied
          all_goals exact ih operationId stage evidence found

omit [DecidableEq Worker] in
/-- A created operation is stored on a legal path. -/
theorem BridgeWorld.stores_of_created
    (created : DurableTransactionEngine.create platform input (fun _ => none) =
      (.ok operation, table)) :
    (BridgeView.opened Worker table).state.Stores input.id operation := by
  obtain ⟨found, recorded, state, states⟩ := DurableTransactionEngine.create_ok created
  refine ⟨found, recorded.id, ?_, ?_⟩
  · rw [states]
    exact List.isChain_singleton _
  · rw [states, state]
    rfl

omit [DecidableEq Worker] in
/-- Steps of runs only take the operation further. -/
theorem BridgeWorld.continues_of_move {program : Unit → BridgeProgram DurableBridgeOperation}
    {action : Action bridgeServices Worker Unit}
    {move : Move bridgeServices Worker Unit DurableBridgeOperation} {id : JsString}
    (moved : config.move program action = some move) : Continues id config.state move.state := by
  cases Config.moves_of_move moved with
  | answer _ replied => exact continues_of_reply replied
  | _ => exact .refl _

/-- The operation stays stored on a legal path. -/
theorem BridgeWorld.stores_of_reachable {program : Unit → BridgeProgram DurableBridgeOperation}
    {admits : BridgeView Worker → Event bridgeInterface Worker Unit → Prop}
    {view : BridgeView Worker} {id : JsString} (stores : view.state.Stores id operation)
    (reached : Reachable program admits view config) :
    ∃ stored, config.state.Stores id stored := by
  induction reached with
  | initial => exact ⟨operation, stores⟩
  | step _ moved _ ih =>
      obtain ⟨stored, there⟩ := ih
      obtain ⟨later, found, _⟩ := continues_of_move moved stored there
      exact ⟨later, found⟩

/-- The calls of a run were answered in configurations of the run. -/
abbrev VisitedBy (platform : Platform) (route : BridgeRoute) (input : CreateBridgeOperation)
    (Worker : Type) [DecidableEq Worker] (table : OperationTable)
    (served : List (Served bridgeServices)) : Prop :=
  ∀ answered ∈ served, ∃ middle : Config bridgeServices Worker Unit DurableBridgeOperation,
    UsableRuns platform route input table middle ∧ middle.state = answered.state

/-- Evidence of an effect that a run has read has its transaction. -/
theorem Finds.has_transaction (keeps : route.KeepsRead) {served : List (Served bridgeServices)}
    (visited : VisitedBy platform route input Worker table served) {id : JsString}
    {effect : BridgeStage} (effects : effect = .sourceEffect ∨ effect = .destinationEffect)
    {submitted : StageEvidence} {answered : Served bridgeServices} (member : answered ∈ served)
    (finds : Finds route id operation effect (some submitted) answered) :
    ∃ transactionId, submitted.stringValue (js "transactionId") = .ok transactionId := by
  have found := finds.stored
  obtain ⟨middle, before, same⟩ := visited answered member
  rw [← same] at found
  refine StageEvidence.stringValue_of_hasText
    (BridgeCoordinator.evidence_has keeps before found _ ?_)
  rcases effects with rfl | rfl <;> exact List.mem_cons_self

/-- Evidence of an attestation that a run has read, preparing the destination, is of a satisfied
one. -/
theorem Finds.has_attestation (keeps : route.KeepsRead)
    (created : DurableTransactionEngine.create platform input (fun _ => none) =
      (.ok operation, table)) {served : List (Served bridgeServices)}
    (visited : VisitedBy platform route input Worker table served)
    {copy : DurableBridgeOperation} (state : copy.state = .destinationPreparing)
    {stored : StageEvidence} {answered : Served bridgeServices} (member : answered ∈ served)
    (finds : Finds route input.id copy .attestation (some stored) answered) :
    ∃ attestation, attestationFrom stored = .ok attestation := by
  have found := finds.stored
  have copies := finds.copies
  obtain ⟨middle, before, same⟩ := visited answered member
  rw [← same] at found copies
  obtain ⟨named, logged, current, stores, beginning⟩ := copies
  obtain ⟨there, valid, justified⟩ := (BridgeInvariant.reachable created before).stored
  cases valid.symm.trans stores.1
  have entered : BridgeState.destinationPreparing ∈ current.states := by
    rw [← state]
    exact (beginning.map _).subset (List.mem_of_getLast? logged.last)
  obtain ⟨evidence, holds, satisfied⟩ := (justified.authorizes entered).2.2
  rw [named] at found
  cases found.symm.trans holds
  have has := BridgeCoordinator.evidence_has keeps before holds
  rw [BridgeStage.readBack, if_pos satisfied] at has
  exact attestationFrom_of_hasText has

/-- **What the coordinators store passes their later checks.** In every run of workers of one
coordinator on one operation, with any crashes and restarts, whose services return a text wherever
one is read back that was not required: stored evidence reads back, and no worker fails with a
refusal of evidence that no service or store threw. -/
theorem BridgeCoordinator.evidence_passes_back
    (known : route = lockMintRoute actor ∨ route = burnReleaseRoute actor)
    (created : DurableTransactionEngine.create platform input (fun _ => none) =
      (.ok operation, table))
    (reached : UsableRuns platform route input table config) : PassesBack route input config := by
  have keeps : route.KeepsRead := BridgeRoute.keepsRead known
  refine ⟨fun stage evidence holds => ?_, fun worker stage key settled => ?_⟩
  · exact StageEvidence.readsBack_of_hasText (evidence_has keeps reached holds)
  · have ensures : ∀ (config : Config bridgeServices Worker Unit DurableBridgeOperation)
        (_ : Unit), UsableRuns platform route input table config →
        Ensures input.id (Ends route input.id) (run platform route input.id) config.state [] := by
      intro config _ before
      obtain ⟨stored, stores⟩ := BridgeWorld.stores_of_reachable
        (BridgeWorld.stores_of_created created) before
      exact run_ensures (BridgeRoute.reasoned known) stores.copies
    obtain ⟨served, kept, answers⟩ := reached.keeps BridgeWorld.Continues.refl
      (fun _ _ _ => .trans) (fun _ _ _ _ moved _ => BridgeWorld.continues_of_move moved) ensures
      worker
    have visited : VisitedBy platform route input Worker table served :=
      fun answered member => (answers answered member).2
    obtain ⟨_, ended, _⟩ := kept _ (congrArg Status.program settled)
    rcases ended with ⟨answered, last, same⟩ | ⟨copy, _, _, refusal⟩
    · exact ⟨answered.call, same ▸ (answers answered (List.mem_of_head? last)).1⟩
    rcases refusal.invalidEvidence (BridgeRoute.required_named known) with
      ⟨answered, member, ⟨effect, submitted, error, effects, finds, refused⟩ |
        ⟨stored, error, state, finds, refused⟩⟩
    · obtain ⟨transactionId, text⟩ := finds.has_transaction keeps visited effects member
      cases refused.symm.trans text
    · obtain ⟨attestation, texts⟩ := finds.has_attestation keeps created visited state member
      cases refused.symm.trans texts

end Runs

/-! ## An attestation without a digest -/

namespace BridgeExample

/-- The mint is reached with an attestation that reads back. -/
theorem attestation_passes_back :
    ∃ config : Config bridgeServices Unit Unit DurableBridgeOperation,
      (config.state.evidence input.id (js "ATTESTATION")).isSome = true ∧
      PassesBack (lockMintRoute none) input config := by
  obtain ⟨operation, created⟩ := created
  obtain ⟨config, reached, stored⟩ := Reachable.exists_of_run run
    (fun _ event => (lockMintRoute none).returnsUsable event = true) (BridgeView.opened Unit table)
    reachesMint (fun config => (config.state.evidence input.id (js "ATTESTATION")).isSome)
    (by decide +kernel)
  exact ⟨config, stored, BridgeCoordinator.evidence_passes_back (.inl rfl) created reached⟩

/-- The service as it is, less the digests of attestations. -/
def withoutDigest : BridgeChoice → BridgeChoice
  | .result data => .result (data.map fun property =>
      if property.1 = js "digest" then (property.1, .text []) else property)
  | choice => choice

/-- A run stores the attestation, fails on it, and is started again. -/
def failsTwice : List (Action bridgeServices Unit Unit) :=
  .start () () :: exchanges (prepares.map withoutDigest ++ [BridgeChoice.instant early, .stored]) ++
    .start () () :: exchanges [.stored, .instant early, .stored]

/-- Whether the worker has failed for want of the digest. -/
def lacksDigest (config : Config bridgeServices Unit Unit DurableBridgeOperation) : Bool :=
  (config.workers ()).program.any fun
    | .settled (.error error) => error = invalidEvidence (js "ATTESTATION") (js "digest")
    | _ => false

/-- **The coordinator stores an attestation that it then refuses, in every run.** -/
theorem digest_refused : ¬ ∀ config : Config bridgeServices Unit Unit DurableBridgeOperation,
    Reachable run (fun _ _ => True) (BridgeView.opened Unit table) config →
    PassesBack (lockMintRoute none) input config := by
  intro claim
  obtain ⟨config, reached, checked⟩ := Reachable.exists_of_run run (fun _ _ => True)
    (BridgeView.opened Unit table) failsTwice
    (fun config => serves config.history && lacksDigest config) (by decide +kernel)
  rw [Bool.and_eq_true] at checked
  obtain ⟨left, program, done⟩ := (Option.any_eq_true ..).mp checked.2
  split at done
  · rename_i error
    have settled := Status.running_of_settled program
    rw [of_decide_eq_true done] at settled
    obtain ⟨call, thrown⟩ := (claim config reached).thrown () _ _ settled
    cases List.all_eq_true.mp checked.1 _ thrown
  · cases done

end BridgeExample

end InterWeave
