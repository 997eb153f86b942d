import InterWeave.Async.Interference
import InterWeave.Atomic.Machine
import InterWeave.Bridge.CoordinatorProtocol
import InterWeave.Bridge.OperationPaths

/-! # Refusals of the coordinators

What a run throws is the error of the call that was answered last, or it is a refusal: of the
engine, for a blank actor or for a transition that others have overtaken, or of the coordinator
itself, for what a service has returned and for what was read back. A refusal names the answers
that it rests on.
-/

namespace InterWeave

open Async

/-! ## What an iteration reads -/

/-- The evidence that the `switch` reads back in a state. -/
def BridgeState.required : BridgeState → Option BridgeStage
  | .sourceSubmitted => some .sourceEffect
  | .sourceConfirmed => some .sourceEffect
  | .attestationPending => some .sourceFinality
  | .destinationPreparing => some .attestation
  | .destinationSubmitted => some .destinationEffect
  | .destinationConfirmed => some .destinationEffect
  | _ => none

/-- A read of a stage with what was found, while the operation at hand was a copy. -/
structure Finds (route : BridgeRoute) (id : JsString) (operation : DurableBridgeOperation)
    (stage : BridgeStage) (found : Option StageEvidence) (answered : Served bridgeServices) :
    Prop where
  read : answered.exchange = ⟨.getEvidence operation.id (route.stageText stage), .ok found⟩
  stored : answered.state.evidence operation.id (route.stageText stage) = found
  copies : answered.state.Copies id operation

/-- The refusals of the engine and of the coordinators themselves, for the operation at hand and
the calls that were answered, the last one first. -/
inductive BridgeRefusal (route : BridgeRoute) (id : JsString)
    (operation : DurableBridgeOperation) : List (Served bridgeServices) → Thrown → Prop where
  /-- The engine refuses a blank actor. -/
  | actor {served : List (Served bridgeServices)} : route.actor.isBlank = true →
      BridgeRefusal route id operation served (.registryError .invalidArgument
        (js "transition key, actor, and reason are required"))
  /-- Others have taken the operation where the transition is not legal, and not by it. -/
  | illegal {found loaded : Served bridgeServices} {earlier : List (Served bridgeServices)}
      {current : DurableBridgeOperation} {existing : Option PersistedTransition}
      {target : BridgeState} :
      loaded.exchange = ⟨.getOperation id, .ok (some current)⟩ →
      loaded.state.Stores id current → operation.state.Precedes current.state →
      operation.state.canTransition target = true → current.state.canTransition target ≠ true →
      found.exchange =
        ⟨.findTransition id (operation.id ++ js ":" ++ target.text), .ok existing⟩ →
      existing.map PersistedTransition.target ≠ some target →
      BridgeRefusal route id operation (found :: loaded :: earlier) (.registryError .conflict
        (js "illegal bridge transition: " ++ current.state.text ++ js " -> " ++ target.text))
  /-- The service of the state has returned without a text. -/
  | result {answered : Served bridgeServices} {earlier : List (Served bridgeServices)}
      {stage : BridgeStage} {input : StageInput} {property : JsString × JsString}
      {data : StageData} {error : Thrown} :
      answered.exchange = ⟨.perform stage operation input, .ok data⟩ →
      operation.state = stage.state → property ∈ route.required stage →
      data.requireText property.1 property.2 = .error error →
      BridgeRefusal route id operation (answered :: earlier) error
  /-- The evidence that the state requires was not found. -/
  | missing {answered : Served bridgeServices} {earlier : List (Served bridgeServices)}
      {stage : BridgeStage} : Finds route id operation stage none answered →
      operation.state.required = some stage →
      BridgeRefusal route id operation (answered :: earlier) (.registryError .notFound
        (js "missing durable stage evidence: " ++ route.stageText stage))
  /-- The evidence of the effect was found without its transaction. -/
  | transaction {served : List (Served bridgeServices)} {answered : Served bridgeServices}
      {effect : BridgeStage} {submitted : StageEvidence} {error : Thrown} : answered ∈ served →
      Finds route id operation effect (some submitted) answered →
      operation.state.required = some effect →
      effect = .sourceEffect ∨ effect = .destinationEffect →
      submitted.stringValue (js "transactionId") = .error error →
      BridgeRefusal route id operation served error
  /-- The evidence of the attestation was found without a text. -/
  | attestation {answered : Served bridgeServices} {earlier : List (Served bridgeServices)}
      {stored : StageEvidence} {error : Thrown} :
      Finds route id operation .attestation (some stored) answered →
      operation.state = .destinationPreparing → attestationFrom stored = .error error →
      BridgeRefusal route id operation (answered :: earlier) error

/-- The call that was answered last was answered with this error. -/
def ThrownBy (served : List (Served bridgeServices)) (error : Thrown) : Prop :=
  ∃ answered, served.head? = some answered ∧ answered.answer = .error error

/-- An iteration throws what was thrown at it, or it refuses to go on with its copy. -/
def Explains (route : BridgeRoute) (id : JsString) (operation : DurableBridgeOperation)
    (world : BridgeWorld) (served : List (Served bridgeServices)) (error : Thrown) : Prop :=
  ThrownBy served error ∨
    world.Copies id operation ∧ BridgeRefusal route id operation served error

theorem ThrownBy.last {call : BridgeCall} {choice : BridgeChoice} {error : Thrown}
    {state : BridgeWorld} {served : List (Served bridgeServices)} :
    ThrownBy (⟨call, choice, .error error, state⟩ :: served) error :=
  ⟨_, rfl, rfl⟩

/-- Who reads a stage finds what is stored. -/
theorem Finds.of_reply {route : BridgeRoute} {id : JsString} {operation : DurableBridgeOperation}
    {stage : BridgeStage} {found : Option StageEvidence} {choice : BridgeChoice}
    {world next : BridgeWorld}
    (replied : world.reply (.getEvidence operation.id (route.stageText stage)) choice =
      some (.ok found, next)) (copies : next.Copies id operation) :
    Finds route id operation stage found
      ⟨.getEvidence operation.id (route.stageText stage), choice, .ok found, next⟩ := by
  refine ⟨rfl, ?_, copies⟩
  cases choice <;> cases replied
  rfl

/-! ## Reasons -/

/-- The states that are entered for a reason of the route. -/
def BridgeState.reasoned : BridgeState → Bool
  | .created | .policyChecked | .policyRejected | .sourceFailed | .attestationFailed
  | .destinationFailed | .expired | .reconciliationFailed | .manualReview => false
  | _ => true

/-- No reason of a transition is blank. -/
structure BridgeRoute.Reasoned (route : BridgeRoute) : Prop where
  enters : ∀ state : BridgeState, state.reasoned = true → ∀ data,
    (route.reason state data).isBlank = false
  expired : route.attestationExpired.isBlank = false

theorem BridgeRoute.reasoned {actor : Option JsString} {route : BridgeRoute}
    (known : route = lockMintRoute actor ∨ route = burnReleaseRoute actor) : route.Reasoned := by
  rcases known with rfl | rfl
  all_goals
    refine ⟨fun state entered data => ?_, rfl⟩
    cases state <;> first | rfl | cases entered

/-! ## Errors of checks -/

theorem isBlank_transitionKey (id text : JsString) : (id ++ js ":" ++ text).isBlank = false := by
  rw [JsString.isBlank_append, JsString.isBlank_append, show (js ":").isBlank = false from rfl,
    Bool.and_false, Bool.false_and]

/-- A first attempt with a key and a reason is refused for its actor only. -/
theorem checkCommand_error {command : TransitionCommand} {error : Thrown}
    (key : command.transitionKey.isBlank = false) (reason : command.reason.isBlank = false)
    (attempt : command.attempt = 1)
    (failed : DurableTransactionEngine.checkCommand command = .error error) :
    command.actor.isBlank = true ∧ error = .registryError .invalidArgument
      (js "transition key, actor, and reason are required") := by
  rw [DurableTransactionEngine.checkCommand, key, reason, attempt, Bool.false_or, Bool.or_false]
    at failed
  split at failed
  · rename_i blank
    cases failed
    exact ⟨blank, rfl⟩
  · cases failed

/-- The refusals of evidence name the stage and a key. -/
theorem stringValue_error {evidence : StageEvidence} {key : JsString} {error : Thrown}
    (failed : evidence.stringValue key = .error error) :
    error = .registryError .invalidArgument
      (js "invalid " ++ evidence.stage ++ js " evidence: " ++ key) := by
  rw [StageEvidence.stringValue] at failed
  split at failed
  · split at failed <;> cases failed
    rfl
  · cases failed
    rfl

/-- A reading that starts with a text of the evidence is refused by its key, or goes on. -/
theorem stringValue_bind_error {α : Type} {evidence : StageEvidence} {key : JsString}
    {rest : JsString → Except Thrown α} {error : Thrown}
    (goesOn : ∀ text, rest text = .error error → ∃ key, error = .registryError .invalidArgument
      (js "invalid " ++ evidence.stage ++ js " evidence: " ++ key))
    (failed : (evidence.stringValue key >>= rest) = .error error) :
    ∃ key, error = .registryError .invalidArgument
      (js "invalid " ++ evidence.stage ++ js " evidence: " ++ key) := by
  rcases Atomic.error_of_bind failed with blank | ⟨text, _, failed⟩
  · exact ⟨key, stringValue_error blank⟩
  · exact goesOn text failed

theorem attestationFrom_error {evidence : StageEvidence} {error : Thrown}
    (failed : attestationFrom evidence = .error error) :
    ∃ key, error = .registryError .invalidArgument
      (js "invalid " ++ evidence.stage ++ js " evidence: " ++ key) := by
  refine stringValue_bind_error (fun _ => ?_) failed
  refine stringValue_bind_error fun _ => ?_
  refine stringValue_bind_error fun _ => ?_
  refine stringValue_bind_error fun _ => ?_
  refine stringValue_bind_error fun _ failed => ?_
  cases failed

/-- A text that a service is required to return is refused by its name, or for not being one. -/
theorem requireText_error {data : StageData} {key name : JsString} {error : Thrown}
    (failed : data.requireText key name = .error error) :
    error = .registryError .invalidArgument (name ++ js " is required") ∨
      ∃ message, error = .error message := by
  rw [StageData.requireText] at failed
  split at failed
  · split at failed <;> cases failed
    exact .inl rfl
  · cases failed
    exact .inr ⟨_, rfl⟩
  · cases failed
    exact .inr ⟨_, rfl⟩

/-! ## The error of a loop without iterations -/

/-- The error of a run whose iterations are used up. -/
def BridgeRoute.stopped (route : BridgeRoute) (state : BridgeState) : Thrown :=
  .registryError .conflict
    (route.coordinator ++ js " coordinator stopped in state: " ++ state.text)

/-- No refusal is the error of a loop without iterations left. -/
theorem BridgeRefusal.not_stopped {route : BridgeRoute} {id : JsString}
    {operation : DurableBridgeOperation} {served : List (Served bridgeServices)} {error : Thrown}
    (refusal : BridgeRefusal route id operation served error)
    (named : route.coordinator.head?.any fun unit => unit != 105) (state : BridgeState) :
    error ≠ route.stopped state := by
  rintro rfl
  generalize same : route.stopped state = error at refusal
  rw [BridgeRoute.stopped] at same
  cases refusal with
  | actor blank => cases same
  | illegal =>
      rw [Thrown.registryError.injEq] at same
      have heads := congrArg List.head? same.2
      cases known : route.coordinator with
      | nil =>
          rw [known] at named
          cases named
      | cons unit rest =>
          rw [known] at named heads
          cases heads
          cases named
  | result _ _ _ refused =>
      rcases requireText_error refused with rfl | ⟨message, rfl⟩ <;> cases same
  | missing => cases same
  | transaction _ _ _ _ refused =>
      rw [stringValue_error refused] at same
      cases same
  | attestation _ _ refused =>
      obtain ⟨key, rfl⟩ := attestationFrom_error refused
      cases same

end InterWeave
