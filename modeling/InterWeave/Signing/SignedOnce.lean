import InterWeave.Async.UnderWay
import InterWeave.Signing.Tenants

/-! # One signature for a request

An execution looks for a stored result, asks the signer and stores the signature in three steps.
A stored result is never replaced, and what executions return is the stored result. But
two executions that both find no result both ask the signer.
-/

namespace InterWeave

open Async

/-- The signer is asked to sign a request. -/
def asksToSign {Worker : Type} (id : JsString) : Event signingInterface Worker SigningCommand → Bool
  | .issued _ (.sign request) => request.id == id
  | _ => false

/-- How often the signer has been asked to sign a request. -/
def timesAsked {Worker : Type} (id : JsString)
    (history : List (Event signingInterface Worker SigningCommand)) : Nat :=
  history.countP (asksToSign id)

/-- A lookup that finds no result. -/
def findsNoResult (id : JsString) : Exchange signingInterface → Bool
  | ⟨.getResult asked, .ok none⟩ => asked == id
  | _ => false

section Runs

variable {platform : SigningPlatform} {coordinator : SigningCoordinator} {kind : SigningStoreKind}
  {Worker : Type} [DecidableEq Worker]

/-- An execution is under way that has found no result of a request. -/
def UnderWayUnsigned (platform : SigningPlatform) (coordinator : SigningCoordinator)
    (id : JsString) (worker : Worker)
    (history : List (Event signingInterface Worker SigningCommand)) : Bool :=
  UnderWay (coordinator.run platform) (fun exchanges => exchanges.any (findsNoResult id)) worker
    history

/-- The condition on a step, for one request: an execution finds no result only while no signature
has been asked for, and it asks the signer only while no other execution that has found none is
under way. -/
def SignsAlone (platform : SigningPlatform) (coordinator : SigningCoordinator)
    (kind : SigningStoreKind) (id : JsString)
    (view : View (signingServices platform kind coordinator.signer) Worker SigningCommand) :
    Event signingInterface Worker SigningCommand → Prop
  | .answered _ (.getResult asked) (.ok none) => asked = id → timesAsked id view.history = 0
  | .issued worker (.sign request) => request.id = id → ∀ event ∈ view.history,
      event.worker ≠ worker →
      UnderWayUnsigned platform coordinator id event.worker view.history = false
  | _ => True

instance (id : JsString)
    (view : View (signingServices platform kind coordinator.signer) Worker SigningCommand) :
    (event : Event signingInterface Worker SigningCommand) →
      Decidable (SignsAlone platform coordinator kind id view event)
  | .answered _ (.getResult asked) (.ok none) =>
      inferInstanceAs (Decidable (asked = id → timesAsked id view.history = 0))
  | .issued worker (.sign request) =>
      inferInstanceAs (Decidable (request.id = id → ∀ event ∈ view.history,
        event.worker ≠ worker →
        UnderWayUnsigned platform coordinator id event.worker view.history = false))
  | .answered _ (.getResult _) (.ok (some _)) | .answered _ (.getResult _) (.error _)
  | .answered _ (.create _) _ | .answered _ (.get _) _ | .answered _ (.addApproval _) _
  | .answered _ (.approvals _) _ | .answered _ (.saveResult _) _ | .answered _ .now _
  | .answered _ (.sign _) _ | .started _ _ | .crashed _
  | .issued _ (.create _) | .issued _ (.get _) | .issued _ (.addApproval _)
  | .issued _ (.approvals _) | .issued _ (.saveResult _) | .issued _ (.getResult _)
  | .issued _ .now => .isTrue trivial

variable {config : Config (signingServices platform kind coordinator.signer) Worker SigningCommand
    SigningOutcome}
  {admits : View (signingServices platform kind coordinator.signer) Worker SigningCommand →
    Event signingInterface Worker SigningCommand → Prop}

/-! ## What is stored -/

/-- A stored result stays as it is, however the run goes on. -/
theorem SigningCoordinator.result_of_run {final : Config
      (signingServices platform kind coordinator.signer) Worker SigningCommand SigningOutcome}
    {id : JsString} {result : SignatureResult} (stored : config.state.results id = some result)
    {schedule : List (Action (signingServices platform kind coordinator.signer) Worker
      SigningCommand)}
    (runs : config.run (coordinator.run platform) (fun _ _ => True) schedule = some final) :
    final.state.results id = some result := by
  induction schedule generalizing config with
  | nil =>
      cases Option.some.inj runs
      exact stored
  | cons action rest ih =>
      obtain ⟨move, moved, _, more⟩ := Config.run_cons runs
      refine ih ?_ more
      change move.state.results id = some result
      cases Config.moves_of_move moved with
      | answer _ replied => exact (SigningStore.replies_of_reply replied).results stored
      | _ => exact stored

namespace SigningCoordinator.Reachable

/-- What an execution returns is the stored result. -/
theorem stored_of_executed (reached : coordinator.Reachable platform kind admits config)
    {worker : Worker} {context : TenantContext} {id : JsString} {result : SignatureResult}
    (executes : entryOf worker config.history = some (.execute context id))
    (settled : config.workers worker = .running (.settled (.ok (.executed result)))) :
    config.state.results id = some result := by
  have tracks := Async.Reachable.tracks rfl reached worker
  rw [settled] at tracks
  obtain ⟨⟨command, exchanges⟩, known, reaches⟩ := tracks
  cases (entryOf_of_transcriptOf known).symm.trans executes
  obtain ⟨_, _, same, replayed | signs⟩ := (coordinator.run_asks _).post_of_reaches reaches
  · cases same
    have replayed : exchanges = [⟨.getResult id, .ok (some result)⟩] := replayed
    subst replayed
    exact reached.bearsOut known ⟨.getResult id, .ok (some result)⟩ List.mem_cons_self
  · cases same
    obtain ⟨request, now, approvals, signed, rfl, clears⟩ := signs
    obtain ⟨named, _⟩ := reached.owns_of_clears known clears
    obtain ⟨rfl, stored⟩ : result = signed ∧ config.state.results signed.requestId = some signed :=
      reached.bearsOut known ⟨.saveResult signed, .ok result⟩ (by simp)
    have same : result.requestId = request.id :=
      reached.bearsOut known ⟨.sign request, .ok result⟩ (by simp)
    rwa [same, named] at stored

/-! ## Who may still ask the signer -/

/-- A worker that asks the signer has read what an execution of that request reads. -/
theorem reads_of_signs (reached : coordinator.Reachable platform kind admits config)
    {worker : Worker} {request : SigningRequest} {resume}
    (status : config.workers worker = .running (.await (.sign request) resume)) :
    ∃ command now approvals, transcriptOf (coordinator.run platform) worker config.history =
      some (command, readings request.id request now approvals) := by
  have tracks := Async.Reachable.tracks rfl reached worker
  rw [status] at tracks
  obtain ⟨⟨command, exchanges⟩, known, reaches⟩ := tracks
  obtain ⟨context, id, now, approvals, _, rfl, clears⟩ :=
    (coordinator.run_asks _).admits_of_reaches reaches
  refine ⟨command, now, approvals, ?_⟩
  have more := known
  rw [← List.append_nil (readings ..)] at more
  rw [(reached.owns_of_clears more clears).1]
  exact known

end SigningCoordinator.Reachable

/-- A worker will not ask the signer again: it waits for the signer, it is at rest, or it has asked
already. -/
inductive AskedAlready (exchanges : List (Exchange signingInterface)) :
    Status signingInterface SigningOutcome → Prop where
  | waits {request : SigningRequest} {resume} : AskedAlready exchanges (.waiting (.sign request) resume)
  | rests {status : Status signingInterface SigningOutcome} :
      status.atRest = true → AskedAlready exchanges status
  | asked {status : Status signingInterface SigningOutcome} {request : SigningRequest} {answer} :
      ⟨.sign request, answer⟩ ∈ exchanges → AskedAlready exchanges status

/-- A worker that is about to make a call has asked the signer before. -/
theorem AskedAlready.of_await {exchanges : List (Exchange signingInterface)} {call : SigningCall}
    {resume : signingInterface.Answer call → Async.Program signingInterface SigningOutcome}
    (asked : AskedAlready exchanges (.running (.await call resume))) :
    ∃ request answer, ⟨.sign request, answer⟩ ∈ exchanges := by
  cases asked with
  | rests resting => cases resting
  | asked member => exact ⟨_, _, member⟩

/-- A worker whose call is answered has asked the signer then. -/
theorem AskedAlready.answered {exchanges : List (Exchange signingInterface)} {call : SigningCall}
    {resume : signingInterface.Answer call → Async.Program signingInterface SigningOutcome}
    (asked : AskedAlready exchanges (.waiting call resume)) (answer : signingInterface.Answer call)
    (status : Status signingInterface SigningOutcome) :
    AskedAlready (exchanges ++ [⟨call, answer⟩]) status := by
  cases asked with
  | waits => exact .asked (List.mem_append_right _ List.mem_cons_self)
  | rests resting => cases resting
  | asked member => exact .asked (List.mem_append_left _ member)

theorem eq_of_findsNoResult {id : JsString} {exchange : Exchange signingInterface}
    (finds : findsNoResult id exchange = true) : exchange = ⟨.getResult id, .ok none⟩ := by
  obtain ⟨call, answer⟩ := exchange
  cases call with
  | getResult asked =>
      rcases answer with error | _ | result
      · cases finds
      · rw [show asked = id from beq_iff_eq.mp finds]
      · cases finds
  | _ => cases finds

/-- Once a signature has been asked for, whoever has found no result has asked the signer. -/
def SignedFor (platform : SigningPlatform) (coordinator : SigningCoordinator) (id : JsString)
    (config : Config (signingServices platform kind coordinator.signer) Worker SigningCommand
      SigningOutcome) : Prop :=
  timesAsked id config.history ≠ 0 → ∀ worker command exchanges,
    transcriptOf (coordinator.run platform) worker config.history = some (command, exchanges) →
    exchanges.any (findsNoResult id) = true → AskedAlready exchanges (config.workers worker)

omit [DecidableEq Worker] in
theorem timesAsked_cons_of_not {id : JsString}
    {event : Event signingInterface Worker SigningCommand}
    {history : List (Event signingInterface Worker SigningCommand)}
    (other : asksToSign id event = false) :
    timesAsked id (event :: history) = timesAsked id history := by
  rw [timesAsked, List.countP_cons, other, if_neg Bool.false_ne_true]
  rfl

variable {move : Move (signingServices platform kind coordinator.signer) Worker SigningCommand
    SigningOutcome}

/-- What others do does not matter to those who have found no result. -/
theorem SignedFor.frame {id : JsString} (before : SignedFor platform coordinator id config)
    (once : timesAsked id config.history ≠ 0) {worker : Worker}
    (other : move.event.worker ≠ worker) {command : SigningCommand}
    {exchanges : List (Exchange signingInterface)}
    (known : transcriptOf (coordinator.run platform) worker (config.apply move).history =
      some (command, exchanges)) (found : exchanges.any (findsNoResult id) = true) :
    AskedAlready exchanges ((config.apply move).workers worker) := by
  have same : (config.apply move).workers worker = config.workers worker :=
    Function.update_of_ne other.symm ..
  rw [same]
  exact before once worker command exchanges
    ((Protocol.localOf_cons_of_ne other).symm.trans known) found

namespace SigningCoordinator.Reachable

variable {action : Action (signingServices platform kind coordinator.signer) Worker SigningCommand}

/-- Where the signer is asked for the first time, it has not been asked before. -/
theorem timesAsked_of_asks (reached : coordinator.Reachable platform kind admits config)
    {id : JsString} (before : SignedFor platform coordinator id config)
    (moved : config.move (coordinator.run platform) action = some move)
    (asks : asksToSign id move.event = true) : timesAsked id config.history = 0 := by
  cases Config.moves_of_move moved with
  | @issue worker call resume status =>
      cases call with
      | sign request =>
          obtain rfl : request.id = id := beq_iff_eq.mp asks
          obtain ⟨command, now, approvals, known⟩ := reached.reads_of_signs status
          by_contra once
          have found : (readings request.id request now approvals).any
              (findsNoResult request.id) = true := by
            simp [readings, findsNoResult]
          have already := before once worker command _ known found
          rw [status] at already
          obtain ⟨other, answer, member⟩ := already.of_await
          simp [readings] at member
      | _ => cases asks
  | _ => cases asks

/-- The condition of a step keeps whoever has found no result from asking again. -/
theorem signedFor_step {id : JsString}
    (reached : coordinator.Reachable platform kind (SignsAlone platform coordinator kind id) config)
    (before : SignedFor platform coordinator id config)
    (moved : config.move (coordinator.run platform) action = some move)
    (admitted : SignsAlone platform coordinator kind id config.toView move.event) :
    SignedFor platform coordinator id (config.apply move) := by
  intro once worker command exchanges known found
  by_cases other : move.event.worker = worker
  · subst other
    rw [show (config.apply move).workers move.event.worker = move.status from
      Function.update_self ..]
    cases Config.moves_of_move moved with
    | start resting =>
        cases (Protocol.localOf_started_self ..).symm.trans known
        cases found
    | crash busy => cases (Protocol.localOf_crashed_self ..).symm.trans known
    | @issue worker call resume status =>
        have known := (Protocol.localOf_issued ..).symm.trans known
        cases asks : asksToSign id (.issued worker call : Event signingInterface Worker _) with
        | true =>
            cases call with
            | sign request => exact .waits
            | _ => cases asks
        | false =>
            have already := before ((timesAsked_cons_of_not asks).symm ▸ once) worker command
              exchanges known found
            rw [status] at already
            obtain ⟨request, answer, member⟩ := already.of_await
            exact .asked member
    | @answer worker call resume choice answer next status replied =>
        obtain ⟨⟨command, earlier⟩, heard, same⟩ := Option.map_eq_some_iff.mp
          ((Protocol.localOf_answered_self ..).symm.trans known)
        cases same
        have once : timesAsked id config.history ≠ 0 := once
        rw [List.any_append, Bool.or_eq_true] at found
        rcases found with found | found
        · have already := before once worker command earlier heard found
          rw [status] at already
          exact already.answered answer _
        · have same := eq_of_findsNoResult ((Bool.or_false _).symm.trans found)
          cases same
          exact absurd (admitted rfl) once
  · cases asks : asksToSign id move.event with
    | false =>
        have once : timesAsked id config.history ≠ 0 := (timesAsked_cons_of_not asks).symm ▸ once
        exact before.frame once other known found
    | true =>
        -- Nobody else is under way when the signer is asked.
        have unmoved := (Protocol.localOf_cons_of_ne other).symm.trans known
        rw [show (config.apply move).workers worker = config.workers worker from
          Function.update_of_ne (Ne.symm other) ..]
        refine .rests ?_
        by_contra busy
        have underWay : UnderWayUnsigned platform coordinator id worker config.history = true :=
          Async.Reachable.underWay rfl reached busy unmoved found
        cases Config.moves_of_move moved with
        | @issue asker call resume status =>
            cases call with
            | sign request =>
                obtain rfl : request.id = id := beq_iff_eq.mp asks
                have started := started_of_entryOf (entryOf_of_transcriptOf unmoved)
                have alone := admitted rfl _ started (Ne.symm other)
                cases alone.symm.trans underWay
            | _ => cases asks
        | _ => cases asks

/-- The signer is asked at most once. -/
theorem asked_once {id : JsString}
    (reached :
      coordinator.Reachable platform kind (SignsAlone platform coordinator kind id) config) :
    timesAsked id config.history ≤ 1 ∧ SignedFor platform coordinator id config := by
  induction reached with
  | initial => exact ⟨Nat.zero_le 1, fun once => absurd rfl once⟩
  | @step config action move before moved admitted ih =>
      refine ⟨?_, signedFor_step before ih.2 moved admitted⟩
      change timesAsked id (move.event :: config.history) ≤ 1
      cases asks : asksToSign id move.event with
      | false => exact (timesAsked_cons_of_not asks).le.trans ih.1
      | true =>
          have unasked := timesAsked_of_asks before ih.2 moved asks
          rw [timesAsked, List.countP_cons, asks, if_pos rfl]
          exact Nat.succ_le_succ unasked.le

end SigningCoordinator.Reachable

/-- **One signature for a request.** Where executions of a request do not overlap between finding no
result and asking the signer, and no execution finds no result after a signature was asked for, the
signer is asked at most once for the request, the stored result never changes, and every execution
that returns, returns the stored result. -/
theorem SigningCoordinator.signed_once (platform : SigningPlatform)
    (coordinator : SigningCoordinator) (kind : SigningStoreKind)
    {config : Config (signingServices platform kind coordinator.signer) Worker SigningCommand
      SigningOutcome} {id : JsString}
    (reached :
      coordinator.Reachable platform kind (SignsAlone platform coordinator kind id) config) :
    timesAsked id config.history ≤ 1 ∧
    (∀ result, config.state.results id = some result → ∀ schedule final,
      config.run (coordinator.run platform) (fun _ _ => True) schedule = some final →
      final.state.results id = some result) ∧
    ∀ worker context result, entryOf worker config.history = some (.execute context id) →
      config.workers worker = .running (.settled (.ok (.executed result))) →
      config.state.results id = some result :=
  ⟨reached.asked_once.1, fun _ stored _ _ runs => result_of_run stored runs,
    fun _ _ _ executes settled => reached.stored_of_executed executes settled⟩

end Runs

/-! ## Two callers -/

namespace TwoCallers

open TwoTenants (platform coordinator alice input now signature)

abbrev Desk : Type :=
  Config (signingServices platform .inMemory coordinator.signer) Bool SigningCommand SigningOutcome

abbrev Schedule : Type :=
  List (Action (signingServices platform .inMemory coordinator.signer) Bool SigningCommand)

def request : JsString := js "IW:SIGNING_REQUEST:1"

/-- Answer the calls of a caller. -/
def answer (caller : Bool) (answers : List SigningChoice) : Schedule :=
  answers.flatMap fun choice => [.issue caller, .answer caller choice]

def submitted : Schedule :=
  .start true (.submit alice (input .attestation)) :: answer true [now, .stored]

/-- One caller has the request signed before the other asks for it. -/
def inTurn : Schedule :=
  submitted ++ .start true (.execute alice request) ::
    answer true [.stored, .stored, now, .stored, signature, .stored] ++
    .start false (.execute alice request) :: answer false [.stored]

/-- Both callers find no result, and both ask for a signature. -/
def overlapping : Schedule :=
  submitted ++ [.start true (.execute alice request), .start false (.execute alice request)] ++
    answer true [.stored] ++ answer false [.stored] ++
    answer true [.stored, now, .stored, signature, .stored] ++
    answer false [.stored, now, .stored, signature]

/-- The signer is asked twice for one request. -/
theorem asked_twice : ∃ config : Desk,
    coordinator.Reachable platform .inMemory (fun _ _ => True) config ∧
      timesAsked request config.history = 2 := by
  obtain ⟨config, reached, checked⟩ := Async.Reachable.exists_of_run (coordinator.run platform)
    (fun _ _ => True) ⟨SigningStore.empty, []⟩ overlapping
    (fun config : Desk => decide (timesAsked request config.history = 2)) (by decide +kernel)
  exact ⟨config, reached, of_decide_eq_true checked⟩

/-- In turn, the signer is asked once and the second caller is given the stored result. -/
theorem signed_in_turn : ∃ config : Desk, timesAsked request config.history ≤ 1 ∧
    (config.state.results request).isSome = true := by
  obtain ⟨config, reached, checked⟩ := Async.Reachable.exists_of_run (coordinator.run platform)
    (SignsAlone platform coordinator .inMemory request) ⟨SigningStore.empty, []⟩ inTurn
    (fun config : Desk => (config.state.results request).isSome) (by decide +kernel)
  have once := SigningCoordinator.signed_once platform coordinator .inMemory reached
  exact ⟨config, once.1, checked⟩

end TwoCallers

end InterWeave
