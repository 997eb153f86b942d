import InterWeave.Core.IsoDate
import InterWeave.Emergency.ControlCalls

/-! # Audited lifts

A control is written before the audit sink is told of it, and a lift that finds its control lifted
returns at once. So a lift is audited for certain only where it finds its control with all its
changes recorded. Then one lifting is recorded for the control, after its activation, by the time
that a lift returns.
-/

namespace InterWeave

open Async

/-- An event tells of this action on a control. -/
def EmergencyAuditEvent.tells (id : JsString) (action : EmergencyAuditAction)
    (event : EmergencyAuditEvent) : Bool :=
  event.controlId = id && event.action = action

/-- Each change that a control has undergone is among the recorded events. -/
def EmergencyControl.Recorded (audited : List EmergencyAuditEvent) (control : EmergencyControl) :
    Prop :=
  (∃ event ∈ audited, event.tells control.id .activated = true) ∧
    (control.status = .lifted → ∃ event ∈ audited, event.tells control.id .lifted = true)

instance (audited : List EmergencyAuditEvent) (control : EmergencyControl) :
    Decidable (control.Recorded audited) :=
  inferInstanceAs (Decidable (_ ∧ _))

/-- One lifting of a control is recorded, after an activation. -/
def LiftedOnce (id : JsString) (audited : List EmergencyAuditEvent) : Prop :=
  ∃ earlier event later, audited = earlier ++ event :: later ∧ event.tells id .lifted = true ∧
    (∃ activation ∈ earlier, activation.tells id .activated = true) ∧
    ∀ other ∈ earlier ++ later, other.tells id .lifted = false

/-- No lifting of a control is recorded. -/
def Unlifted (id : JsString) (audited : List EmergencyAuditEvent) : Prop :=
  ∀ event ∈ audited, event.tells id .lifted = false

variable {id : JsString} {audited : List EmergencyAuditEvent} {event : EmergencyAuditEvent}

theorem Unlifted.record (unlifted : Unlifted id audited) (tells : event.tells id .lifted = false) :
    Unlifted id (audited ++ [event]) := by
  intro other member
  rcases List.mem_append.mp member with earlier | last
  · exact unlifted other earlier
  · rw [List.mem_singleton.mp last, tells]

theorem LiftedOnce.record (lifted : LiftedOnce id audited) (tells : event.tells id .lifted = false) :
    LiftedOnce id (audited ++ [event]) := by
  obtain ⟨earlier, lifting, later, split, is_lifting, activated, others⟩ := lifted
  refine ⟨earlier, lifting, later ++ [event], ?_, is_lifting, activated, ?_⟩
  · rw [split, List.append_assoc, List.cons_append]
  · intro other member
    rw [← List.append_assoc] at member
    rcases List.mem_append.mp member with among | last
    · exact others other among
    · rw [List.mem_singleton.mp last, tells]

/-- The first lifting is recorded after an activation. -/
theorem Unlifted.lift (unlifted : Unlifted id audited) (tells : event.tells id .lifted = true)
    (activated : ∃ activation ∈ audited, activation.tells id .activated = true) :
    LiftedOnce id (audited ++ [event]) :=
  ⟨audited, event, [], rfl, tells, activated, by rwa [List.append_nil]⟩

/-- Where a lifting is recorded, it is not so that none is. -/
theorem Unlifted.not_mem (unlifted : Unlifted id audited) (tells : event.tells id .lifted = true) :
    event ∉ audited := by
  intro member
  rw [unlifted event member] at tells
  cases tells

/-! ## Who has yet to tell -/

/-- The store, the recorded events and the workers that have lifted a control without having told
the audit sink: there is at most one, and then no lifting is recorded. -/
structure LiftsAudited {Worker : Type} (world : EmergencyWorld) (owes : Worker → Prop)
    (id : JsString) : Prop where
  active : (∀ row ∈ world.controls.rows, row.control.id = id → row.status = .active) →
    Unlifted id world.audited ∧ ∀ worker, ¬ owes worker
  told : (Unlifted id world.audited ∧ ∀ first second, owes first → owes second → first = second) ∨
    (LiftedOnce id world.audited ∧ ∀ worker, ¬ owes worker)

namespace LiftsAudited

variable {Worker : Type} {world : EmergencyWorld} {owes still : Worker → Prop} {worker : Worker}
  {control : EmergencyControl} {controls : EmergencyControls}

theorem fewer (sound : LiftsAudited world owes id) (fewer : ∀ worker, still worker → owes worker) :
    LiftsAudited world still id where
  active all := by
    obtain ⟨unlifted, nobody⟩ := sound.active all
    exact ⟨unlifted, fun worker owing => nobody worker (fewer worker owing)⟩
  told := by
    rcases sound.told with ⟨unlifted, single⟩ | ⟨lifted, nobody⟩
    · exact .inl ⟨unlifted, fun first second one other =>
        single first second (fewer first one) (fewer second other)⟩
    · exact .inr ⟨lifted, fun worker owing => nobody worker (fewer worker owing)⟩

theorem create (sound : LiftsAudited world owes id) {row : EmergencyRow}
    (rows : controls.rows = world.controls.rows ++ [row]) :
    LiftsAudited { world with controls } owes id where
  active all := by
    refine sound.active fun row member => all row ?_
    dsimp only
    rw [rows]
    exact List.mem_append_left _ member
  told := sound.told

/-- The update of an active control makes its caller the only one that has yet to tell. -/
theorem update (sound : LiftsAudited world owes id) (updater : Worker) {row : EmergencyRow}
    (member : row ∈ world.controls.rows) (named : row.control.id = control.id)
    (active : row.status = .active)
    (rows : controls.rows = world.controls.rows.map (EmergencyControls.replaced · control))
    (grows : ∀ other, still other → owes other ∨ control.id = id ∧ other = updater) :
    LiftsAudited { world with controls } still id := by
  by_cases same : control.id = id
  · have all : ∀ row ∈ world.controls.rows, row.control.id = id → row.status = .active := by
      intro other among is_control
      rw [EmergencyControls.eq_of_id among member (is_control.trans (named.trans same).symm), active]
    obtain ⟨unlifted, nobody⟩ := sound.active all
    have only : ∀ other, still other → other = updater := fun other owing =>
      ((grows other owing).resolve_left (nobody other)).2
    refine ⟨fun actives => ?_, .inl ⟨unlifted, fun first second one other => ?_⟩⟩
    · have written : EmergencyControls.replaced row control ∈ controls.rows := by
        rw [rows]
        exact List.mem_map_of_mem member
      have status := actives _ written (by rw [EmergencyControls.replaced_id, named, same])
      rw [EmergencyControls.replaced, if_pos named] at status
      cases status
    · rw [only first one, only second other]
  · have kept : LiftsAudited { world with controls } owes id := by
      refine ⟨fun actives => sound.active fun other among is_control => ?_, sound.told⟩
      have different : ¬ other.control.id = control.id :=
        fun equal => same (equal.symm.trans is_control)
      refine actives other ?_ is_control
      dsimp only
      rw [rows]
      have stays : EmergencyControls.replaced other control = other := if_neg different
      exact List.mem_map.mpr ⟨other, among, stays⟩
    exact kept.fewer fun other owing =>
      (grows other owing).resolve_right fun changed => same changed.1

/-- What is no lifting of the control may be recorded at any time. -/
theorem record (sound : LiftsAudited world owes id) (tells : event.tells id .lifted = false) :
    LiftsAudited { world with audited := world.audited ++ [event] } owes id where
  active all := by
    obtain ⟨unlifted, nobody⟩ := sound.active all
    exact ⟨unlifted.record tells, nobody⟩
  told := by
    rcases sound.told with ⟨unlifted, single⟩ | ⟨lifted, nobody⟩
    · exact .inl ⟨unlifted.record tells, single⟩
    · exact .inr ⟨lifted.record tells, nobody⟩

/-- The one that has yet to tell records the lifting. -/
theorem lift (sound : LiftsAudited world owes id) (tells : event.tells id .lifted = true)
    (owing : owes worker)
    (activated : ∃ activation ∈ world.audited, activation.tells id .activated = true)
    (others : ∀ other, still other → owes other ∧ other ≠ worker) :
    LiftsAudited { world with audited := world.audited ++ [event] } still id := by
  have nobody : ∀ other, ¬ still other := by
    intro other stays
    obtain ⟨owed, different⟩ := others other stays
    rcases sound.told with ⟨_, single⟩ | ⟨_, nobody⟩
    · exact different (single other worker owed owing)
    · exact nobody worker owing
  have lifted : LiftedOnce id (world.audited ++ [event]) := by
    rcases sound.told with ⟨unlifted, _⟩ | ⟨_, nobody⟩
    · exact unlifted.lift tells activated
    · exact absurd owing (nobody worker)
  exact ⟨fun actives => absurd owing ((sound.active actives).2 worker), .inr ⟨lifted, nobody⟩⟩

/-- A worker that records a lifting of the control has yet to tell it. -/
theorem told_by (sound : LiftsAudited world owes id)
    (others : ∀ other, still other → owes other ∧ other ≠ worker)
    (owed : event.tells id .lifted = true →
      owes worker ∧ ∃ activation ∈ world.audited, activation.tells id .activated = true) :
    LiftsAudited { world with audited := world.audited ++ [event] } still id := by
  cases tells : event.tells id .lifted with
  | true =>
      obtain ⟨owing, activated⟩ := owed tells
      exact sound.lift tells owing activated others
  | false => exact (sound.record tells).fewer fun other stays => (others other stays).1

end LiftsAudited

/-! ## Runs -/

/-- A call lifts the control. -/
def EmergencyCommand.lifts (id : JsString) : EmergencyCommand → Bool
  | .lift _ other _ => other = id
  | _ => false

section Runs

variable {platform : Platform} {kind : EmergencyStoreKind} {Worker : Type} [DecidableEq Worker]

/-- A lift finds its control with all its changes recorded. -/
def FindsRecorded (view : View (emergencyServices platform kind) Worker EmergencyCommand) :
    Event emergencyInterface Worker EmergencyCommand → Prop
  | .answered worker (.list tenant) _ => ∀ row ∈ view.state.controls.rows,
      row.control.toTenant = tenant →
      (entryOf worker view.history).any (EmergencyCommand.lifts row.control.id) = true →
      row.control.Recorded view.state.audited
  | _ => True

instance (view : View (emergencyServices platform kind) Worker EmergencyCommand) :
    (event : Event emergencyInterface Worker EmergencyCommand) → Decidable (FindsRecorded view event)
  | .answered worker (.list tenant) _ => inferInstanceAs (Decidable
      (∀ row ∈ view.state.controls.rows, row.control.toTenant = tenant →
        (entryOf worker view.history).any (EmergencyCommand.lifts row.control.id) = true →
        row.control.Recorded view.state.audited))
  | .answered _ (.update _) _ | .answered _ (.create _) _ | .answered _ (.record _) _
  | .answered _ .now _ | .started _ _ | .issued _ _ | .crashed _ => .isTrue trivial

/-- A worker has updated the control, and not told the audit sink since. -/
def Owes (platform : Platform) (id : JsString)
    (history : List (Event emergencyInterface Worker EmergencyCommand)) (worker : Worker) : Prop :=
  ∃ command exchanges control stored,
    transcriptOf (EmergencyCommand.run platform) worker history =
      some (command, exchanges ++ [⟨.update control, .ok stored⟩]) ∧ control.id = id

variable {worker other : Worker}
  {history : List (Event emergencyInterface Worker EmergencyCommand)}

theorem owes_cons_of_ne {event : Event emergencyInterface Worker EmergencyCommand}
    (different : event.worker ≠ worker) (owing : Owes platform id (event :: history) worker) :
    Owes platform id history worker := by
  obtain ⟨command, exchanges, control, stored, known, named⟩ := owing
  rw [transcriptOf, Protocol.localOf_cons_of_ne different] at known
  exact ⟨command, exchanges, control, stored, known, named⟩

theorem owes_of_issued {call : EmergencyCall}
    (owing : Owes platform id (.issued other call :: history) worker) :
    Owes platform id history worker := by
  obtain ⟨command, exchanges, control, stored, known, named⟩ := owing
  rw [transcriptOf, Protocol.localOf_issued] at known
  exact ⟨command, exchanges, control, stored, known, named⟩

theorem not_owes_started {command : EmergencyCommand} :
    ¬ Owes platform id (.started worker command :: history) worker := by
  rintro ⟨_, exchanges, control, stored, known, _⟩
  rw [transcriptOf, Protocol.localOf_started_self] at known
  simp at known

theorem not_owes_crashed : ¬ Owes platform id (.crashed worker :: history) worker := by
  rintro ⟨_, exchanges, control, stored, known, _⟩
  rw [transcriptOf, Protocol.localOf_crashed_self] at known
  cases known

/-- After an answer a worker owes what it has just updated. -/
theorem updated_of_owes {call : EmergencyCall} {answer : emergencyInterface.Answer call}
    (owing : Owes platform id (.answered worker call answer :: history) worker) :
    ∃ control stored, (⟨call, answer⟩ : Exchange emergencyInterface) =
      ⟨.update control, .ok stored⟩ ∧ control.id = id := by
  obtain ⟨_, exchanges, control, stored, known, named⟩ := owing
  rw [transcriptOf, Protocol.localOf_answered_self, Option.map_eq_some_iff] at known
  obtain ⟨here, _, same⟩ := known
  obtain ⟨_, same⟩ := Prod.mk.inj same
  exact ⟨control, stored, (List.append_singleton_inj.mp same).2, named⟩

/-- What calls have been answered shows in the recorded events. -/
def EmergencyCommand.Witnessed (command : EmergencyCommand) (world : EmergencyWorld) :
    Exchange emergencyInterface → Prop
  | ⟨.list _, .ok controls⟩ => ∀ control ∈ controls, command.lifts control.id = true →
      control.Recorded world.audited
  | ⟨.record event, .ok _⟩ => event ∈ world.audited
  | _ => True

/-- Recorded events stay recorded. -/
theorem EmergencyWorld.Replies.keepsAudited {world next : EmergencyWorld} {call : EmergencyCall}
    {answer : emergencyInterface.Answer call}
    (replies : world.Replies platform kind call answer next) : world.audited ⊆ next.audited := by
  cases replies with
  | recorded event => exact List.subset_append_left _ _
  | lost event error => exact List.subset_append_left _ _
  | _ => exact List.Subset.refl _

theorem EmergencyControl.Recorded.mono {audited later : List EmergencyAuditEvent}
    {control : EmergencyControl} (recorded : control.Recorded audited) (grows : audited ⊆ later) :
    control.Recorded later := by
  obtain ⟨⟨activation, member, activated⟩, lifts⟩ := recorded
  refine ⟨⟨activation, grows member, activated⟩, fun status => ?_⟩
  obtain ⟨lifting, among, lifted⟩ := lifts status
  exact ⟨lifting, grows among, lifted⟩

theorem EmergencyCommand.Witnessed.mono {command : EmergencyCommand} {world next : EmergencyWorld}
    (grows : world.audited ⊆ next.audited) {exchange : Exchange emergencyInterface}
    (witnessed : command.Witnessed world exchange) : command.Witnessed next exchange := by
  obtain ⟨call, answer⟩ := exchange
  cases call with
  | list tenant =>
      cases answer with
      | ok controls => exact fun control listed lifts => (witnessed control listed lifts).mono grows
      | error error => trivial
  | record event =>
      cases answer with
      | ok done => exact grows witnessed
      | error error => trivial
  | _ => trivial

variable {config : Config (emergencyServices platform kind) Worker EmergencyCommand
    EmergencyOutcome}
  (reached : Reachable (EmergencyCommand.run platform) FindsRecorded ⟨EmergencyWorld.empty, []⟩
    config)
include reached

/-- The recorded events bear out what calls were answered. -/
theorem calls_witnessed {command : EmergencyCommand}
    {exchanges : List (Exchange emergencyInterface)}
    (known : transcriptOf (EmergencyCommand.run platform) worker config.history =
      some (command, exchanges)) :
    ∀ exchange ∈ exchanges, command.Witnessed config.state exchange := by
  refine reached.exchanges_hold (fun command (world : EmergencyWorld) exchange =>
    command.Witnessed world exchange) rfl ?_ ?_ worker command exchanges known
  · intro config worker command exchanges call choice answer next _ known _ admitted replied
    have replies := EmergencyWorld.replies_of_reply replied
    cases replies with
    | listed tenant =>
        intro control listed lifts
        obtain ⟨belongs, row, member, rfl⟩ := EmergencyControls.mem_list listed
        have entered : entryOf worker config.history = some command := entryOf_of_transcriptOf known
        apply admitted row member belongs
        rw [entered, Option.any_some, lifts]
    | recorded event => exact List.mem_append_right _ (List.mem_singleton_self event)
    | refused error => cases call <;> trivial
    | _ => trivial
  · intro command call choice world answer next exchange replied witnessed
    exact witnessed.mono (EmergencyWorld.replies_of_reply replied).keepsAudited

/-- What a command records of a lifting, it owes. -/
theorem owes_of_records {command : EmergencyCommand}
    {exchanges : List (Exchange emergencyInterface)} {event : EmergencyAuditEvent}
    (known : transcriptOf (EmergencyCommand.run platform) worker config.history =
      some (command, exchanges))
    (asks : command.Asks platform exchanges (.record event))
    (tells : event.tells id .lifted = true) :
    Owes platform id config.history worker ∧
      ∃ activation ∈ config.state.audited, activation.tells id .activated = true := by
  have witnessed := calls_witnessed reached known
  cases asks with
  | recordActivation principal input now stored =>
      rw [EmergencyAuditEvent.tells, Bool.and_eq_true, decide_eq_true_eq, decide_eq_true_eq]
        at tells
      cases tells.2
  | @recordLifting principal lifted reason controls current now stored listed named active =>
      rw [EmergencyAuditEvent.tells, Bool.and_eq_true, decide_eq_true_eq] at tells
      have same : lifted = id := tells.1
      refine ⟨⟨_, [_, _], _, stored, known, named.trans same⟩, ?_⟩
      obtain ⟨⟨activation, member, activated⟩, _⟩ :=
        witnessed _ List.mem_cons_self current listed (decide_eq_true named.symm)
      rw [named, same] at activated
      exact ⟨activation, member, activated⟩

/-- At most one worker has lifted a control without having told the audit sink, and a lifting is
recorded at most once, after the activation. -/
theorem lifts_audited (id : JsString) :
    LiftsAudited config.state (Owes platform id config.history) id := by
  refine reached.invariant (fun view =>
    LiftsAudited view.state (Owes platform id view.history) id) rfl ?_ ?_
  · have nobody : ∀ worker : Worker, ¬ Owes platform id [] worker := by
      rintro worker ⟨_, _, _, _, known, _⟩
      cases known
    have unlifted : Unlifted id [] := fun _ member => (List.not_mem_nil member).elim
    exact ⟨fun _ => ⟨unlifted, nobody⟩,
      .inl ⟨unlifted, fun first _ owing => absurd owing (nobody first)⟩⟩
  · intro config event state reached step admitted sound
    have elsewhere : ∀ worker, event.worker ≠ worker →
        Owes platform id (event :: config.history) worker → Owes platform id config.history worker :=
      fun _ => owes_cons_of_ne
    cases step with
    | @started starter command _ =>
        refine sound.fewer fun worker owing => ?_
        by_cases own : starter = worker
        · subst own
          exact absurd owing not_owes_started
        · exact elsewhere worker own owing
    | issued _ _ => exact sound.fewer fun worker owing => owes_of_issued owing
    | @crashed crasher _ _ =>
        refine sound.fewer fun worker owing => ?_
        by_cases own : crasher = worker
        · subst own
          exact absurd owing not_owes_crashed
        · exact elsewhere worker own owing
    | @answered asker call answer here choice state _ known allowed replied =>
        have asks := EmergencyCommand.asks_of_allowed allowed
        have quiet : (∀ control stored, (⟨call, answer⟩ : Exchange emergencyInterface) ≠
            ⟨.update control, .ok stored⟩) → ∀ worker,
            Owes platform id (.answered asker call answer :: config.history) worker →
            Owes platform id config.history worker ∧ worker ≠ asker := by
          intro another worker owing
          by_cases own : asker = worker
          · subst own
            obtain ⟨control, stored, same, _⟩ := updated_of_owes owing
            exact absurd same (another control stored)
          · exact ⟨elsewhere worker own owing, Ne.symm own⟩
        have replies := EmergencyWorld.replies_of_reply replied
        cases replies with
        | created createdAt _ rows =>
            refine (sound.create rows).fewer fun worker owing => (quiet ?_ worker owing).1
            exact fun control stored same => nomatch same
        | @updated control controls row member named active rows =>
            refine sound.update asker member named active rows fun worker owing => ?_
            by_cases own : asker = worker
            · subst own
              obtain ⟨_, stored, same, changed⟩ := updated_of_owes owing
              cases same
              exact .inr ⟨changed, rfl⟩
            · exact .inl (elsewhere worker own owing)
        | recorded event =>
            refine sound.told_by (quiet ?_) fun tells => owes_of_records reached known asks tells
            exact fun control stored same => nomatch same
        | lost event error =>
            refine sound.told_by (quiet ?_) fun tells => owes_of_records reached known asks tells
            exact fun control stored same => nomatch same
        | refused error =>
            refine sound.fewer fun worker owing => (quiet ?_ worker owing).1
            intro control stored same
            cases same
        | _ =>
            refine sound.fewer fun worker owing => (quiet ?_ worker owing).1
            exact fun control stored same => nomatch same

/-- **A lift that returns is audited**, where every lift finds its control with all its changes
recorded: exactly one lifting of the control has been recorded by then, after its activation. -/
theorem returned_lifts_audited {principal : EmergencyPrincipal} {reason : JsString}
    {outcome : EmergencyOutcome}
    (entered : entryOf worker config.history = some (.lift principal id reason))
    (settled : config.workers worker = .running (.settled (.ok outcome))) :
    LiftedOnce id config.state.audited := by
  have tracked := reached.tracks rfl worker
  rw [settled] at tracked
  obtain ⟨⟨command, exchanges⟩, known, reaches⟩ := tracked
  have entry : entryOf worker config.history = some command := entryOf_of_transcriptOf known
  obtain rfl : command = .lift principal id reason := Option.some.inj (entry.symm.trans entered)
  have returns := (EmergencyCommand.run_asks (.lift principal id reason)).post_of_reaches reaches
  have witnessed := calls_witnessed reached known
  have lifted : ∃ event ∈ config.state.audited, event.tells id .lifted = true := by
    cases returns with
    | @replayed controls current listed named status =>
        obtain ⟨_, liftings⟩ :=
          witnessed _ List.mem_cons_self current listed (decide_eq_true named.symm)
        rw [named] at liftings
        exact liftings status
    | @lifted controls current stored now listed named status =>
        refine ⟨_, witnessed _ (List.mem_of_getLast? rfl), ?_⟩
        simp [EmergencyAuditEvent.tells, EmergencyControl.lifting]
  obtain ⟨event, member, tells⟩ := lifted
  rcases (lifts_audited reached id).told with ⟨unlifted, _⟩ | ⟨once, _⟩
  · exact absurd member (unlifted.not_mem tells)
  · exact once

end Runs

/-! ## Two attempts -/

namespace TwoAttempts

def controlId : JsString := js "IW:EMERGENCY_CONTROL:a"

def principal : EmergencyPrincipal where
  organizationId := js "IW:ORG:first"
  projectId := js "IW:PROJECT:bridge"
  environmentId := js "IW:ENV:prod"
  subjectId := js "administrator"
  roles := [.operator, .admin]

def reason : JsString := js "recovered"

abbrev Desk := Config (emergencyServices isoPlatform .inMemory) Unit EmergencyCommand
  EmergencyOutcome

abbrev Schedule := List (Action (emergencyServices isoPlatform .inMemory) Unit EmergencyCommand)

def ask (choice : EmergencyChoice) : Schedule := [.issue (), .answer () choice]

/-- A control is activated, and the activation is recorded. -/
def activates : Schedule :=
  [.start () (.activate principal ⟨controlId, .only .mint, ⟨none, none, none⟩, js "incident"⟩)] ++
    ask (.instant 1786147200000) ++ ask (.instant 1786147200001) ++ ask .served

/-- A lift updates the control, and the audit sink is called. -/
def lifts (told : EmergencyChoice) : Schedule :=
  [.start () (.lift principal controlId reason)] ++ ask .served ++ ask (.instant 1786147260000) ++
    ask .served ++ ask told

/-- Whether the call under way was a lift that has returned. -/
def returned (config : Desk) : Bool :=
  match config.workers (), entryOf () config.history with
  | .running (.settled (.ok _)), some command =>
      command = .lift principal controlId reason
  | _, _ => false

theorem settled_of_returned {config : Desk} (returns : returned config = true) :
    ∃ outcome, entryOf () config.history = some (.lift principal controlId reason) ∧
      config.workers () = .running (.settled (.ok outcome)) := by
  rw [returned] at returns
  split at returns
  · rename_i outcome command settled entered
    rw [of_decide_eq_true returns] at entered
    exact ⟨outcome, entered, settled⟩
  · cases returns

theorem first_attempt_audited : ∃ config : Desk,
    Reachable (EmergencyCommand.run isoPlatform) FindsRecorded ⟨EmergencyWorld.empty, []⟩ config ∧
      LiftedOnce controlId config.state.audited := by
  obtain ⟨config, reached, returns⟩ := Reachable.exists_of_run (EmergencyCommand.run isoPlatform)
    FindsRecorded ⟨EmergencyWorld.empty, []⟩ (activates ++ lifts .served) returned
    (by decide +kernel)
  obtain ⟨outcome, entered, settled⟩ := settled_of_returned returns
  exact ⟨config, reached, returned_lifts_audited reached entered settled⟩

/-- **The second attempt succeeds unaudited.** The audit sink fails after the control is lifted, and
the lift that is tried again finds it lifted. -/
theorem second_attempt_unaudited : ∃ (config : Desk) (outcome : EmergencyOutcome),
    Reachable (EmergencyCommand.run isoPlatform) (fun _ _ => True) ⟨EmergencyWorld.empty, []⟩
        config ∧
      entryOf () config.history = some (.lift principal controlId reason) ∧
      config.workers () = .running (.settled (.ok outcome)) ∧ Unlifted controlId config.state.audited := by
  obtain ⟨config, reached, checked⟩ := Reachable.exists_of_run
    (EmergencyCommand.run isoPlatform) (fun _ _ => True) ⟨EmergencyWorld.empty, []⟩
    (activates ++ lifts (.failed (.registryError .conflict (js "audit sink is down"))) ++
      [.start () (.lift principal controlId reason)] ++ ask .served)
    (fun config : Desk => returned config &&
      config.state.audited.all fun event => !event.tells controlId .lifted) (by decide +kernel)
  rw [Bool.and_eq_true, List.all_eq_true] at checked
  obtain ⟨outcome, entered, settled⟩ := settled_of_returned checked.1
  refine ⟨config, outcome, reached, entered, settled, fun event member => ?_⟩
  simpa only [Bool.not_eq_true'] using checked.2 event member

end TwoAttempts
end InterWeave
