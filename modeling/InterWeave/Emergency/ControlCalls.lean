import InterWeave.Emergency.EmergencyControls

/-! # What the calls on emergency controls ask and are answered

Each command asks its calls in one order: what it asks next, and what it returns, is known from the
answers so far. The store keeps each control under its identifier, for its tenant.
-/

namespace InterWeave

open Async

section Asks

variable (platform : Platform)

/-- The transcripts after which a command asks a call. -/
inductive EmergencyCommand.Asks :
    EmergencyCommand → List (Exchange emergencyInterface) → EmergencyCall → Prop where
  | activateNow (principal : EmergencyPrincipal) (input : EmergencyControlInput) :
      Asks (.activate principal input) [] .now
  | create (principal : EmergencyPrincipal) (input : EmergencyControlInput) (now : Int) :
      Asks (.activate principal input) [⟨.now, .ok now⟩]
        (.create (.activatedFrom platform principal input now))
  | recordActivation (principal : EmergencyPrincipal) (input : EmergencyControlInput) (now : Int)
      (stored : EmergencyControl) :
      Asks (.activate principal input) [⟨.now, .ok now⟩,
        ⟨.create (.activatedFrom platform principal input now), .ok stored⟩]
        (.record (stored.activation principal.subjectId))
  | list (command : EmergencyCommand) : Asks command [] (.list command.principal.toTenant)
  | liftNow {principal : EmergencyPrincipal} {id reason : JsString}
      {controls : List EmergencyControl} {current : EmergencyControl} :
      current ∈ controls → current.id = id → current.status = .active →
      Asks (.lift principal id reason) [⟨.list principal.toTenant, .ok controls⟩] .now
  | update {principal : EmergencyPrincipal} {id reason : JsString}
      {controls : List EmergencyControl} {current : EmergencyControl} (now : Int) :
      current ∈ controls → current.id = id → current.status = .active →
      Asks (.lift principal id reason)
        [⟨.list principal.toTenant, .ok controls⟩, ⟨.now, .ok now⟩]
        (.update (current.liftedBySubject platform principal.subjectId now))
  | recordLifting {principal : EmergencyPrincipal} {id reason : JsString}
      {controls : List EmergencyControl} {current : EmergencyControl} (now : Int)
      (stored : EmergencyControl) :
      current ∈ controls → current.id = id → current.status = .active →
      Asks (.lift principal id reason)
        [⟨.list principal.toTenant, .ok controls⟩, ⟨.now, .ok now⟩,
          ⟨.update (current.liftedBySubject platform principal.subjectId now), .ok stored⟩]
        (.record (stored.lifting id principal.subjectId reason (platform.toISOString now)))

/-- The transcripts after which a call of `lift` returns. -/
inductive EmergencyCommand.LiftReturns (principal : EmergencyPrincipal) (id reason : JsString) :
    List (Exchange emergencyInterface) → Prop where
  | replayed {controls : List EmergencyControl} {current : EmergencyControl} :
      current ∈ controls → current.id = id → current.status = .lifted →
      LiftReturns principal id reason [⟨.list principal.toTenant, .ok controls⟩]
  | lifted {controls : List EmergencyControl} {current stored : EmergencyControl} (now : Int) :
      current ∈ controls → current.id = id → current.status = .active →
      LiftReturns principal id reason [⟨.list principal.toTenant, .ok controls⟩, ⟨.now, .ok now⟩,
        ⟨.update (current.liftedBySubject platform principal.subjectId now), .ok stored⟩,
        ⟨.record (stored.lifting id principal.subjectId reason (platform.toISOString now)), .ok ()⟩]

/-- What a returned command has been answered. -/
def EmergencyCommand.Returns : EmergencyCommand → List (Exchange emergencyInterface) →
    Except Thrown EmergencyOutcome → Prop
  | .lift principal id reason, exchanges, .ok _ =>
      EmergencyCommand.LiftReturns platform principal id reason exchanges
  | _, _, _ => True

variable {platform}

theorem activate_asks (principal : EmergencyPrincipal) (input : EmergencyControlInput) :
    (EmergencyControlService.activate platform principal input).Follows
      (transcriptProtocol (EmergencyCommand.Asks platform (.activate principal input)))
      (fun _ _ => True) [] := by
  refine .ofExcept_seq (fun _ _ => ?_) fun _ _ => trivial
  refine .ofExcept_seq (fun _ _ => ?_) fun _ _ => trivial
  refine .call_seq (.activateNow principal input) (fun now _ => ?_) fun _ _ => trivial
  refine .call_seq (.create principal input now) (fun stored _ => ?_) fun _ _ => trivial
  exact .call_seq (.recordActivation principal input now stored) (fun _ _ => trivial)
    fun _ _ => trivial

theorem lift_asks (principal : EmergencyPrincipal) (id reason : JsString) :
    (EmergencyControlService.lift platform principal id reason).Follows
      (transcriptProtocol (EmergencyCommand.Asks platform (.lift principal id reason)))
      (fun there outcome => ∀ stored, outcome = .ok stored →
        EmergencyCommand.LiftReturns platform principal id reason there) [] := by
  refine .ofExcept_seq (fun _ _ => ?_) fun _ _ _ same => nomatch same
  split
  · exact fun _ same => nomatch same
  · refine .call_seq (.list (.lift principal id reason)) (fun controls _ => ?_)
      fun _ _ _ same => nomatch same
    cases found : controls.find? fun control => control.id = id with
    | none =>
        intro stored same
        cases same
    | some current =>
        have listed := List.mem_of_find?_eq_some found
        have holds := List.find?_some found
        have named : current.id = id := of_decide_eq_true holds
        dsimp only
        by_cases status : current.status = .lifted
        · rw [if_pos status]
          exact fun _ _ => .replayed listed named status
        · rw [if_neg status]
          have active : current.status = .active := by
            cases shown : current.status with
            | active => rfl
            | lifted => exact absurd shown status
          refine .call_seq (.liftNow listed named active) (fun now _ => ?_)
            fun _ _ _ same => nomatch same
          refine .call_seq (.update now listed named active) (fun stored _ => ?_)
            fun _ _ _ same => nomatch same
          refine .call_seq (.recordLifting now stored listed named active) (fun _ _ => ?_)
            fun _ _ _ same => nomatch same
          exact fun _ _ => .lifted now listed named active

/-- What a command asks and returns, whatever it is answered. -/
theorem EmergencyCommand.run_asks (command : EmergencyCommand) :
    (command.run platform).Follows (transcriptProtocol (EmergencyCommand.Asks platform command))
      (command.Returns platform) [] := by
  cases command with
  | activate principal input =>
      exact (activate_asks principal input).seq (fun _ _ _ => trivial) fun _ _ _ => trivial
  | lift principal id reason =>
      exact (lift_asks principal id reason).seq (fun _ stored returns => returns stored rfl)
        fun _ _ _ => trivial
  | status principal =>
      exact .call_seq (.list (.status principal)) (fun _ _ => trivial) fun _ _ => trivial
  | assertAllowed principal operation =>
      refine Program.Follows.bind ?_
      refine .call_seq (.list (.assertAllowed principal operation)) (fun controls _ => ?_)
        fun _ _ => trivial
      dsimp only
      split <;> trivial

end Asks

/-! ## What the store keeps -/

section Replies

variable {platform : Platform} {kind : EmergencyStoreKind}

/-- An identifier belongs to a tenant. -/
def EmergencyControls.Holds (controls : EmergencyControls) (id : JsString) (tenant : Tenant) : Prop :=
  ∃ row ∈ controls.rows, row.control.id = id ∧ row.control.toTenant = tenant

/-- What a call may be answered, and what it leaves. -/
inductive EmergencyWorld.Replies (platform : Platform) (kind : EmergencyStoreKind)
    (world : EmergencyWorld) :
    (call : EmergencyCall) → emergencyInterface.Answer call → EmergencyWorld → Prop where
  | created {control : EmergencyControl} (createdAt : Int) {controls : EmergencyControls} :
      control.id ∉ world.controls.rows.map (fun row => row.control.id) →
      controls.rows = world.controls.rows ++ [⟨control, createdAt, control.status⟩] →
      Replies platform kind world (.create control) (.ok control) { world with controls }
  | updated {control : EmergencyControl} {controls : EmergencyControls} {row : EmergencyRow} :
      row ∈ world.controls.rows → row.control.id = control.id → row.status = .active →
      controls.rows = world.controls.rows.map (EmergencyControls.replaced · control) →
      Replies platform kind world (.update control) (.ok control) { world with controls }
  | listed (tenant : Tenant) : Replies platform kind world (.list tenant)
      (.ok (world.controls.list kind platform tenant)) world
  | recorded (event : EmergencyAuditEvent) : Replies platform kind world (.record event) (.ok ())
      { world with audited := world.audited ++ [event] }
  | lost (event : EmergencyAuditEvent) (error : Thrown) :
      Replies platform kind world (.record event) (.error error)
        { world with audited := world.audited ++ [event] }
  | now (value : Int) : Replies platform kind world .now (.ok value) world
  | refused {call : EmergencyCall} (error : Thrown) :
      Replies platform kind world call (.error error) world

theorem EmergencyWorld.replies_of_create {world : EmergencyWorld} {control : EmergencyControl}
    {createdAt : Int} {answer : Except Thrown EmergencyControl} {next : EmergencyWorld}
    (replied : EmergencyWorld.reply platform kind (.create control) (.instant createdAt) world =
      some (answer, next)) : world.Replies platform kind (.create control) answer next := by
  rw [EmergencyWorld.reply] at replied
  by_cases taken : control.id ∈ world.controls.rows.map fun row => row.control.id
  · simp only [EmergencyControls.create, taken, ↓reduceDIte, Option.some.injEq,
      Prod.mk.injEq] at replied
    obtain ⟨rfl, rfl⟩ := replied
    exact .refused _
  · simp only [EmergencyControls.create, taken, ↓reduceDIte, Option.some.injEq,
      Prod.mk.injEq] at replied
    obtain ⟨rfl, rfl⟩ := replied
    exact .created createdAt taken rfl

theorem EmergencyWorld.replies_of_update {world : EmergencyWorld} {control : EmergencyControl}
    {answer : Except Thrown EmergencyControl} {next : EmergencyWorld}
    (replied : EmergencyWorld.reply platform kind (.update control) .served world =
      some (answer, next)) : world.Replies platform kind (.update control) answer next := by
  simp only [EmergencyWorld.reply, EmergencyControls.update] at replied
  split at replied
  · rename_i found
    rw [Bool.and_eq_true, List.any_eq_true] at found
    obtain ⟨⟨row, member, holds⟩, _⟩ := found
    rw [Bool.and_eq_true, decide_eq_true_eq, decide_eq_true_eq] at holds
    cases replied
    exact .updated member holds.1 holds.2 rfl
  · cases replied
    exact .refused _

theorem EmergencyWorld.replies_of_reply {world next : EmergencyWorld} {call : EmergencyCall}
    {choice : EmergencyChoice} {answer : emergencyInterface.Answer call}
    (replied : EmergencyWorld.reply platform kind call choice world = some (answer, next)) :
    world.Replies platform kind call answer next := by
  cases choice with
  | served =>
      cases call with
      | create control => cases replied
      | update control => exact replies_of_update replied
      | list tenant =>
          cases replied
          exact .listed tenant
      | record event =>
          cases replied
          exact .recorded event
      | now => cases replied
  | instant value =>
      cases call with
      | create control => exact replies_of_create replied
      | now =>
          cases replied
          exact .now value
      | _ => cases replied
  | failed error =>
      cases call <;> cases replied <;> exact .refused error
  | lost error =>
      cases call with
      | record event =>
          cases replied
          exact .lost event error
      | _ => cases replied

theorem EmergencyControls.mem_list {controls : EmergencyControls} {tenant : Tenant}
    {control : EmergencyControl} (listed : control ∈ controls.list kind platform tenant) :
    control.toTenant = tenant ∧ ∃ row ∈ controls.rows, row.control = control := by
  obtain ⟨row, member, rfl⟩ := List.mem_map.mp listed
  have among : row ∈ controls.rows.filter fun row => row.control.toTenant = tenant := by
    cases kind with
    | inMemory => exact member
    | postgres => exact List.mem_mergeSort.mp member
  obtain ⟨kept, own⟩ := List.mem_filter.mp among
  exact ⟨of_decide_eq_true own, row, kept, rfl⟩

/-- Rows are told by their identifiers. -/
theorem EmergencyControls.eq_of_id {controls : EmergencyControls} {first second : EmergencyRow}
    (member : first ∈ controls.rows) (among : second ∈ controls.rows)
    (same : first.control.id = second.control.id) : first = second :=
  List.inj_on_of_nodup_map controls.ids member among same

/-- A call that updates a control of another tenant is out of place. -/
def EmergencyWorld.UpdatesOwn (world : EmergencyWorld) : EmergencyCall → Prop
  | .update control => world.controls.Holds control.id control.toTenant
  | _ => True

theorem EmergencyControls.replaced_toTenant {controls : EmergencyControls}
    {control : EmergencyControl} (own : controls.Holds control.id control.toTenant)
    {row : EmergencyRow} (member : row ∈ controls.rows) :
    (replaced row control).control.toTenant = row.control.toTenant := by
  rw [replaced]
  split
  · rename_i same
    obtain ⟨other, among, named, tenant⟩ := own
    rw [eq_of_id member among (same.trans named.symm)]
    exact tenant.symm
  · rfl

/-- Identifiers stay with their tenants. -/
theorem EmergencyWorld.Replies.holds {world next : EmergencyWorld} {call : EmergencyCall}
    {answer : emergencyInterface.Answer call} (replies : world.Replies platform kind call answer next)
    (own : world.UpdatesOwn call) {id : JsString} {tenant : Tenant}
    (holds : world.controls.Holds id tenant) : next.controls.Holds id tenant := by
  obtain ⟨row, member, named, belongs⟩ := holds
  cases replies with
  | created createdAt _ rows =>
      refine ⟨row, ?_, named, belongs⟩
      dsimp only
      rw [rows]
      exact List.mem_append_left _ member
  | @updated control _ _ _ _ _ rows =>
      refine ⟨EmergencyControls.replaced row control, ?_, ?_, ?_⟩
      · dsimp only
        rw [rows]
        exact List.mem_map_of_mem member
      · rw [EmergencyControls.replaced_id, named]
      · rw [EmergencyControls.replaced_toTenant own member, belongs]
  | _ => exact ⟨row, member, named, belongs⟩

/-- What was listed belongs to the tenant it was listed for. -/
def EmergencyWorld.BearsOut (world : EmergencyWorld) : Exchange emergencyInterface → Prop
  | ⟨.list tenant, .ok controls⟩ => ∀ control ∈ controls,
      control.toTenant = tenant ∧ world.controls.Holds control.id tenant
  | _ => True

theorem EmergencyWorld.BearsOut.of_replies {world next : EmergencyWorld} {call : EmergencyCall}
    {answer : emergencyInterface.Answer call}
    (replies : world.Replies platform kind call answer next) : next.BearsOut ⟨call, answer⟩ := by
  cases replies with
  | listed tenant =>
      intro control listed
      obtain ⟨own, row, member, rfl⟩ := EmergencyControls.mem_list listed
      exact ⟨own, row, member, rfl, own⟩
  | refused error => cases call <;> trivial
  | _ => trivial

theorem EmergencyWorld.BearsOut.stable {world next : EmergencyWorld} {call : EmergencyCall}
    {answer : emergencyInterface.Answer call}
    (replies : world.Replies platform kind call answer next) (own : world.UpdatesOwn call)
    {exchange : Exchange emergencyInterface} (bears : world.BearsOut exchange) :
    next.BearsOut exchange := by
  obtain ⟨asked, answered⟩ := exchange
  cases asked with
  | list tenant =>
      cases answered with
      | ok controls =>
          intro control listed
          obtain ⟨belongs, holds⟩ := bears control listed
          exact ⟨belongs, replies.holds own holds⟩
      | error error => trivial
  | _ => trivial

theorem EmergencyCommand.asks_of_allowed {call : EmergencyCall}
    {here : EmergencyCommand × List (Exchange emergencyInterface)}
    (allowed : (recording (EmergencyCommand.run platform)).allowed here call) :
    here.1.Asks platform here.2 call := by
  obtain ⟨resume, reaches⟩ := allowed
  exact here.1.run_asks.admits_of_reaches reaches

/-- A command updates what it has listed. -/
theorem EmergencyCommand.Asks.updatesOwn {command : EmergencyCommand} {world : EmergencyWorld}
    {exchanges : List (Exchange emergencyInterface)} {call : EmergencyCall}
    (asks : command.Asks platform exchanges call)
    (bears : ∀ exchange ∈ exchanges, world.BearsOut exchange) : world.UpdatesOwn call := by
  cases asks with
  | @update principal _ _ controls current now listed named _ =>
      obtain ⟨belongs, holds⟩ := bears _ List.mem_cons_self current listed
      change world.controls.Holds current.id current.toTenant
      rw [belongs]
      exact holds
  | _ => trivial

section Pools

variable {Worker : Type} [DecidableEq Worker]
  {admits : View (emergencyServices platform kind) Worker EmergencyCommand →
    Event emergencyInterface Worker EmergencyCommand → Prop}
  {world : EmergencyWorld}
  {config : Config (emergencyServices platform kind) Worker EmergencyCommand EmergencyOutcome}

/-- The store bears out what calls were answered. -/
theorem EmergencyWorld.bearsOut
    (reached : Reachable (EmergencyCommand.run platform) admits ⟨world, []⟩ config)
    {worker : Worker} {command : EmergencyCommand} {exchanges : List (Exchange emergencyInterface)}
    (known : transcriptOf (EmergencyCommand.run platform) worker config.history =
      some (command, exchanges)) :
    ∀ exchange ∈ exchanges, config.state.BearsOut exchange := by
  refine reached.exchanges_hold_of_steps (fun _ (world : EmergencyWorld) exchange =>
    world.BearsOut exchange) rfl ?_ ?_ worker command exchanges known
  · intro config worker command exchanges call choice answer next _ _ _ _ replied
    exact .of_replies (replies_of_reply replied)
  · intro command exchanges call choice world answer next other exchange allowed replied kept bears
    have asks := EmergencyCommand.asks_of_allowed allowed
    exact .stable (replies_of_reply replied) (asks.updatesOwn kept) bears

end Pools
end Replies
end InterWeave
