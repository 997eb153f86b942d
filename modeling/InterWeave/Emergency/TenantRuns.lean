import InterWeave.Async.Unwinding
import InterWeave.Core.IsoDate
import InterWeave.Emergency.ControlCalls

/-! # The run of one tenant

Controls are listed for a tenant, and created under an identifier that all tenants share. A tenant
whose activations never meet the identifier of another one sees what it would see alone: leave the
calls of the others out of a run, and the rest is a run, with the same answers.
-/

namespace InterWeave

open Async

section Tenants

variable {platform : Platform} {kind : EmergencyStoreKind} {Worker : Type} [DecidableEq Worker]

/-- The calls of a tenant's principals. -/
def EmergencyCommand.isOf (tenant : Tenant) (command : EmergencyCommand) : Bool :=
  command.principal.toTenant = tenant

/-- A tenant activates no identifier that another tenant has. -/
def OwnIdentifiers (tenant : Tenant)
    (view : View (emergencyServices platform kind) Worker EmergencyCommand) :
    Event emergencyInterface Worker EmergencyCommand → Prop
  | .answered _ (.create control) _ => control.toTenant = tenant →
      ∀ row ∈ view.state.controls.rows, row.control.id = control.id →
        row.control.toTenant = tenant
  | _ => True

instance (tenant : Tenant)
    (view : View (emergencyServices platform kind) Worker EmergencyCommand) :
    (event : Event emergencyInterface Worker EmergencyCommand) →
      Decidable (OwnIdentifiers tenant view event)
  | .answered _ (.create control) _ => inferInstanceAs (Decidable (control.toTenant = tenant →
      ∀ row ∈ view.state.controls.rows, row.control.id = control.id →
        row.control.toTenant = tenant))
  | .answered _ (.update _) _ | .answered _ (.list _) _ | .answered _ (.record _) _
  | .answered _ .now _ | .started _ _ | .issued _ _ | .crashed _ => .isTrue trivial

variable {tenant : Tenant}

/-! ## Answers to the tenant alone -/

def EmergencyRow.isOf (tenant : Tenant) (row : EmergencyRow) : Bool :=
  row.control.toTenant = tenant

/-- The rows of a tenant. -/
def EmergencyControls.owned (controls : EmergencyControls) (tenant : Tenant) : List EmergencyRow :=
  controls.rows.filter (EmergencyRow.isOf tenant)

/-- A call that stores or reads controls does so for the tenant. -/
def EmergencyCall.IsFor (tenant : Tenant) : EmergencyCall → Prop
  | .create control => control.toTenant = tenant
  | .update control => control.toTenant = tenant
  | .list other => other = tenant
  | .record _ => True
  | .now => True

/-- A command calls for the tenant of its principal. -/
theorem EmergencyCommand.Asks.isFor {command : EmergencyCommand} {world : EmergencyWorld}
    {exchanges : List (Exchange emergencyInterface)} {call : EmergencyCall}
    (asks : command.Asks platform exchanges call)
    (bears : ∀ exchange ∈ exchanges, world.BearsOut exchange) :
    call.IsFor command.principal.toTenant := by
  cases asks with
  | create principal input now => exact (rfl : principal.toTenant = principal.toTenant)
  | list => exact (rfl : command.principal.toTenant = _)
  | @update principal _ _ controls current now listed _ _ =>
      exact (bears _ List.mem_cons_self current listed).1
  | _ => trivial

/-- The world in which there is only the tenant. -/
def AloneIn (tenant : Tenant) (world alone : EmergencyWorld) : Prop :=
  alone.controls.rows = world.controls.owned tenant

variable {world alone next : EmergencyWorld} {control : EmergencyControl}

/-- Replacing a control and leaving out the rows of others commute. -/
theorem EmergencyControls.filter_replaced {controls : EmergencyControls}
    (own : controls.Holds control.id control.toTenant) :
    (controls.rows.map (replaced · control)).filter (EmergencyRow.isOf tenant) =
      (controls.owned tenant).map (replaced · control) := by
  rw [List.filter_map, owned]
  congr 1
  apply List.filter_congr
  intro row member
  rw [Function.comp_apply, EmergencyRow.isOf, EmergencyRow.isOf, replaced_toTenant own member]

/-- A control that another tenant has replaces no row of the tenant. -/
theorem EmergencyControls.owned_replaced {controls : EmergencyControls}
    (own : controls.Holds control.id control.toTenant) (foreign : control.toTenant ≠ tenant) :
    (controls.owned tenant).map (replaced · control) = controls.owned tenant := by
  have kept : ∀ row ∈ controls.owned tenant, replaced row control = id row := by
    intro row member
    obtain ⟨among, mine⟩ := List.mem_filter.mp member
    rw [replaced, if_neg, id]
    intro same
    obtain ⟨other, stored, named, belongs⟩ := own
    rw [eq_of_id among stored (same.trans named.symm), EmergencyRow.isOf, decide_eq_true_eq,
      belongs] at mine
    exact foreign mine
  rw [List.map_congr_left kept, List.map_id]

/-- What others are answered does not touch the tenant's rows. -/
theorem AloneIn.foreign (same : AloneIn tenant world alone) {call : EmergencyCall}
    {answer : emergencyInterface.Answer call}
    (replies : world.Replies platform kind call answer next) (own : world.UpdatesOwn call)
    {other : Tenant} (asked : call.IsFor other) (different : other ≠ tenant) :
    AloneIn tenant next alone := by
  cases replies with
  | @created control createdAt _ _ rows =>
      have foreign : ¬ EmergencyRow.isOf tenant ⟨control, createdAt, control.status⟩ = true := by
        rw [EmergencyRow.isOf, decide_eq_true_eq]
        exact fun belongs => different (asked.symm.trans belongs)
      rw [AloneIn, EmergencyControls.owned, rows, List.filter_append,
        List.filter_cons_of_neg foreign, List.filter_nil, List.append_nil]
      exact same
  | @updated control _ _ _ _ _ rows =>
      have foreign : control.toTenant ≠ tenant :=
        fun belongs => different (asked.symm.trans belongs)
      rw [AloneIn, EmergencyControls.owned, rows, EmergencyControls.filter_replaced own,
        EmergencyControls.owned_replaced own foreign]
      exact same
  | _ => exact same

/-- The tenant's identifiers are in use alone as they are among the others. -/
theorem AloneIn.taken (same : AloneIn tenant world alone) {id : JsString}
    (own : ∀ row ∈ world.controls.rows, row.control.id = id → row.control.toTenant = tenant) :
    id ∈ alone.controls.rows.map (fun row => row.control.id) ↔
      id ∈ world.controls.rows.map (fun row => row.control.id) := by
  rw [same, List.mem_map, List.mem_map]
  constructor
  · rintro ⟨row, member, named⟩
    exact ⟨row, List.mem_of_mem_filter member, named⟩
  · rintro ⟨row, member, named⟩
    refine ⟨row, List.mem_filter.mpr ⟨member, ?_⟩, named⟩
    rw [EmergencyRow.isOf, decide_eq_true_eq]
    exact own row member named

variable (kind) in
theorem AloneIn.create (same : AloneIn tenant world alone) (belongs : control.toTenant = tenant)
    (own : ∀ row ∈ world.controls.rows, row.control.id = control.id →
      row.control.toTenant = tenant) (createdAt : Int) :
    (alone.controls.create kind control createdAt).1 =
        (world.controls.create kind control createdAt).1 ∧
      (alone.controls.create kind control createdAt).2.rows =
        (world.controls.create kind control createdAt).2.owned tenant := by
  have among := same.taken own
  by_cases taken : control.id ∈ world.controls.rows.map fun row => row.control.id
  · simp only [EmergencyControls.create, taken, among.mpr taken, ↓reduceDIte]
    refine ⟨?_, same⟩
    cases kind <;> rfl
  · have free := mt among.mp taken
    simp only [EmergencyControls.create, taken, free, ↓reduceDIte, true_and]
    have kept : EmergencyRow.isOf tenant ⟨control, createdAt, control.status⟩ = true :=
      decide_eq_true belongs
    rw [EmergencyControls.owned, List.filter_append, List.filter_cons_of_pos kept,
      List.filter_nil]
    exact congrArg (· ++ _) same

variable (kind) in
theorem AloneIn.update (same : AloneIn tenant world alone) (belongs : control.toTenant = tenant)
    (own : world.controls.Holds control.id control.toTenant) :
    (alone.controls.update kind control).1 = (world.controls.update kind control).1 ∧
      (alone.controls.update kind control).2.rows =
        (world.controls.update kind control).2.owned tenant := by
  obtain ⟨row, member, named, owner⟩ := own
  have found : (alone.controls.rows.any fun row =>
      row.control.id = control.id && row.status = .active) =
      world.controls.rows.any fun row =>
        row.control.id = control.id && row.status = .active := by
    rw [same, EmergencyControls.owned, Bool.eq_iff_iff, List.any_eq_true, List.any_eq_true]
    constructor
    · rintro ⟨found, kept, active⟩
      exact ⟨found, List.mem_of_mem_filter kept, active⟩
    · rintro ⟨found, kept, active⟩
      refine ⟨found, List.mem_filter.mpr ⟨kept, ?_⟩, active⟩
      rw [Bool.and_eq_true, decide_eq_true_eq] at active
      rw [EmergencyControls.eq_of_id kept member (active.1.trans named.symm), EmergencyRow.isOf,
        decide_eq_true_eq, owner, belongs]
  simp only [EmergencyControls.update, found]
  split
  · refine ⟨rfl, ?_⟩
    dsimp only
    rw [EmergencyControls.owned, EmergencyControls.filter_replaced ⟨row, member, named, owner⟩,
      same]
  · exact ⟨rfl, same⟩

theorem AloneIn.list (same : AloneIn tenant world alone) :
    alone.controls.list kind platform tenant = world.controls.list kind platform tenant := by
  have rows : alone.controls.rows.filter (EmergencyRow.isOf tenant) =
      world.controls.rows.filter (EmergencyRow.isOf tenant) := by
    rw [same, EmergencyControls.owned, List.filter_filter]
    simp only [Bool.and_self]
  cases kind with
  | inMemory => exact congrArg (List.map EmergencyRow.control) rows
  | postgres => exact congrArg (fun rows => (List.mergeSort rows _).map EmergencyRow.control) rows

/-- The tenant is answered the same, and the worlds stay alike. -/
theorem AloneIn.reply (same : AloneIn tenant world alone) {call : EmergencyCall}
    {choice : EmergencyChoice} {answer : emergencyInterface.Answer call}
    (replied : EmergencyWorld.reply platform kind call choice world = some (answer, next))
    (own : world.UpdatesOwn call) (asked : call.IsFor tenant)
    (free : ∀ control, call = .create control → ∀ row ∈ world.controls.rows,
      row.control.id = control.id → row.control.toTenant = tenant) :
    ∃ after, EmergencyWorld.reply platform kind call choice alone = some (answer, after) ∧
      AloneIn tenant next after := by
  cases choice with
  | served =>
      cases call with
      | create control => cases replied
      | update control =>
          obtain ⟨answers, rows⟩ := same.update kind asked own
          cases replied
          exact ⟨_, congrArg (fun answer => some (answer, _)) answers, rows⟩
      | list other =>
          obtain rfl : other = tenant := asked
          cases replied
          refine ⟨alone, ?_, same⟩
          rw [EmergencyWorld.reply, same.list]
      | record event =>
          cases replied
          exact ⟨_, rfl, same⟩
      | now => cases replied
  | instant value =>
      cases call with
      | create control =>
          obtain ⟨answers, rows⟩ := same.create kind asked (free control rfl) value
          cases replied
          exact ⟨_, congrArg (fun answer => some (answer, _)) answers, rows⟩
      | now =>
          cases replied
          exact ⟨alone, rfl, same⟩
      | _ => cases replied
  | failed error =>
      cases call <;> cases replied <;> exact ⟨alone, rfl, same⟩
  | lost error =>
      cases call with
      | record event =>
          cases replied
          exact ⟨_, rfl, same⟩
      | _ => cases replied

/-- What the tenant and the others are answered unwinds. -/
theorem unwinds_tenant (tenant : Tenant) :
    @Unwinds _ (emergencyServices platform kind) Worker _ _ _
      (EmergencyCommand.run platform) (EmergencyCommand.isOf tenant) (OwnIdentifiers tenant)
      ⟨EmergencyWorld.empty, []⟩ (AloneIn tenant) where
  foreign := by
    intro config worker command exchanges call choice answer next alone reached known allowed other
      replied same
    have asks := EmergencyCommand.asks_of_allowed allowed
    have bears := EmergencyWorld.bearsOut reached known
    exact same.foreign (EmergencyWorld.replies_of_reply replied) (asks.updatesOwn bears)
      (asks.isFor bears) (of_decide_eq_false other)
  own := by
    intro config worker command exchanges call choice answer next alone reached known allowed own
      admitted replied same
    have asks := EmergencyCommand.asks_of_allowed allowed
    have bears := EmergencyWorld.bearsOut reached known
    have isFor := asks.isFor bears
    rw [of_decide_eq_true own] at isFor
    obtain ⟨after, answered, left⟩ := same.reply replied (asks.updatesOwn bears) isFor (by
      rintro control rfl
      exact admitted isFor)
    exact ⟨after, answered, left⟩

/-- No call has been made, and there is no control. -/
def noEmergencies (platform : Platform) (kind : EmergencyStoreKind) (Worker : Type) :
    Config (emergencyServices platform kind) Worker EmergencyCommand EmergencyOutcome :=
  .initial ⟨EmergencyWorld.empty, []⟩

/-- **A tenant runs as if it were alone**, as long as it activates no identifier that another tenant
has: with all calls of the others removed its workers take the same steps, are answered the same and
end with the same results. -/
theorem tenant_runs_alone
    {schedule : List (Action (emergencyServices platform kind) Worker EmergencyCommand)}
    {config : Config (emergencyServices platform kind) Worker EmergencyCommand EmergencyOutcome}
    (runs : (noEmergencies platform kind Worker).run (EmergencyCommand.run platform)
      (OwnIdentifiers tenant) schedule = some config) :
    ∃ alone, (noEmergencies platform kind Worker).run (EmergencyCommand.run platform)
        (fun _ _ => True) ((noEmergencies platform kind Worker).ownActions
          (EmergencyCommand.run platform) (EmergencyCommand.isOf tenant) schedule) = some alone ∧
      alone.history = ownEvents (EmergencyCommand.isOf tenant) config.history ∧
      ∀ worker, Serves (EmergencyCommand.isOf tenant) worker config.history = true →
        alone.workers worker = config.workers worker := by
  have same : AloneIn tenant EmergencyWorld.empty EmergencyWorld.empty := rfl
  obtain ⟨alone, ran, projects⟩ := Config.run_without_others (unwinds_tenant tenant) rfl .initial
    (.at_start rfl same) runs
  exact ⟨alone, ran, projects.history, projects.workers⟩

end Tenants

/-! ## Two operators -/

namespace TwoOperators

/-- An emergency operator of one of two organizations. -/
def operator (second : Bool) : EmergencyPrincipal where
  organizationId := if second then js "IW:ORG:second" else js "IW:ORG:first"
  projectId := js "IW:PROJECT:bridge"
  environmentId := js "IW:ENV:prod"
  subjectId := js "operator"
  roles := [.operator]

def pause (id : JsString) : EmergencyControlInput where
  id
  kind := .only .mint
  selector := ⟨none, none, none⟩
  reason := js "incident"

abbrev Desk := Config (emergencyServices isoPlatform .postgres) Bool EmergencyCommand
  EmergencyOutcome

abbrev Schedule := List (Action (emergencyServices isoPlatform .postgres) Bool EmergencyCommand)

/-- An operator activates a control. -/
def activates (worker : Bool) (id : JsString) : Schedule :=
  [.start worker (.activate (operator worker) (pause id)), .issue worker,
    .answer worker (.instant 1786147200000), .issue worker,
    .answer worker (.instant 1786147200001)]

/-- The event is recorded. -/
def records (worker : Bool) : Schedule := [.issue worker, .answer worker .served]

/-- Each operator activates a control of its own. -/
def apart : Schedule :=
  activates false (js "IW:EMERGENCY_CONTROL:a") ++ activates true (js "IW:EMERGENCY_CONTROL:b") ++
    records false ++ records true

theorem apart_runs_alone : ∃ config alone : Desk,
    (noEmergencies isoPlatform .postgres Bool).run (EmergencyCommand.run isoPlatform)
        (OwnIdentifiers (operator true).toTenant) apart = some config ∧
      (noEmergencies isoPlatform .postgres Bool).run (EmergencyCommand.run isoPlatform)
        (fun _ _ => True) ((noEmergencies isoPlatform .postgres Bool).ownActions
          (EmergencyCommand.run isoPlatform) (EmergencyCommand.isOf (operator true).toTenant)
          apart) = some alone ∧
      alone.workers true = config.workers true := by
  have ends : (((noEmergencies isoPlatform .postgres Bool).run (EmergencyCommand.run isoPlatform)
      (OwnIdentifiers (operator true).toTenant) apart).any fun config =>
        Serves (EmergencyCommand.isOf (operator true).toTenant) true config.history) = true := by
    decide +kernel
  obtain ⟨config, runs, serves⟩ := (Option.any_eq_true ..).mp ends
  obtain ⟨alone, ran, _, workers⟩ := tenant_runs_alone runs
  exact ⟨config, alone, runs, ran, workers true serves⟩

/-- Both operators choose the same identifier. -/
def together : Schedule :=
  activates false (js "IW:EMERGENCY_CONTROL:a") ++ activates true (js "IW:EMERGENCY_CONTROL:a")

/-- **The second activation fails, and would have succeeded alone.** -/
theorem second_activation_fails : ¬ ∀ (schedule : Schedule) (config : Desk),
    (noEmergencies isoPlatform .postgres Bool).run (EmergencyCommand.run isoPlatform)
      (fun _ _ => True) schedule = some config →
    ∃ alone, (noEmergencies isoPlatform .postgres Bool).run (EmergencyCommand.run isoPlatform)
        (fun _ _ => True) ((noEmergencies isoPlatform .postgres Bool).ownActions
          (EmergencyCommand.run isoPlatform) (EmergencyCommand.isOf (operator true).toTenant)
          schedule) = some alone ∧
      alone.workers true = config.workers true := by
  intro claim
  have fails : (((noEmergencies isoPlatform .postgres Bool).run (EmergencyCommand.run isoPlatform)
      (fun _ _ => True) together).any fun config => (config.workers true).atRest) = true := by
    decide +kernel
  have goes : (((noEmergencies isoPlatform .postgres Bool).run (EmergencyCommand.run isoPlatform)
      (fun _ _ => True) ((noEmergencies isoPlatform .postgres Bool).ownActions
        (EmergencyCommand.run isoPlatform) (EmergencyCommand.isOf (operator true).toTenant)
        together)).any fun alone => !(alone.workers true).atRest) = true := by
    decide +kernel
  obtain ⟨config, runs, resting⟩ := (Option.any_eq_true ..).mp fails
  obtain ⟨alone, ran, same⟩ := claim together config runs
  rw [ran, Option.any_some, same, resting] at goes
  cases goes

end TwoOperators
end InterWeave
