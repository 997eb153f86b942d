import InterWeave.Async.Transcript
import InterWeave.Core.Platform
import InterWeave.Core.Tenancy
import Mathlib.Data.List.Nodup

/-! # Emergency controls

`emergency-controls.ts`: an operator activates a control, an administrator lifts it, and an active
control that matches an operation blocks it. Each change is written to a store, in memory or in
PostgreSQL, and then told to an audit sink. Any number of calls may be under way at once.
-/

namespace InterWeave

open Async (Program)

inductive EmergencyAction where
  | mint
  | release
  | settlement
  deriving DecidableEq, Repr

inductive EmergencyControlKind where
  | asset
  | sourceNetwork
  | destinationNetwork
  | bridgeDirection
  | only (action : EmergencyAction)
  deriving DecidableEq, Repr

def EmergencyControlKind.text : EmergencyControlKind → JsString
  | .asset => js "ASSET"
  | .sourceNetwork => js "SOURCE_NETWORK"
  | .destinationNetwork => js "DESTINATION_NETWORK"
  | .bridgeDirection => js "BRIDGE_DIRECTION"
  | .only .mint => js "MINT"
  | .only .release => js "RELEASE"
  | .only .settlement => js "SETTLEMENT"

inductive EmergencyRole where
  | operator
  | admin
  deriving DecidableEq, Repr

def EmergencyRole.text : EmergencyRole → JsString
  | .operator => js "EMERGENCY_OPERATOR"
  | .admin => js "EMERGENCY_ADMIN"

structure EmergencySelector where
  assetId : Option JsString
  sourceNetworkId : Option JsString
  destinationNetworkId : Option JsString
  deriving DecidableEq, Repr

inductive EmergencyStatus where
  | active
  | lifted
  deriving DecidableEq, Repr

structure EmergencyControlInput where
  id : JsString
  kind : EmergencyControlKind
  selector : EmergencySelector
  reason : JsString
  deriving DecidableEq, Repr

structure EmergencyControl extends EmergencyControlInput, Tenant where
  status : EmergencyStatus
  activatedBy : JsString
  activatedAt : JsString
  liftedBy : Option JsString
  liftedAt : Option JsString
  deriving DecidableEq, Repr

structure EmergencyPrincipal extends Tenant where
  subjectId : JsString
  roles : List EmergencyRole
  deriving DecidableEq, Repr

structure EmergencyOperation extends EmergencySelector where
  action : EmergencyAction
  deriving DecidableEq, Repr

inductive EmergencyAuditAction where
  | activated
  | lifted
  deriving DecidableEq, Repr

structure EmergencyAuditEvent where
  controlId : JsString
  actor : JsString
  action : EmergencyAuditAction
  kind : EmergencyControlKind
  selector : EmergencySelector
  reason : JsString
  occurredAt : JsString
  deriving DecidableEq, Repr

/-! ## Calls -/

/-- What the service awaits: its store, its clock and the audit sink. -/
inductive EmergencyCall where
  | create (control : EmergencyControl)
  | update (control : EmergencyControl)
  | list (tenant : Tenant)
  | record (event : EmergencyAuditEvent)
  | now
  deriving DecidableEq

abbrev EmergencyCall.Value : EmergencyCall → Type
  | .create _ => EmergencyControl
  | .update _ => EmergencyControl
  | .list _ => List EmergencyControl
  | .record _ => Unit
  | .now => Int

abbrev emergencyInterface : Async.Interface where
  Call := EmergencyCall
  Value := EmergencyCall.Value
  Error := Thrown

abbrev EmergencyProgram := Program emergencyInterface

namespace EmergencyProgram

def create (control : EmergencyControl) : EmergencyProgram EmergencyControl :=
  Program.call (I := emergencyInterface) (.create control)

def update (control : EmergencyControl) : EmergencyProgram EmergencyControl :=
  Program.call (I := emergencyInterface) (.update control)

def list (tenant : Tenant) : EmergencyProgram (List EmergencyControl) :=
  Program.call (I := emergencyInterface) (.list tenant)

def record (event : EmergencyAuditEvent) : EmergencyProgram Unit :=
  Program.call (I := emergencyInterface) (.record event)

def now : EmergencyProgram Int := Program.call (I := emergencyInterface) .now

end EmergencyProgram

/-! ## The service -/

/-- A property that is set, and not to the empty string. -/
def isSet (value : Option JsString) : Bool := value.any fun text => !text.isEmpty

def requireRole (principal : EmergencyPrincipal) (role : EmergencyRole) : Except Thrown Unit :=
  if !principal.roles.contains role then
    .error (.registryError .conflict (js "missing required emergency role: " ++ role.text))
  else .ok ()

/-- `validate` of the input of an activation. -/
def EmergencyControlInput.validate (input : EmergencyControlInput) : Except Thrown Unit :=
  if !input.id.startsWith (js "IW:EMERGENCY_CONTROL:") || input.reason.isBlank then
    .error (.registryError .invalidArgument (js "control ID and reason are required"))
  else
    let incomplete := match input.kind with
      | .asset => !isSet input.selector.assetId
      | .sourceNetwork => !isSet input.selector.sourceNetworkId
      | .destinationNetwork => !isSet input.selector.destinationNetworkId
      | .bridgeDirection =>
          !isSet input.selector.sourceNetworkId || !isSet input.selector.destinationNetworkId
      | .only _ => false
    if incomplete then
      .error (.registryError .invalidArgument
        (js "selector is incomplete for " ++ input.kind.text))
    else .ok ()

/-- `matches(control, operation)`. -/
def EmergencyControl.covers (control : EmergencyControl) (operation : EmergencyOperation) : Bool :=
  let differs (selected given : Option JsString) : Bool := isSet selected && selected ≠ given
  if differs control.selector.assetId operation.assetId ||
      differs control.selector.sourceNetworkId operation.sourceNetworkId ||
      differs control.selector.destinationNetworkId operation.destinationNetworkId then false
  else
    match control.kind with
    | .only action => action = operation.action
    | _ => true

namespace EmergencyControl

/-- The control that a principal activates. -/
def activatedFrom (platform : Platform) (principal : EmergencyPrincipal)
    (input : EmergencyControlInput) (now : Int) : EmergencyControl :=
  { input, principal with
    status := .active, activatedBy := principal.subjectId
    activatedAt := platform.toISOString now, liftedBy := none, liftedAt := none }

def activation (stored : EmergencyControl) (actor : JsString) : EmergencyAuditEvent where
  controlId := stored.id
  actor
  action := .activated
  kind := stored.kind
  selector := stored.selector
  reason := stored.reason
  occurredAt := stored.activatedAt

/-- The control as a principal lifts it. -/
def liftedBySubject (platform : Platform) (control : EmergencyControl) (subjectId : JsString)
    (now : Int) : EmergencyControl :=
  { control with
    status := .lifted, liftedBy := some subjectId, liftedAt := some (platform.toISOString now) }

def lifting (stored : EmergencyControl) (id actor reason liftedAt : JsString) :
    EmergencyAuditEvent where
  controlId := id
  actor
  action := .lifted
  kind := stored.kind
  selector := stored.selector
  reason
  occurredAt := liftedAt

end EmergencyControl

inductive EmergencyCommand where
  | activate (principal : EmergencyPrincipal) (input : EmergencyControlInput)
  | lift (principal : EmergencyPrincipal) (id reason : JsString)
  | status (principal : EmergencyPrincipal)
  | assertAllowed (principal : EmergencyPrincipal) (operation : EmergencyOperation)
  deriving DecidableEq, Repr

/-- Who calls. -/
def EmergencyCommand.principal : EmergencyCommand → EmergencyPrincipal
  | .activate principal _ => principal
  | .lift principal _ _ => principal
  | .status principal => principal
  | .assertAllowed principal _ => principal

inductive EmergencyOutcome where
  | control (control : EmergencyControl)
  | controls (controls : List EmergencyControl)
  | allowed
  deriving DecidableEq, Repr

namespace EmergencyControlService

variable (platform : Platform)

def activate (principal : EmergencyPrincipal) (input : EmergencyControlInput) :
    EmergencyProgram EmergencyControl := do
  Program.ofExcept (requireRole principal .operator)
  Program.ofExcept input.validate
  let now ← EmergencyProgram.now
  let stored ← EmergencyProgram.create (.activatedFrom platform principal input now)
  EmergencyProgram.record (stored.activation principal.subjectId)
  return stored

def lift (principal : EmergencyPrincipal) (id reason : JsString) :
    EmergencyProgram EmergencyControl := do
  Program.ofExcept (requireRole principal .admin)
  if reason.isBlank then
    Program.reject (.registryError .invalidArgument (js "lift reason is required"))
  else
    let controls ← EmergencyProgram.list principal.toTenant
    match controls.find? fun control => control.id = id with
    | none =>
        Program.reject (.registryError .notFound (js "emergency control not found: " ++ id))
    | some current =>
        if current.status = .lifted then return current
        else
          let now ← EmergencyProgram.now
          let stored ← EmergencyProgram.update
            (current.liftedBySubject platform principal.subjectId now)
          EmergencyProgram.record
            (stored.lifting id principal.subjectId reason (platform.toISOString now))
          return stored

def assertAllowed (principal : EmergencyPrincipal) (operation : EmergencyOperation) :
    EmergencyProgram Unit := do
  let listed ← EmergencyProgram.list principal.toTenant
  let controls := listed.filter fun control => control.status = .active && control.covers operation
  if controls.isEmpty then return ()
  else
    Program.reject (.registryError .conflict (js "operation paused by emergency control: " ++
      JsString.join (js ",") (controls.map fun control => control.id)))

end EmergencyControlService

/-- The program of a command. -/
def EmergencyCommand.run (platform : Platform) :
    EmergencyCommand → EmergencyProgram EmergencyOutcome
  | .activate principal input => do
      let stored ← EmergencyControlService.activate platform principal input
      return .control stored
  | .lift principal id reason => do
      let stored ← EmergencyControlService.lift platform principal id reason
      return .control stored
  | .status principal => do
      let controls ← EmergencyProgram.list principal.toTenant
      return .controls controls
  | .assertAllowed principal operation => do
      EmergencyControlService.assertAllowed principal operation
      return .allowed

/-! ## The stores -/

/-- `InMemoryEmergencyControlStore` and `PostgresEmergencyControlStore`. -/
inductive EmergencyStoreKind where
  | inMemory
  | postgres
  deriving DecidableEq, Repr

/-- A control, the time at which its row was created, and the column `status`. -/
structure EmergencyRow where
  control : EmergencyControl
  createdAt : Int
  status : EmergencyStatus
  deriving DecidableEq

/-- The controls of all tenants, by their identifiers, in the order in which they were created. -/
structure EmergencyControls where
  rows : List EmergencyRow
  ids : (rows.map fun row => row.control.id).Nodup

namespace EmergencyControls

def empty : EmergencyControls := ⟨[], List.nodup_nil⟩

variable (kind : EmergencyStoreKind) (controls : EmergencyControls)

def create (control : EmergencyControl) (createdAt : Int) :
    Except Thrown EmergencyControl × EmergencyControls :=
  if taken : control.id ∈ controls.rows.map fun row => row.control.id then
    (.error (.registryError .alreadyExists (match kind with
      | .inMemory => js "emergency control is immutable"
      | .postgres => js "emergency control already exists")), controls)
  else
    (.ok control, {
      rows := controls.rows ++ [⟨control, createdAt, control.status⟩]
      ids := by
        rw [List.map_append, List.nodup_append]
        refine ⟨controls.ids, List.nodup_singleton _, ?_⟩
        intro id earlier other added same
        rw [List.map_singleton, List.mem_singleton] at added
        exact taken (added ▸ same ▸ earlier) })

/-- The row of an identifier, lifted, with another control of the same identifier. -/
def replaced (row : EmergencyRow) (control : EmergencyControl) : EmergencyRow :=
  if row.control.id = control.id then { row with control, status := .lifted } else row

theorem replaced_id (row : EmergencyRow) (control : EmergencyControl) :
    (replaced row control).control.id = row.control.id := by
  rw [replaced]
  split
  · rename_i same
    exact same.symm
  · rfl

/-- An active control is replaced. Only the store in memory asks for a lifted one in its place. -/
def update (control : EmergencyControl) : Except Thrown EmergencyControl × EmergencyControls :=
  if (controls.rows.any fun row => row.control.id = control.id && row.status = .active) &&
      (kind = .postgres || control.status = .lifted) then
    (.ok control, {
      rows := controls.rows.map fun row => replaced row control
      ids := by
        rw [List.map_map]
        have same : (fun row => row.control.id) ∘ (fun row => replaced row control) =
            fun row : EmergencyRow => row.control.id :=
          funext fun row => replaced_id row control
        rw [same]
        exact controls.ids })
  else
    (.error (.registryError .conflict (match kind with
      | .inMemory => js "invalid emergency control update"
      | .postgres => js "emergency control is not active")), controls)

/-- The controls of a tenant; the table is read `ORDER BY created_at,id`. -/
def list (platform : Platform) (tenant : Tenant) : List EmergencyControl :=
  let rows := controls.rows.filter fun row => row.control.toTenant = tenant
  let ordered := match kind with
    | .inMemory => rows
    | .postgres => rows.mergeSort fun first second =>
        first.createdAt < second.createdAt || (first.createdAt = second.createdAt &&
          platform.collates first.control.id second.control.id)
  ordered.map EmergencyRow.control

end EmergencyControls

/-- The store, and the events that the audit sink has recorded. -/
structure EmergencyWorld where
  controls : EmergencyControls
  audited : List EmergencyAuditEvent

def EmergencyWorld.empty : EmergencyWorld := ⟨.empty, []⟩

/-- What the environment decides at an answer. -/
inductive EmergencyChoice where
  | served
  | instant (value : Int)
  /-- The call throws before it writes anything. -/
  | failed (error : Thrown)
  /-- The audit sink throws after it has recorded the event. -/
  | lost (error : Thrown)

/-- The answers of the store, the clock and the audit sink. -/
def EmergencyWorld.reply (platform : Platform) (kind : EmergencyStoreKind) :
    (call : EmergencyCall) → EmergencyChoice → EmergencyWorld →
      Option (emergencyInterface.Answer call × EmergencyWorld)
  | .create control, .instant createdAt, world =>
      let stored := world.controls.create kind control createdAt
      some (stored.1, { world with controls := stored.2 })
  | .update control, .served, world =>
      let stored := world.controls.update kind control
      some (stored.1, { world with controls := stored.2 })
  | .list tenant, .served, world => some (.ok (world.controls.list kind platform tenant), world)
  | .record event, .served, world =>
      some (.ok (), { world with audited := world.audited ++ [event] })
  | .record event, .lost error, world =>
      some (.error error, { world with audited := world.audited ++ [event] })
  | .now, .instant value, world => some (.ok value, world)
  | _, .failed error, world => some (.error error, world)
  | _, _, _ => none

abbrev emergencyServices (platform : Platform) (kind : EmergencyStoreKind) :
    Async.Services emergencyInterface where
  State := EmergencyWorld
  Choice := EmergencyChoice
  reply := EmergencyWorld.reply platform kind

end InterWeave
