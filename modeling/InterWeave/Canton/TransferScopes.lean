import InterWeave.Async.Program
import InterWeave.Core.Idempotency
import InterWeave.Core.OrderedMap

/-! # The authority of submitted transfers

`CantonAdapterClient.executeTransfer` checks the parties that a prepared transfer acts as, and
`CantonGrpcTransport.submit` spreads the opaque command of the transfer and sets the command ID,
the user ID and `actAs` over it. Nothing is set over `readAs`, so a command may read as any party
that its opaque part names.
-/

namespace InterWeave

open Async (Program)

/-! ## Records -/

structure CantonConnection where
  networkId : JsString
  participantId : JsString
  authorizedParties : List JsString
  connectedAt : JsString
  deriving DecidableEq, Repr

/-- The field of a transfer request that the client reads. -/
structure CantonTransferRequest where
  sender : JsString
  deriving DecidableEq, Repr

/-- A prepared transfer; `expiresAt` is not read. -/
structure PreparedCantonTransfer where
  request : CantonTransferRequest
  commandId : JsString
  requiredActAs : List JsString
  opaqueCommand : JsValue

inductive CantonSubmissionStatus where
  | submitted
  | rejected
  deriving DecidableEq, Repr

structure CantonSubmission where
  commandId : JsString
  status : CantonSubmissionStatus
  rejectionReason : Option JsString
  deriving DecidableEq, Repr

/-- The status codes of a service that `submit` reads. -/
inductive GrpcStatus where
  | invalidArgument
  | permissionDenied
  | failedPrecondition
  | alreadyExists
  | other (code : Nat)
  deriving DecidableEq, Repr

/-- A `CantonAuthorizationError`, another `Error`, or the error of a service. -/
inductive CantonError where
  | authorization (message : JsString)
  | error (message : JsString)
  | service (status : GrpcStatus) (message : JsString)
  deriving DecidableEq, Repr

def CantonError.message : CantonError → JsString
  | .authorization message => message
  | .error message => message
  | .service _ message => message

/-- The codes that `submit` reports as a rejection. -/
def CantonError.rejects : CantonError → Bool
  | .service .invalidArgument _ => true
  | .service .permissionDenied _ => true
  | .service .failedPrecondition _ => true
  | .service .alreadyExists _ => true
  | _ => false

/-! ## The transport -/

/-- The properties of an object. -/
abbrev JsObject := OrderedMap JsString JsValue

namespace JsObject

def ofEntries (entries : List (JsString × JsValue)) : JsObject :=
  entries.foldl (fun properties entry => properties.set entry.1 entry.2) .empty

/-- `objectOf(value)`, as the properties that a spread copies. -/
def objectOf : JsValue → JsObject
  | .object properties => ofEntries properties
  | .array items => ofEntries (items.mapIdx fun index item => (bigintText index, item))
  | _ => .empty

/-- The items of a repeated field of a message. Its encoder takes arrays only. -/
def listed (properties : JsObject) (field : JsString) : List JsValue :=
  match properties.find? field with
  | some (.array items) => items
  | _ => []

/-- Every item of the repeated field is one of the parties. -/
def NamesOnly (properties : JsObject) (field : JsString) (parties : List JsString) : Prop :=
  ∀ item ∈ properties.listed field, ∃ party ∈ parties, item = .string party

end JsObject

/-- The request of the command submission service: the `commands` it carries. -/
inductive CantonCall where
  | submit (commands : JsObject)

abbrev cantonInterface : Async.Interface where
  Call := CantonCall
  Value _ := Unit
  Error := CantonError

abbrev CantonProgram := Program cantonInterface

structure CantonGrpcTransport where
  userId : JsString

namespace CantonGrpcTransport

variable (transport : CantonGrpcTransport) (prepared : PreparedCantonTransfer)

/-- `{ ...opaque, commandId, userId, actAs }`. -/
def commands : JsObject :=
  let named := (JsObject.objectOf prepared.opaqueCommand).set (js "commandId")
    (.string prepared.commandId)
  let identified := named.set (js "userId") (.string transport.userId)
  identified.set (js "actAs") (.array (prepared.requiredActAs.map .string))

def submit : CantonProgram CantonSubmission := do
  let answer ←
    (Program.call (I := cantonInterface) (.submit (transport.commands prepared))).attempt
  match answer with
  | .ok () => return ⟨prepared.commandId, .submitted, none⟩
  | .error error =>
      if error.rejects then return ⟨prepared.commandId, .rejected, some error.message⟩
      else Program.reject error

end CantonGrpcTransport

/-! ## The client -/

/-- `#connection`; the token adapters are not read here. -/
structure CantonAdapterClient where
  connection : Option CantonConnection

namespace CantonAdapterClient

variable (client : CantonAdapterClient)

/-- `#assertScope`. -/
def assertScope (parties : List JsString) : Except CantonError Unit :=
  match client.connection with
  | none => .error (.error (js "Canton adapter is not connected"))
  | some connection =>
      if parties.isEmpty then
        .error (.authorization (js "an explicit party scope is required"))
      else
        match parties.find? fun party => !connection.authorizedParties.contains party with
        | some party =>
            .error (.authorization (js "party is not authorized by this connection: " ++ party))
        | none => .ok ()

def executeTransfer (transport : CantonGrpcTransport) (prepared : PreparedCantonTransfer) :
    CantonProgram CantonSubmission := do
  Program.ofExcept (client.assertScope prepared.requiredActAs)
  if !prepared.requiredActAs.contains prepared.request.sender then
    Program.reject (.authorization (js "prepared transfer must act as sender"))
  else transport.submit prepared

end CantonAdapterClient

/-! ## Scoped commands -/

/-- A command stays within the authority of the connection and is that of the transfer. -/
structure CantonConnection.Scopes (connection : CantonConnection) (transport : CantonGrpcTransport)
    (prepared : PreparedCantonTransfer) (commands : JsObject) : Prop where
  acts : commands.NamesOnly (js "actAs") connection.authorizedParties
  reads : commands.NamesOnly (js "readAs") connection.authorizedParties
  sender : .string prepared.request.sender ∈ commands.listed (js "actAs")
  commandId : commands.find? (js "commandId") = some (.string prepared.commandId)
  userId : commands.find? (js "userId") = some (.string transport.userId)

/-- The program throws before it sends anything. -/
def CantonProgram.Throws (program : CantonProgram CantonSubmission) : Prop :=
  ∃ error, program = .settled (.error error)

/-- The program sends this command and nothing else. -/
def CantonProgram.SendsOnly (program : CantonProgram CantonSubmission) (commands : JsObject) :
    Prop :=
  ∃ resume, program = .await (.submit commands) resume ∧
    ∀ answer, ∃ outcome, resume answer = .settled outcome

/-- The checks of the client pass: it is connected, and the transfer acts as its sender and as
authorized parties only. -/
structure CantonAdapterClient.Admits (client : CantonAdapterClient) (connection : CantonConnection)
    (prepared : PreparedCantonTransfer) : Prop where
  connected : client.connection = some connection
  authorized : ∀ party ∈ prepared.requiredActAs, party ∈ connection.authorizedParties
  sender : prepared.request.sender ∈ prepared.requiredActAs

section Scoped

variable {client : CantonAdapterClient} {transport : CantonGrpcTransport}
  {prepared : PreparedCantonTransfer} {connection : CantonConnection}

theorem CantonAdapterClient.assertScope_ok_iff {parties : List JsString}
    (connected : client.connection = some connection) (named : parties ≠ []) :
    client.assertScope parties = .ok () ↔
      ∀ party ∈ parties, party ∈ connection.authorizedParties := by
  rw [assertScope, connected]
  dsimp only
  rw [if_neg (by simpa using named)]
  split
  · rename_i party found
    constructor
    · intro never
      cases never
    · intro authorized
      have unknown := List.find?_some found
      rw [List.contains_iff_mem.mpr (authorized party (List.mem_of_find?_eq_some found))] at unknown
      cases unknown
  · rename_i all
    rw [List.find?_eq_none] at all
    refine iff_of_true rfl fun party member => ?_
    simpa using all party member

theorem CantonAdapterClient.assertScope_ok {parties : List JsString}
    (passes : client.assertScope parties = .ok ()) :
    ∃ connection, client.connection = some connection ∧
      ∀ party ∈ parties, party ∈ connection.authorizedParties := by
  cases connected : client.connection with
  | none =>
      rw [assertScope, connected] at passes
      cases passes
  | some connection =>
      refine ⟨connection, rfl, ?_⟩
      by_cases named : parties = []
      · rw [named]
        exact List.forall_mem_nil _
      · exact (assertScope_ok_iff connected named).mp passes

theorem CantonGrpcTransport.submit_sendsOnly :
    CantonProgram.SendsOnly (transport.submit prepared) (transport.commands prepared) := by
  refine ⟨_, rfl, fun answer => ?_⟩
  cases answer with
  | ok value => exact ⟨_, rfl⟩
  | error error =>
      change ∃ outcome, ite _ _ _ = _
      split
      · exact ⟨_, rfl⟩
      · exact ⟨_, rfl⟩

/-- A transfer is sent where the checks of the client pass, and throws elsewhere. -/
theorem CantonAdapterClient.executeTransfer_cases :
    ((¬ ∃ connection, client.Admits connection prepared) ∧
      CantonProgram.Throws (client.executeTransfer transport prepared)) ∨
    ∃ connection, client.Admits connection prepared ∧
      client.executeTransfer transport prepared = transport.submit prepared := by
  cases passes : client.assertScope prepared.requiredActAs with
  | error error =>
      refine .inl ⟨?_, error, ?_⟩
      · rintro ⟨connection, admits⟩
        have admitted := (assertScope_ok_iff admits.connected (List.ne_nil_of_mem admits.sender)).mpr
          admits.authorized
        cases passes.symm.trans admitted
      · rw [executeTransfer, passes]
        rfl
  | ok _ =>
      obtain ⟨connection, connected, authorized⟩ := assertScope_ok passes
      have checked : client.executeTransfer transport prepared =
          if !prepared.requiredActAs.contains prepared.request.sender then
            Program.reject (CantonError.authorization (js "prepared transfer must act as sender"))
          else transport.submit prepared := by
        rw [executeTransfer, passes]
        rfl
      by_cases sender : prepared.request.sender ∈ prepared.requiredActAs
      · refine .inr ⟨connection, ⟨connected, authorized, sender⟩, ?_⟩
        rw [checked, List.contains_iff_mem.mpr sender]
        rfl
      · refine .inl ⟨fun ⟨_, admits⟩ => sender admits.sender, ?_⟩
        rw [checked, if_pos (by simpa using sender)]
        exact ⟨_, rfl⟩

/-- What is set over the opaque command, and what shows through. -/
theorem CantonGrpcTransport.commands_find? :
    (transport.commands prepared).find? (js "actAs") =
        some (.array (prepared.requiredActAs.map .string)) ∧
      (transport.commands prepared).find? (js "commandId") = some (.string prepared.commandId) ∧
      (transport.commands prepared).find? (js "userId") = some (.string transport.userId) ∧
      (transport.commands prepared).find? (js "readAs") =
        (JsObject.objectOf prepared.opaqueCommand).find? (js "readAs") := by
  refine ⟨OrderedMap.find?_set_self, ?_, ?_, ?_⟩
  · rw [commands, OrderedMap.find?_set_of_ne (by decide), OrderedMap.find?_set_of_ne (by decide),
      OrderedMap.find?_set_self]
  · rw [commands, OrderedMap.find?_set_of_ne (by decide), OrderedMap.find?_set_self]
  · rw [commands, OrderedMap.find?_set_of_ne (by decide), OrderedMap.find?_set_of_ne (by decide),
      OrderedMap.find?_set_of_ne (by decide)]

theorem CantonGrpcTransport.commands_scopes_iff (admits : client.Admits connection prepared) :
    connection.Scopes transport prepared (transport.commands prepared) ↔
      (JsObject.objectOf prepared.opaqueCommand).NamesOnly (js "readAs")
        connection.authorizedParties := by
  obtain ⟨actAs, commandId, userId, readAs⟩ := @commands_find? transport prepared
  have acting : (transport.commands prepared).listed (js "actAs") =
      prepared.requiredActAs.map .string := by rw [JsObject.listed, actAs]
  have reading : (transport.commands prepared).listed (js "readAs") =
      (JsObject.objectOf prepared.opaqueCommand).listed (js "readAs") := by
    rw [JsObject.listed, readAs, JsObject.listed]
  constructor
  · intro scopes item member
    rw [← reading] at member
    exact scopes.reads item member
  · intro within
    refine ⟨?_, ?_, ?_, commandId, userId⟩
    · intro item member
      rw [acting] at member
      obtain ⟨party, required, rfl⟩ := List.mem_map.mp member
      exact ⟨party, admits.authorized party required, rfl⟩
    · intro item member
      rw [reading] at member
      exact within item member
    · rw [acting]
      exact List.mem_map_of_mem admits.sender

/-- **Transfer scopes.** Executing a transfer throws without sending anything, or sends one command
that stays within the authority of the connection, exactly if the opaque part of every transfer
that the checks admit names only authorized parties to read as. -/
theorem executeTransfer_scoped_iff :
    (CantonProgram.Throws (client.executeTransfer transport prepared) ∨
      ∃ connection commands, client.connection = some connection ∧
        connection.Scopes transport prepared commands ∧
        CantonProgram.SendsOnly (client.executeTransfer transport prepared) commands) ↔
    ∀ connection, client.Admits connection prepared →
      (JsObject.objectOf prepared.opaqueCommand).NamesOnly (js "readAs")
        connection.authorizedParties := by
  rcases @CantonAdapterClient.executeTransfer_cases client transport prepared with
    ⟨refused, throws⟩ | ⟨connection, admits, sent⟩
  · refine iff_of_true (.inl throws) fun connection admits => ?_
    exact absurd ⟨connection, admits⟩ refused
  · obtain ⟨resume, submitted, settles⟩ := @CantonGrpcTransport.submit_sendsOnly transport prepared
    constructor
    · rintro (⟨error, thrown⟩ | ⟨other, commands, connected, scopes, again, same, _⟩)
      · rw [sent, submitted] at thrown
        cases thrown
      · rw [sent, submitted] at same
        cases same
        rw [admits.connected] at connected
        cases connected
        intro another admitted
        cases admits.connected.symm.trans admitted.connected
        exact (CantonGrpcTransport.commands_scopes_iff admits).mp scopes
    · intro within
      refine .inr ⟨connection, _, admits.connected,
        (CantonGrpcTransport.commands_scopes_iff admits).mpr (within connection admits), ?_⟩
      rw [sent]
      exact ⟨resume, submitted, settles⟩

end Scoped

namespace ReadAsAnother

def alice : JsString := js "Alice::participant"

def client : CantonAdapterClient where
  connection := some
    { networkId := js "IW:NETWORK:canton-local", participantId := js "participant"
      authorizedParties := [alice], connectedAt := js "2026-08-13T12:00:00.000Z" }

def transport : CantonGrpcTransport where
  userId := js "interweave"

/-- A transfer of Alice whose opaque command reads as some party. -/
def prepared (party : JsString) : PreparedCantonTransfer where
  request := ⟨alice⟩
  commandId := js "command-1"
  requiredActAs := [alice]
  opaqueCommand := .object [(js "workflowId", .string (js "bridge")),
    (js "readAs", .array [.string party])]

theorem reads (party : JsString) :
    (JsObject.objectOf (prepared party).opaqueCommand).listed (js "readAs") = [.string party] := rfl

theorem admits (party : JsString) : ∃ connection, client.connection = some connection ∧
    connection.authorizedParties = [alice] ∧ client.Admits connection (prepared party) := by
  refine ⟨_, rfl, rfl, rfl, fun other member => member, List.mem_singleton_self _⟩

/-- A command that reads as Mallory, whom the connection does not authorize, is sent. -/
theorem sent_reading_as_another :
    ∃ connection, client.connection = some connection ∧
      js "Mallory::participant" ∉ connection.authorizedParties ∧
      CantonProgram.SendsOnly
        (client.executeTransfer transport (prepared (js "Mallory::participant")))
        (transport.commands (prepared (js "Mallory::participant"))) ∧
      (transport.commands (prepared (js "Mallory::participant"))).listed (js "readAs") =
        [.string (js "Mallory::participant")] := by
  obtain ⟨connection, connected, authorized, admitted⟩ := admits (js "Mallory::participant")
  refine ⟨connection, connected, ?_, ?_, rfl⟩
  · rw [authorized]
    decide
  · exact CantonGrpcTransport.submit_sendsOnly

/-- A command that reads as Alice stays within the authority of the connection. -/
theorem scoped_reading_as_sender :
    CantonProgram.Throws (client.executeTransfer transport (prepared alice)) ∨
      ∃ connection commands, client.connection = some connection ∧
        connection.Scopes transport (prepared alice) commands ∧
        CantonProgram.SendsOnly (client.executeTransfer transport (prepared alice)) commands := by
  apply executeTransfer_scoped_iff.mpr
  intro connection admitted item member
  obtain ⟨other, connected, authorized, _⟩ := admits alice
  cases connected.symm.trans admitted.connected
  rw [reads, List.mem_singleton] at member
  exact ⟨alice, by rw [authorized]; exact List.mem_singleton_self _, member⟩

end ReadAsAnother
end InterWeave
