import InterWeave.Bridge.ExpiryGates
import InterWeave.Settlement.SagaContents

/-! # Expiry gates of the saga

`CrossNetworkSettlementService.execute` compares timestamps as the bridge does: its
validation and the reading that opens each iteration let an expiry pass that is no date.
An action is handed the stored request; the reading is compared with the expiry of the
request that the call was made with.
-/

namespace InterWeave

open Async

variable {platform : Platform}

namespace CrossNetworkSettlementService

/-- A request is accepted when its settlement is looked up. -/
def Accepts (platform : Platform) (request : CrossNetworkSettlementRequest) (bound : Nat) : Prop :=
  ∃ resume, execute platform request bound = .await (.get request.id) resume

/-- A settlement that is executed expires after its creation when its expiry parses, and only
then. -/
theorem expiresLater_of_accepts {request : CrossNetworkSettlementRequest} {bound : Nat}
    (accepts : Accepts platform request bound) :
    ExpiresLater platform request.createdAt request.expiresAt ↔
      (platform.dateParse request.expiresAt).isSome = true := by
  obtain ⟨resume, accepts⟩ := accepts
  refine expiresLater_iff (Bool.eq_false_iff.mpr fun refused => ?_)
  cases checks : request.validate platform with
  | error error =>
      rw [execute, checks] at accepts
      cases accepts
  | ok _ =>
      unfold CrossNetworkSettlementRequest.validate at checks
      simp only [refused, if_true, bind, Except.bind, throw, throwThe, MonadExceptOf.throw,
        pure, Except.pure] at checks
      -- Every branch throws.
      repeat' split at checks
      all_goals cases checks

end CrossNetworkSettlementService

/-! ## The gates of a run -/

/-- The actions that move value towards completion. -/
def SettlementAction.moves : SettlementAction → Bool
  | .reserveDelivery => true
  | .reserveOrTransferPayment => true
  | .releaseDelivery => true
  | _ => false

/-- An action that moves value is the first call after a reading of the clock that compares
so with an expiry. -/
def SettlementCall.Reads (compares : JsString → Int → Prop) (expiresAt : JsString)
    (exchanges : List (Exchange settlementInterface)) : SettlementCall → Prop
  | .act action _ => action.moves = true → ∃ instant : Int,
      exchanges.getLast? = some ⟨.now, .ok instant⟩ ∧ compares expiresAt instant
  | _ => True

/-- The expiry of an action that moves value parses. -/
def SettlementCall.Parses (platform : Platform) (expiresAt : JsString) : SettlementCall → Prop
  | .act action _ => action.moves = true → (platform.dateParse expiresAt).isSome = true
  | _ => True

/-- An action is that of a request. -/
def SettlementCall.ActsOn (request : CrossNetworkSettlementRequest) : SettlementCall → Prop
  | .act _ acted => acted = request
  | _ => True

theorem SettlementCall.reads_of_decides {expiresAt : JsString}
    {exchanges : List (Exchange settlementInterface)} {call : SettlementCall}
    (decides : Decides platform expiresAt exchanges call) :
    call.Reads (Unreached platform) expiresAt exchanges := by
  cases call with
  | act action acted =>
      intro moves
      cases action with
      | cancelDeliveryReservation => cases moves
      | _ => exact decides
  | _ => trivial

/-- An action whose reading has not reached the expiry is before it when it parses, and only
then. -/
theorem SettlementCall.Reads.precedes_iff {expiresAt : JsString}
    {exchanges : List (Exchange settlementInterface)} {call : SettlementCall}
    (reads : call.Reads (Unreached platform) expiresAt exchanges) :
    call.Reads (Precedes platform) expiresAt exchanges ↔ call.Parses platform expiresAt := by
  cases call with
  | act action acted =>
      constructor
      · intro precedes moves
        obtain ⟨_, _, expiry, parsed, _⟩ := precedes moves
        exact Option.isSome_iff_exists.mpr ⟨expiry, parsed⟩
      · intro parses moves
        obtain ⟨instant, read, unreached⟩ := reads moves
        exact ⟨instant, read, unreached.precedes_iff.mpr (parses moves)⟩
  | _ => exact Iff.rfl

section Runs

variable {services : Services settlementInterface} {Worker : Type} [DecidableEq Worker]
  {clock : Int}

/-- In every run of the saga, each action that moves value starts after a reading that precedes
the expiry of the call if and only if this parses. -/
theorem saga_precedes_iff
    {admits : View services Worker SagaEntry → Event settlementInterface Worker SagaEntry → Prop}
    {initial : View services Worker SagaEntry}
    {config : Config services Worker SagaEntry CrossNetworkSettlementRecord}
    (reached : Reachable (sagaProgram platform) admits initial config)
    (fresh : initial.history = []) :
    EachCall (sagaProgram platform) config.history (fun entry exchanges call =>
      call.Reads (Precedes platform) entry.1.expiresAt exchanges ↔
        call.Parses platform entry.1.expiresAt) :=
  reached.eachCall fresh fun _ _ _ allowed =>
    (SettlementCall.reads_of_decides (decides_of_allowed allowed)).precedes_iff

/-- Where no `create` finds a settlement of another content, an action is that of the request
its call was made with. -/
theorem actsOn_of_allowed
    {config : Config fallibleSettlements Worker SagaEntry CrossNetworkSettlementRecord}
    {worker : Worker} {entry : SagaEntry} {exchanges : List (Exchange settlementInterface)}
    {call : SettlementCall}
    (reached : Reachable (sagaProgram platform) (fun view event => CreatesOwn view event = true)
      (emptySettlements Worker clock) config)
    (free : platform.CollisionFree (Called config.history))
    (known : transcriptOf (sagaProgram platform) worker config.history = some (entry, exchanges))
    (allowed : (recording (sagaProgram platform)).allowed (entry, exchanges) call) :
    call.ActsOn entry.1 := by
  cases call with
  | act action acted =>
      obtain ⟨record, copied, rfl⟩ :=
        Option.map_eq_some_iff.mp (saga_allows reached known allowed).2
      obtain ⟨_, stored, found, continues⟩ := copy_continues reached known copied
      obtain ⟨own, present, same⟩ :=
        content_of_entered reached free known (entered_of_allowed allowed rfl)
      rw [copy_named reached known copied] at found
      cases found.symm.trans present
      exact continues.request.symm.trans same
  | _ => trivial

end Runs

/-- Expiries and the gates on them, as they are: what is accepted expires later than it was
created exactly when its expiry parses; in every run, the calls that move value start in
iterations whose readings precede the expiries exactly when these parse. The expiry of a saga's
iteration is that of the request its call was made with, whose actions these are where no
`create` finds a settlement of another content. -/
structure ExpiriesGated (platform : Platform) : Prop where
  created : ∀ input, TransactionEngine.Accepts platform input →
    (ExpiresLater platform input.createdAt input.expiresAt ↔
      (platform.dateParse input.expiresAt).isSome = true)
  executed : ∀ request bound, CrossNetworkSettlementService.Accepts platform request bound →
    (ExpiresLater platform request.createdAt request.expiresAt ↔
      (platform.dateParse request.expiresAt).isSome = true)
  bridged : ∀ (services : Services bridgeInterface) (Worker : Type) [DecidableEq Worker]
      (initial : View services Worker (BridgeRoute × JsString))
      (config : Config services Worker (BridgeRoute × JsString) DurableBridgeOperation),
    initial.history = [] →
    Reachable (coordinatorProgram platform) (fun _ _ => True) initial config →
    EachCall (coordinatorProgram platform) config.history fun _ exchanges call =>
      (call.Reads (Precedes platform) exchanges ↔ call.Parses platform)
  settled : ∀ (services : Services settlementInterface) (Worker : Type) [DecidableEq Worker]
      (initial : View services Worker SagaEntry)
      (config : Config services Worker SagaEntry CrossNetworkSettlementRecord),
    initial.history = [] →
    Reachable (sagaProgram platform) (fun _ _ => True) initial config →
    EachCall (sagaProgram platform) config.history fun entry exchanges call =>
      (call.Reads (Precedes platform) entry.1.expiresAt exchanges ↔
        call.Parses platform entry.1.expiresAt)
  own : ∀ (Worker : Type) [DecidableEq Worker] (clock : Int)
      (config : Config fallibleSettlements Worker SagaEntry CrossNetworkSettlementRecord)
      action move worker call entry exchanges,
    Reachable (sagaProgram platform) (fun view event => CreatesOwn view event = true)
      (emptySettlements Worker clock) config →
    platform.CollisionFree (Called config.history) →
    config.move (sagaProgram platform) action = some move → move.event = .issued worker call →
    transcriptOf (sagaProgram platform) worker config.history = some (entry, exchanges) →
    call.ActsOn entry.1

/-- **Expiries.** A timestamp that does not parse passes every check, and it alone does. -/
theorem expiriesGated (platform : Platform) : ExpiriesGated platform where
  created _ accepts := TransactionEngine.expiresLater_of_accepts accepts
  executed _ _ accepts := CrossNetworkSettlementService.expiresLater_of_accepts accepts
  bridged _ _ _ _ _ fresh reached := coordinators_precede_iff reached fresh
  settled _ _ _ _ _ fresh reached := saga_precedes_iff reached fresh
  own Worker _ clock config action move worker call entry exchanges reached free moved same
      known := by
    have step := reached.step_of_move rfl moved
    obtain ⟨event, state, status⟩ := move
    obtain rfl : event = .issued worker call := same
    cases step with
    | issued before allowed =>
        cases before.symm.trans known
        exact actsOn_of_allowed reached free known allowed

namespace MalformedExpiry

open SagaExample (early)
open LostAcknowledgement (answers)

def request : CrossNetworkSettlementRequest := { SagaExample.request with expiresAt := malformed }

/-- One worker creates the settlement and reaches the reservation of the delivery. -/
def reachesReservation : List (Action fallibleSettlements Bool SagaEntry) :=
  .start true (request, 12) ::
    answers true [.inl .stored, .inl .stored, .inl (.instant early),
      .inl (.policy ⟨.allow, [], []⟩), .inl (.instant early), .inl .stored,
      .inl (.instant early)]

/-- The event asks for the reservation of that delivery. -/
def reserves : Event settlementInterface Bool SagaEntry → Bool
  | .issued _ (.act .reserveDelivery _) => true
  | _ => false

/-- The delivery is reserved although the expiry is no date. -/
theorem reserved : ∃ config : Config fallibleSettlements Bool SagaEntry
      CrossNetworkSettlementRecord,
    Reachable (sagaProgram isoPlatform) (fun _ _ => True) (emptySettlements Bool early) config ∧
    ¬ EachCall (sagaProgram isoPlatform) config.history fun entry exchanges call =>
      call.Reads (Precedes isoPlatform) entry.1.expiresAt exchanges := by
  obtain ⟨config, move, reached, moved, checked⟩ := Reachable.exists_move_of_run
    (sagaProgram isoPlatform) (fun _ _ => True) (emptySettlements Bool early) reachesReservation
    (.issue true) (fun config move => reserves move.event &&
      entryOf true config.history == some (request, 12) && decide (move.event.worker = true))
    (by decide +kernel)
  simp only [Bool.and_eq_true, beq_iff_eq, decide_eq_true_eq] at checked
  obtain ⟨⟨reserves, entered⟩, own⟩ := checked
  refine ⟨config.apply move, .step reached moved trivial, fun each => ?_⟩
  have step := reached.step_of_move rfl moved
  obtain ⟨event, state, status⟩ := move
  unfold MalformedExpiry.reserves at reserves
  dsimp only at reserves own
  split at reserves
  · rename_i worker acted
    obtain rfl : worker = true := own
    cases step with
    | @issued _ _ here before _ =>
        obtain ⟨instant, _, precedes⟩ := each [] true _ config.history _ _ rfl before rfl
        have called : here.1 = (request, 12) :=
          Option.some.inj ((entryOf_of_transcriptOf before).symm.trans entered)
        rw [called] at precedes
        exact not_precedes instant precedes
  · cases reserves

end MalformedExpiry

open MalformedExpiry in
/-- **An expiry that is no date.** An operation and a settlement that expire on no date are
accepted, the operation is locked and the delivery reserved. -/
theorem malformed_expiry_accepted :
    (TransactionEngine.Accepts isoPlatform input ∧
      ¬ ExpiresLater isoPlatform input.createdAt input.expiresAt) ∧
    (CrossNetworkSettlementService.Accepts isoPlatform request 12 ∧
      ¬ ExpiresLater isoPlatform request.createdAt request.expiresAt) ∧
    (∃ config : Config bridgeServices Unit (BridgeRoute × JsString) DurableBridgeOperation,
      Reachable (coordinatorProgram isoPlatform) (fun _ _ => True) opened config ∧
      ¬ EachCall (coordinatorProgram isoPlatform) config.history
        fun _ exchanges call => call.Reads (Precedes isoPlatform) exchanges) ∧
    ∃ config : Config fallibleSettlements Bool SagaEntry CrossNetworkSettlementRecord,
      Reachable (sagaProgram isoPlatform) (fun _ _ => True)
        (emptySettlements Bool SagaExample.early) config ∧
      ¬ EachCall (sagaProgram isoPlatform) config.history fun entry exchanges call =>
        call.Reads (Precedes isoPlatform) entry.1.expiresAt exchanges := by
  have never : ∀ {createdAt : JsString}, ¬ ExpiresLater isoPlatform createdAt malformed := by
    rintro _ ⟨creation, _, precedes⟩
    exact not_precedes creation precedes
  refine ⟨⟨accepted, never⟩, ⟨?_, never⟩, locked, reserved⟩
  have valid : request.validate isoPlatform = .ok () := by decide +kernel
  obtain ⟨hash, fingerprint⟩ := request.fingerprinted isoPlatform
  rw [CrossNetworkSettlementService.Accepts, CrossNetworkSettlementService.execute, valid,
    fingerprint]
  exact ⟨_, rfl⟩

end InterWeave
