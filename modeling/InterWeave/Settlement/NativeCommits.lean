import InterWeave.Async.Protocol
import InterWeave.Core.IsoDate
import InterWeave.Settlement.SameNetworkSettlement
import Mathlib.Data.Fintype.Basic

/-! # Failed settlements and native commits

A run that finds the settlement in progress either asks the executor or, past the
expiry, fails the settlement without asking. Whether the legs are committed by then
depends on the other runs: one may have crashed after its call, one may be waiting
for its answer, one may be about to call. If there is none of these, the failure is
final.
-/

namespace InterWeave

open Async

/-- What a run of `execute` knows. -/
inductive AtomicLocal where
  | opening
  /-- The claim returned a settlement in progress. -/
  | claimed
  /-- The clock read before the expiry. -/
  | permitted
  | expired
  | resolved (result : NativeAtomicSettlementResult)
  | closed

/-- What a run makes of the executor's answer. -/
def resolution : Except Thrown NativeAtomicSettlementResult → NativeAtomicSettlementResult
  | .ok result => result
  | .error _ => .uncertain (js "EXECUTOR_ERROR") []

namespace AtomicLocal

def next (platform : Platform) (request : SameNetworkSettlementRequest) (here : AtomicLocal) :
    (call : AtomicCall) → atomicInterface.Answer call → AtomicLocal
  | .claim _ _ _, .ok claim =>
      if claim.outcome ≠ .conflict ∧ claim.record.status = .inProgress then .claimed else .closed
  | .now, .ok instant =>
      match here with
      | .claimed =>
          if numberLe (platform.dateParse request.expiresAt) (some instant) then .expired
          else .permitted
      | _ => here
  | .executeAtomically _ _, answer => .resolved (resolution answer)
  | .finish _ _ _ _ _, _ => .closed
  | _, _ => here

/-- Whether the run may still have the legs committed. -/
def underway : AtomicLocal → Bool
  | .claimed | .permitted => true
  | _ => false

/-- The calls a run may issue. -/
def Allows (request : SameNetworkSettlementRequest) (here : AtomicLocal) : AtomicCall → Prop
  | .now => True
  | .claim asked _ _ => here = .opening ∧ asked = request
  | .executeAtomically executor asked => here = .permitted ∧ asked = request ∧
      executor.networkId = request.networkId
  | .finish id _ status result _ => id = request.id ∧ here.underway = false ∧
      (status = .failed ∨ here = .resolved result ∧ status = result.status)

end AtomicLocal

abbrev atomicProtocol (platform : Platform) (request : SameNetworkSettlementRequest) :
    Protocol atomicInterface Unit where
  Local := AtomicLocal
  start _ := .opening
  next := AtomicLocal.next platform request
  possible _ _ := True
  allowed := AtomicLocal.Allows request
  settles _ := True

namespace SameNetworkSettlementService

variable {platform : Platform} {request : SameNetworkSettlementRequest}

theorem finish_follows {here : AtomicLocal} {hash : JsString}
    {status : SameNetworkSettlementStatus} {result : NativeAtomicSettlementResult}
    (arrived : here.underway = false)
    (decided : status = .failed ∨ here = .resolved result ∧ status = result.status) :
    (do
      let recordedAt ← AtomicProgram.now
      AtomicProgram.finish request.id hash status result
        (platform.toISOString recordedAt)).Follows (atomicProtocol platform request)
      (fun _ _ => True) here := by
  refine .call_seq trivial (fun recordedAt _ => ?_) fun _ _ => trivial
  have kept : (atomicProtocol platform request).next here .now (.ok recordedAt) = here := by
    cases here with
    | claimed => cases arrived
    | _ => rfl
  rw [kept]
  exact ⟨⟨rfl, arrived, decided⟩, fun _ _ => trivial⟩

theorem settle_follows {executor : NativeAtomicSettlementExecutor} {hash : JsString}
    (bound : executor.networkId = request.networkId) :
    (settle platform executor request hash).Follows (atomicProtocol platform request)
      (fun _ _ => True) .opening := by
  refine .call_seq trivial (fun claimedAt _ => ?_) fun _ _ => trivial
  have opened : (atomicProtocol platform request).next .opening .now (.ok claimedAt) = .opening :=
    rfl
  rw [opened]
  refine .call_seq ⟨rfl, rfl⟩ (fun claim _ => ?_) fun _ _ => trivial
  by_cases conflict : claim.outcome = .conflict
  · rw [if_pos conflict]
    trivial
  · rw [if_neg conflict]
    by_cases progress : claim.record.status = .inProgress
    · rw [if_neg (not_not.mpr progress)]
      have claimed : (atomicProtocol platform request).next .opening
          (.claim request hash (platform.toISOString claimedAt)) (.ok claim) = .claimed :=
        if_pos ⟨conflict, progress⟩
      rw [claimed]
      refine .call_seq trivial (fun now _ => ?_) fun _ _ => trivial
      by_cases expired : numberLe (platform.dateParse request.expiresAt) (some now)
      · have here : (atomicProtocol platform request).next .claimed .now (.ok now) = .expired :=
          if_pos expired
        rw [if_pos expired, here]
        exact finish_follows rfl (.inl rfl)
      · have here : (atomicProtocol platform request).next .claimed .now (.ok now) = .permitted :=
          if_neg expired
        rw [if_neg expired, here]
        have asks : (AtomicProgram.executeAtomically executor request).Follows
            (atomicProtocol platform request)
            (fun there outcome => there = .resolved (resolution outcome)) .permitted :=
          ⟨⟨rfl, rfl, bound⟩, fun _ _ => rfl⟩
        refine .attempt_seq asks fun there outcome resolved => ?_
        subst resolved
        refine .ofExcept_seq (fun _ _ => ?_) fun _ _ => trivial
        exact finish_follows rfl (.inr ⟨rfl, rfl⟩)
    · rw [if_pos progress]
      trivial

/-- **A run of `execute` follows the protocol.** -/
theorem execute_follows (platform : Platform) (service : SameNetworkSettlementService)
    (request : SameNetworkSettlementRequest) :
    (service.execute platform request).Follows (atomicProtocol platform request)
      (fun _ _ => True) .opening := by
  refine .ofExcept_seq (fun _ _ => ?_) fun _ _ => trivial
  cases found : service.executor request.networkId with
  | none => trivial
  | some executor =>
      have chosen : service.executors.find? (fun other => other.networkId = request.networkId) =
          some executor := found
      have bound : decide (executor.networkId = request.networkId) = true := by
        simpa only using List.find?_some chosen
      dsimp only
      split
      · trivial
      · exact .ofExcept_seq (fun hash _ => settle_follows (of_decide_eq_true bound)) fun _ _ => trivial

end SameNetworkSettlementService

/-! ## Executor calls and their rejections -/

section Calls

variable {Worker : Type} [DecidableEq Worker]

/-- A view of a pool of settlement runs. -/
abbrev AtomicView (Worker : Type) : Type := View atomicServices Worker Unit

/-- The workers whose executor calls have not been answered with a rejection, once for
each call. A worker stays here when it crashes before the answer. -/
def unrejected : List (Event atomicInterface Worker Unit) → List Worker
  | [] => []
  | .issued worker (.executeAtomically _ _) :: earlier => worker :: unrejected earlier
  | .answered worker (.executeAtomically _ _) (.ok (.rejected _ _)) :: earlier =>
      (unrejected earlier).erase worker
  | _ :: earlier => unrejected earlier

/-- A worker that waits for the executor has not been rejected. -/
theorem mem_unrejected_of_outstanding {worker : Worker}
    {history : List (Event atomicInterface Worker Unit)}
    {executor : NativeAtomicSettlementExecutor} {asked : SameNetworkSettlementRequest}
    (waits : outstanding worker history = some (.executeAtomically executor asked)) :
    worker ∈ unrejected history := by
  induction history with
  | nil => cases waits
  | cons event earlier ih =>
      by_cases same : event.worker = worker
      · subst same
        cases event with
        | issued worker call =>
            simp only [outstanding, Event.worker, ↓reduceIte, Option.some.injEq] at waits
            subst waits
            exact List.mem_cons_self
        | _ => simp only [outstanding, ↓reduceIte, reduceCtorEq] at waits
      · rw [outstanding_cons_of_ne same] at waits
        have before := ih waits
        unfold unrejected
        split
        · rename_i equal
          cases equal
        · rename_i equal
          cases equal
          exact List.mem_cons_of_mem _ before
        · rename_i equal
          cases equal
          exact (List.mem_erase_of_ne fun equal => same equal.symm).mpr before
        · rename_i equal
          cases equal
          exact before

end Calls

section Failures

variable (platform : Platform) (request : SameNetworkSettlementRequest) {Worker : Type}
  [DecidableEq Worker]

/-- The worker may still have the legs committed. -/
def underway (worker : Worker) (view : AtomicView Worker) : Bool :=
  ((atomicProtocol platform request).localOf worker view.history).any AtomicLocal.underway

/-- The stored status of the settlement. -/
def statusOf (world : AtomicWorld) : Option SameNetworkSettlementStatus :=
  (world.settlements request.id).map SameNetworkSettlementRecord.status

/-- A settlement is failed only when all executor calls have been rejected and no
run is on its way to the executor. -/
def FailsAlone (view : AtomicView Worker) : Event atomicInterface Worker Unit → Prop
  | .answered _ (.finish _ _ .failed _ _) _ =>
      statusOf request view.state = some .inProgress →
        unrejected view.history = [] ∧ ∀ worker, underway platform request worker view = false
  | _ => True

instance [Fintype Worker] (view : AtomicView Worker) (event : Event atomicInterface Worker Unit) :
    Decidable (FailsAlone platform request view event) := by
  unfold FailsAlone
  split <;> infer_instance

/-- No settlement exists and nothing is committed. -/
def AtomicView.empty (Worker : Type) : AtomicView Worker :=
  ⟨⟨fun _ => none, fun _ _ => false⟩, []⟩

/-- The invariant of native commits. -/
structure CommitInvariant (view : AtomicView Worker) : Prop where
  committed : view.state.committed request.networkId request.id → unrejected view.history ≠ []
  failed : statusOf request view.state = some .failed →
    unrejected view.history = [] ∧ ∀ worker, underway platform request worker view = false

variable {platform request} {view : AtomicView Worker} {world : AtomicWorld}

theorem CommitInvariant.empty : CommitInvariant platform request (AtomicView.empty Worker) where
  committed done := nomatch done
  failed found := nomatch found

theorem statusOf_put (world : AtomicWorld) (id : JsString) (record : SameNetworkSettlementRecord) :
    statusOf request (world.put id record) =
      if request.id = id then some record.status else statusOf request world := by
  by_cases same : request.id = id
  · subst same
    simp only [statusOf, AtomicWorld.put, Function.update_self, Option.map_some, ↓reduceIte]
  · simp only [statusOf, AtomicWorld.put, Function.update_of_ne same, same, ↓reduceIte]

/-- A claim creates the record or returns it. -/
theorem statusOf_claim (request : SameNetworkSettlementRequest) (world : AtomicWorld)
    (hash recordedAt : JsString) :
    (world.claim request hash recordedAt).2.committed = world.committed ∧
      (statusOf request world = none ∧
          statusOf request (world.claim request hash recordedAt).2 = some .inProgress ∨
        statusOf request world = some (world.claim request hash recordedAt).1.record.status ∧
          (world.claim request hash recordedAt).2 = world) := by
  unfold AtomicWorld.claim statusOf
  cases found : world.settlements request.id with
  | none =>
      refine ⟨rfl, .inl ⟨rfl, ?_⟩⟩
      exact (statusOf_put ..).trans (if_pos rfl)
  | some existing => exact ⟨rfl, .inr ⟨rfl, rfl⟩⟩

/-- Only a settlement in progress is finished. -/
theorem statusOf_finish (request : SameNetworkSettlementRequest) (world : AtomicWorld)
    (hash recordedAt : JsString) (status : SameNetworkSettlementStatus) (result : NativeAtomicSettlementResult) :
    (world.finish request.id hash status result recordedAt).2.committed = world.committed ∧
      (statusOf request (world.finish request.id hash status result recordedAt).2 =
          statusOf request world ∨
        statusOf request world = some .inProgress ∧
          statusOf request (world.finish request.id hash status result recordedAt).2 =
            some status) := by
  unfold AtomicWorld.finish
  cases found : world.settlements request.id with
  | none => exact ⟨rfl, .inl rfl⟩
  | some existing =>
      by_cases mismatch : existing.requestHash ≠ hash
      · simp only [if_pos mismatch, true_or, and_self]
      · by_cases settled : existing.status ≠ .inProgress
        · simp only [if_neg mismatch, if_pos settled, true_or, and_self]
        · simp only [if_neg mismatch, if_neg settled]
          refine ⟨rfl, .inr ⟨?_, ?_⟩⟩
          · rw [statusOf, found, Option.map_some, not_not.mp settled]
          · exact (statusOf_put ..).trans (if_pos rfl)

/-- A settled status and a commit are permanent: what holds of a failed settlement in
every state holds ever after. -/
theorem AtomicWorld.reply_permanent {call : AtomicCall} {choice : AtomicChoice}
    {answer : atomicInterface.Answer call} {next : AtomicWorld}
    (replied : world.reply call choice = some (answer, next)) :
    (∀ status, status ≠ .inProgress → statusOf request world = some status →
        statusOf request next = some status) ∧
      ∀ networkId id, world.committed networkId id → next.committed networkId id := by
  cases call with
  | now =>
      cases choice <;> cases replied
      exact ⟨fun _ _ found => found, fun _ _ done => done⟩
  | claim asked hash recordedAt =>
      cases choice <;> cases replied
      unfold AtomicWorld.claim
      cases found : world.settlements asked.id with
      | some existing => exact ⟨fun _ _ found => found, fun _ _ done => done⟩
      | none =>
          refine ⟨fun status _ settled => ?_, fun _ _ done => done⟩
          have other : request.id ≠ asked.id := fun same => by
            rw [statusOf, same, found] at settled
            cases settled
          exact (statusOf_put ..).trans ((if_neg other).trans settled)
  | executeAtomically executor asked =>
      cases choice with
      | instant value => cases replied
      | stored => cases replied
      | native commits result =>
          simp only [AtomicWorld.reply, Option.ite_none_right_eq_some, Option.some.injEq,
            Prod.mk.injEq] at replied
          obtain ⟨_, _, rfl⟩ := replied
          cases commits with
          | false => exact ⟨fun _ _ found => found, fun _ _ done => done⟩
          | true =>
              refine ⟨fun _ _ found => found, fun networkId id done => ?_⟩
              simp only [↓reduceIte, AtomicWorld.commit, done, Bool.or_true]
  | finish id hash status result recordedAt =>
      cases choice <;> cases replied
      unfold AtomicWorld.finish
      cases found : world.settlements id with
      | none => exact ⟨fun _ _ found => found, fun _ _ done => done⟩
      | some existing =>
          dsimp only
          split
          · exact ⟨fun _ _ found => found, fun _ _ done => done⟩
          · split
            · exact ⟨fun _ _ found => found, fun _ _ done => done⟩
            · rename_i progress
              refine ⟨fun earlier unsettled settled => ?_, fun _ _ done => done⟩
              have other : request.id ≠ id := fun same => by
                rw [statusOf, same, found, Option.map_some, not_not.mp progress] at settled
                exact unsettled (Option.some.inj settled).symm
              exact (statusOf_put ..).trans ((if_neg other).trans settled)

theorem underway_other {worker : Worker} {event : Event atomicInterface Worker Unit}
    (other : event.worker ≠ worker) :
    underway platform request worker (Protocol.after view event world) =
      underway platform request worker view := by
  rw [underway, Protocol.after_history, Protocol.localOf_cons_of_ne other, underway]

/-- A step that leaves the executor alone and does not fail the settlement. -/
theorem CommitInvariant.keeps (valid : CommitInvariant platform request view)
    {event : Event atomicInterface Worker Unit}
    (calls : unrejected (event :: view.history) = unrejected view.history)
    (committed : world.committed = view.state.committed)
    (failed : statusOf request world = some .failed → statusOf request view.state = some .failed)
    (own : statusOf request view.state = some .failed →
      underway platform request event.worker (Protocol.after view event world) = false) :
    CommitInvariant platform request (Protocol.after view event world) where
  committed done := by
    rw [Protocol.after_history, calls]
    exact valid.committed (by rwa [Protocol.after_state, committed] at done)
  failed found := by
    have before := failed found
    obtain ⟨none, others⟩ := valid.failed before
    refine ⟨calls.trans none, fun worker => ?_⟩
    by_cases same : event.worker = worker
    · subst same
      exact own before
    · exact (underway_other same).trans (others worker)

variable {worker : Worker} {here : AtomicLocal} {call : AtomicCall}
  {answer : atomicInterface.Answer call}

theorem underway_of_known
    (known : (atomicProtocol platform request).localOf worker view.history = some here) :
    underway platform request worker view = here.underway := by
  rw [underway, known]
  rfl

theorem underway_answered
    (known : (atomicProtocol platform request).localOf worker view.history = some here) :
    underway platform request worker (Protocol.after view (.answered worker call answer) world) =
      (here.next platform request call answer).underway := by
  rw [underway, Protocol.after_history, Protocol.localOf_answered_self, known]
  rfl

/-- An answer of the executor. -/
theorem CommitInvariant.executed (valid : CommitInvariant platform request view)
    {executor : NativeAtomicSettlementExecutor} {commits : Bool}
    {answer : Except Thrown NativeAtomicSettlementResult}
    (waits : outstanding worker view.history = some (.executeAtomically executor request))
    (network : executor.networkId = request.networkId)
    (honest : truthful (view.state.committed executor.networkId request.id) commits answer) :
    CommitInvariant platform request (Protocol.after view
      (.answered worker (.executeAtomically executor request) answer)
      (if commits then view.state.commit executor.networkId request.id else view.state)) where
  committed done := by
    have member := mem_unrejected_of_outstanding waits
    have nonempty := List.ne_nil_of_mem member
    cases answer with
    | error thrown => exact nonempty
    | ok result =>
        cases result with
        | rejected reasonCode evidence =>
            simp only [truthful, Bool.and_eq_true, Bool.not_eq_true'] at honest
            rw [network] at honest
            simp only [Protocol.after_state, honest.2, Bool.false_eq_true, ↓reduceIte, honest.1]
              at done
        | committed evidence => exact nonempty
        | alreadyCommitted evidence => exact nonempty
        | uncertain reasonCode evidence => exact nonempty
  failed found := by
    have before : statusOf request view.state = some .failed := by
      cases commits <;> exact found
    have member := mem_unrejected_of_outstanding waits
    rw [(valid.failed before).1] at member
    exact (List.not_mem_nil member).elim

/-- **Every step whose failures are alone keeps the invariant.** -/
theorem CommitInvariant.preserves :
    (atomicProtocol platform request).Preserves
      (fun (view : AtomicView Worker) event => FailsAlone platform request view event)
      (CommitInvariant platform request) where
  started view worker entry valid _ _ := by
    refine valid.keeps rfl rfl id fun _ => ?_
    rw [underway, Protocol.after_history, Event.worker, Protocol.localOf_started_self]
    rfl
  issued view worker call here valid _ known allowed := by
    have same : underway platform request worker
        (Protocol.after view (.issued worker call) view.state) =
          underway platform request worker view := by
      rw [underway, Protocol.after_history, Protocol.localOf_issued, underway]
    cases call with
    | executeAtomically executor asked =>
        refine ⟨fun _ => List.cons_ne_nil _ _, fun found => ?_⟩
        have quiet := (valid.failed found).2 worker
        rw [underway_of_known known, allowed.1] at quiet
        cases quiet
    | now => exact valid.keeps rfl rfl id fun found => same.trans ((valid.failed found).2 worker)
    | claim asked hash recordedAt =>
        exact valid.keeps rfl rfl id fun found => same.trans ((valid.failed found).2 worker)
    | finish id hash status result recordedAt =>
        exact valid.keeps rfl rfl (fun found => found) fun found =>
          same.trans ((valid.failed found).2 worker)
  crashed view worker here valid _ _ := by
    refine valid.keeps rfl rfl id fun _ => ?_
    rw [underway, Protocol.after_history, Event.worker, Protocol.localOf_crashed_self]
    rfl
  answered view worker call answer here choice world valid admitted waits known allowed replied := by
    cases call with
    | now =>
        cases choice <;> cases replied
        refine valid.keeps rfl rfl id fun found => ?_
        have quiet := (valid.failed found).2 worker
        rw [underway_of_known known] at quiet
        rw [Event.worker, underway_answered known]
        cases here with
        | claimed => cases quiet
        | _ => exact quiet
    | claim asked hash recordedAt =>
        cases choice <;> cases replied
        obtain ⟨rfl, rfl⟩ := allowed
        obtain ⟨same, created | ⟨found, kept⟩⟩ := statusOf_claim asked view.state hash recordedAt
        · refine valid.keeps rfl same (fun failed => ?_) fun failed => ?_
          · cases created.2.symm.trans failed
          · cases created.1.symm.trans failed
        · refine valid.keeps rfl same (fun failed => ?_) fun failed => ?_
          · rwa [kept] at failed
          · have status := Option.some.inj (found.symm.trans failed)
            rw [Event.worker, underway_answered known]
            simp only [AtomicLocal.next, status, reduceCtorEq, and_false, ↓reduceIte]
            rfl
    | executeAtomically executor asked =>
        cases choice with
        | instant value => cases replied
        | stored => cases replied
        | native commits result =>
            obtain ⟨_, rfl, network⟩ := allowed
            simp only [AtomicWorld.reply, Option.ite_none_right_eq_some, Option.some.injEq,
              Prod.mk.injEq] at replied
            obtain ⟨honest, rfl, rfl⟩ := replied
            exact valid.executed waits network honest
    | finish id hash status result recordedAt =>
        cases choice <;> cases replied
        obtain ⟨rfl, _, decided⟩ := allowed
        obtain ⟨same, kept | ⟨progress, written⟩⟩ := statusOf_finish request view.state hash
          recordedAt status result
        · exact valid.keeps rfl same (fun failed => kept.symm.trans failed) fun _ => by
            rw [Event.worker, underway_answered known]
            rfl
        · by_cases fails : status = .failed
          · subst fails
            obtain ⟨none, quiet⟩ := admitted progress
            refine ⟨fun done => ?_, fun _ => ⟨none, fun other => ?_⟩⟩
            · rw [Protocol.after_state, same] at done
              exact (valid.committed done none).elim
            · by_cases self : worker = other
              · subst self
                rw [underway_answered known]
                rfl
              · refine (underway_other ?_).trans (quiet other)
                exact self
          · refine valid.keeps rfl same (fun failed => ?_) fun failed => ?_
            · exact (fails (Option.some.inj (written.symm.trans failed))).elim
            · cases progress.symm.trans failed

end Failures

/-- **Failed settlements are never committed.** In every run whose failures are
written when all executor calls have been rejected and no other run is on its way to
the executor, the legs of a failed settlement are not committed, then or later. -/
theorem failed_never_committed (platform : Platform) (service : SameNetworkSettlementService)
    (request : SameNetworkSettlementRequest) {Worker : Type} [DecidableEq Worker]
    {config : Config atomicServices Worker Unit SameNetworkSettlementRecord}
    (reached : Reachable (fun _ => service.execute platform request)
      (fun view event => FailsAlone platform request view event) (AtomicView.empty Worker) config)
    (failed : statusOf request config.state = some .failed) :
    config.state.committed request.networkId request.id = false := by
  have valid := Protocol.invariant
    (fun _ => SameNetworkSettlementService.execute_follows platform service request)
    (fun _ _ _ _ _ _ => trivial) rfl .empty CommitInvariant.preserves reached
  rw [← Bool.not_eq_true]
  intro done
  exact valid.committed done (valid.failed failed).1

namespace AtomicExample

def delivery : SameNetworkSettlementLeg :=
  ⟨js "delivery", js "IW:ASSET:bond", js "IW:IDENTITY:alice", js "IW:IDENTITY:bob", js "10"⟩

def payment : SameNetworkSettlementLeg :=
  ⟨js "payment", js "IW:ASSET:cash", js "IW:IDENTITY:bob", js "IW:IDENTITY:alice", js "1000"⟩

def request : SameNetworkSettlementRequest where
  id := js "IW:SETTLEMENT:trade-1"
  idempotencyKey := js "trade-1"
  networkId := js "IW:NETWORK:canton"
  networkType := js "CANTON"
  legs := (delivery, payment)
  expiresAt := js "2026-08-12T13:00:00.000Z"
  createdAt := js "2026-08-12T12:00:00.000Z"

/-- 2026-08-12T12:02:00.000Z. -/
def early : Int := 1786536120000

/-- 2026-08-12T13:00:00.000Z. -/
def late : Int := 1786539600000

def evidence : NativeAtomicSettlementEvidence :=
  ⟨js "tx-1", js "offset-42", [js "native-receipt"], js "2026-08-12T12:01:00.000Z"⟩

def service : SameNetworkSettlementService where
  executors := [⟨js "IW:NETWORK:canton", js "CANTON"⟩]
  unique := List.nodup_singleton _

def execute (_ : Unit) : AtomicProgram SameNetworkSettlementRecord :=
  service.execute isoPlatform request

/-- Calls of the worker, each issued and answered at once. -/
def exchanges (choices : List AtomicChoice) : List (Action atomicServices Unit Unit) :=
  choices.flatMap fun choice => [.issue (), .answer () choice]

/-- The worker crashes before it asks the executor, and its next run finds the
settlement expired. -/
def expiresUnasked : List (Action atomicServices Unit Unit) :=
  .start () () :: exchanges [.instant early, .stored, .instant early] ++
    [Action.crash (), .start () ()] ++ exchanges [.instant late, .stored, .instant late, .instant late, .stored]

/-- The executor commits the legs, the worker crashes, and its next run finds the
settlement expired. -/
def expiresCommitted : List (Action atomicServices Unit Unit) :=
  .start () () :: exchanges [.instant early, .stored, .instant early,
    .native true (.ok (.committed evidence))] ++
    [Action.crash (), .start () ()] ++ exchanges [.instant late, .stored, .instant late, .instant late,
      .stored]

/-- The settlement is recorded as failed. -/
def failed (config : Config atomicServices Unit Unit SameNetworkSettlementRecord) : Bool :=
  decide (statusOf request config.state = some .failed)

end AtomicExample

open AtomicExample in
/-- A settlement that expires before the executor is asked is never committed. -/
theorem failed_never_committed_unasked :
    ∃ config : Config atomicServices Unit Unit SameNetworkSettlementRecord,
      statusOf request config.state = some .failed ∧
      config.state.committed request.networkId request.id = false := by
  obtain ⟨config, reached, failed⟩ := Reachable.exists_of_run AtomicExample.execute
    (fun view event => FailsAlone isoPlatform request view event) (AtomicView.empty Unit)
    expiresUnasked AtomicExample.failed (by decide +kernel)
  have status := of_decide_eq_true failed
  exact ⟨config, status, failed_never_committed isoPlatform service request reached status⟩

open AtomicExample in
/-- **A committed settlement is failed.** After a crash between the commit and its
record, an expired settlement is failed without asking the executor. -/
theorem failed_after_commit :
    ¬ ∀ config : Config atomicServices Unit Unit SameNetworkSettlementRecord,
      Reachable AtomicExample.execute (fun _ _ => True) (AtomicView.empty Unit) config →
      statusOf request config.state = some .failed →
      config.state.committed request.networkId request.id = false := by
  intro claim
  obtain ⟨config, reached, both⟩ := Reachable.exists_of_run AtomicExample.execute
    (fun _ _ => True) (AtomicView.empty Unit) expiresCommitted
    (fun config => AtomicExample.failed config &&
      config.state.committed request.networkId request.id) (by decide +kernel)
  rw [Bool.and_eq_true] at both
  have uncommitted := claim config reached (of_decide_eq_true both.1)
  rw [both.2] at uncommitted
  cases uncommitted

end InterWeave
