import InterWeave.Core.IsoDate
import InterWeave.Signing.SigningRuns

/-! # Whose signatures an execution returns

An execution compares the tenant of a request with its own before it signs, but it
looks for a stored result first, and returns one to whoever asks. Where stored results
are only asked for by the tenants of their requests, executions keep to their tenant.
-/

namespace InterWeave

open Async

/-- The request stored under an identifier belongs to the tenant of a context. -/
def SigningStore.Owns (store : SigningStore) (context : TenantContext) (id : JsString) : Prop :=
  ∃ request, store.requests id = some request ∧ context.toTenant = request.toTenant

instance (store : SigningStore) (context : TenantContext) (id : JsString) :
    Decidable (store.Owns context id) :=
  match stored : store.requests id with
  | none => isFalse fun ⟨_, found, _⟩ => nomatch stored.symm.trans found
  | some request => decidable_of_iff (context.toTenant = request.toTenant)
      ⟨fun same => ⟨request, stored, same⟩, fun ⟨_, found, same⟩ =>
        Option.some.inj (stored.symm.trans found) ▸ same⟩

section Runs

variable {platform : SigningPlatform} {coordinator : SigningCoordinator} {kind : SigningStoreKind}
  {signer : Signer} {Worker : Type} [DecidableEq Worker]

theorem SigningStore.Owns.stable {store next : SigningStore} {call : SigningCall}
    {answer : signingInterface.Answer call} (replies : store.Replies call answer next)
    {context : TenantContext} {id : JsString} (owns : store.Owns context id) :
    next.Owns context id := by
  obtain ⟨request, stored, same⟩ := owns
  exact ⟨request, replies.requests stored, same⟩

theorem SigningStore.Replies.of_getResult {store next : SigningStore} {id : JsString}
    {result : SignatureResult}
    (replies : store.Replies (.getResult id) (.ok (some result)) next) :
    next = store ∧ store.results id = some result := by
  generalize same : (Except.ok (some result) : Except Thrown _) = answer at replies
  cases replies with
  | replayed id => exact ⟨rfl, (Except.ok.inj same).symm⟩
  | refused error => cases same

/-- The condition on a step: where an execution finds a stored result, the request of that
identifier belongs to the tenant that executes. -/
def ReplaysOwn (view : View (signingServices platform kind signer) Worker SigningCommand) :
    Event signingInterface Worker SigningCommand → Prop
  | .answered worker (.getResult id) (.ok (some _)) =>
      match entryOf worker view.history, view.state.requests id with
      | some command, some request => command.context.toTenant = request.toTenant
      | _, _ => True
  | _ => True

instance (view : View (signingServices platform kind signer) Worker SigningCommand) :
    (event : Event signingInterface Worker SigningCommand) → Decidable (ReplaysOwn view event)
  | .answered worker (.getResult id) (.ok (some _)) => by
      unfold ReplaysOwn
      dsimp only
      split <;> infer_instance
  | .answered _ (.getResult _) (.ok none) | .answered _ (.getResult _) (.error _)
  | .answered _ (.create _) _ | .answered _ (.get _) _ | .answered _ (.addApproval _) _
  | .answered _ (.approvals _) _ | .answered _ (.saveResult _) _ | .answered _ .now _
  | .answered _ (.sign _) _ | .started _ _ | .issued _ _ | .crashed _ => .isTrue trivial

namespace SigningCoordinator.Reachable

variable {config : Config (signingServices platform kind coordinator.signer) Worker SigningCommand
    SigningOutcome}
  {admits : View (signingServices platform kind coordinator.signer) Worker SigningCommand →
    Event signingInterface Worker SigningCommand → Prop}

/-- What an execution replays belongs to its tenant. -/
theorem owns_of_replayed (reached : coordinator.Reachable platform kind ReplaysOwn config)
    {worker : Worker} {context : TenantContext} {id : JsString}
    {exchanges : List (Exchange signingInterface)} {result : SignatureResult}
    (known : transcriptOf (coordinator.run platform) worker config.history =
      some (.execute context id, exchanges))
    (replayed : ⟨.getResult id, .ok (some result)⟩ ∈ exchanges) :
    config.state.Owns context id := by
  refine Async.Reachable.exchanges_hold reached (fun command store exchange =>
    ∀ id result, exchange = ⟨.getResult id, .ok (some result)⟩ →
      store.Owns command.context id) rfl ?_ ?_ worker _ exchanges known _ replayed id result rfl
  · intro config worker command exchanges call choice answer next before known _ admitted replied
      id result same
    cases same
    obtain ⟨rfl, stored⟩ := (SigningStore.replies_of_reply replied).of_getResult
    obtain ⟨_, request, present⟩ := resultsNamed before id result stored
    simp only [ReplaysOwn, entryOf_of_transcriptOf known, present] at admitted
    exact ⟨request, present, admitted⟩
  · intro command call choice state answer next exchange replied owns id result same
    exact (owns id result same).stable (SigningStore.replies_of_reply replied)

/-- A command writes a result, or asks for a signature, for its own tenant only. -/
theorem owns_of_clears (reached : coordinator.Reachable platform kind admits config)
    {worker : Worker} {command : SigningCommand} {context : TenantContext} {id : JsString}
    {request : SigningRequest} {now : Int} {approvals : List SigningApproval}
    {more : List (Exchange signingInterface)}
    (known : transcriptOf (coordinator.run platform) worker config.history =
      some (command, readings id request now approvals ++ more))
    (clears : coordinator.Clears platform context request approvals) :
    request.id = id ∧ config.state.Owns context id := by
  have present : config.state.requests id = some request :=
    bearsOut reached known ⟨.get id, .ok (some request)⟩ (by simp [readings])
  exact ⟨keyed reached id request present, request, present, clears.tenant⟩

/-- A step of an execution of another tenant leaves the store alone and asks for nothing. -/
theorem unchanged_of_not_owns (reached : coordinator.Reachable platform kind admits config)
    {worker : Worker} {context : TenantContext} {id : JsString}
    (executes : entryOf worker config.history = some (.execute context id))
    (foreign : ¬ config.state.Owns context id)
    {action : Action (signingServices platform kind coordinator.signer) Worker SigningCommand}
    {move : Move (signingServices platform kind coordinator.signer) Worker SigningCommand
      SigningOutcome} (moved : config.move (coordinator.run platform) action = some move)
    (own : move.event.worker = worker) :
    move.state = config.state ∧ ∀ request, move.event ≠ .issued worker (.sign request) := by
  have asked {call : SigningCall} {resume} {exchanges : List (Exchange signingInterface)}
      {command : SigningCommand}
      (known : transcriptOf (coordinator.run platform) worker config.history =
        some (command, exchanges))
      (reaches : (coordinator.run platform command).Reaches exchanges (.await call resume)) :
      coordinator.asks platform (.execute context id) exchanges call := by
    cases (entryOf_of_transcriptOf known).symm.trans executes
    exact (coordinator.run_asks _).admits_of_reaches reaches
  cases Config.moves_of_move moved with
  | start _ => exact ⟨rfl, fun _ same => nomatch same⟩
  | crash _ => exact ⟨rfl, fun _ same => nomatch same⟩
  | @issue issuer call resume status =>
      obtain rfl : issuer = worker := own
      have tracks := reached.tracks rfl issuer
      rw [status] at tracks
      obtain ⟨⟨command, exchanges⟩, known, reaches⟩ := tracks
      refine ⟨rfl, fun request same => ?_⟩
      cases same
      obtain ⟨_, _, now, approvals, same, rfl, clears⟩ := asked known reaches
      cases same
      rw [← List.append_nil (readings ..)] at known
      exact foreign (owns_of_clears reached known clears).2
  | @answer asker call resume choice answer state status replied =>
      obtain rfl : asker = worker := own
      have tracks := reached.tracks rfl asker
      rw [status] at tracks
      obtain ⟨⟨command, exchanges⟩, known, reaches⟩ := tracks
      have asks := asked known reaches
      refine ⟨?_, fun _ same => nomatch same⟩
      cases SigningStore.replies_of_reply replied with
      | created _ =>
          obtain ⟨_, _, same, _⟩ := asks
          cases same
      | approved =>
          obtain ⟨_, _, _, _, _, _, _, same, _⟩ := asks
          cases same
      | saved _ =>
          obtain ⟨_, _, request, now, approvals, same, rfl, clears⟩ := asks
          cases same
          exact absurd (owns_of_clears reached known clears).2 foreign
      | _ => rfl

end SigningCoordinator.Reachable

/-- **Executions keep to their tenant.** In a run in which stored results are found only by the
tenants of their requests, an execution returns a signature of the request it names, which
belongs to its own tenant, or it throws; and an execution of another tenant changes nothing and
asks the signer for nothing. -/
theorem SigningCoordinator.execute_keeps_to_tenant (platform : SigningPlatform)
    (coordinator : SigningCoordinator) (kind : SigningStoreKind)
    {config : Config (signingServices platform kind coordinator.signer) Worker SigningCommand
      SigningOutcome} (reached : coordinator.Reachable platform kind ReplaysOwn config)
    {worker : Worker} {context : TenantContext} {id : JsString}
    (executes : entryOf worker config.history = some (.execute context id)) :
    (∀ outcome, config.workers worker = .running (.settled outcome) →
      (∃ result, outcome = .ok (.executed result) ∧ result.requestId = id ∧
        config.state.Owns context id) ∨ ∃ error, outcome = .error error) ∧
    (¬ config.state.Owns context id → ∀ action move,
      config.move (coordinator.run platform) action = some move → move.event.worker = worker →
      move.state = config.state ∧ ∀ request, move.event ≠ .issued worker (.sign request)) := by
  refine ⟨fun outcome settled => ?_, fun foreign action move moved own =>
    reached.unchanged_of_not_owns executes foreign moved own⟩
  cases outcome with
  | error error => exact .inr ⟨error, rfl⟩
  | ok value =>
      left
      have tracks := Async.Reachable.tracks rfl reached worker
      rw [settled] at tracks
      obtain ⟨⟨command, exchanges⟩, known, reaches⟩ := tracks
      cases (entryOf_of_transcriptOf known).symm.trans executes
      have returned := (coordinator.run_asks _).post_of_reaches reaches
      cases value with
      | submitted request => obtain ⟨_, _, same⟩ := returned; cases same
      | approved approval => obtain ⟨_, _, _, _, same⟩ := returned; cases same
      | executed result =>
          obtain ⟨_, _, same, replayed | signs⟩ := returned
          · cases same
            have replayed : exchanges = [⟨.getResult id, .ok (some result)⟩] := replayed
            subst replayed
            have owns := reached.owns_of_replayed known List.mem_cons_self
            have stored : config.state.results id = some result :=
              reached.bearsOut known ⟨.getResult id, .ok (some result)⟩ List.mem_cons_self
            exact ⟨result, rfl, (reached.resultsNamed id result stored).1, owns⟩
          · cases same
            obtain ⟨request, now, approvals, signed, rfl, clears⟩ := signs
            obtain ⟨named, owns⟩ := reached.owns_of_clears known clears
            obtain ⟨rfl, _⟩ : result = signed ∧ _ :=
              reached.bearsOut known ⟨.saveResult signed, .ok result⟩ (by simp)
            have same : result.requestId = request.id :=
              reached.bearsOut known ⟨.sign request, .ok result⟩ (by simp)
            exact ⟨result, rfl, same.trans named, owns⟩

end Runs

/-! ## Two tenants -/

namespace TwoTenants

def platform : SigningPlatform :=
  { isoPlatform with
    seconds := fun milliseconds => .finite (milliseconds / 1000)
    hmacSha256Hex := fun _ text => text }

def alice : TenantContext where
  organizationId := js "IW:ORGANIZATION:one"
  projectId := js "IW:PROJECT:one"
  environmentId := js "IW:ENVIRONMENT:one"
  subjectId := js "alice"
  scopes := [.policiesAdmin]

def mallory : TenantContext where
  organizationId := js "IW:ORGANIZATION:two"
  projectId := js "IW:PROJECT:two"
  environmentId := js "IW:ENVIRONMENT:two"
  subjectId := js "mallory"
  scopes := [.policiesAdmin]

def coordinator : SigningCoordinator where
  policy := {
    version := js "1"
    environmentId := js "IW:ENVIRONMENT:one"
    allowedPurposes := [.attestation, .validatorRotation]
    allowedAlgorithms := [js "ECDSA_SHA256"]
    allowedKeyPrefixes := [js "hsm://", js "mpc://"]
    privilegedPurposes := [.validatorRotation]
    requiredApprovals := .ofNat 2
    maxValiditySeconds := .ofNat 300 }
  signer := .hsm

def input (purpose : SigningPurpose) : SigningInput where
  id := js "IW:SIGNING_REQUEST:1"
  purpose := purpose
  operationId := js "IW:BRIDGE:one"
  keyReference := js "hsm://key-1"
  algorithm := js "ECDSA_SHA256"
  payloadDigest := js "sha256:" ++ List.replicate 64 48
  policyVersion := js "1"
  createdAt := js "2026-08-13T12:00:00.000Z"
  expiresAt := js "2026-08-13T12:05:00.000Z"

/-- Two minutes into the validity of the request. -/
def now : SigningChoice := .instant 1786622520000

def signature : SigningChoice :=
  .custody (.ok { signature := js "signature", signedAt := js "2026-08-13T12:02:00.000Z" })

abbrev Desk (kind : SigningStoreKind) : Type :=
  Config (signingServices platform kind coordinator.signer) Unit SigningCommand SigningOutcome

abbrev Schedule (kind : SigningStoreKind) : Type :=
  List (Action (signingServices platform kind coordinator.signer) Unit SigningCommand)

/-- One command, with the answers to its calls. -/
def serve {kind : SigningStoreKind} (command : SigningCommand) (answers : List SigningChoice) :
    Schedule kind :=
  .start () command :: answers.flatMap fun choice => [.issue (), .answer () choice]

/-- Alice has her request signed. -/
def signedForAlice {kind : SigningStoreKind} : Schedule kind :=
  serve (.submit alice (input .attestation)) [now, .stored] ++
    serve (.execute alice (js "IW:SIGNING_REQUEST:1"))
      [.stored, .stored, now, .stored, signature, .stored]

/-- The result that the execution of a context has returned. -/
def returned {kind : SigningStoreKind} (context : TenantContext) (config : Desk kind) :
    Option SignatureResult :=
  if entryOf () config.history = some (.execute context (js "IW:SIGNING_REQUEST:1")) then
    match config.workers () with
    | .running (.settled (.ok (.executed result))) => some result
    | _ => none
  else none

theorem executes_of_returned {kind : SigningStoreKind} {context : TenantContext}
    {config : Desk kind} (isSome : (returned context config).isSome = true) :
    entryOf () config.history = some (.execute context (js "IW:SIGNING_REQUEST:1")) ∧
      ∃ result, config.workers () = .running (.settled (.ok (.executed result))) := by
  rw [returned] at isSome
  split at isSome
  · rename_i executes
    refine ⟨executes, ?_⟩
    split at isSome
    · rename_i result settled
      exact ⟨result, settled⟩
    · cases isSome
  · cases isSome

/-- A second tenant is answered with the signature of the first. -/
theorem foreign_replay : ∃ config : Desk .inMemory,
    coordinator.Reachable platform .inMemory (fun _ _ => True) config ∧
      entryOf () config.history = some (.execute mallory (js "IW:SIGNING_REQUEST:1")) ∧
      (∃ result, config.workers () = .running (.settled (.ok (.executed result)))) ∧
      ¬ config.state.Owns mallory (js "IW:SIGNING_REQUEST:1") := by
  obtain ⟨config, reached, checked⟩ := Async.Reachable.exists_of_run (coordinator.run platform)
    (fun _ _ => True) ⟨SigningStore.empty, []⟩
    (signedForAlice ++ serve (.execute mallory (js "IW:SIGNING_REQUEST:1")) [.stored])
    (fun config : Desk .inMemory => (returned mallory config).isSome &&
      decide (¬ config.state.Owns mallory (js "IW:SIGNING_REQUEST:1"))) (by decide +kernel)
  rw [Bool.and_eq_true, decide_eq_true_eq] at checked
  obtain ⟨executes, settled⟩ := executes_of_returned checked.1
  exact ⟨config, reached, executes, settled, checked.2⟩

theorem alice_replays : ∃ config : Desk .postgres,
    coordinator.Reachable platform .postgres ReplaysOwn config ∧
      config.state.Owns alice (js "IW:SIGNING_REQUEST:1") := by
  obtain ⟨config, reached, checked⟩ := Async.Reachable.exists_of_run (coordinator.run platform)
    ReplaysOwn ⟨SigningStore.empty, []⟩
    (signedForAlice ++ serve (.execute alice (js "IW:SIGNING_REQUEST:1")) [.stored])
    (fun config : Desk .postgres => (returned alice config).isSome) (by decide +kernel)
  obtain ⟨executes, result, settled⟩ := executes_of_returned checked
  have kept := SigningCoordinator.execute_keeps_to_tenant platform coordinator .postgres reached
    executes
  rcases kept.1 _ settled with ⟨_, _, _, owns⟩ | ⟨_, same⟩
  · exact ⟨config, reached, owns⟩
  · cases same

end TwoTenants

end InterWeave
