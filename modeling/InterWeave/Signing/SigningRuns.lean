import InterWeave.Async.Transcript
import InterWeave.Signing.KeyManagement

/-! # What signing commands do

Each write and each question to the signer is made after one transcript only, which
shows what the command has read and checked. Requests and results are immutable, so
that what a command has read of them is still stored when it acts.
-/

namespace InterWeave

open Async

/-! ## The store -/

/-- The answers of the store, the clock and the signer, by what they rest on. -/
inductive SigningStore.Replies (store : SigningStore) :
    (call : SigningCall) → signingInterface.Answer call → SigningStore → Prop where
  | now (value : Int) : Replies store .now (.ok value) store
  | created {request : SigningRequest} : store.requests request.id = none →
      Replies store (.create request) (.ok request)
        { store with requests := Function.update store.requests request.id (some request) }
  | found (id : JsString) : Replies store (.get id) (.ok (store.requests id)) store
  | approved {approval : SigningApproval} : Replies store (.addApproval approval) (.ok ())
      { store with approvalLog := store.approvalLog ++ [approval] }
  | listed {id : JsString} {approvals : List SigningApproval} :
      approvals.Perm (store.approvalLog.filter fun approval => approval.requestId == id) →
      Replies store (.approvals id) (.ok approvals) store
  | saved {result : SignatureResult} : store.results result.requestId = none →
      Replies store (.saveResult result) (.ok result)
        { store with results := Function.update store.results result.requestId (some result) }
  | replayed (id : JsString) : Replies store (.getResult id) (.ok (store.results id)) store
  | signed {request : SigningRequest} {result : SignatureResult} :
      result.requestId = request.id → Replies store (.sign request) (.ok result) store
  | refused {call : SigningCall} (error : Thrown) : Replies store call (.error error) store

/-- The three signers answer for the request they are given. -/
theorem SigningRequest.requestId_of_signExternally {request : SigningRequest} {start : JsString}
    {provider : SigningProvider} {answer : Except Thrown ExternalSignature}
    {result : SignatureResult}
    (signed : request.signExternally start provider answer = .ok result) :
    result.requestId = request.id := by
  rw [signExternally] at signed
  cases reference : assertExternalReference request.keyReference start with
  | error error => rw [reference] at signed; cases signed
  | ok _ =>
      rw [reference] at signed
      cases answer with
      | error error => cases signed
      | ok evidence => cases signed; rfl

theorem LocalDevelopmentSigner.requestId_of_sign {platform : SigningPlatform}
    {signer : LocalDevelopmentSigner} {request : SigningRequest} {now : Int}
    {result : SignatureResult} (signed : signer.sign platform request now = .ok result) :
    result.requestId = request.id := by
  rw [sign] at signed
  split at signed
  · cases signed
  · cases signed
    rfl

section Replies

variable {platform : SigningPlatform} {kind : SigningStoreKind} {signer : Signer}
  {store next : SigningStore}

theorem SigningStore.Replies.of_sign {request : SigningRequest}
    {answer : Except Thrown SignatureResult}
    (named : ∀ result, answer = .ok result → result.requestId = request.id) :
    store.Replies (.sign request) answer store := by
  cases answer with
  | error error => exact .refused error
  | ok result => exact .signed (named result rfl)

theorem SigningStore.replies_of_reply {call : SigningCall} {choice : SigningChoice}
    {answer : signingInterface.Answer call}
    (replied : SigningStore.reply platform kind signer call choice store = some (answer, next)) :
    store.Replies call answer next := by
  cases call with
  | now =>
      cases choice <;> simp only [reply, reduceCtorEq, Option.some.injEq, Prod.mk.injEq] at replied
      obtain ⟨rfl, rfl⟩ := replied
      exact .now _
  | get id =>
      cases choice <;> simp only [reply, reduceCtorEq, Option.some.injEq, Prod.mk.injEq] at replied
      all_goals obtain ⟨rfl, rfl⟩ := replied
      · exact .found id
      · exact .refused _
  | getResult id =>
      cases choice <;> simp only [reply, reduceCtorEq, Option.some.injEq, Prod.mk.injEq] at replied
      all_goals obtain ⟨rfl, rfl⟩ := replied
      · exact .replayed id
      · exact .refused _
  | approvals id =>
      cases choice <;> simp only [reply, reduceCtorEq, Option.some.injEq, Prod.mk.injEq] at replied
      all_goals obtain ⟨rfl, rfl⟩ := replied
      · refine .listed ?_
        cases kind with
        | inMemory => exact .refl _
        | postgres => exact List.mergeSort_perm ..
      · exact .refused _
  | create request =>
      cases choice <;> simp only [reply, reduceCtorEq, Option.some.injEq, Prod.mk.injEq] at replied
      · cases stored : store.requests request.id with
        | some other =>
            simp only [create, stored, Prod.mk.injEq] at replied
            obtain ⟨rfl, rfl⟩ := replied
            exact .refused _
        | none =>
            simp only [create, stored, Prod.mk.injEq] at replied
            obtain ⟨rfl, rfl⟩ := replied
            exact .created stored
      · obtain ⟨rfl, rfl⟩ := replied
        exact .refused _
  | saveResult result =>
      cases choice <;> simp only [reply, reduceCtorEq, Option.some.injEq, Prod.mk.injEq] at replied
      · cases stored : store.results result.requestId with
        | some other =>
            simp only [saveResult, stored, Prod.mk.injEq] at replied
            obtain ⟨rfl, rfl⟩ := replied
            exact .refused _
        | none =>
            simp only [saveResult, stored, Prod.mk.injEq] at replied
            obtain ⟨rfl, rfl⟩ := replied
            exact .saved stored
      · obtain ⟨rfl, rfl⟩ := replied
        exact .refused _
  | addApproval approval =>
      cases choice <;> simp only [reply, reduceCtorEq, Option.some.injEq, Prod.mk.injEq] at replied
      · rw [addApproval] at replied
        split at replied
        · cases replied
          exact .refused _
        · split at replied
          · cases replied
            exact .refused _
          · cases replied
            exact .approved
      · obtain ⟨rfl, rfl⟩ := replied
        exact .refused _
  | sign request =>
      cases choice <;> cases signer <;>
        simp only [reply, reduceCtorEq, Option.some.injEq, Prod.mk.injEq] at replied
      all_goals obtain ⟨rfl, rfl⟩ := replied
      · exact .of_sign fun _ signed => LocalDevelopmentSigner.requestId_of_sign signed
      · exact .of_sign fun _ signed => SigningRequest.requestId_of_signExternally signed
      · exact .of_sign fun _ signed => SigningRequest.requestId_of_signExternally signed

namespace SigningStore.Replies

variable {call : SigningCall} {answer : signingInterface.Answer call}

/-- A stored request stays as it is. -/
theorem requests (replies : store.Replies call answer next) {id : JsString}
    {request : SigningRequest} (stored : store.requests id = some request) :
    next.requests id = some request := by
  cases replies with
  | @created other absent =>
      have different : id ≠ other.id := by
        rintro rfl
        rw [absent] at stored
        cases stored
      exact (Function.update_of_ne different ..).trans stored
  | _ => exact stored

/-- A stored result stays as it is. -/
theorem results (replies : store.Replies call answer next) {id : JsString}
    {result : SignatureResult} (stored : store.results id = some result) :
    next.results id = some result := by
  cases replies with
  | @saved other absent =>
      have different : id ≠ other.requestId := by
        rintro rfl
        rw [absent] at stored
        cases stored
      exact (Function.update_of_ne different ..).trans stored
  | _ => exact stored

end SigningStore.Replies
end Replies

/-! ## Transcripts of commands -/

/-- What an execution reads before it asks the signer. -/
def readings (id : JsString) (request : SigningRequest) (now : Int)
    (approvals : List SigningApproval) : List (Exchange signingInterface) :=
  [⟨.getResult id, .ok none⟩, ⟨.get id, .ok (some request)⟩, ⟨.now, .ok now⟩,
    ⟨.approvals id, .ok approvals⟩]

/-- The approval that a command makes. -/
def approvalOf (platform : SigningPlatform) (requestId approverId : JsString)
    (decision : SigningDecision) (requestDigest : JsString) (now : Int) : SigningApproval where
  id := js "IW:SIGNING_APPROVAL:" ++ requestId ++ js ":" ++ approverId
  requestId := requestId
  requestDigest := requestDigest
  approverId := approverId
  decision := decision
  occurredAt := platform.toISOString now

namespace SigningCoordinator

variable (platform : SigningPlatform) (coordinator : SigningCoordinator)

/-- The own checks of an execution allow a request. -/
structure Clears (context : TenantContext) (request : SigningRequest)
    (approvals : List SigningApproval) : Prop where
  tenant : context.toTenant = request.toTenant
  approvals : coordinator.checkApprovals platform request approvals = .ok ()

/-- The transcripts after which a command writes or asks the signer. -/
def asks (command : SigningCommand) (exchanges : List (Exchange signingInterface)) :
    SigningCall → Prop
  | .sign request => ∃ context id now approvals, command = .execute context id ∧
      exchanges = readings id request now approvals ∧
      coordinator.Clears platform context request approvals
  | .saveResult result => ∃ context id request now approvals, command = .execute context id ∧
      exchanges = readings id request now approvals ++ [⟨.sign request, .ok result⟩] ∧
      coordinator.Clears platform context request approvals
  | .addApproval approval => ∃ context requestId approverId decision request now digest,
      command = .approve context requestId approverId decision ∧
      exchanges = [⟨.get requestId, .ok (some request)⟩, ⟨.now, .ok now⟩] ∧
      .policiesAdmin ∈ context.scopes ∧
      requestFingerprint platform.toPlatform request.json = .ok digest ∧
      approval = approvalOf platform requestId approverId decision digest now
  | .create request => ∃ context input, command = .submit context input ∧
      request.toTenant = context.toTenant
  | _ => True

/-- The transcripts after which a command returns a value. -/
def returns (command : SigningCommand) (exchanges : List (Exchange signingInterface)) :
    Except Thrown SigningOutcome → Prop
  | .ok (.executed result) => ∃ context id, command = .execute context id ∧
      (exchanges = [⟨.getResult id, .ok (some result)⟩] ∨
        ∃ request now approvals signed,
          exchanges = readings id request now approvals ++
            [⟨.sign request, .ok signed⟩, ⟨.saveResult signed, .ok result⟩] ∧
          coordinator.Clears platform context request approvals)
  | .ok (.submitted _) => ∃ context input, command = .submit context input
  | .ok (.approved _) => ∃ context requestId approverId decision,
      command = .approve context requestId approverId decision
  | .error _ => True

variable {platform coordinator} {command : SigningCommand}

theorem required_asks (id : JsString) (exchanges : List (Exchange signingInterface)) :
    (required id).Follows (transcriptProtocol (coordinator.asks platform command))
      (fun there outcome => ∀ request, outcome = .ok request →
        there = exchanges ++ [⟨.get id, .ok (some request)⟩]) exchanges := by
  refine .call_seq trivial (fun found _ => ?_) fun _ _ _ same => nomatch same
  cases found with
  | none => exact fun _ same => nomatch same
  | some request =>
      intro other same
      cases same
      rfl

theorem validate_asks (request : SigningRequest) (exchanges : List (Exchange signingInterface)) :
    (coordinator.validate platform request).Follows
      (transcriptProtocol (coordinator.asks platform command))
      (fun there outcome => outcome = .ok () → ∃ now, there = exchanges ++ [⟨.now, .ok now⟩])
      exchanges := by
  rw [validate]
  split
  · exact fun same => nomatch same
  · split
    · exact fun same => nomatch same
    · refine .call_seq trivial (fun now _ => ?_) fun _ _ same => nomatch same
      split
      · exact fun same => nomatch same
      · exact fun _ => ⟨now, rfl⟩

theorem submit_asks (context : TenantContext) (input : SigningInput) :
    (coordinator.submit platform context input).Follows
      (transcriptProtocol (coordinator.asks platform (.submit context input)))
      (fun _ _ => True) [] := by
  refine .seq (validate_asks _ []) (fun there _ _ => ?_) fun _ _ _ => trivial
  exact ⟨⟨context, input, rfl, rfl⟩, fun _ _ => trivial⟩

theorem approve_asks (context : TenantContext) (requestId approverId : JsString)
    (decision : SigningDecision) :
    (approve platform context requestId approverId decision).Follows
      (transcriptProtocol (coordinator.asks platform
        (.approve context requestId approverId decision))) (fun _ _ => True) [] := by
  rw [approve]
  split
  · trivial
  · rename_i holds
    have admin : Scope.policiesAdmin ∈ context.scopes := by simpa using holds
    refine .seq (required_asks requestId []) (fun there request found => ?_) fun _ _ _ => trivial
    obtain rfl := found request rfl
    -- The fingerprint is opaque here, so that the elaborator does not evaluate it.
    generalize rendered : requestFingerprint platform.toPlatform request.json = fingerprint
    refine .ofExcept_seq (fun digest digested => ?_) fun _ _ => trivial
    refine .call_seq trivial (fun now _ => ?_) fun _ _ => trivial
    exact .call_seq
      ⟨context, requestId, approverId, decision, request, now, digest, rfl, rfl, admin,
        rendered.trans digested, rfl⟩ (fun _ _ => trivial) fun _ _ => trivial

theorem execute_asks (context : TenantContext) (id : JsString) :
    (coordinator.execute platform context id).Follows
      (transcriptProtocol (coordinator.asks platform (.execute context id)))
      (fun there outcome => ∀ result, outcome = .ok result →
        coordinator.returns platform (.execute context id) there (.ok (.executed result))) [] := by
  refine .call_seq trivial (fun found _ => ?_) fun _ _ _ same => nomatch same
  cases found with
  | some existing =>
      intro result same
      cases same
      exact ⟨context, id, rfl, .inl rfl⟩
  | none =>
      refine .seq (required_asks id _) (fun there request found => ?_) fun _ _ _ _ same =>
        nomatch same
      obtain rfl := found request rfl
      refine .seq (validate_asks request _) (fun there _ valid => ?_) fun _ _ _ _ same =>
        nomatch same
      obtain ⟨now, rfl⟩ := valid rfl
      split
      · exact fun _ same => nomatch same
      · rename_i own
        have tenant : context.toTenant = request.toTenant := by
          simp only [ne_eq, not_or, not_not] at own
          rw [Tenant.mk.injEq]
          exact ⟨own.1.symm, own.2.1.symm, own.2.2.symm⟩
        refine .call_seq trivial (fun approvals _ => ?_) fun _ _ _ same => nomatch same
        -- The checks are opaque here, so that the elaborator does not evaluate them.
        generalize checks : coordinator.checkApprovals platform request approvals = outcome
        refine .ofExcept_seq (fun _ checked => ?_) fun _ _ _ same => nomatch same
        have clears : coordinator.Clears platform context request approvals :=
          ⟨tenant, checks.trans checked⟩
        refine .call_seq ⟨context, id, now, approvals, rfl, rfl, clears⟩ (fun signed _ => ?_)
          fun _ _ _ same => nomatch same
        split
        · exact fun _ same => nomatch same
        · refine ⟨⟨context, id, request, now, approvals, rfl, rfl, clears⟩, ?_⟩
          intro answer _ result same
          subst same
          exact ⟨context, id, rfl, .inr ⟨request, now, approvals, signed, rfl, clears⟩⟩

/-- What a command asks and returns, whatever it is answered. -/
theorem run_asks (coordinator : SigningCoordinator) (command : SigningCommand) :
    (coordinator.run platform command).Follows
      (transcriptProtocol (coordinator.asks platform command))
      (coordinator.returns platform command) [] := by
  cases command with
  | submit context input =>
      exact .seq (submit_asks context input) (fun _ _ _ => ⟨context, input, rfl⟩)
        fun _ _ _ => trivial
  | approve context requestId approverId decision =>
      exact .seq (approve_asks context requestId approverId decision)
        (fun _ _ _ => ⟨context, requestId, approverId, decision, rfl⟩) fun _ _ _ => trivial
  | execute context id =>
      exact .seq (execute_asks context id) (fun _ result executed => executed result rfl)
        fun _ _ _ => trivial

end SigningCoordinator

/-! ## Runs -/

section Runs

variable {platform : SigningPlatform} {coordinator : SigningCoordinator} {kind : SigningStoreKind}
  {Worker : Type} [DecidableEq Worker]
  {admits : View (signingServices platform kind coordinator.signer) Worker SigningCommand →
    Event signingInterface Worker SigningCommand → Prop}
  {config : Config (signingServices platform kind coordinator.signer) Worker SigningCommand
    SigningOutcome}

/-- The configurations of the runs of a coordinator from an empty store. -/
abbrev SigningCoordinator.Reachable (platform : SigningPlatform) (coordinator : SigningCoordinator)
    (kind : SigningStoreKind) {Worker : Type} [DecidableEq Worker]
    (admits : View (signingServices platform kind coordinator.signer) Worker SigningCommand →
      Event signingInterface Worker SigningCommand → Prop) :
    Config (signingServices platform kind coordinator.signer) Worker SigningCommand
      SigningOutcome → Prop :=
  Async.Reachable (coordinator.run platform) admits ⟨SigningStore.empty, []⟩

/-- What a command has read of the store is stored, and a signature names its request. -/
def SigningStore.BearsOut (store : SigningStore) : Exchange signingInterface → Prop
  | ⟨.get id, .ok (some request)⟩ => store.requests id = some request
  | ⟨.getResult id, .ok (some result)⟩ => store.results id = some result
  | ⟨.sign request, .ok result⟩ => result.requestId = request.id
  | ⟨.saveResult result, .ok saved⟩ => saved = result ∧
      store.results result.requestId = some result
  | _ => True

def SigningStore.Keyed (store : SigningStore) : Prop :=
  ∀ id request, store.requests id = some request → request.id = id

def SigningStore.ResultsNamed (store : SigningStore) : Prop :=
  ∀ id result, store.results id = some result →
    result.requestId = id ∧ ∃ request, store.requests id = some request

theorem SigningStore.BearsOut.of_replies {store next : SigningStore} {call : SigningCall}
    {answer : signingInterface.Answer call} (replies : store.Replies call answer next) :
    next.BearsOut ⟨call, answer⟩ := by
  cases replies with
  | found id => cases stored : store.requests id <;> simp only [BearsOut, stored]
  | replayed id => cases stored : store.results id <;> simp only [BearsOut, stored]
  | signed named => exact named
  | saved _ => exact ⟨rfl, Function.update_self ..⟩
  | refused error => cases call <;> trivial
  | _ => trivial

theorem SigningStore.BearsOut.stable {store next : SigningStore} {call : SigningCall}
    {answer : signingInterface.Answer call} (replies : store.Replies call answer next)
    {exchange : Exchange signingInterface} (bears : store.BearsOut exchange) :
    next.BearsOut exchange := by
  obtain ⟨call, answer⟩ := exchange
  cases answer with
  | error error => cases call <;> trivial
  | ok value =>
      cases call with
      | get id =>
          cases value with
          | none => trivial
          | some request => exact replies.requests bears
      | getResult id =>
          cases value with
          | none => trivial
          | some result => exact replies.results bears
      | sign request => exact bears
      | saveResult result => exact ⟨bears.1, replies.results bears.2⟩
      | _ => trivial

namespace SigningCoordinator.Reachable

/-- The store bears out every transcript. -/
theorem bearsOut (reached : coordinator.Reachable platform kind admits config) {worker : Worker}
    {command : SigningCommand} {exchanges : List (Exchange signingInterface)}
    (known : transcriptOf (coordinator.run platform) worker config.history =
      some (command, exchanges)) :
    ∀ exchange ∈ exchanges, config.state.BearsOut exchange :=
  Async.Reachable.exchanges_hold reached (fun _ => SigningStore.BearsOut) rfl
    (fun _ _ _ _ replied => .of_replies (SigningStore.replies_of_reply replied))
    (fun replied => .stable (SigningStore.replies_of_reply replied)) worker command exchanges known

/-- A call is issued only after a transcript that admits it. -/
theorem asks_of_allowed {call : SigningCall} {here : SigningCommand × List (Exchange _)}
    (allowed : (recording (coordinator.run platform)).allowed here call) :
    coordinator.asks platform here.1 here.2 call := by
  obtain ⟨resume, reaches⟩ := allowed
  exact (coordinator.run_asks here.1).admits_of_reaches reaches

/-- Requests are stored under their identifiers. -/
theorem keyed (reached : coordinator.Reachable platform kind admits config) :
    config.state.Keyed := by
  refine Async.Reachable.invariant reached (fun view => view.state.Keyed) rfl
    (fun _ _ stored => nomatch stored) ?_
  intro config event state _ step _ ih id request stored
  cases step with
  | answered _ _ _ replied =>
      cases SigningStore.replies_of_reply replied with
      | @created other _ =>
          by_cases same : id = other.id
          · subst same
            cases (Function.update_self ..).symm.trans stored
            rfl
          · exact ih id request ((Function.update_of_ne same ..).symm.trans stored)
      | _ => exact ih id request stored
  | _ => exact ih id request stored

/-- A stored result names a stored request. -/
theorem resultsNamed (reached : coordinator.Reachable platform kind admits config) :
    config.state.ResultsNamed := by
  refine Async.Reachable.invariant reached (fun view => view.state.ResultsNamed) rfl
    (fun _ _ stored => nomatch stored) ?_
  intro config event state before step _ ih id result stored
  cases step with
  | @answered worker call answer here choice state _ known allowed replied =>
      have replies := SigningStore.replies_of_reply replied
      have asked := asks_of_allowed allowed
      have keep (earlier : config.state.results id = some result) :
          result.requestId = id ∧ ∃ request, state.requests id = some request := by
        obtain ⟨named, request, present⟩ := ih id result earlier
        exact ⟨named, request, replies.requests present⟩
      cases replies with
      | @saved saved _ =>
          by_cases same : id = saved.requestId
          · subst same
            cases (Function.update_self ..).symm.trans stored
            obtain ⟨context, id, request, now, approvals, _, read, _⟩ := asked
            have bears := bearsOut before known
            rw [read] at bears
            have present : config.state.requests id = some request :=
              bears ⟨.get id, .ok (some request)⟩ (by simp [readings])
            have named : result.requestId = request.id :=
              bears ⟨.sign request, .ok result⟩ (by simp)
            refine ⟨rfl, request, ?_⟩
            rwa [named, keyed before id request present]
          · exact keep ((Function.update_of_ne same ..).symm.trans stored)
      | _ => exact keep stored
  | _ => exact ih id result stored

end SigningCoordinator.Reachable
end Runs

end InterWeave
