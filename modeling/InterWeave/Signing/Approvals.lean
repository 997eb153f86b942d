import InterWeave.Signing.Tenants
import Mathlib.Data.Fintype.Basic

/-! # Who stands behind a privileged signature

The approvals of a request count by the names they are given under, and a name is
whatever the caller says it is: nobody compares it with the caller, or the caller's
tenant with that of the request. The history keeps what the log forgets, the command
that made each approval. Where nobody approves a request twice or from outside its
tenant, as many principals as the policy requires stand behind every signature.
-/

namespace InterWeave

open Async

section Record

variable {Worker : Type} [DecidableEq Worker]

/-- The approvals that a history records, newest first, with the commands that made them. -/
def recorded : List (Event signingInterface Worker SigningCommand) →
    List (SigningCommand × SigningApproval)
  | [] => []
  | .answered worker (.addApproval approval) (.ok _) :: earlier =>
      match entryOf worker earlier with
      | some command => (command, approval) :: recorded earlier
      | none => recorded earlier
  | _ :: earlier => recorded earlier

/-- Whether a recorded approval approves a request. -/
def approvesRequest (id : JsString) (entry : SigningCommand × SigningApproval) : Bool :=
  entry.2.requestId == id && entry.2.decision == .approve

/-- An administrator of the request's own tenant approved exactly that request. -/
def ApprovedBy (platform : SigningPlatform)
    (history : List (Event signingInterface Worker SigningCommand)) (request : SigningRequest)
    (subjectId : JsString) : Prop :=
  ∃ context approval,
    (SigningCommand.approve context request.id approval.approverId .approve, approval) ∈
      recorded history ∧
    approval.requestId = request.id ∧ approval.decision = .approve ∧
    requestFingerprint platform.toPlatform request.json = .ok approval.requestDigest ∧
    context.subjectId = subjectId ∧ .policiesAdmin ∈ context.scopes ∧
    context.toTenant = request.toTenant

/-- As many administrators as the policy requires approved a request, and nobody
rejected it. -/
structure SigningCoordinator.Authorized (platform : SigningPlatform)
    (coordinator : SigningCoordinator)
    (history : List (Event signingInterface Worker SigningCommand))
    (request : SigningRequest) : Prop where
  approved : ∃ subjects : Finset JsString,
    coordinator.policy.requiredApprovals.le (.ofNat subjects.card) = true ∧
      ∀ subjectId ∈ subjects, ApprovedBy platform history request subjectId
  unrejected : ∀ entry ∈ recorded history, entry.2.requestId = request.id →
    entry.2.decision ≠ .reject

/-- An execution has read approvals that let it sign a request, and has not yet called the
signer. -/
def SigningCoordinator.AboutToSign (platform : SigningPlatform) (coordinator : SigningCoordinator)
    (history : List (Event signingInterface Worker SigningCommand)) (executor : Worker)
    (request : SigningRequest) : Prop :=
  match history.find? fun event => event.worker = executor with
  | some (.answered _ (.approvals id) (.ok approvals)) =>
      id = request.id ∧ coordinator.checkApprovals platform request approvals = .ok ()
  | _ => False

/-- The condition on a step: whoever approves a privileged request belongs to its tenant and
has not approved it yet, under whatever name; and nobody rejects a privileged request between
the moment an execution reads enough approvals and the moment it calls the signer. -/
def SigningCoordinator.Accountable (platform : SigningPlatform) (coordinator : SigningCoordinator)
    {kind : SigningStoreKind} {signer : Signer}
    (view : View (signingServices platform kind signer) Worker SigningCommand) :
    Event signingInterface Worker SigningCommand → Prop
  | .answered worker (.addApproval approval) (.ok _) =>
      match entryOf worker view.history, view.state.requests approval.requestId with
      | some command, some request =>
          request.purpose ∈ coordinator.policy.privilegedPurposes →
            match approval.decision with
            | .approve => command.context.toTenant = request.toTenant ∧
                ∀ other ∈ recorded view.history, approvesRequest approval.requestId other = true →
                  other.1.context.subjectId ≠ command.context.subjectId
            | .reject => ∀ executor,
                ¬ coordinator.AboutToSign platform view.history executor request
      | _, _ => True
  | _ => True

/-! ## The record -/

theorem recorded_answered {worker : Worker} {approval : SigningApproval} {value : Unit}
    {earlier : List (Event signingInterface Worker SigningCommand)} {command : SigningCommand}
    (runs : entryOf worker earlier = some command) :
    recorded (.answered worker (.addApproval approval) (.ok value) :: earlier) =
      (command, approval) :: recorded earlier := by
  simp only [recorded, runs]

/-- An event records one approval, or none. -/
theorem recorded_cons (event : Event signingInterface Worker SigningCommand)
    (earlier : List (Event signingInterface Worker SigningCommand)) :
    recorded (event :: earlier) = recorded earlier ∨
      ∃ worker approval command, event = .answered worker (.addApproval approval) (.ok ()) ∧
        entryOf worker earlier = some command ∧
        recorded (event :: earlier) = (command, approval) :: recorded earlier := by
  cases event with
  | answered worker call answer =>
      cases call with
      | addApproval approval =>
          cases answer with
          | error error => exact .inl rfl
          | ok value =>
              cases runs : entryOf worker earlier with
              | none => exact .inl (by simp only [recorded, runs])
              | some command =>
                  exact .inr ⟨worker, approval, command, rfl, runs, recorded_answered runs⟩
      | _ => exact .inl rfl
  | _ => exact .inl rfl

/-- What is recorded stays recorded. -/
theorem recorded_suffix (later earlier : List (Event signingInterface Worker SigningCommand)) :
    recorded earlier <:+ recorded (later ++ earlier) := by
  induction later with
  | nil => exact List.suffix_rfl
  | cons event later ih =>
      rw [List.cons_append]
      rcases recorded_cons event (later ++ earlier) with same | ⟨_, _, _, _, _, more⟩
      · rwa [same]
      · rw [more]
        exact ih.trans (List.suffix_cons ..)

/-- What is recorded was recorded earlier, or by a later event. -/
theorem mem_recorded_append {later earlier : List (Event signingInterface Worker SigningCommand)}
    {entry : SigningCommand × SigningApproval} (member : entry ∈ recorded (later ++ earlier)) :
    entry ∈ recorded earlier ∨ ∃ front back worker,
      later = front ++ .answered worker (.addApproval entry.2) (.ok ()) :: back ∧
        entryOf worker (back ++ earlier) = some entry.1 := by
  induction later with
  | nil => exact .inl member
  | cons event later ih =>
      have before : entry ∈ recorded (later ++ earlier) → entry ∈ recorded earlier ∨
          ∃ front back worker,
            event :: later = front ++ .answered worker (.addApproval entry.2) (.ok ()) :: back ∧
              entryOf worker (back ++ earlier) = some entry.1 := by
        intro old
        rcases ih old with first | ⟨front, back, worker, split, runs⟩
        · exact .inl first
        · exact .inr ⟨event :: front, back, worker, by rw [split, List.cons_append], runs⟩
      rw [List.cons_append] at member
      rcases recorded_cons event (later ++ earlier) with same | ⟨worker, approval, command, is⟩
      · exact before (same ▸ member)
      · obtain ⟨rfl, runs, more⟩ := is
        rw [more] at member
        rcases List.mem_cons.mp member with rfl | old
        · exact .inr ⟨[], later, worker, rfl, runs⟩
        · exact before old

end Record

/-- Approvals that pass are approvals of the request by enough approvers. -/
theorem SigningCoordinator.checkApprovals_ok {platform : SigningPlatform}
    {coordinator : SigningCoordinator} {request : SigningRequest}
    {approvals : List SigningApproval}
    (passes : coordinator.checkApprovals platform request approvals = .ok ()) :
    (∀ approval ∈ approvals, approval.decision = .approve) ∧
      (JsNumber.ofNat (approvers approvals).card).lt (coordinator.policy.required request) =
        false := by
  rw [checkApprovals] at passes
  cases digested : requestFingerprint platform.toPlatform request.json with
  | error error => rw [digested] at passes; cases passes
  | ok digest =>
      rw [digested] at passes
      change (if _ then _ else _) = _ at passes
      split at passes
      · cases passes
      · rename_i valid
        split at passes
        · cases passes
        · rename_i enough
          refine ⟨fun approval member => ?_, by simpa using enough⟩
          simp only [List.any_eq_true, not_exists, not_and, Bool.or_eq_true, not_or,
            decide_eq_true_eq] at valid
          have decided := (valid approval member).2
          cases decision : approval.decision with
          | approve => rfl
          | reject => exact absurd decision decided

theorem card_approvers_le (approvals : List SigningApproval) :
    (approvers approvals).card ≤
      (approvals.filter fun approval => approval.decision == .approve).length := by
  refine (List.toFinset_card_le _).trans ?_
  rw [List.length_map]
  rfl

/-! ## Runs -/

section Runs

variable {platform : SigningPlatform} {coordinator : SigningCoordinator} {kind : SigningStoreKind}
  {Worker : Type} [DecidableEq Worker]
  {admits : View (signingServices platform kind coordinator.signer) Worker SigningCommand →
    Event signingInterface Worker SigningCommand → Prop}
  {config : Config (signingServices platform kind coordinator.signer) Worker SigningCommand
    SigningOutcome}

/-- What a recorded approval rests on. -/
def SigningStore.Justifies (platform : SigningPlatform) (store : SigningStore)
    (entry : SigningCommand × SigningApproval) : Prop :=
  ∃ context request,
    entry.1 = .approve context entry.2.requestId entry.2.approverId entry.2.decision ∧
    .policiesAdmin ∈ context.scopes ∧ store.requests entry.2.requestId = some request ∧
    requestFingerprint platform.toPlatform request.json = .ok entry.2.requestDigest

theorem SigningStore.Justifies.stable {store next : SigningStore} {call : SigningCall}
    {answer : signingInterface.Answer call} (replies : store.Replies call answer next)
    {entry : SigningCommand × SigningApproval} (justifies : store.Justifies platform entry) :
    next.Justifies platform entry := by
  obtain ⟨context, request, command, admin, stored, digest⟩ := justifies
  exact ⟨context, request, command, admin, replies.requests stored, digest⟩

theorem SigningStore.Replies.of_approvals {store next : SigningStore} {id : JsString}
    {approvals : List SigningApproval}
    (replies : store.Replies (.approvals id) (.ok approvals) next) :
    approvals.Perm (store.approvalLog.filter fun approval => approval.requestId == id) := by
  generalize same : (Except.ok approvals : Except Thrown _) = answer at replies
  cases replies with
  | listed perm => exact (Except.ok.inj same) ▸ perm
  | refused error => cases same

namespace SigningCoordinator.Reachable

/-- The log holds the recorded approvals. -/
theorem log_recorded (reached : coordinator.Reachable platform kind admits config) :
    config.state.approvalLog.Perm ((recorded config.history).map Prod.snd) := by
  refine Async.Reachable.invariant reached
    (fun view => view.state.approvalLog.Perm ((recorded view.history).map Prod.snd)) rfl (.refl _)
    ?_
  intro config event state _ step _ ih
  cases step with
  | @answered worker call answer here choice state _ known _ replied =>
      cases SigningStore.replies_of_reply replied with
      | @approved approval =>
          rw [Protocol.after_history, recorded_answered (entryOf_of_transcriptOf known)]
          exact (List.perm_append_singleton approval _).trans (ih.cons approval)
      | refused error => cases call <;> exact ih
      | _ => exact ih
  | _ => exact ih

/-- Every recorded approval is an administrator's, of a stored request. -/
theorem justified (reached : coordinator.Reachable platform kind admits config) :
    ∀ entry ∈ recorded config.history, config.state.Justifies platform entry := by
  refine Async.Reachable.invariant reached
    (fun view => ∀ entry ∈ recorded view.history, view.state.Justifies platform entry) rfl
    (fun _ member => nomatch member) ?_
  intro config event state before step _ ih
  cases step with
  | @answered worker call answer here choice state _ known allowed replied =>
      have replies := SigningStore.replies_of_reply replied
      have asked := asks_of_allowed allowed
      have kept := fun entry member => (ih entry member).stable replies
      cases replies with
      | @approved approval =>
          rw [Protocol.after_history, recorded_answered (entryOf_of_transcriptOf known)]
          obtain ⟨context, requestId, approverId, decision, request, now, digest, command, read,
            admin, digested, rfl⟩ := asked
          have present : config.state.requests requestId = some request :=
            bearsOut before known ⟨.get requestId, .ok (some request)⟩ (by rw [read]; simp)
          rw [List.forall_mem_cons]
          exact ⟨⟨context, request, command, admin, present, digested⟩, kept⟩
      | refused error => cases call <;> exact kept
      | _ => exact kept
  | _ => exact ih

/-- An execution reads the approvals of its request that are recorded when it reads them. -/
theorem approvals_recorded (reached : coordinator.Reachable platform kind admits config)
    {later earlier : List (Event signingInterface Worker SigningCommand)} {worker : Worker}
    {id : JsString} {approvals : List SigningApproval}
    (split : config.history =
      later ++ .answered worker (.approvals id) (.ok approvals) :: earlier) :
    approvals.Perm (((recorded earlier).map Prod.snd).filter
      fun approval => approval.requestId == id) := by
  refine Async.Reachable.forall_events reached (fun before event =>
    ∀ worker id approvals, event = .answered worker (.approvals id) (.ok approvals) →
      approvals.Perm (((recorded before).map Prod.snd).filter
        fun approval => approval.requestId == id)) rfl ?_ split worker id approvals rfl
  intro config event state before step _ worker id approvals same
  subst same
  cases step with
  | answered _ _ _ replied =>
      have replies := SigningStore.replies_of_reply replied
      exact replies.of_approvals.trans ((log_recorded before).filter _)

/-- In an accountable run, the approvals of a privileged request are given by distinct
principals of its tenant. -/
theorem distinct_subjects (reached : coordinator.Reachable platform kind
      (coordinator.Accountable platform) config) {id : JsString} {request : SigningRequest}
    (stored : config.state.requests id = some request)
    (privileged : request.purpose ∈ coordinator.policy.privilegedPurposes) :
    (∀ entry ∈ (recorded config.history).filter (approvesRequest id),
      entry.1.context.toTenant = request.toTenant) ∧
    (((recorded config.history).filter (approvesRequest id)).map
      fun entry => entry.1.context.subjectId).Nodup := by
  refine Async.Reachable.invariant reached (fun view => ∀ id request,
    view.state.requests id = some request →
    request.purpose ∈ coordinator.policy.privilegedPurposes →
    (∀ entry ∈ (recorded view.history).filter (approvesRequest id),
      entry.1.context.toTenant = request.toTenant) ∧
    (((recorded view.history).filter (approvesRequest id)).map
      fun entry => entry.1.context.subjectId).Nodup) rfl (fun _ _ stored => nomatch stored) ?_
    id request stored privileged
  intro config event state before step admitted ih id request stored privileged
  cases step with
  | @answered worker call answer here choice state _ known allowed replied =>
      have replies := SigningStore.replies_of_reply replied
      cases replies with
      | @created other absent =>
          by_cases same : id = other.id
          · subst same
            have none_ : (recorded config.history).filter (approvesRequest other.id) = [] := by
              rw [List.filter_eq_nil_iff]
              intro entry member approves
              obtain ⟨_, request, _, _, present, _⟩ := justified before entry member
              simp only [approvesRequest, Bool.and_eq_true, beq_iff_eq] at approves
              rw [approves.1, absent] at present
              cases present
            change (∀ entry ∈ (recorded config.history).filter _, _) ∧
              (((recorded config.history).filter _).map _).Nodup
            rw [none_]
            exact ⟨fun _ member => (by cases member), List.nodup_nil⟩
          · exact ih id request ((Function.update_of_ne same ..).symm.trans stored) privileged
      | @approved approval =>
          obtain ⟨tenants, subjects⟩ := ih id request stored privileged
          have runs := entryOf_of_transcriptOf known
          rw [Protocol.after_history, recorded_answered runs]
          by_cases approves : approvesRequest id (here.1, approval) = true
          · rw [List.filter_cons_of_pos approves, List.forall_mem_cons, List.map_cons,
              List.nodup_cons]
            have named := approves
            simp only [approvesRequest, Bool.and_eq_true, beq_iff_eq] at named
            obtain ⟨rfl, decision⟩ := named
            have stored : config.state.requests approval.requestId = some request := stored
            simp only [Accountable, runs, stored, decision] at admitted
            obtain ⟨tenant, fresh⟩ := admitted privileged
            refine ⟨⟨tenant, tenants⟩, ?_, subjects⟩
            intro member
            obtain ⟨other, listed, same⟩ := List.mem_map.mp member
            obtain ⟨recorded, approved⟩ := List.mem_filter.mp listed
            exact fresh other recorded approved same
          · rw [List.filter_cons_of_neg approves]
            exact ⟨tenants, subjects⟩
      | refused error => cases call <;> exact ih id request stored privileged
      | _ => exact ih id request stored privileged
  | _ => exact ih id request stored privileged

/-- What has happened when the signer is asked: the worker's last step was to read approvals
that let it sign a stored request of its own tenant. -/
theorem asked_to_sign (reached : coordinator.Reachable platform kind admits config)
    {move : Move (signingServices platform kind coordinator.signer) Worker SigningCommand
      SigningOutcome}
    (moves : config.Moves (coordinator.run platform) move) {worker : Worker}
    {request : SigningRequest} (signs : move.event = .issued worker (.sign request)) :
    ∃ command now approvals later earlier,
      config.state.requests request.id = some request ∧
      coordinator.checkApprovals platform request approvals = .ok () ∧
      transcriptOf (coordinator.run platform) worker config.history =
        some (command, readings request.id request now approvals) ∧
      config.history =
        later ++ .answered worker (.approvals request.id) (.ok approvals) :: earlier ∧
      ∀ event ∈ later, event.worker ≠ worker := by
  cases moves with
  | start _ => cases signs
  | answer _ _ => cases signs
  | crash _ => cases signs
  | @issue issuer call resume status =>
      cases signs
      have tracks := Async.Reachable.tracks rfl reached worker
      rw [status] at tracks
      obtain ⟨⟨command, exchanges⟩, known, reaches⟩ := tracks
      obtain ⟨context, id, now, approvals, rfl, rfl, clears⟩ :=
        (coordinator.run_asks command).admits_of_reaches reaches
      have present : config.state.requests id = some request :=
        bearsOut reached known ⟨.get id, .ok (some request)⟩ (by simp [readings])
      obtain rfl := keyed reached id request present
      have last : readings request.id request now approvals =
          [⟨.getResult request.id, .ok none⟩, ⟨.get request.id, .ok (some request)⟩,
            ⟨.now, .ok now⟩] ++ [⟨.approvals request.id, .ok approvals⟩] := rfl
      obtain ⟨later, earlier, split, others, _⟩ :=
        Async.Reachable.last_exchange reached status (last ▸ known)
      exact ⟨_, now, approvals, later, earlier, present, clears.approvals, known, split, others⟩

/-- In an accountable run, nobody rejects a privileged request that is about to be signed. -/
theorem not_rejected (reached : coordinator.Reachable platform kind
      (coordinator.Accountable platform) config)
    {later earlier : List (Event signingInterface Worker SigningCommand)} {rejecter : Worker}
    {approval : SigningApproval}
    (split : config.history = later ++ .answered rejecter (.addApproval approval) (.ok ()) ::
      earlier) {executor : Worker} {command : SigningCommand} {request : SigningRequest}
    {now : Int} {approvals : List SigningApproval}
    (known : transcriptOf (coordinator.run platform) executor earlier =
      some (command, readings request.id request now approvals))
    (names : approval.requestId = request.id)
    (privileged : request.purpose ∈ coordinator.policy.privilegedPurposes)
    (about : coordinator.AboutToSign platform earlier executor request) :
    approval.decision ≠ .reject := by
  refine Async.Reachable.forall_events reached (fun before event => ∀ rejecter approval,
    event = .answered rejecter (.addApproval approval) (.ok ()) → ∀ command,
    transcriptOf (coordinator.run platform) executor before =
      some (command, readings request.id request now approvals) →
    approval.requestId = request.id → coordinator.AboutToSign platform before executor request →
    approval.decision ≠ .reject) rfl ?_ split rejecter approval rfl command known names about
  intro config event state before step admitted rejecter approval same command known names about
    rejects
  subst same
  have present : config.state.requests request.id = some request :=
    bearsOut before known ⟨.get request.id, .ok (some request)⟩ (by simp [readings])
  cases step with
  | answered _ runs _ _ =>
      rw [← names] at present
      simp only [Accountable, entryOf_of_transcriptOf runs, present, rejects] at admitted
      exact admitted privileged executor about

end SigningCoordinator.Reachable

/-- A worker whose last step was to read approvals that pass is about to sign. -/
theorem SigningCoordinator.AboutToSign.of_read {worker : Worker} {request : SigningRequest}
    {approvals : List SigningApproval}
    {later earlier : List (Event signingInterface Worker SigningCommand)}
    (others : ∀ event ∈ later, event.worker ≠ worker)
    (passes : coordinator.checkApprovals platform request approvals = .ok ()) :
    coordinator.AboutToSign platform
      (later ++ .answered worker (.approvals request.id) (.ok approvals) :: earlier) worker
      request := by
  have last : (later ++ .answered worker (.approvals request.id) (.ok approvals) ::
      earlier).find? (fun event => event.worker = worker) =
        some (.answered worker (.approvals request.id) (.ok approvals)) := by
    rw [List.find?_append, List.find?_eq_none.mpr (fun event member => by
      simpa using others event member), Option.none_or, List.find?_cons_of_pos]
    exact decide_eq_true rfl
  rw [AboutToSign, last]
  exact ⟨rfl, passes⟩

theorem length_approvals {approvals : List SigningApproval} {id : JsString}
    {entries : List (SigningCommand × SigningApproval)}
    (listed : approvals.Perm ((entries.map Prod.snd).filter
      fun approval => approval.requestId == id)) :
    (approvals.filter fun approval => approval.decision == .approve).length =
      (entries.filter (approvesRequest id)).length := by
  rw [(listed.filter _).length_eq, List.filter_filter, List.filter_map, List.length_map]
  congr 1
  refine List.filter_congr fun entry _ => ?_
  exact Bool.and_comm ..

/-- In an accountable run, as many principals approved a request as names were read. -/
theorem SigningCoordinator.Reachable.approved (reached : coordinator.Reachable platform kind
      (coordinator.Accountable platform) config)
    {request : SigningRequest} (stored : config.state.requests request.id = some request)
    (privileged : request.purpose ∈ coordinator.policy.privilegedPurposes)
    {later earlier : List (Event signingInterface Worker SigningCommand)}
    {approvals : List SigningApproval} (split : config.history = later ++ earlier)
    (listed : approvals.Perm (((recorded earlier).map Prod.snd).filter
      fun approval => approval.requestId == request.id)) :
    ∃ subjects : Finset JsString, (approvers approvals).card ≤ subjects.card ∧
      ∀ subjectId ∈ subjects, ApprovedBy platform config.history request subjectId := by
  obtain ⟨tenants, distinct⟩ := reached.distinct_subjects stored privileged
  refine ⟨(((recorded config.history).filter (approvesRequest request.id)).map
    fun entry => entry.1.context.subjectId).toFinset, ?_, fun subjectId member => ?_⟩
  · have grown : recorded earlier <:+ recorded config.history :=
      split ▸ recorded_suffix later earlier
    calc (approvers approvals).card
        ≤ (approvals.filter fun approval => approval.decision == .approve).length :=
          card_approvers_le approvals
      _ = ((recorded earlier).filter (approvesRequest request.id)).length :=
          length_approvals listed
      _ ≤ ((recorded config.history).filter (approvesRequest request.id)).length :=
          (grown.sublist.filter _).length_le
      _ = _ := by rw [List.toFinset_card_of_nodup distinct, List.length_map]
  · obtain ⟨entry, among, same⟩ := List.mem_map.mp (List.mem_toFinset.mp member)
    have tenant := tenants entry among
    obtain ⟨known, approves⟩ := List.mem_filter.mp among
    obtain ⟨context, other, command, admin, present, digest⟩ := reached.justified entry known
    obtain ⟨command', approval⟩ := entry
    simp only [approvesRequest, Bool.and_eq_true, beq_iff_eq] at approves
    obtain ⟨names, decision⟩ := approves
    simp only at command
    subst command
    rw [names] at present known
    cases present.symm.trans stored
    rw [decision] at known
    exact ⟨context, approval, known, names, decision, digest, same, admin, tenant⟩

/-- **Who stands behind a privileged signature.** In a run in which every principal that approves
a privileged request belongs to its tenant and approves it once, and nobody rejects one after an
execution has read its approvals, the signer is asked for a privileged request only if as many
principals of its tenant as the policy requires, each with the scope `policies:admin`, have
approved exactly that request, and nobody has rejected it. -/
theorem SigningCoordinator.sign_authorized
    (number : coordinator.policy.requiredApprovals ≠ .nan)
    (reached : coordinator.Reachable platform kind (coordinator.Accountable platform) config)
    {later earlier : List (Event signingInterface Worker SigningCommand)} {worker : Worker}
    {request : SigningRequest}
    (split : config.history = later ++ .issued worker (.sign request) :: earlier)
    (privileged : request.purpose ∈ coordinator.policy.privilegedPurposes) :
    coordinator.Authorized platform earlier request := by
  refine Async.Reachable.forall_moves reached (fun before event => ∀ worker request,
    event = .issued worker (.sign request) →
    request.purpose ∈ coordinator.policy.privilegedPurposes →
    coordinator.Authorized platform before request) rfl ?_ split worker request rfl privileged
  intro config action move before moved _ worker request signs privileged
  obtain ⟨command, now, approvals, later, earlier, stored, passes, known, read, others⟩ :=
    Reachable.asked_to_sign before (Config.moves_of_move moved) signs
  have listed := Reachable.approvals_recorded before read
  obtain ⟨approving, enough⟩ := checkApprovals_ok passes
  refine ⟨?_, fun entry member names rejects => ?_⟩
  · have split : config.history =
        (later ++ [.answered worker (.approvals request.id) (.ok approvals)]) ++ earlier := by
      rw [read, List.append_assoc, List.singleton_append]
    obtain ⟨subjects, counted, approved⟩ := Reachable.approved before stored privileged split listed
    have required : coordinator.policy.required request =
        coordinator.policy.requiredApprovals := by
      simp only [SigningPolicy.required, List.contains_iff_mem, privileged, ↓reduceIte]
    rw [required] at enough
    exact ⟨subjects, JsNumber.le_ofNat_mono (JsNumber.le_of_not_lt number enough) counted,
      approved⟩
  · rw [read] at member known
    rcases mem_recorded_append member with old | ⟨front, back, rejecter, split, runs⟩
    · have among : entry.2 ∈ approvals := listed.mem_iff.mpr (List.mem_filter.mpr
        ⟨List.mem_map_of_mem old, by rw [names, beq_self_eq_true]⟩)
      rw [approving entry.2 among] at rejects
      cases rejects
    · have later_ : ∀ event ∈ back, event.worker ≠ worker := fun event member =>
        others event (by rw [split]; exact List.mem_append_right _ (List.mem_cons_of_mem _ member))
      rw [transcriptOf_append_of_ne others] at known
      have rejected : config.history = front ++ .answered rejecter (.addApproval entry.2) (.ok ()) ::
          (back ++ .answered worker (.approvals request.id) (.ok approvals) :: earlier) := by
        rw [read, split, List.append_assoc, List.cons_append]
      exact Reachable.not_rejected before rejected
        ((transcriptOf_append_of_ne later_).trans known) names privileged
        (AboutToSign.of_read later_ passes) rejects

end Runs

/-! ## One administrator and two -/

instance {Worker : Type} [DecidableEq Worker] (platform : SigningPlatform)
    (coordinator : SigningCoordinator)
    (history : List (Event signingInterface Worker SigningCommand)) (executor : Worker)
    (request : SigningRequest) :
    Decidable (coordinator.AboutToSign platform history executor request) := by
  unfold SigningCoordinator.AboutToSign
  split <;> infer_instance

instance {Worker : Type} [DecidableEq Worker] [Fintype Worker] (platform : SigningPlatform)
    (coordinator : SigningCoordinator) {kind : SigningStoreKind} {signer : Signer}
    (view : View (signingServices platform kind signer) Worker SigningCommand)
    (event : Event signingInterface Worker SigningCommand) :
    Decidable (coordinator.Accountable platform view event) := by
  unfold SigningCoordinator.Accountable
  split
  · split
    · split <;> infer_instance
    · infer_instance
  · infer_instance

namespace TwoTenants

def bob : TenantContext := { alice with subjectId := js "bob" }

/-- A privileged request of Alice's tenant is approved twice, and executed up to the signer. -/
def signedFor {kind : SigningStoreKind} (first second : TenantContext) : Schedule kind :=
  serve (.submit alice (input .validatorRotation)) [now, .stored] ++
    serve (.approve first (js "IW:SIGNING_REQUEST:1") (js "first") .approve)
      [.stored, now, .stored] ++
    serve (.approve second (js "IW:SIGNING_REQUEST:1") (js "second") .approve)
      [.stored, now, .stored] ++
    serve (.execute alice (js "IW:SIGNING_REQUEST:1")) [.stored, .stored, now, .stored] ++
    [.issue ()]

/-- A privileged request of Alice's tenant that the signer is asked for last, with the history
before. -/
def asked {kind : SigningStoreKind} (config : Desk kind) :
    Option (SigningRequest × List (Event signingInterface Unit SigningCommand)) :=
  match config.history with
  | .issued _ (.sign request) :: earlier =>
      if request.toTenant = alice.toTenant ∧
          request.purpose ∈ coordinator.policy.privilegedPurposes then some (request, earlier)
      else none
  | _ => none

theorem history_of_asked {kind : SigningStoreKind} {config : Desk kind} {request : SigningRequest}
    {earlier : List (Event signingInterface Unit SigningCommand)}
    (last : asked config = some (request, earlier)) :
    config.history = .issued () (.sign request) :: earlier ∧
      request.toTenant = alice.toTenant ∧
      request.purpose ∈ coordinator.policy.privilegedPurposes := by
  rw [asked] at last
  split at last
  · rename_i worker other before same
    split at last
    · rename_i privileged
      cases last
      exact ⟨same, privileged⟩
    · cases last
  · cases last

/-- One administrator of another tenant, under two names, meets the requirement alone. -/
theorem lone_administrator_signs : ∃ config : Desk .inMemory,
    coordinator.Reachable platform .inMemory (fun _ _ => True) config ∧
      ∃ request earlier, config.history = .issued () (.sign request) :: earlier ∧
        request.purpose ∈ coordinator.policy.privilegedPurposes ∧
        (∀ entry ∈ recorded earlier, entry.1.context = mallory) ∧
        ¬ coordinator.Authorized platform earlier request := by
  obtain ⟨config, reached, checked⟩ := Async.Reachable.exists_of_run (coordinator.run platform)
    (fun _ _ => True) ⟨SigningStore.empty, []⟩ (signedFor mallory mallory)
    (fun config : Desk .inMemory => (asked config).any fun last =>
      (recorded last.2).all fun entry => decide (entry.1.context = mallory)) (by decide +kernel)
  obtain ⟨⟨request, earlier⟩, last, alone⟩ := (Option.any_eq_true ..).mp checked
  obtain ⟨split, own, privileged⟩ := history_of_asked last
  simp only [List.all_eq_true, decide_eq_true_eq] at alone
  refine ⟨config, reached, request, earlier, split, privileged, alone, fun authorized => ?_⟩
  obtain ⟨subjects, enough, approved⟩ := authorized.approved
  have two : 2 ≤ subjects.card := by simpa [coordinator] using enough
  obtain ⟨subjectId, member⟩ := Finset.card_pos.mp (by omega : 0 < subjects.card)
  obtain ⟨context, approval, recorded, _, _, _, _, _, tenant⟩ := approved subjectId member
  have same : context = mallory := alone _ recorded
  rw [same, own] at tenant
  exact absurd tenant (by decide)

theorem two_administrators_sign : ∃ config : Desk .inMemory,
    coordinator.Reachable platform .inMemory (coordinator.Accountable platform) config ∧
      ∃ request earlier, config.history = .issued () (.sign request) :: earlier ∧
        coordinator.Authorized platform earlier request := by
  obtain ⟨config, reached, checked⟩ := Async.Reachable.exists_of_run (coordinator.run platform)
    (coordinator.Accountable platform) ⟨SigningStore.empty, []⟩ (signedFor alice bob)
    (fun config : Desk .inMemory => (asked config).isSome) (by decide +kernel)
  obtain ⟨⟨request, earlier⟩, last⟩ := Option.isSome_iff_exists.mp checked
  obtain ⟨split, _, privileged⟩ := history_of_asked last
  have last : config.history = [] ++ .issued () (.sign request) :: earlier := split
  exact ⟨config, reached, request, earlier, split,
    SigningCoordinator.sign_authorized (by decide) reached last privileged⟩

end TwoTenants

end InterWeave
