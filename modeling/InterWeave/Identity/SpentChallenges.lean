import InterWeave.Identity.ActiveBindings

/-! # Challenges that are spent

A verification checks that its challenge is unspent before it awaits the verifier, and does not
check it again. What holds back a second binding for the challenge is the first one, as long as it
is active.
-/

namespace InterWeave

namespace InMemoryIdentityRegistry

/-- `challenge.consumedAt` is set. -/
def isSpent (registry : InMemoryIdentityRegistry) (challengeId : JsString) : Bool :=
  (registry.challenges.lookup challengeId).any fun challenge => challenge.consumedAt.isSome

/-- The bindings that a challenge has produced, by the audit. -/
def produced (registry : InMemoryIdentityRegistry) (challengeId : JsString) : Nat :=
  registry.audit.countP fun event =>
    event.action = .bindingVerified && event.challengeId = some challengeId

variable {registry : InMemoryIdentityRegistry} {challengeId : JsString}

/-- An identity that is known stays known. -/
theorem known_setIdentity {id : JsString} (identity : Identity)
    (known : registry.identities.lookup id ≠ none) :
    (registry.setIdentity identity).identities.lookup id ≠ none := by
  intro absent
  exact known (AList.lookup_insert_eq_none.mp absent).2

theorem lookup_setChallenge (id : JsString) (challenge : IdentityChallenge) :
    (registry.setChallenge id challenge).challenges.lookup challengeId =
      if challengeId = id then some challenge else registry.challenges.lookup challengeId := by
  unfold setChallenge
  by_cases same : challengeId = id
  · rw [same, AList.lookup_insert, if_pos rfl]
  · rw [AList.lookup_insert_ne same, if_neg same]

theorem isSpent_setChallenge (id : JsString) (challenge : IdentityChallenge) :
    (registry.setChallenge id challenge).isSpent challengeId =
      if challengeId = id then challenge.consumedAt.isSome else registry.isSpent challengeId := by
  unfold isSpent
  rw [lookup_setChallenge]
  split <;> rfl

theorem produced_record (event : IdentityBindingAuditEvent) :
    (registry.record event).produced challengeId = registry.produced challengeId +
      if event.action = .bindingVerified ∧ event.challengeId = some challengeId then 1 else 0 := by
  unfold produced record
  rw [List.countP_cons]
  simp

end InMemoryIdentityRegistry

/-! ## What every run keeps -/

/-- The identities of challenges are known, and a spent challenge has produced a binding. -/
structure ChallengeInvariant (process : IdentityProcess) : Prop where
  asked : ∀ issue ∈ process.issuing,
    process.registry.identities.lookup issue.1.identityId ≠ none
  owned : ∀ id challenge, process.registry.challenges.lookup id = some challenge →
    process.registry.identities.lookup challenge.identityId ≠ none
  known : ∀ verification ∈ process.verifying,
    process.registry.identities.lookup verification.challenge.identityId ≠ none
  spent : ∀ id, process.registry.isSpent id = true → 1 ≤ process.registry.produced id

theorem ChallengeInvariant.initial (now : Int) : ChallengeInvariant (.initial now) where
  asked issue member := by cases member
  owned id challenge found := by
    have absent : AList.lookup id (∅ : AList fun _ : JsString => IdentityChallenge) = none :=
      AList.lookup_empty id
    cases absent.symm.trans found
  known verification member := by cases member
  spent id spent := by
    have absent : AList.lookup id (∅ : AList fun _ : JsString => IdentityChallenge) = none :=
      AList.lookup_empty id
    unfold InMemoryIdentityRegistry.isSpent at spent
    rw [show (IdentityProcess.initial now).registry.challenges.lookup id = none from absent] at spent
    cases spent

variable {dependencies : IdentityRegistryDependencies} {process next : IdentityProcess}
  {call : IdentityCall}

theorem InMemoryIdentityRegistry.produced_le_record {registry other : InMemoryIdentityRegistry}
    (same : other.audit = registry.audit) (event : IdentityBindingAuditEvent) (id : JsString) :
    registry.produced id ≤ (other.record event).produced id := by
  rw [produced_record, produced, produced, same]
  exact Nat.le_add_right _ _

/-- Audits grow. -/
theorem IdentityStep.produced_le (step : IdentityStep dependencies process call next)
    (id : JsString) : process.registry.produced id ≤ next.registry.produced id := by
  cases step with
  | unchanged _ => exact Nat.le_refl _
  | clock => exact Nat.le_refl _
  | asked _ => exact Nat.le_refl _
  | refused => exact Nat.le_refl _
  | opened _ _ _ => exact Nat.le_refl _
  | rejected _ _ => exact Nat.le_refl _
  | created _ _ _ => exact InMemoryIdentityRegistry.produced_le_record rfl _ id
  | issued _ _ _ _ => exact InMemoryIdentityRegistry.produced_le_record rfl _ id
  | bound _ _ _ _ _ => exact InMemoryIdentityRegistry.produced_le_record rfl _ id
  | revoked _ _ _ => exact InMemoryIdentityRegistry.produced_le_record rfl _ id

theorem produced_le_run (run : List IdentityCall) (id : JsString) :
    process.registry.produced id ≤
      ((identityRegistry dependencies).run run process).registry.produced id := by
  induction run generalizing process with
  | nil => exact Nat.le_refl _
  | cons call rest ih => exact Nat.le_trans ((identityStep call process).produced_le id) ih

/-- What every run keeps, after a change that spends no challenge. -/
theorem ChallengeInvariant.kept (valid : ChallengeInvariant process)
    {registry : InMemoryIdentityRegistry}
    (identities : ∀ id, process.registry.identities.lookup id ≠ none →
      registry.identities.lookup id ≠ none)
    (challenges : registry.challenges = process.registry.challenges)
    (grown : ∀ id, process.registry.produced id ≤ registry.produced id) :
    ChallengeInvariant { process with registry } where
  asked issue member := identities _ (valid.asked issue member)
  owned id challenge found := identities _ (valid.owned id challenge (challenges ▸ found))
  known verification member := identities _ (valid.known verification member)
  spent id spent := by
    have before : process.registry.isSpent id = true := by
      unfold InMemoryIdentityRegistry.isSpent at spent ⊢
      rw [← challenges]
      exact spent
    exact Nat.le_trans (valid.spent id before) (grown id)

theorem ChallengeInvariant.step (valid : ChallengeInvariant process)
    (step : IdentityStep dependencies process call next) : ChallengeInvariant next := by
  have grown := step.produced_le
  cases step with
  | unchanged _ => exact valid
  | clock => exact ⟨valid.asked, valid.owned, valid.known, valid.spent⟩
  | created absent empty action =>
      exact valid.kept (fun id => InMemoryIdentityRegistry.known_setIdentity _) rfl grown
  | revoked found ended action =>
      exact valid.kept (fun id => InMemoryIdentityRegistry.known_setIdentity _) rfl grown
  | @asked input actor known =>
      refine ⟨fun issue member => ?_, valid.owned, valid.known, valid.spent⟩
      rcases List.mem_append.mp member with earlier | new
      · exact valid.asked issue earlier
      · rw [List.mem_singleton.mp new]
        exact known
  | refused =>
      exact ⟨fun issue member => valid.asked issue (List.mem_of_mem_eraseIdx member), valid.owned,
        valid.known, valid.spent⟩
  | @issued index answer randomId input actor challenge event waiting identity unspent action =>
      refine ⟨fun issue member => valid.asked issue (List.mem_of_mem_eraseIdx member),
        fun id other found => ?_, valid.known, fun id spent => ?_⟩
      · have stored : ((process.registry.setChallenge
          (js "IW:IDENTITY_CHALLENGE:" ++ randomId 0) challenge)).challenges.lookup id =
            some other := found
        rw [InMemoryIdentityRegistry.lookup_setChallenge] at stored
        split at stored
        · cases stored
          rw [identity]
          exact valid.asked _ (List.mem_of_getElem? waiting)
        · exact valid.owned id other stored
      · have before : ((process.registry.setChallenge
          (js "IW:IDENTITY_CHALLENGE:" ++ randomId 0) challenge)).isSpent id = true := spent
        rw [InMemoryIdentityRegistry.isSpent_setChallenge, unspent] at before
        split at before
        · cases before
        · exact Nat.le_trans (valid.spent id before) (grown id)
  | opened verification found read =>
      refine ⟨valid.asked, valid.owned, fun other member => ?_, valid.spent⟩
      rcases List.mem_append.mp member with earlier | new
      · exact valid.known other earlier
      · rw [List.mem_singleton.mp new]
        exact valid.owned _ _ found
  | rejected _ _ =>
      exact ⟨valid.asked, valid.owned,
        fun other member => valid.known other (List.mem_of_mem_eraseIdx member), valid.spent⟩
  | @bound index verified randomId verification identity occurredAt event waiting found unbound
      action names =>
      have known : ∀ id, process.registry.identities.lookup id ≠ none →
          (process.registry.setIdentity { identity with bindings := identity.bindings ++
            [verification.binding dependencies.platform (randomId 0) verified] }).identities.lookup
              id ≠ none :=
        fun id => InMemoryIdentityRegistry.known_setIdentity _
      have present : process.registry.identities.lookup verification.challenge.identityId ≠ none := by
        rw [found]
        exact Option.some_ne_none identity
      refine ⟨fun issue member => known _ (valid.asked issue member),
        fun id other stored => known _ ?_,
        fun other member => known _ (valid.known other (List.mem_of_mem_eraseIdx member)),
        fun id spent => ?_⟩
      · change (InMemoryIdentityRegistry.setChallenge _ verification.challengeId
          { verification.challenge with consumedAt := some occurredAt }).challenges.lookup id =
            some other at stored
        rw [InMemoryIdentityRegistry.lookup_setChallenge] at stored
        split at stored
        · cases stored
          exact present
        · exact valid.owned id other stored
      · by_cases same : id = verification.challengeId
        · rw [same, InMemoryIdentityRegistry.produced_record, if_pos ⟨action, names⟩]
          exact Nat.le_add_left _ _
        · change (InMemoryIdentityRegistry.setChallenge _ verification.challengeId
            { verification.challenge with consumedAt := some occurredAt }).isSpent id = true at spent
          rw [InMemoryIdentityRegistry.isSpent_setChallenge, if_neg same] at spent
          exact Nat.le_trans (valid.spent id spent) (grown id)

/-! ## What holds a second binding back -/

/-- An answer that verifies a proof for a spent challenge finds a binding that was active when the
verification began. -/
def HeldBack (dependencies : IdentityRegistryDependencies) (process : IdentityProcess)
    (call : IdentityCall) : Prop :=
  ∀ index verified randomId verification,
    call = .verifierReturned index (.ok (some verified)) randomId →
    process.verifying[index]? = some verification →
    process.registry.isSpent verification.challengeId = true →
    process.registry.isBound verification.now dependencies.platform verification.key = true

/-- A challenge is issued under an ID that no other challenge has. -/
def FreshChallenge (process : IdentityProcess) (call : IdentityCall) : Prop :=
  ∀ index answer randomId, call = .networkReturned index answer randomId →
    process.registry.challenges.lookup (js "IW:IDENTITY_CHALLENGE:" ++ randomId 0) = none

/-- A challenge has produced its binding when it is spent, and none before. -/
def ProducedOnce (process : IdentityProcess) : Prop :=
  ∀ id, process.registry.produced id = if process.registry.isSpent id then 1 else 0

/-- An event of another kind leaves the bindings that challenges have produced. -/
theorem ProducedOnce.kept (once : ProducedOnce process) {registry : InMemoryIdentityRegistry}
    {event : IdentityBindingAuditEvent} (audit : registry.audit = process.registry.audit)
    (spent : ∀ id, registry.isSpent id = process.registry.isSpent id)
    (other : event.action ≠ .bindingVerified) :
    ProducedOnce { process with registry := registry.record event } := by
  intro id
  have same : (registry.record event).isSpent id = process.registry.isSpent id := spent id
  dsimp only
  rw [same, InMemoryIdentityRegistry.produced_record, if_neg fun named => other named.1, Nat.add_zero,
    InMemoryIdentityRegistry.produced, audit]
  exact once id

theorem ProducedOnce.step (once : ProducedOnce process)
    (fresh : FreshChallenge process call) (held : HeldBack dependencies process call)
    (step : IdentityStep dependencies process call next) : ProducedOnce next := by
  cases step with
  | unchanged _ => exact once
  | clock => exact once
  | asked _ => exact once
  | refused => exact once
  | opened _ _ _ => exact once
  | rejected _ _ => exact once
  | created absent empty action =>
      exact once.kept rfl (fun _ => rfl) (by rw [action]; decide)
  | revoked found ended action =>
      exact once.kept rfl (fun _ => rfl) (by rw [action]; decide)
  | @issued index answer randomId input actor challenge event waiting identity unspent action =>
      have absent := fresh index answer randomId rfl
      refine once.kept rfl (fun id => ?_) (by rw [action]; decide)
      rw [InMemoryIdentityRegistry.isSpent_setChallenge, unspent]
      split
      · rename_i same
        rw [InMemoryIdentityRegistry.isSpent, same, absent]
        rfl
      · rfl
  | @bound index verified randomId verification identity occurredAt event waiting found unbound
      action names =>
      intro id
      change (InMemoryIdentityRegistry.record _ event).produced id =
        if (InMemoryIdentityRegistry.setChallenge _ verification.challengeId
          { verification.challenge with consumedAt := some occurredAt }).isSpent id then 1 else 0
      rw [InMemoryIdentityRegistry.produced_record, InMemoryIdentityRegistry.isSpent_setChallenge]
      have before := once id
      by_cases same : id = verification.challengeId
      · have unspent : process.registry.isSpent verification.challengeId = false := by
          rw [← Bool.not_eq_true]
          intro spent
          rw [held index verified randomId verification rfl waiting spent] at unbound
          cases unbound
        rw [same, unspent] at before
        rw [same, if_pos ⟨action, names⟩, if_pos rfl]
        exact congrArg (· + 1) before
      · have other : ¬(event.action = .bindingVerified ∧ event.challengeId = some id) := by
          rintro ⟨_, named⟩
          exact same (Option.some.inj (named.symm.trans names))
        rw [if_neg other, if_neg same]
        exact before

theorem ProducedOnce.run {run : List IdentityCall} (once : ProducedOnce process)
    (fresh : (identityRegistry dependencies).Throughout FreshChallenge run process)
    (held : (identityRegistry dependencies).Throughout (HeldBack dependencies) run process) :
    ProducedOnce ((identityRegistry dependencies).run run process) := by
  induction run generalizing process with
  | nil => exact once
  | cons call rest ih =>
      exact ih (once.step fresh.1 held.1 (identityStep call process)) fresh.2 held.2

/-- An answer that is not held back produces a second binding. -/
theorem ChallengeInvariant.heldBack (valid : ChallengeInvariant process)
    (step : IdentityStep dependencies process call next)
    (once : ∀ id, next.registry.produced id ≤ 1) : HeldBack dependencies process call := by
  rintro index verified randomId verification rfl waiting spent
  cases step with
  | unchanged idle =>
      rw [idle index _ randomId rfl] at waiting
      cases waiting
  | rejected found refused =>
      cases waiting.symm.trans found
      exact (refused verified rfl).resolve_left (valid.known verification (List.mem_of_getElem? waiting))
  | bound found _ _ action names =>
      cases waiting.symm.trans found
      have least := valid.spent verification.challengeId spent
      have most := once verification.challengeId
      rw [InMemoryIdentityRegistry.produced_record, if_pos ⟨action, names⟩] at most
      have same : process.registry.produced verification.challengeId + 1 ≤ 1 := most
      omega

theorem ChallengeInvariant.throughout {run : List IdentityCall} (valid : ChallengeInvariant process)
    (once : ∀ id, ((identityRegistry dependencies).run run process).registry.produced id ≤ 1) :
    (identityRegistry dependencies).Throughout (HeldBack dependencies) run process := by
  induction run generalizing process with
  | nil => trivial
  | cons call rest ih =>
      have step : IdentityStep dependencies process call _ := identityStep call process
      exact ⟨valid.heldBack step fun id => Nat.le_trans (produced_le_run rest id) (once id),
        ih (valid.step step) once⟩

theorem ProducedOnce.initial (now : Int) : ProducedOnce (.initial now) := fun _ => rfl

/-- **Challenges are spent once.** In every run that issues challenges under fresh IDs, each
challenge produces one binding at most if and only if every verified proof for a challenge that was
spent in the meantime finds a binding of its locator that was active when its verification began. -/
theorem producedOnce_iff_heldBack (dependencies : IdentityRegistryDependencies) {start : Int}
    {run : List IdentityCall}
    (fresh : (identityRegistry dependencies).Throughout FreshChallenge run (.initial start)) :
    (∀ id, ((identityRegistry dependencies).run run (.initial start)).registry.produced id ≤ 1) ↔
      (identityRegistry dependencies).Throughout (HeldBack dependencies) run (.initial start) := by
  constructor
  · intro once
    exact (ChallengeInvariant.initial start).throughout once
  · intro held id
    rw [(ProducedOnce.initial start).run fresh held id]
    split <;> decide

namespace TwoWallets

/-- A challenge is issued. -/
def issues : IdentityCall → Bool
  | .networkReturned _ _ _ => true
  | _ => false

theorem fresh_of_no_issues {run : List IdentityCall} {process : IdentityProcess}
    (none_issued : run.all (fun call => !issues call) = true) :
    (identityRegistry wallets).Throughout FreshChallenge run process := by
  induction run generalizing process with
  | nil => trivial
  | cons call rest ih =>
      rw [List.all_cons, Bool.and_eq_true] at none_issued
      refine ⟨?_, ih none_issued.2⟩
      rintro index answer randomId rfl
      cases none_issued.1

/-- Two verifications of one challenge wait together, and the first one binds the wallet. -/
def overlap : List IdentityCall :=
  [.createIdentity alice none (js "admin") fun _ => js "1"] ++ issue alice lower (js "1") ++
    [verify (js "1"), verify (js "1"), accept 0 (js "2")]

/-- The wallet is released before the second verification ends. -/
def release : List IdentityCall :=
  [.revokeBinding alice (js "IW:BINDING:2") (js "admin") fun _ => js "3", accept 0 (js "4")]

theorem overlap_fresh {more : List IdentityCall}
    (none_issued : more.all (fun call => !issues call) = true) :
    (identityRegistry wallets).Throughout FreshChallenge (overlap ++ more) (.initial start) := by
  refine And.intro ?_ (And.intro ?_ (And.intro ?_ (fresh_of_no_issues none_issued)))
  · intro index answer randomId same
    cases same
  · intro index answer randomId same
    cases same
  · intro index answer randomId same
    cases same
    decide +kernel

/-- The second verification is held back by the binding of the first. -/
theorem producedOnce_overlap :
    (identityRegistry wallets).Throughout (HeldBack wallets) (overlap ++ [accept 0 (js "4")])
      (.initial start) := by
  refine (producedOnce_iff_heldBack wallets (overlap_fresh (by decide))).mp fun id => ?_
  have verified : (((identityRegistry wallets).run (overlap ++ [accept 0 (js "4")])
      (.initial start)).registry.audit.countP fun event => event.action = .bindingVerified) = 1 := by
    decide +kernel
  rw [← verified]
  apply List.countP_mono_left
  intro event _ named
  exact (Bool.and_eq_true_iff.mp named).1

/-- **A challenge is spent twice.** The second verification was waiting when the challenge was
spent, and creates a binding when the first one has been revoked. -/
theorem challenge_produces_two :
    ¬ ∀ run, (identityRegistry wallets).Throughout FreshChallenge run (.initial start) →
      ∀ id, ((identityRegistry wallets).run run (.initial start)).registry.produced id ≤ 1 := by
  intro claim
  have twice : ((identityRegistry wallets).run (overlap ++ release)
      (.initial start)).registry.produced (js "IW:IDENTITY_CHALLENGE:1") = 2 := by
    decide +kernel
  have once := claim (overlap ++ release) (overlap_fresh (by decide)) (js "IW:IDENTITY_CHALLENGE:1")
  rw [twice] at once
  exact absurd once (by decide)

end TwoWallets
end InterWeave
