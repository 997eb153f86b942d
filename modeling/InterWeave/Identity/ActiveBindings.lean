import InterWeave.Core.IsoDate
import InterWeave.Identity.IdentityRegistry

/-! # Active bindings of a locator

A verification looks for active bindings at the time it began, although other calls have run since.
What is active now was active at every earlier time at which it existed, so the look does not miss
a binding that is still active.
-/

namespace AList

/-- What stands beside a key stays when the value of the key is set. -/
theorem exists_perm_insert {α : Type} {β : α → Type} [DecidableEq α] {list : AList β} {key : α}
    {value : β key} (found : list.lookup key = some value) :
    ∃ rest, list.entries.Perm (⟨key, value⟩ :: rest) ∧
      ∀ other, (list.insert key other).entries = ⟨key, other⟩ :: rest := by
  have listed : ⟨key, value⟩ ∈ list.entries := mem_lookup_iff.mp found
  obtain ⟨other, before, after, _, split, erased⟩ :=
    List.exists_of_kerase (List.mem_keys_of_mem listed)
  refine ⟨list.entries.kerase key, ?_, fun other => entries_insert⟩
  have same : other = value := by
    have member : ⟨key, other⟩ ∈ list.entries := by
      rw [split]
      simp
    have stored : list.lookup key = some other := mem_lookup_iff.mpr member
    exact Option.some.inj (stored.symm.trans found)
  rw [erased, split, same]
  exact List.perm_middle

end AList

namespace InterWeave

section Bindings

variable {platform : Platform} {now later : Int} {key : JsString}

/-- Bindings expire and stay expired. -/
theorem NetworkIdentity.bindsAt_of_later {binding : NetworkIdentity} (passed : now ≤ later)
    (binds : binding.bindsAt platform later key = true) : binding.bindsAt platform now key = true := by
  simp only [bindsAt, activeAt, Bool.and_eq_true, Bool.or_eq_true] at binds ⊢
  obtain ⟨⟨unrevoked, unexpired⟩, same⟩ := binds
  refine ⟨⟨unrevoked, unexpired.imp_right fun ahead => ?_⟩, same⟩
  cases parsed : binding.expiresAt.bind platform.dateParse with
  | none =>
      rw [parsed] at ahead
      cases ahead
  | some expiry =>
      rw [parsed] at ahead
      simp only [numberLt, decide_eq_true_eq] at ahead ⊢
      omega

namespace InMemoryIdentityRegistry

variable {registry : InMemoryIdentityRegistry} (counted : NetworkIdentity → Bool)

theorem countP_setIdentity {identity updated : Identity}
    (found : registry.identities.lookup updated.id = some identity) :
    (registry.setIdentity updated).bindings.countP counted + identity.bindings.countP counted =
      registry.bindings.countP counted + updated.bindings.countP counted := by
  obtain ⟨rest, split, inserted⟩ := AList.exists_perm_insert found
  have before := (split.flatMap_right fun entry => entry.snd.bindings).countP_eq counted
  have after : (registry.setIdentity updated).bindings =
      updated.bindings ++ rest.flatMap fun entry => entry.snd.bindings := by
    unfold bindings setIdentity
    rw [inserted]
    rfl
  rw [List.flatMap_cons, List.countP_append] at before
  rw [after, bindings, before, List.countP_append]
  dsimp only
  omega

theorem bindings_setIdentity_of_absent {identity : Identity}
    (absent : registry.identities.lookup identity.id = none) (empty : identity.bindings = []) :
    (registry.setIdentity identity).bindings = registry.bindings := by
  unfold bindings setIdentity
  rw [AList.entries_insert_of_notMem (AList.lookup_eq_none.mp absent), List.flatMap_cons, empty]
  rfl

theorem countP_eq_zero_of_unbound (unbound : registry.isBound now platform key = false) :
    registry.bindings.countP (NetworkIdentity.bindsAt platform now key) = 0 := by
  rw [List.countP_eq_zero]
  intro binding member binds
  rw [isBound, List.any_eq_false] at unbound
  exact unbound binding member binds

end InMemoryIdentityRegistry
end Bindings

/-! ## The invariant -/

/-- One binding at most is active for each key, and what waits has read the clock before. -/
structure ActiveInvariant (platform : Platform) (process : IdentityProcess) : Prop where
  single : ∀ key, process.registry.bindings.countP
    (NetworkIdentity.bindsAt platform process.now key) ≤ 1
  earlier : ∀ verification ∈ process.verifying, verification.now ≤ process.now

/-- The reading of a clock that moves. -/
def IdentityCall.reading : IdentityCall → Option Int
  | .clock reading => some reading
  | _ => none

/-- The clock does not go back. -/
def Onward (start : Int) (run : List IdentityCall) : Prop :=
  (start :: run.filterMap IdentityCall.reading).IsChain (· ≤ ·)

instance (start : Int) (run : List IdentityCall) : Decidable (Onward start run) :=
  inferInstanceAs (Decidable (List.IsChain _ _))

theorem ActiveInvariant.initial (platform : Platform) (now : Int) :
    ActiveInvariant platform (.initial now) where
  single _ := Nat.zero_le 1
  earlier verification member := by cases member

variable {dependencies : IdentityRegistryDependencies} {process next : IdentityProcess}
  {call : IdentityCall}

/-- A binding is created for a key that nothing has bound since the verification read the clock. -/
theorem ActiveInvariant.single_bound (valid : ActiveInvariant dependencies.platform process)
    {verification : SuspendedVerification} {identity : Identity} {binding : NetworkIdentity}
    (found : process.registry.identities.lookup identity.id = some identity)
    (bears : locatorKey binding.networkId binding.locator = verification.key)
    (read : verification.now ≤ process.now)
    (unbound : process.registry.isBound verification.now dependencies.platform verification.key = false)
    (key : JsString) :
    (process.registry.setIdentity { identity with
      bindings := identity.bindings ++ [binding] }).bindings.countP
        (NetworkIdentity.bindsAt dependencies.platform process.now key) ≤ 1 := by
  have counted := process.registry.countP_setIdentity
    (NetworkIdentity.bindsAt dependencies.platform process.now key)
    (show process.registry.identities.lookup
      ({ identity with bindings := identity.bindings ++ [binding] } : Identity).id = some identity
      from found)
  rw [List.countP_append, List.countP_singleton] at counted
  by_cases same : key = verification.key
  · have none_later : process.registry.bindings.countP
        (NetworkIdentity.bindsAt dependencies.platform process.now key) = 0 := by
      have before := InMemoryIdentityRegistry.countP_eq_zero_of_unbound unbound
      rw [same]
      refine Nat.le_zero.mp (Nat.le_trans (List.countP_mono_left fun other _ binds => ?_)
        (Nat.le_of_eq before))
      exact other.bindsAt_of_later read binds
    split at counted <;> omega
  · have other : binding.bindsAt dependencies.platform process.now key = false := by
      rw [NetworkIdentity.bindsAt, bears]
      simp [Ne.symm same]
    have before := valid.single key
    rw [other] at counted
    simp only [Bool.false_eq_true, ↓reduceIte] at counted
    omega

/-- A revocation leaves no more active bindings than there were. -/
theorem ActiveInvariant.single_revoked (valid : ActiveInvariant dependencies.platform process)
    {identity : Identity} {revoked : NetworkIdentity} {bindingId : JsString}
    (found : process.registry.identities.lookup identity.id = some identity)
    (ended : revoked.revokedAt.isSome = true) (key : JsString) :
    (process.registry.setIdentity { identity with
      bindings := identity.bindings.map fun item =>
        if item.bindingId = bindingId then revoked else item }).bindings.countP
        (NetworkIdentity.bindsAt dependencies.platform process.now key) ≤ 1 := by
  have counted := process.registry.countP_setIdentity
    (NetworkIdentity.bindsAt dependencies.platform process.now key)
    (show process.registry.identities.lookup ({ identity with
      bindings := identity.bindings.map fun item =>
        if item.bindingId = bindingId then revoked else item } : Identity).id = some identity
      from found)
  have fewer : (identity.bindings.map fun item =>
      if item.bindingId = bindingId then revoked else item).countP
        (NetworkIdentity.bindsAt dependencies.platform process.now key) ≤
      identity.bindings.countP (NetworkIdentity.bindsAt dependencies.platform process.now key) := by
    rw [List.countP_map]
    apply List.countP_mono_left
    intro item _ binds
    rw [Function.comp_apply] at binds
    split at binds
    · simp [NetworkIdentity.bindsAt, NetworkIdentity.activeAt, Option.isSome_iff_ne_none.mp ended]
        at binds
    · exact binds
  have before := valid.single key
  dsimp only at counted
  omega

theorem ActiveInvariant.step (valid : ActiveInvariant dependencies.platform process)
    (onward : ∀ reading, call = .clock reading → process.now ≤ reading)
    (step : IdentityStep dependencies process call next) :
    ActiveInvariant dependencies.platform next := by
  cases step with
  | unchanged _ => exact valid
  | @clock reading =>
      have passed := onward reading rfl
      constructor
      · intro key
        refine Nat.le_trans (List.countP_mono_left fun binding _ binds => ?_) (valid.single key)
        exact binding.bindsAt_of_later passed binds
      · intro verification member
        exact Int.le_trans (valid.earlier verification member) passed
  | created absent empty _ =>
      refine ⟨fun key => ?_, valid.earlier⟩
      have same := InMemoryIdentityRegistry.bindings_setIdentity_of_absent absent empty
      exact same ▸ valid.single key
  | asked _ => exact ⟨valid.single, valid.earlier⟩
  | refused => exact ⟨valid.single, valid.earlier⟩
  | issued _ _ _ _ => exact ⟨valid.single, valid.earlier⟩
  | opened verification _ read =>
      refine ⟨valid.single, fun other member => ?_⟩
      rcases List.mem_append.mp member with earlier | new
      · exact valid.earlier other earlier
      · rw [List.mem_singleton.mp new, read]
  | rejected _ _ =>
      exact ⟨valid.single, fun other member =>
        valid.earlier other (List.mem_of_mem_eraseIdx member)⟩
  | @bound _ verified randomId verification identity occurredAt event waiting found unbound _ _ =>
      refine ⟨fun key => ?_, fun other member =>
        valid.earlier other (List.mem_of_mem_eraseIdx member)⟩
      have read := valid.earlier verification (List.mem_of_getElem? waiting)
      exact valid.single_bound (process.registry.filed _ _ found ▸ found) rfl read unbound key
  | @revoked identityId bindingId _ _ identity revoked event found ended _ =>
      refine ⟨fun key => ?_, valid.earlier⟩
      exact valid.single_revoked (process.registry.filed _ _ found ▸ found) ended key

theorem IdentityProcess.settle_now {α : Type} (reply : α → IdentityReply)
    (outcome : Except Thrown (α × InMemoryIdentityRegistry)) :
    (process.settle reply outcome).2.now = process.now := by
  cases outcome <;> rfl

/-- Only a reading moves the clock. -/
theorem now_next (call : IdentityCall) :
    ((identityRegistry dependencies).next call process).now = call.reading.getD process.now := by
  unfold Atomic.Machine.next identityRegistry
  cases call with
  | clock reading => rfl
  | createIdentity id displayName actor randomId => exact IdentityProcess.settle_now _ _
  | issueChallenge input actor =>
      dsimp only
      cases process.registry.issueChallenge input actor <;> rfl
  | networkReturned index answer randomId =>
      dsimp only
      split
      · rfl
      · exact IdentityProcess.settle_now _ _
  | verifyChallenge challengeId proof bindingExpiresAt actor =>
      dsimp only
      cases InMemoryIdentityRegistry.verifyChallenge dependencies process.registry process.now
        challengeId proof bindingExpiresAt actor <;> rfl
  | verifierReturned index answer randomId =>
      dsimp only
      split
      · rfl
      · exact IdentityProcess.settle_now _ _
  | revokeBinding identityId bindingId actor randomId => exact IdentityProcess.settle_now _ _
  | activeBindings identityId networkId => rfl

variable (dependencies) in
/-- A run that goes onward does so from each of its calls. -/
theorem onward_next {rest : List IdentityCall} (onward : Onward process.now (call :: rest)) :
    (∀ reading, call = .clock reading → process.now ≤ reading) ∧
      Onward ((identityRegistry dependencies).next call process).now rest := by
  rw [now_next]
  unfold Onward at onward ⊢
  cases read : call.reading with
  | none =>
      rw [List.filterMap_cons_none read] at onward
      refine ⟨fun reading same => ?_, onward⟩
      rw [same] at read
      cases read
  | some reading =>
      rw [List.filterMap_cons_some read, List.isChain_cons_cons] at onward
      refine ⟨fun other same => ?_, onward.2⟩
      rw [same] at read
      cases read
      exact onward.1

theorem ActiveInvariant.run {run : List IdentityCall}
    (valid : ActiveInvariant dependencies.platform process) (onward : Onward process.now run) :
    ActiveInvariant dependencies.platform ((identityRegistry dependencies).run run process) := by
  induction run generalizing process with
  | nil => exact valid
  | cons call rest ih =>
      obtain ⟨first, others⟩ := onward_next dependencies onward
      exact ih (valid.step first (identityStep call process)) others

/-- The code's comparison of locators: addresses up to the case of their letters. -/
def NetworkIdentityLocator.sameAs : NetworkIdentityLocator → NetworkIdentityLocator → Bool
  | .evm address, .evm other => address.toLowerCase = other.toLowerCase
  | .canton party, .canton other => party = other
  | _, _ => false

theorem locatorKey_of_sameAs {networkId : JsString} {locator other : NetworkIdentityLocator}
    (same : locator.sameAs other = true) : locatorKey networkId locator = locatorKey networkId other := by
  cases locator with
  | evm address =>
      cases other with
      | evm second =>
          have lower : address.toLowerCase = second.toLowerCase := of_decide_eq_true same
          simp only [locatorKey, NetworkIdentityLocator.kind, lower]
      | canton party => cases same
  | canton party =>
      cases other with
      | evm address => cases same
      | canton second =>
          have equal : party = second := of_decide_eq_true same
          rw [equal]

/-- **One active binding.** In every run in which the clock does not go back, whatever the random
IDs and the answers of the verifiers and of the network registry, a locator of a network has one
binding at most that is active at the current time, over all identities. -/
theorem one_active_binding (dependencies : IdentityRegistryDependencies) {start : Int}
    {run : List IdentityCall} (onward : Onward start run) :
    let reached := (identityRegistry dependencies).run run (.initial start)
    ∀ networkId locator, (reached.registry.bindings.countP fun binding =>
      binding.activeAt dependencies.platform reached.now && binding.networkId = networkId &&
        binding.locator.sameAs locator) ≤ 1 := by
  intro reached networkId locator
  have valid : ActiveInvariant dependencies.platform reached :=
    (ActiveInvariant.initial dependencies.platform start).run onward
  refine Nat.le_trans (List.countP_mono_left fun binding _ found => ?_)
    (valid.single (locatorKey networkId locator))
  rw [Bool.and_eq_true, Bool.and_eq_true, decide_eq_true_eq] at found
  obtain ⟨⟨active, rfl⟩, same⟩ := found
  rw [NetworkIdentity.bindsAt, active, locatorKey_of_sameAs same]
  simp

namespace TwoWallets

def wallets : IdentityRegistryDependencies := ⟨isoPlatform, [.evmPersonalSign]⟩

def start : Int := 1786449600000

/-- A challenge for a wallet. -/
def issue (identityId address random : JsString) : List IdentityCall :=
  [.issueChallenge ⟨identityId, js "IW:NETWORK:test", .evm address, .ofNat 60⟩ identityId,
    .networkReturned 0 (.ok (some ⟨js "EVM", true⟩)) fun _ => random]

/-- A verification up to its verifier. -/
def verify (random : JsString) : IdentityCall :=
  .verifyChallenge (js "IW:IDENTITY_CHALLENGE:" ++ random)
    ⟨.evmPersonalSign, js "signature", none⟩ none (js "wallet")

/-- The verifier accepts the proof. -/
def accept (call : Nat) (random : JsString) : IdentityCall :=
  .verifierReturned call (.ok (some ⟨js "EIP-191", js "sha256:fingerprint"⟩)) fun _ => random

def alice : JsString := js "IW:IDENTITY:alice"

def bob : JsString := js "IW:IDENTITY:bob"

def lower : JsString := js "0x00000000000000000000000000000000000000aa"

def upper : JsString := js "0x00000000000000000000000000000000000000AA"

/-- Alice and Bob prove one address, in letters of either case, at the same time. -/
def contest : List IdentityCall :=
  [.createIdentity alice none (js "admin") fun _ => js "1",
    .createIdentity bob none (js "admin") fun _ => js "2"] ++
    issue alice lower (js "1") ++ issue bob upper (js "2") ++
    [verify (js "1"), verify (js "2"), .clock (start + 1), accept 1 (js "3"), accept 0 (js "4")]

/-- Bob's binding is the only one. -/
theorem one_active_binding_contested :
    let reached := (identityRegistry wallets).run contest (.initial start)
    reached.registry.bindings.map NetworkIdentity.bindingId = [js "IW:BINDING:3"] ∧
      ∀ networkId locator, (reached.registry.bindings.countP fun binding =>
        binding.activeAt wallets.platform reached.now && binding.networkId = networkId &&
          binding.locator.sameAs locator) ≤ 1 := by
  intro reached
  have bound : reached.registry.bindings.map NetworkIdentity.bindingId = [js "IW:BINDING:3"] := by
    decide +kernel
  exact ⟨bound, one_active_binding wallets (by decide)⟩

end TwoWallets
end InterWeave
