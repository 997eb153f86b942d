import InterWeave.Policy.PolicyRegistry
import InterWeave.Text.Separators

/-! # Versions of a policy over many calls

A call sets one version, or sets one version and retires others of a policy. What is stored of
a version never changes but for its status, and a retired version stays retired. An activation
finds its version by the joined text and retires by the identifier alone: where the two name
different policies, it retires the one and activates the other.
-/

namespace InterWeave
namespace PolicyRegistry

variable {registry next : PolicyRegistry} {call : Call}

/-! ## Calls -/

/-- What a call that is not refused does. -/
inductive Changes (registry : PolicyRegistry) :
    Call → PolicyDefinition → PolicyRegistry → Prop where
  | registered {policy : PolicyDefinition} : assertPolicyDefinition policy = .ok () →
      registry.find? (key policy.id policy.version) = none →
      (policy.status = .active →
        ∀ item ∈ registry.values, item.id = policy.id → item.status ≠ .active) →
      Changes registry (.register policy) policy
        (registry.set (key policy.id policy.version) policy)
  | activated {id version : JsString} {selected : PolicyDefinition} :
      registry.find? (key id version) = some selected → selected.status ≠ .retired →
      Changes registry (.activate id version) { selected with status := .active }
        ((registry.mapValues (retire id)).set (key id version) { selected with status := .active })

theorem changes_of_answer {policy : PolicyDefinition}
    (answered : registry.answer call = .ok (policy, next)) : registry.Changes call policy next := by
  cases call with
  | register registered =>
      rw [answer, register] at answered
      obtain ⟨_, valid, answered⟩ := Atomic.ok_of_bind answered
      split at answered
      · cases answered
      · rename_i fresh
        split at answered
        · cases answered
        · rename_i vacant
          cases answered
          refine .registered valid (Option.not_isSome_iff_eq_none.mp fresh)
            fun active item member same => ?_
          exact fun also => vacant ⟨active, item, member, same, also⟩
  | activate id version =>
      rw [answer, activate] at answered
      split at answered
      · cases answered
      · rename_i selected found
        split at answered
        · cases answered
        · rename_i usable
          cases answered
          exact .activated found usable

/-- A call changes the registry as `Changes` says, or leaves it alone. -/
theorem next_cases (registry : PolicyRegistry) (call : Call) :
    machine.next call registry = registry ∨
      ∃ policy, registry.answer call = .ok (policy, machine.next call registry) ∧
        registry.Changes call policy (machine.next call registry) := by
  cases answered : registry.answer call with
  | error error => exact .inl (congrArg Prod.snd (Atomic.commit_of_error answered))
  | ok result =>
      have same : machine.next call registry = result.2 :=
        congrArg Prod.snd (Atomic.commit_of_ok answered)
      rw [same]
      exact .inr ⟨result.1, rfl, changes_of_answer answered⟩

/-! ## What is kept -/

/-- At most one version of a policy is active. -/
def AtMostOneActive (registry : PolicyRegistry) : Prop :=
  ∀ first second policy other, registry.find? first = some policy →
    registry.find? second = some other → policy.status = .active → other.status = .active →
    policy.id = other.id → first = second

/-- What is stored stays, but for its status; and what is retired stays retired. -/
def KeepsContents (registry next : PolicyRegistry) : Prop :=
  ∀ key policy, registry.find? key = some policy → ∃ now, next.find? key = some now ∧
    now = { policy with status := now.status } ∧ (policy.status = .retired → now.status = .retired)

/-- An activation changes the status of versions of one policy only: the one it is called for, of
which it activates a version. -/
def ChangesOwn (registry : PolicyRegistry) : Call → Prop
  | .register _ => True
  | .activate id version => ∀ activated next, registry.activate id version = .ok (activated, next) →
      ∀ key policy now, registry.find? key = some policy → next.find? key = some now →
        now.status ≠ policy.status → policy.id = id ∧ policy.id = activated.id

/-- What a call keeps. -/
structure Keeps (registry : PolicyRegistry) (call : Call) : Prop where
  atMostOne : (machine.next call registry).AtMostOneActive
  contents : registry.KeepsContents (machine.next call registry)
  own : registry.ChangesOwn call

/-- The condition on a call: an activation finds a version of the policy it is called for. Or it
finds none, or a retired one, or an active one while the policy it is called for has none. -/
def ActivatesOwn (registry : PolicyRegistry) : Call → Prop
  | .register _ => True
  | .activate id version => ∀ selected ∈ registry.find? (key id version),
      selected.status ≠ .retired → selected.id = id ∨ selected.status = .active ∧
        ∀ item ∈ registry.values, item.id = id → item.status ≠ .active

instance (registry : PolicyRegistry) : DecidablePred (ActivatesOwn registry)
  | .register _ => .isTrue trivial
  | .activate id version => by
      unfold ActivatesOwn
      infer_instance

section Activation

variable {id version : JsString} {selected : PolicyDefinition}

/-- What is found after an activation. -/
theorem find?_activated {other : JsString} {now : PolicyDefinition}
    (stored : ((registry.mapValues (retire id)).set (key id version)
      { selected with status := .active }).find? other = some now) :
    (other = key id version ∧ now = { selected with status := .active }) ∨
      other ≠ key id version ∧ ∃ policy, registry.find? other = some policy ∧
        now = retire id policy := by
  by_cases same : other = key id version
  · subst same
    rw [OrderedMap.find?_set_self] at stored
    exact .inl ⟨rfl, (Option.some.inj stored).symm⟩
  · rw [OrderedMap.find?_set_of_ne same, OrderedMap.find?_mapValues] at stored
    obtain ⟨policy, before, rfl⟩ := Option.map_eq_some_iff.mp stored
    exact .inr ⟨same, policy, before, rfl⟩

theorem id_retire (id : JsString) (policy : PolicyDefinition) :
    (retire id policy).id = policy.id := by
  rw [retire]
  split <;> rfl

/-- What is active after retiring was active before, in another policy. -/
theorem active_of_retire {id : JsString} {policy : PolicyDefinition}
    (active : (retire id policy).status = .active) :
    policy.status = .active ∧ policy.id ≠ id := by
  rw [retire] at active
  split at active
  · cases active
  · rename_i kept
    exact ⟨active, fun same => kept ⟨same, active⟩⟩

theorem retire_keeps (id : JsString) (policy : PolicyDefinition) :
    retire id policy = { policy with status := (retire id policy).status } ∧
      (policy.status = .retired → (retire id policy).status = .retired) := by
  rw [retire]
  split
  · exact ⟨rfl, fun _ => rfl⟩
  · exact ⟨rfl, fun retired => retired⟩

end Activation

/-! ## One call -/

/-- Contents are kept by every call. -/
theorem keepsContents (registry : PolicyRegistry) (call : Call) :
    registry.KeepsContents (machine.next call registry) := by
  intro key policy stored
  rcases next_cases registry call with same | ⟨registered, _, changes⟩
  · rw [same]
    exact ⟨policy, stored, rfl, fun retired => retired⟩
  · generalize machine.next call registry = next at changes
    cases changes with
    | @registered _ _ absent _ =>
        have different : key ≠ PolicyRegistry.key registered.id registered.version := by
          rintro rfl
          exact nomatch absent.symm.trans stored
        exact ⟨policy, (OrderedMap.find?_set_of_ne different).trans stored, rfl,
          fun retired => retired⟩
    | @activated id version selected found usable =>
        by_cases same : key = PolicyRegistry.key id version
        · subst same
          cases found.symm.trans stored
          exact ⟨_, OrderedMap.find?_set_self, rfl, fun retired => absurd retired usable⟩
        · refine ⟨retire id policy, ?_, retire_keeps id policy⟩
          rw [OrderedMap.find?_set_of_ne same, OrderedMap.find?_mapValues, stored]
          rfl

/-- A call under the condition leaves at most one active version. -/
theorem atMostOneActive_next (before : registry.AtMostOneActive)
    (condition : registry.ActivatesOwn call) : (machine.next call registry).AtMostOneActive := by
  rcases next_cases registry call with same | ⟨registered, _, changes⟩
  · rw [same]
    exact before
  · generalize machine.next call registry = next at changes
    intro first second policy other stored also active alsoActive ids
    cases changes with
    | @registered _ _ absent vacant =>
        have vacantFor : ∀ {key : JsString} {item : PolicyDefinition},
            registry.find? key = some item → item.status = .active → registered.status = .active →
            item.id ≠ registered.id := by
          intro key item found also active same
          exact vacant active item (OrderedMap.mem_values_iff.mpr ⟨key, found⟩) same also
        by_cases here : first = key registered.id registered.version
        · subst here
          cases OrderedMap.find?_set_self.symm.trans stored
          by_cases there : second = key registered.id registered.version
          · exact there.symm
          · rw [OrderedMap.find?_set_of_ne there] at also
            exact absurd ids.symm (vacantFor also alsoActive active)
        · rw [OrderedMap.find?_set_of_ne here] at stored
          by_cases there : second = key registered.id registered.version
          · subst there
            cases OrderedMap.find?_set_self.symm.trans also
            exact absurd ids (vacantFor stored active alsoActive)
          · rw [OrderedMap.find?_set_of_ne there] at also
            exact before first second policy other stored also active alsoActive ids
    | @activated id version selected found usable =>
        -- Where the version belongs to another policy it was active already, and stays it.
        have apart : ∀ {key : JsString} {item : PolicyDefinition}, registry.find? key = some item →
            key ≠ PolicyRegistry.key id version → (retire id item).status = .active →
            (retire id item).id ≠ selected.id := by
          intro key item present different active same
          obtain ⟨was, foreign⟩ := active_of_retire active
          rw [id_retire] at same
          rcases condition selected found usable with own | ⟨already, _⟩
          · exact foreign (same.trans own)
          · exact different (before key _ item selected present found was already same)
        rcases find?_activated stored with ⟨rfl, rfl⟩ | ⟨here, item, present, rfl⟩
        · rcases find?_activated also with ⟨rfl, rfl⟩ | ⟨there, item, present, rfl⟩
          · rfl
          · exact absurd ids.symm (apart present there alsoActive)
        · rcases find?_activated also with ⟨rfl, rfl⟩ | ⟨there, second, found, rfl⟩
          · exact absurd ids (apart present here active)
          · rw [id_retire, id_retire] at ids
            exact before _ _ item second present found (active_of_retire active).1
              (active_of_retire alsoActive).1 ids

/-- A call under the condition changes the status of one policy only. -/
theorem changesOwn_of_activatesOwn (condition : registry.ActivatesOwn call) :
    registry.ChangesOwn call := by
  cases call with
  | register policy => trivial
  | activate id version =>
      intro activated next answered key policy now stored after changed
      have changes : registry.Changes (.activate id version) activated next :=
        changes_of_answer answered
      cases changes with
      | @activated _ _ selected found usable =>
          rcases find?_activated after with ⟨rfl, rfl⟩ | ⟨different, item, present, rfl⟩
          · cases found.symm.trans stored
            rcases condition policy found usable with own | ⟨already, _⟩
            · exact ⟨own, rfl⟩
            · exact absurd already.symm changed
          · cases present.symm.trans stored
            have retired : policy.id = id ∧ policy.status = .active := by
              by_contra kept
              rw [retire, if_neg kept] at changed
              exact changed rfl
            refine ⟨retired.1, ?_⟩
            rcases condition selected found usable with own | ⟨_, none⟩
            · exact retired.1.trans own.symm
            · exact absurd retired.2
                (none policy (OrderedMap.mem_values_iff.mpr ⟨key, present⟩) retired.1)

/-- A call that changes the status of one policy only meets the condition. -/
theorem activatesOwn_of_changesOwn (own : registry.ChangesOwn call) :
    registry.ActivatesOwn call := by
  cases call with
  | register policy => trivial
  | activate id version =>
      intro selected found usable
      have answered : registry.activate id version = .ok ({ selected with status := .active },
          (registry.mapValues (retire id)).set (key id version)
            { selected with status := .active }) := by
        simp only [activate, Option.mem_def.mp found, usable, ↓reduceIte]
      by_cases same : selected.id = id
      · exact .inl same
      · refine .inr ⟨?_, fun item member named active => ?_⟩
        · by_contra inactive
          exact same (own _ _ answered (key id version) selected _ found OrderedMap.find?_set_self
            (Ne.symm inactive)).1
        · obtain ⟨other, present⟩ := OrderedMap.mem_values_iff.mp member
          have different : other ≠ key id version := by
            rintro rfl
            cases present.symm.trans found
            exact same named
          have retired : retire id item = { item with status := .retired } := if_pos ⟨named, active⟩
          have after : ((registry.mapValues (retire id)).set (key id version)
              { selected with status := .active }).find? other =
                some { item with status := .retired } := by
            rw [OrderedMap.find?_set_of_ne different, OrderedMap.find?_mapValues, present, ← retired]
            rfl
          have changed := own _ _ answered other item _ present after
            (by rw [active]; exact fun same => nomatch same)
          exact same (changed.2.symm.trans named)

/-! ## Runs -/

/-- **Versions are kept exactly by activations of own versions.** In a run of registrations and
activations every call leaves at most one active version of each policy, changes nothing of what is
stored but statuses, reactivates no retired version and changes the status of no other policy, if
and only if every activation finds a version of the policy it is called for (or changes nothing). -/
theorem versions_kept_iff (calls : List Call) :
    machine.Throughout Keeps calls OrderedMap.empty ↔
      machine.Throughout ActivatesOwn calls OrderedMap.empty := by
  have start : AtMostOneActive OrderedMap.empty := fun first second policy other stored =>
    nomatch stored
  refine Atomic.Machine.throughout_congr ?_ ?_ calls start
  · intro registry call before
    constructor
    · exact fun keeps => activatesOwn_of_changesOwn keeps.own
    · exact fun condition => ⟨atMostOneActive_next before condition, keepsContents registry call,
        changesOwn_of_activatesOwn condition⟩
  · exact fun registry call before condition => atMostOneActive_next before condition

/-! ## Versions without an at sign -/

theorem isDotted_units {groups : Nat} {text : JsString} (dotted : isDotted groups text = true) :
    ∀ unit ∈ text, isDigit unit = true ∨ unit = 46 := by
  intro unit member
  rw [← List.takeWhile_append_dropWhile (p := isDigit) (l := text), List.mem_append] at member
  induction groups generalizing text with
  | zero =>
      rcases member with digit | rest
      · exact .inl (List.all_eq_true.mp List.all_takeWhile unit digit)
      · rw [List.isEmpty_iff.mp dotted] at rest
        exact (List.not_mem_nil rest).elim
  | succ groups ih =>
      rcases member with digit | rest
      · exact .inl (List.all_eq_true.mp List.all_takeWhile unit digit)
      · rw [isDotted] at dotted
        cases left : text.dropWhile isDigit with
        | nil =>
            rw [left] at rest
            exact (List.not_mem_nil rest).elim
        | cons separator more =>
            rw [left] at rest dotted
            rw [Bool.and_eq_true, Bool.and_eq_true, beq_iff_eq] at dotted
            rcases List.mem_cons.mp rest with rfl | later
            · exact .inr dotted.1.1
            · refine ih dotted.2 ?_
              rwa [← List.mem_append, List.takeWhile_append_dropWhile]

/-- A registered version has no at sign. -/
theorem version_of_asserted {policy : PolicyDefinition}
    (asserted : assertPolicyDefinition policy = .ok ()) : (64 : UInt16) ∉ policy.version := by
  rw [assertPolicyDefinition] at asserted
  split at asserted
  · cases asserted
  · split at asserted
    · cases asserted
    · rename_i valid
      have dotted : isDotted 2 policy.version = true := by
        rw [Bool.not_eq_true', Bool.not_eq_false, isVersion, Bool.and_eq_true] at valid
        exact valid.2
      intro member
      rcases isDotted_units dotted 64 member with digit | dot
      · cases digit
      · cases dot

/-- What is stored has been registered under its own key. -/
def Keyed (registry : PolicyRegistry) : Prop :=
  ∀ stored policy, registry.find? stored = some policy →
    stored = key policy.id policy.version ∧ (64 : UInt16) ∉ policy.version

theorem keyed_next (before : registry.Keyed) (call : Call) : (machine.next call registry).Keyed := by
  rcases next_cases registry call with same | ⟨registered, _, changes⟩
  · rw [same]
    exact before
  · generalize machine.next call registry = next at changes
    intro stored policy found
    cases changes with
    | registered valid absent _ =>
        by_cases here : stored = key registered.id registered.version
        · subst here
          cases OrderedMap.find?_set_self.symm.trans found
          exact ⟨rfl, version_of_asserted valid⟩
        · exact before stored policy ((OrderedMap.find?_set_of_ne here).symm.trans found)
    | @activated _ _ selected present _ =>
        rcases find?_activated found with ⟨rfl, rfl⟩ | ⟨_, item, stored, rfl⟩
        · exact before _ selected present
        · have kept := before _ item stored
          rw [(retire_keeps _ item).1]
          exact kept

/-- The condition holds of every activation whose version has no at sign. -/
theorem activatesOwn_of_plain (calls : List Call) {id version : JsString}
    (plain : (64 : UInt16) ∉ version) :
    (machine.run calls OrderedMap.empty).ActivatesOwn (.activate id version) := by
  have start : Keyed OrderedMap.empty := fun _ _ found => nomatch found
  have preserved : machine.Preserves Keyed := fun call _ before => keyed_next before call
  have keyed := preserved.run calls start
  intro selected found _
  obtain ⟨same, valid⟩ := keyed _ selected found
  have joined : id ++ 64 :: version = selected.id ++ 64 :: selected.version := by
    simpa only [key, List.append_assoc, show js "@" = [64] by decide, List.singleton_append]
      using same
  exact .inl (Text.split_last plain valid joined).1.symm

end PolicyRegistry

/-! ## Two policies with one joined text -/

namespace JoinedNames

open PolicyRegistry (key)

def policy (id version : JsString) (status : PolicyStatus) : PolicyDefinition where
  id := id
  version := version
  status := status
  documentHash := js "sha256:rules"
  createdAt := js "2026-08-08T00:00:00.000Z"
  defaultOutcome := .deny
  defaultReasonCode := js "NO_ALLOW_RULE"
  rules := [⟨js "allow", .always, .allow, js "WITHIN_LIMIT"⟩]

/-- Version `1` of the second policy is activated as version `b@1` of the first. -/
def calls : List PolicyRegistry.Call :=
  [.register (policy (js "IW:POLICY:a") (js "1") .active),
    .register (policy (js "IW:POLICY:a@b") (js "2") .active),
    .register (policy (js "IW:POLICY:a@b") (js "1") .draft),
    .activate (js "IW:POLICY:a") (js "b@1")]

def statusOf (registry : PolicyRegistry) (id version : JsString) : Option PolicyStatus :=
  (registry.find? (key id version)).map (·.status)

/-- The first policy is left without an active version, the second with two. -/
theorem two_active_versions :
    ¬ (PolicyRegistry.machine.run calls OrderedMap.empty).AtMostOneActive ∧
      statusOf (PolicyRegistry.machine.run calls OrderedMap.empty) (js "IW:POLICY:a") (js "1") =
        some .retired := by
  have first : (PolicyRegistry.machine.run calls OrderedMap.empty).find?
      (key (js "IW:POLICY:a@b") (js "1")) = some (policy (js "IW:POLICY:a@b") (js "1") .active) := by
    decide +kernel
  have second : (PolicyRegistry.machine.run calls OrderedMap.empty).find?
      (key (js "IW:POLICY:a@b") (js "2")) = some (policy (js "IW:POLICY:a@b") (js "2") .active) := by
    decide +kernel
  refine ⟨fun one => ?_, by decide +kernel⟩
  have same := one _ _ _ _ first second rfl rfl rfl
  exact absurd same (by decide +kernel)

end JoinedNames

end InterWeave
