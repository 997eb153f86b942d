import InterWeave.Core.IsoDate
import InterWeave.Policy.PolicyRegistry
import Mathlib.Data.List.Sort

/-! # The policy engine

`policy-engine.ts`. An active policy decides on an input by its matching rules: the strongest of
their outcomes wins, a denial over a required approval and that over an allowance, and the decision
lists the rules and reasons of that outcome in order. Neither depends on the order of the rules.
-/

namespace InterWeave

/-- The facts that conditions are about. -/
structure PolicyInput where
  assetStatus : AssetStatus
  senderHasActiveSourceBinding : Bool
  receiverHasActiveDestinationBinding : Bool
  amount : JsString
  operation : JsString
  sourceNetworkId : JsString
  destinationNetworkId : Option JsString
  metadata : List (JsString × JsString)
  evaluatedAt : JsString
  deriving DecidableEq, Repr

/-- The properties that an object of texts has from `Object.prototype`, which are no texts. -/
def inheritedNames : List JsString :=
  [js "constructor", js "hasOwnProperty", js "isPrototypeOf", js "propertyIsEnumerable",
    js "toLocaleString", js "toString", js "valueOf", js "__proto__", js "__defineGetter__",
    js "__defineSetter__", js "__lookupGetter__", js "__lookupSetter__"]

/-- `conditionMatches(condition, input)`. -/
def conditionMatches (condition : PolicyCondition) (input : PolicyInput) : Except Thrown Bool :=
  match condition with
  | .always => .ok true
  | .amountGreaterThan amount => do
      let moved ← parseAtomicAmount input.amount
      let limit ← parseAtomicAmount amount
      return decide (moved > limit)
  | .amountAtMost amount => do
      let moved ← parseAtomicAmount input.amount
      let limit ← parseAtomicAmount amount
      return decide (moved ≤ limit)
  | .assetStatusIn statuses => .ok (statuses.contains input.assetStatus)
  | .operationIn operations => .ok (operations.contains input.operation)
  | .networkPairIn pairs => .ok (pairs.any fun pair =>
      pair.source == input.sourceNetworkId && pair.destination == input.destinationNetworkId)
  | .missingRequiredBinding .sender => .ok !input.senderHasActiveSourceBinding
  | .missingRequiredBinding .receiver => .ok !input.receiverHasActiveDestinationBinding
  | .missingRequiredBinding .either => .ok
      (!input.senderHasActiveSourceBinding || !input.receiverHasActiveDestinationBinding)
  | .metadataEquals key value => .ok (input.metadata.lookup key == some value)
  | .metadataMissing key =>
      .ok ((input.metadata.lookup key).isNone && !inheritedNames.contains key)

/-- `strength(outcome)`. -/
def strength : DecisionOutcome → Nat
  | .deny => 3
  | .requiresApproval => 2
  | .allow => 1

def DefaultOutcome.outcome : DefaultOutcome → DecisionOutcome
  | .deny => .deny
  | .requiresApproval => .requiresApproval

namespace DeterministicPolicyEngine

/-- `policy.rules.filter((rule) => conditionMatches(rule.when, input))`. -/
def matchedRules (input : PolicyInput) : List PolicyRule → Except Thrown (List PolicyRule)
  | [] => .ok []
  | rule :: rest => do
      let holds ← conditionMatches rule.condition input
      let others ← matchedRules input rest
      return if holds then rule :: others else others

/-- The `reduce` over the matched rules. -/
def strongest (matched : List PolicyRule) : DecisionOutcome :=
  matched.foldl (fun outcome rule =>
    if strength rule.outcome > strength outcome then rule.outcome else outcome) .allow

/-- `sort()` of texts. -/
def sortTexts (texts : List JsString) : List JsString := texts.insertionSort (· ≤ ·)

/-- The decision by the rules that match. -/
def decision (policy : PolicyDefinition) (decidedAt : JsString) (matched : List PolicyRule) :
    PolicyDecision :=
  if matched.isEmpty then
    { outcome := policy.defaultOutcome.outcome, reasonCodes := [policy.defaultReasonCode]
      policyId := policy.id, policyVersion := policy.version, decidedAt, matchedRuleIds := some [] }
  else
    let decisive := matched.filter fun rule => rule.outcome == strongest matched
    { outcome := strongest matched
      reasonCodes := sortTexts (decisive.map PolicyRule.reasonCode).eraseDups
      policyId := policy.id, policyVersion := policy.version, decidedAt
      matchedRuleIds := some (sortTexts (decisive.map PolicyRule.id)) }

/-- `evaluate(policy, input)`. -/
def evaluate (platform : Platform) (policy : PolicyDefinition) (input : PolicyInput) :
    Except Thrown PolicyDecision := do
  assertPolicyDefinition policy
  if policy.status ≠ .active then
    return { outcome := .deny, reasonCodes := [js "POLICY_NOT_ACTIVE"], policyId := policy.id
             policyVersion := policy.version, decidedAt := input.evaluatedAt
             matchedRuleIds := some [] }
  else
    let _ ← parseAtomicAmount input.amount
    if (platform.dateParse input.evaluatedAt).isNone then
      throw (.registryError .invalidArgument (js "evaluation timestamp is invalid"))
    else
      let matched ← matchedRules input policy.rules
      return decision policy input.evaluatedAt matched

end DeterministicPolicyEngine

/-! ## Accepted rules -/

/-- A rule that passes its checks. -/
structure PolicyRule.Valid (rule : PolicyRule) : Prop where
  id : isRuleId rule.id = true
  reasonCode : assertReasonCode rule.reasonCode = .ok ()
  condition : assertCondition rule.condition = .ok ()

/-- The loop accepts valid rules with identifiers of their own. -/
theorem assertRules_ok_iff {ids : List JsString} {rules : List PolicyRule} :
    assertRules ids rules = .ok () ↔ (rules.map PolicyRule.id).Nodup ∧
      (∀ rule ∈ rules, rule.id ∉ ids) ∧ ∀ rule ∈ rules, rule.Valid := by
  induction rules generalizing ids with
  | nil => simp [assertRules]
  | cons rule rest ih =>
      rw [assertRules, List.map_cons, List.nodup_cons, List.forall_mem_cons, List.forall_mem_cons]
      constructor
      · intro accepted
        split at accepted
        · cases accepted
        rename_i fresh
        simp only [Bool.or_eq_true, Bool.not_eq_true', not_or, Bool.not_eq_false,
          List.contains_eq_mem, decide_eq_true_eq] at fresh
        obtain ⟨_, reason, accepted⟩ := Atomic.ok_of_bind accepted
        obtain ⟨_, condition, accepted⟩ := Atomic.ok_of_bind accepted
        obtain ⟨distinct, others, valid⟩ := ih.mp accepted
        refine ⟨⟨fun repeated => ?_, distinct⟩, ⟨fresh.2, fun other member seen => ?_⟩,
          ⟨fresh.1, reason, condition⟩, valid⟩
        · obtain ⟨other, member, same⟩ := List.mem_map.mp repeated
          exact others other member (same ▸ List.mem_cons_self)
        · exact others other member (List.mem_cons_of_mem _ seen)
      · rintro ⟨⟨apart, distinct⟩, ⟨fresh, others⟩, own, valid⟩
        rw [if_neg (by simp [own.id, fresh]), own.reasonCode]
        change (assertCondition rule.condition >>= fun _ => assertRules (rule.id :: ids) rest) = _
        rw [own.condition]
        refine ih.mpr ⟨distinct, fun other member seen => ?_, valid⟩
        rcases List.mem_cons.mp seen with same | before
        · exact apart (same ▸ List.mem_map_of_mem member)
        · exact others other member before

/-- The order of the rules does not matter for the checks. -/
theorem assertPolicyDefinition_perm {policy : PolicyDefinition} {rules : List PolicyRule}
    (accepted : assertPolicyDefinition policy = .ok ()) (permuted : policy.rules.Perm rules) :
    assertPolicyDefinition { policy with rules } = .ok () := by
  rw [assertPolicyDefinition] at accepted ⊢
  dsimp only
  split at accepted
  · cases accepted
  rename_i named
  split at accepted
  · cases accepted
  rename_i numbered
  split at accepted
  · cases accepted
  rename_i hashed
  obtain ⟨_, reason, accepted⟩ := Atomic.ok_of_bind accepted
  rw [if_neg named, if_neg numbered, if_neg hashed, reason]
  change (if rules.isEmpty then _ else assertRules [] rules) = Except.ok ()
  split at accepted
  · cases accepted
  rename_i some_
  obtain ⟨distinct, _, valid⟩ := assertRules_ok_iff.mp accepted
  have nonempty : ¬ rules.isEmpty = true := by
    rw [List.isEmpty_iff] at some_ ⊢
    exact fun none => some_ (List.perm_nil.mp (none ▸ permuted))
  rw [if_neg nonempty]
  exact assertRules_ok_iff.mpr ⟨(permuted.map _).nodup_iff.mp distinct,
    fun _ _ seen => (List.not_mem_nil seen).elim,
    fun rule member => valid rule (permuted.mem_iff.mpr member)⟩

theorem rules_of_accepted {policy : PolicyDefinition}
    (accepted : assertPolicyDefinition policy = .ok ()) :
    (policy.rules.map PolicyRule.id).Nodup ∧ ∀ rule ∈ policy.rules, rule.Valid := by
  rw [assertPolicyDefinition] at accepted
  split at accepted
  · cases accepted
  split at accepted
  · cases accepted
  split at accepted
  · cases accepted
  obtain ⟨_, _, accepted⟩ := Atomic.ok_of_bind accepted
  split at accepted
  · cases accepted
  obtain ⟨distinct, _, valid⟩ := assertRules_ok_iff.mp accepted
  exact ⟨distinct, valid⟩

/-! ## Matching rules -/

/-- The condition of a rule holds of an input. -/
def PolicyRule.applies (input : PolicyInput) (rule : PolicyRule) : Bool :=
  match conditionMatches rule.condition input with
  | .ok holds => holds
  | .error _ => false

/-- The condition of a valid rule is decided for every amount. -/
theorem PolicyRule.Valid.decided {rule : PolicyRule} (valid : rule.Valid) {input : PolicyInput}
    (atomic : isAtomicAmount input.amount = true) :
    conditionMatches rule.condition input = .ok (rule.applies input) := by
  have limits : ∀ {amount : JsString}, (fun _ => ()) <$> parseAtomicAmount amount = .ok () →
      parseAtomicAmount amount = .ok (decimalValue amount) := by
    intro amount checked
    rw [parseAtomicAmount] at checked ⊢
    split at checked
    · rename_i known
      exact if_pos known
    · cases checked
  have moved : parseAtomicAmount input.amount = .ok (decimalValue input.amount) := if_pos atomic
  have checked := valid.condition
  rw [PolicyRule.applies]
  cases condition : rule.condition with
  | amountGreaterThan amount =>
      rw [condition] at checked
      rw [conditionMatches, moved, limits checked]
      rfl
  | amountAtMost amount =>
      rw [condition] at checked
      rw [conditionMatches, moved, limits checked]
      rfl
  | missingRequiredBinding side => cases side <;> rfl
  | _ => rfl

namespace DeterministicPolicyEngine

theorem matchedRules_eq {input : PolicyInput} (atomic : isAtomicAmount input.amount = true)
    {rules : List PolicyRule} (valid : ∀ rule ∈ rules, rule.Valid) :
    matchedRules input rules = .ok (rules.filter (PolicyRule.applies input)) := by
  induction rules with
  | nil => rfl
  | cons rule rest ih =>
      obtain ⟨own, others⟩ := List.forall_mem_cons.mp valid
      rw [matchedRules, own.decided atomic, ih others, List.filter_cons]
      rfl

/-! ## The strongest outcome -/

theorem strength_injective : Function.Injective strength := by
  intro first second same
  cases first <;> cases second <;> first | rfl | cases same

/-- The outcome of a fold is at least as strong as its start and as each rule, and one of them. -/
theorem foldl_strength (matched : List PolicyRule) (start : DecisionOutcome) :
    let final := matched.foldl (fun outcome rule =>
      if strength rule.outcome > strength outcome then rule.outcome else outcome) start
    strength start ≤ strength final ∧ (∀ rule ∈ matched, strength rule.outcome ≤ strength final) ∧
      (final = start ∨ ∃ rule ∈ matched, rule.outcome = final) := by
  induction matched generalizing start with
  | nil => exact ⟨Nat.le_refl _, fun _ none => (List.not_mem_nil none).elim, .inl rfl⟩
  | cons rule rest ih =>
      rw [List.foldl_cons]
      obtain ⟨least, each, among⟩ :=
        ih (if strength rule.outcome > strength start then rule.outcome else start)
      by_cases stronger : strength rule.outcome > strength start
      · rw [if_pos stronger] at least each among ⊢
        refine ⟨stronger.le.trans least, List.forall_mem_cons.mpr ⟨least, each⟩, ?_⟩
        rcases among with same | ⟨other, member, same⟩
        · exact .inr ⟨rule, List.mem_cons_self, same.symm⟩
        · exact .inr ⟨other, List.mem_cons_of_mem _ member, same⟩
      · rw [if_neg stronger] at least each among ⊢
        refine ⟨least, List.forall_mem_cons.mpr ⟨(Nat.not_lt.mp stronger).trans least, each⟩, ?_⟩
        rcases among with same | ⟨other, member, same⟩
        · exact .inl same
        · exact .inr ⟨other, List.mem_cons_of_mem _ member, same⟩

theorem strongest_ge {matched : List PolicyRule} {rule : PolicyRule} (member : rule ∈ matched) :
    strength rule.outcome ≤ strength (strongest matched) :=
  (foldl_strength matched .allow).2.1 rule member

/-- Some rule has the strongest outcome. -/
theorem exists_strongest {matched : List PolicyRule} (some_ : matched ≠ []) :
    ∃ rule ∈ matched, rule.outcome = strongest matched := by
  rcases (foldl_strength matched .allow).2.2 with weakest | found
  · obtain ⟨rule, rest, rfl⟩ := List.exists_cons_of_ne_nil some_
    refine ⟨rule, List.mem_cons_self, strength_injective (Nat.le_antisymm ?_ ?_)⟩
    · exact strongest_ge List.mem_cons_self
    · have allow : strongest (rule :: rest) = .allow := weakest
      rw [allow]
      cases rule.outcome <;> simp only [strength] <;> omega
  · exact found

theorem strongest_perm {matched others : List PolicyRule} (permuted : matched.Perm others) :
    strongest matched = strongest others := by
  have below : ∀ {first second : List PolicyRule}, first.Perm second →
      strength (strongest first) ≤ strength (strongest second) := by
    intro first second same
    by_cases none : first = []
    · subst none
      rw [List.nil_perm.mp same]
    · obtain ⟨rule, member, outcome⟩ := exists_strongest none
      rw [← outcome]
      exact strongest_ge (same.mem_iff.mp member)
  exact strength_injective (Nat.le_antisymm (below permuted) (below permuted.symm))

/-! ## Sorted texts -/

instance : Std.Total (· ≤ · : JsString → JsString → Prop) :=
  ⟨fun left right => List.le_total left right⟩

instance : IsTrans JsString (· ≤ ·) := ⟨fun _ _ _ => List.le_trans⟩

theorem sortTexts_perm {texts others : List JsString} (permuted : texts.Perm others) :
    sortTexts texts = sortTexts others := by
  apply List.Perm.eq_of_pairwise (fun _ _ _ _ => List.le_antisymm)
    (List.pairwise_insertionSort _ texts) (List.pairwise_insertionSort _ others)
  exact ((List.perm_insertionSort _ texts).trans permuted).trans
    (List.perm_insertionSort _ others).symm

/-- A set lists each of its texts once. -/
theorem nodup_eraseDups (texts : List JsString) : texts.eraseDups.Nodup := by
  generalize length : texts.length = count
  induction count using Nat.strongRecOn generalizing texts with
  | ind count ih =>
      cases texts with
      | nil => exact List.nodup_nil
      | cons text rest =>
          rw [List.eraseDups_cons, List.nodup_cons, List.mem_eraseDups, List.mem_filter]
          refine ⟨fun again => by simp at again, ih _ ?_ _ rfl⟩
          have shorter := List.length_filter_le (fun other => !other == text) rest
          rw [← length, List.length_cons]
          omega

theorem eraseDups_perm {texts others : List JsString} (permuted : texts.Perm others) :
    texts.eraseDups.Perm others.eraseDups := by
  rw [List.perm_ext_iff_of_nodup (nodup_eraseDups _) (nodup_eraseDups _)]
  intro text
  rw [List.mem_eraseDups, List.mem_eraseDups, permuted.mem_iff]

/-- The order of the matching rules does not show in the decision. -/
theorem decision_perm {policy : PolicyDefinition} {decidedAt : JsString}
    {matched others : List PolicyRule} (permuted : matched.Perm others) (rules : List PolicyRule) :
    decision { policy with rules } decidedAt others = decision policy decidedAt matched := by
  have empty : others.isEmpty = matched.isEmpty := by
    rw [Bool.eq_iff_iff, List.isEmpty_iff, List.isEmpty_iff]
    constructor
    · rintro rfl
      exact List.perm_nil.mp permuted
    · rintro rfl
      exact List.nil_perm.mp permuted
  have decisive : (matched.filter fun rule => rule.outcome == strongest matched).Perm
      (others.filter fun rule => rule.outcome == strongest others) := by
    rw [strongest_perm permuted]
    exact permuted.filter _
  rw [decision, decision, empty]
  split
  · rfl
  · rw [PolicyDecision.mk.injEq]
    refine ⟨(strongest_perm permuted).symm, ?_, rfl, rfl, rfl, ?_⟩
    · exact sortTexts_perm (eraseDups_perm (decisive.map PolicyRule.reasonCode).symm)
    · exact congrArg some (sortTexts_perm (decisive.map PolicyRule.id).symm)

/-! ## Evaluation -/

section Evaluation

variable {platform : Platform} {policy : PolicyDefinition} {input : PolicyInput}
  {decidedAt : JsString} {matched : List PolicyRule}

/-- An active policy decides by the rules that match. -/
theorem evaluate_active (accepted : assertPolicyDefinition policy = .ok ())
    (atomic : isAtomicAmount input.amount = true)
    (timed : (platform.dateParse input.evaluatedAt).isSome = true)
    (active : policy.status = .active) :
    evaluate platform policy input = .ok (decision policy input.evaluatedAt
      (policy.rules.filter (PolicyRule.applies input))) := by
  have parsed : parseAtomicAmount input.amount = .ok (decimalValue input.amount) := if_pos atomic
  have untimed : ¬ (platform.dateParse input.evaluatedAt).isNone = true := by
    rw [Option.isNone_iff_eq_none, ← Ne, ← Option.isSome_iff_ne_none]
    exact timed
  rw [evaluate, accepted]
  change (if policy.status ≠ .active then _ else _) = _
  rw [if_neg (not_not.mpr active), parsed]
  change (if (platform.dateParse input.evaluatedAt).isNone then _ else _) = _
  rw [if_neg untimed, matchedRules_eq atomic (rules_of_accepted accepted).2]
  rfl

/-- Any other policy denies. -/
theorem evaluate_inactive (accepted : assertPolicyDefinition policy = .ok ())
    (inactive : policy.status ≠ .active) : evaluate platform policy input =
      .ok { outcome := .deny, reasonCodes := [js "POLICY_NOT_ACTIVE"], policyId := policy.id
            policyVersion := policy.version, decidedAt := input.evaluatedAt
            matchedRuleIds := some [] } := by
  rw [evaluate, accepted]
  change (if policy.status ≠ .active then _ else _) = _
  rw [if_pos inactive]
  rfl

/-- The default is no allowance. -/
theorem decision_allow_iff : (decision policy decidedAt matched).outcome = .allow ↔
    matched ≠ [] ∧ ∀ rule ∈ matched, rule.outcome = .allow := by
  rw [decision]
  split
  · rename_i none
    rw [List.isEmpty_iff] at none
    subst none
    cases policy.defaultOutcome <;> simp [DefaultOutcome.outcome]
  · rename_i some_
    rw [List.isEmpty_iff] at some_
    dsimp only
    rw [and_iff_right some_]
    constructor
    · intro allow rule member
      have least := strongest_ge member
      rw [allow] at least
      cases outcome : rule.outcome with
      | allow => rfl
      | _ =>
          rw [outcome] at least
          exact absurd least (by decide)
    · intro each
      obtain ⟨rule, member, same⟩ := exists_strongest some_
      rw [← same, each rule member]

/-- A denial wins. -/
theorem decision_deny {rule : PolicyRule} (member : rule ∈ matched) (deny : rule.outcome = .deny) :
    (decision policy decidedAt matched).outcome = .deny := by
  have some_ : ¬ matched.isEmpty = true := by
    rw [List.isEmpty_iff]
    exact List.ne_nil_of_mem member
  have most : ∀ outcome, strength outcome ≤ strength .deny := by
    intro outcome
    cases outcome <;> simp [strength]
  have least := strongest_ge member
  rw [deny] at least
  rw [decision, if_neg some_]
  apply strength_injective
  exact Nat.le_antisymm (most _) least

/-- The reported rules are those of the winning outcome. -/
theorem decision_ruleIds : ∃ ids, (decision policy decidedAt matched).matchedRuleIds = some ids ∧
    ids.Perm ((matched.filter fun rule =>
      rule.outcome == (decision policy decidedAt matched).outcome).map PolicyRule.id) := by
  rw [decision]
  split
  · rename_i none
    rw [List.isEmpty_iff] at none
    subst none
    exact ⟨[], rfl, .nil⟩
  · exact ⟨_, rfl, List.perm_insertionSort _ _⟩

/-- **Evaluation is independent of the order of the rules.** For every accepted policy and valid
input there is one decision, which every permutation of the rules gives. It is an allowance exactly
if the policy is active, some rule matches and every matching rule allows; it is a denial if a
denying rule matches; and an active policy reports exactly the matching rules that have the outcome
of the decision. -/
theorem evaluate_decides (accepted : assertPolicyDefinition policy = .ok ())
    (atomic : isAtomicAmount input.amount = true)
    (timed : (platform.dateParse input.evaluatedAt).isSome = true) :
    ∃ decision : PolicyDecision,
      (∀ rules, policy.rules.Perm rules →
        evaluate platform { policy with rules } input = .ok decision) ∧
      (decision.outcome = .allow ↔ policy.status = .active ∧
        (∃ rule ∈ policy.rules, conditionMatches rule.condition input = .ok true) ∧
        ∀ rule ∈ policy.rules, conditionMatches rule.condition input = .ok true →
          rule.outcome = .allow) ∧
      ((∃ rule ∈ policy.rules, conditionMatches rule.condition input = .ok true ∧
        rule.outcome = .deny) → decision.outcome = .deny) ∧
      (policy.status = .active → ∃ ids, decision.matchedRuleIds = some ids ∧
        ids.Perm ((policy.rules.filter fun rule =>
          rule.applies input && rule.outcome == decision.outcome).map PolicyRule.id)) := by
  have valid := (rules_of_accepted accepted).2
  have holds : ∀ rule ∈ policy.rules,
      (conditionMatches rule.condition input = .ok true ↔ rule.applies input = true) := by
    intro rule member
    rw [(valid rule member).decided atomic, Except.ok.injEq]
  by_cases active : policy.status = .active
  · refine ⟨decision policy input.evaluatedAt (policy.rules.filter (PolicyRule.applies input)),
      fun rules permuted => ?_, ?_, ?_, fun _ => ?_⟩
    · rw [evaluate_active (assertPolicyDefinition_perm accepted permuted) atomic timed active]
      exact congrArg Except.ok (decision_perm (permuted.filter _) rules)
    · rw [decision_allow_iff, and_iff_right active]
      refine and_congr ?_ ?_
      · rw [Ne, List.filter_eq_nil_iff]
        push Not
        exact exists_congr fun rule => and_congr_right fun member => (holds rule member).symm
      · simp only [List.mem_filter, and_imp]
        exact forall_congr' fun rule => forall_congr' fun member => by rw [holds rule member]
    · rintro ⟨rule, member, applies, deny⟩
      exact decision_deny (List.mem_filter.mpr ⟨member, (holds rule member).mp applies⟩) deny
    · obtain ⟨ids, reported, permuted⟩ := @decision_ruleIds policy input.evaluatedAt
        (policy.rules.filter (PolicyRule.applies input))
      rw [List.filter_filter] at permuted
      refine ⟨ids, reported, ?_⟩
      simp only [Bool.and_comm]
      exact permuted
  · refine ⟨{ outcome := .deny, reasonCodes := [js "POLICY_NOT_ACTIVE"], policyId := policy.id
              policyVersion := policy.version, decidedAt := input.evaluatedAt
              matchedRuleIds := some [] }, fun rules permuted => ?_, ?_, fun _ => rfl,
      fun known => absurd known active⟩
    · exact evaluate_inactive (assertPolicyDefinition_perm accepted permuted) active
    · simp [active]

end Evaluation

namespace TransferPolicy

/-- A transfer of more than the limit needs an approval, an unbound side refuses it. -/
def policy : PolicyDefinition where
  id := js "IW:POLICY:transfer"
  version := js "1.0.0"
  status := .active
  documentHash := js "sha256:test"
  createdAt := js "2026-08-08T00:00:00.000Z"
  defaultOutcome := .deny
  defaultReasonCode := js "NO_ALLOW_RULE"
  rules :=
    [{ id := js "approve-large", condition := .amountGreaterThan (js "100")
       outcome := .requiresApproval, reasonCode := js "LIMIT_APPROVAL_REQUIRED" },
     { id := js "deny-binding", condition := .missingRequiredBinding .either
       outcome := .deny, reasonCode := js "IDENTITY_BINDING_REQUIRED" }]

def input : PolicyInput where
  assetStatus := .active
  senderHasActiveSourceBinding := false
  receiverHasActiveDestinationBinding := true
  amount := js "101"
  operation := js "TRANSFER"
  sourceNetworkId := js "IW:NETWORK:a"
  destinationNetworkId := some (js "IW:NETWORK:b")
  metadata := []
  evaluatedAt := js "2026-08-08T00:00:00.000Z"

theorem accepted : assertPolicyDefinition policy = .ok () := by
  rw [assertPolicyDefinition, if_neg (by decide), if_neg (by decide), if_neg (by decide)]
  rfl

/-- Both rules match, in either order, and the transfer is denied. -/
theorem denied : ∃ decision : PolicyDecision, decision.outcome = .deny ∧
    ∀ rules, policy.rules.Perm rules →
      evaluate isoPlatform { policy with rules } input = .ok decision := by
  obtain ⟨decision, same, _, denial, _⟩ := @evaluate_decides isoPlatform policy input accepted
    (by decide) (by decide)
  refine ⟨decision, ?_, same⟩
  apply denial
  exact ⟨policy.rules[1], List.getElem_mem _, rfl, rfl⟩

end TransferPolicy

end DeterministicPolicyEngine
end InterWeave
