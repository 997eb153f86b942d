import InterWeave.Atomic.Machine
import InterWeave.Bridge.TransactionEngine
import InterWeave.Core.OrderedMap

/-! # The registry of policy versions

A policy is registered version by version, under the identifier and the version joined by an
at sign. Activating a version retires the active version of its policy. Every call runs
without suspending, so that calls happen one after another.
-/

namespace InterWeave

inductive PolicyStatus where
  | draft
  | active
  | retired
  deriving DecidableEq, Repr

inductive AssetStatus where
  | active
  | paused
  | degraded
  | retired
  deriving DecidableEq, Repr

inductive BindingSide where
  | sender
  | receiver
  | either
  deriving DecidableEq, Repr

structure NetworkPair where
  source : JsString
  destination : Option JsString
  deriving DecidableEq, Repr

inductive PolicyCondition where
  | always
  | amountGreaterThan (amount : JsString)
  | amountAtMost (amount : JsString)
  | assetStatusIn (statuses : List AssetStatus)
  | operationIn (operations : List JsString)
  | networkPairIn (pairs : List NetworkPair)
  | missingRequiredBinding (side : BindingSide)
  | metadataEquals (key value : JsString)
  | metadataMissing (key : JsString)
  deriving DecidableEq, Repr

structure PolicyRule where
  id : JsString
  condition : PolicyCondition
  outcome : DecisionOutcome
  reasonCode : JsString
  deriving DecidableEq, Repr

/-- The outcomes that may be a default. -/
inductive DefaultOutcome where
  | deny
  | requiresApproval
  deriving DecidableEq, Repr

structure PolicyDefinition where
  id : JsString
  version : JsString
  status : PolicyStatus
  documentHash : JsString
  createdAt : JsString
  defaultOutcome : DefaultOutcome
  defaultReasonCode : JsString
  rules : List PolicyRule
  deriving DecidableEq, Repr

/-! ## Checks -/

def isDigit (unit : UInt16) : Bool := 48 ≤ unit && unit ≤ 57

def isCapital (unit : UInt16) : Bool := 65 ≤ unit && unit ≤ 90

/-- Digits, and up to so many groups of a dot and more digits. -/
def isDotted : Nat → JsString → Bool
  | 0, text => (text.dropWhile isDigit).isEmpty
  | groups + 1, text =>
      match text.dropWhile isDigit with
      | [] => true
      | unit :: rest => unit == 46 && rest.head?.any isDigit && isDotted groups rest

/-- `/^[1-9][0-9]*(\.[0-9]+){0,2}$/`. -/
def isVersion (value : JsString) : Bool :=
  (value.head?.any fun unit => 49 ≤ unit && unit ≤ 57) && isDotted 2 value

/-- `/^[A-Za-z0-9._-]+$/`. -/
def isRuleId (value : JsString) : Bool :=
  !value.isEmpty && value.all fun unit => isCapital unit || (97 ≤ unit && unit ≤ 122) ||
    isDigit unit || unit == 46 || unit == 95 || unit == 45

/-- `/^[A-Z][A-Z0-9_]{1,63}$/`. -/
def isReasonCode : JsString → Bool
  | [] => false
  | first :: rest => isCapital first && 1 ≤ rest.length && rest.length ≤ 63 &&
      rest.all fun unit => isCapital unit || isDigit unit || unit == 95

def invalidPolicy (message : JsString) : Except Thrown Unit :=
  .error (.registryError .invalidArgument message)

def assertReasonCode (value : JsString) : Except Thrown Unit :=
  if isReasonCode value then .ok () else invalidPolicy (js "invalid policy reason code: " ++ value)

def assertCondition : PolicyCondition → Except Thrown Unit
  | .amountGreaterThan amount => (fun _ => ()) <$> parseAtomicAmount amount
  | .amountAtMost amount => (fun _ => ()) <$> parseAtomicAmount amount
  | .metadataEquals key _ =>
      if key.isBlank then invalidPolicy (js "metadata condition key is required") else .ok ()
  | .metadataMissing key =>
      if key.isBlank then invalidPolicy (js "metadata condition key is required") else .ok ()
  | .operationIn operations =>
      if operations.isEmpty then invalidPolicy (js "operation condition cannot be empty")
      else .ok ()
  | .assetStatusIn statuses =>
      if statuses.isEmpty then invalidPolicy (js "asset status condition cannot be empty")
      else .ok ()
  | .networkPairIn pairs =>
      if pairs.isEmpty then invalidPolicy (js "network pair condition cannot be empty") else .ok ()
  | .always => .ok ()
  | .missingRequiredBinding _ => .ok ()

/-- The loop over the rules, with the identifiers seen so far. -/
def assertRules : List JsString → List PolicyRule → Except Thrown Unit
  | _, [] => .ok ()
  | ids, rule :: rest =>
      if !isRuleId rule.id || ids.contains rule.id then
        invalidPolicy (js "invalid or duplicate rule ID: " ++ rule.id)
      else do
        assertReasonCode rule.reasonCode
        assertCondition rule.condition
        assertRules (rule.id :: ids) rest

def assertPolicyDefinition (policy : PolicyDefinition) : Except Thrown Unit :=
  if !policy.id.startsWith (js "IW:POLICY:") || policy.id.length = 10 then
    invalidPolicy (js "invalid policy ID")
  else if !isVersion policy.version then
    invalidPolicy (js "policy version must be numeric and explicit")
  else if policy.documentHash.isBlank then
    invalidPolicy (js "policy document hash is required")
  else do
    assertReasonCode policy.defaultReasonCode
    if policy.rules.isEmpty then
      invalidPolicy (js "a policy must contain at least one explicit rule")
    else assertRules [] policy.rules

/-! ## The registry -/

abbrev PolicyRegistry : Type := OrderedMap JsString PolicyDefinition

namespace PolicyRegistry

/-- `#key(id, version)`. -/
def key (id version : JsString) : JsString := id ++ js "@" ++ version

def register (registry : PolicyRegistry) (policy : PolicyDefinition) :
    Except Thrown (PolicyDefinition × PolicyRegistry) := do
  assertPolicyDefinition policy
  if (registry.find? (key policy.id policy.version)).isSome then
    .error (.registryError .alreadyExists
      (js "policy version already exists: " ++ key policy.id policy.version))
  else if policy.status = .active ∧
      ∃ item ∈ registry.values, item.id = policy.id ∧ item.status = .active then
    .error (.registryError .conflict (js "policy already has an active version: " ++ policy.id))
  else .ok (policy, registry.set (key policy.id policy.version) policy)

def get (registry : PolicyRegistry) (id version : JsString) : Option PolicyDefinition :=
  registry.find? (key id version)

def getActive (registry : PolicyRegistry) (id : JsString) : Option PolicyDefinition :=
  registry.values.find? fun item => item.id = id ∧ item.status = .active

/-- The loop of an activation: the active versions of the policy are retired. -/
def retire (id : JsString) (policy : PolicyDefinition) : PolicyDefinition :=
  if policy.id = id ∧ policy.status = .active then { policy with status := .retired } else policy

def activate (registry : PolicyRegistry) (id version : JsString) :
    Except Thrown (PolicyDefinition × PolicyRegistry) :=
  match registry.find? (key id version) with
  | none =>
      .error (.registryError .notFound (js "policy version not found: " ++ key id version))
  | some selected =>
      if selected.status = .retired then
        .error (.registryError .conflict (js "retired policy versions cannot be reactivated"))
      else
        let activated := { selected with status := .active }
        .ok (activated, (registry.mapValues (retire id)).set (key id version) activated)

/-- A call that may change the registry. -/
inductive Call where
  | register (policy : PolicyDefinition)
  | activate (id version : JsString)

def answer (registry : PolicyRegistry) : Call → Except Thrown (PolicyDefinition × PolicyRegistry)
  | .register policy => registry.register policy
  | .activate id version => registry.activate id version

/-- The registry as a machine: a refused call leaves it as it is. -/
def machine : Atomic.Machine PolicyRegistry Call (Except Thrown PolicyDefinition) where
  execute call := Atomic.commit fun registry => registry.answer call

end PolicyRegistry
end InterWeave
