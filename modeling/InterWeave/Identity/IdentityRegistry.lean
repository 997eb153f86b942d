import InterWeave.Atomic.Machine
import InterWeave.Core.Numbers
import Mathlib.Data.List.AList

/-! # The registry of identities

`InMemoryIdentityRegistry` of `identity-registry.ts`. A call runs up to the service that it awaits
and goes on when that service answers, and any other calls run in between: what a call has read of
the registry or of the clock before, it keeps. Calls that only return copies (`getIdentity`,
`auditTrail`) are left out.
-/

namespace InterWeave

/-! ## Records -/

inductive NetworkIdentityLocator where
  | evm (address : JsString)
  | canton (party : JsString)
  deriving DecidableEq, Repr

/-- The fields of `Network` that the registry reads. -/
structure Network where
  type : JsString
  enabled : Bool
  deriving DecidableEq, Repr

inductive IdentityProofKind where
  | evmPersonalSign
  | cantonAuthorizedCommand
  deriving DecidableEq, Repr

structure IdentityChallenge where
  id : JsString
  identityId : JsString
  networkId : JsString
  locator : NetworkIdentityLocator
  proofKind : IdentityProofKind
  nonce : JsString
  message : JsString
  issuedAt : JsString
  expiresAt : JsString
  consumedAt : Option JsString
  deriving DecidableEq, Repr

structure IdentityProof where
  kind : IdentityProofKind
  proof : JsString
  keyId : Option JsString
  deriving DecidableEq, Repr

structure VerifiedIdentityProof where
  method : JsString
  proofFingerprint : JsString
  deriving DecidableEq, Repr

structure NetworkIdentity where
  bindingId : JsString
  networkId : JsString
  locator : NetworkIdentityLocator
  proofMethod : JsString
  verifiedAt : JsString
  expiresAt : Option JsString
  revokedAt : Option JsString
  deriving DecidableEq, Repr

structure Identity where
  id : JsString
  displayName : Option JsString
  bindings : List NetworkIdentity
  createdAt : JsString
  deriving DecidableEq, Repr

inductive IdentityAuditAction where
  | identityCreated
  | challengeIssued
  | bindingVerified
  | bindingRevoked
  deriving DecidableEq, Repr

structure IdentityBindingAuditEvent where
  eventId : JsString
  identityId : JsString
  bindingId : Option JsString
  challengeId : Option JsString
  action : IdentityAuditAction
  actor : JsString
  occurredAt : JsString
  proofFingerprint : Option JsString
  deriving DecidableEq, Repr

structure IdentityChallengeRequest where
  identityId : JsString
  networkId : JsString
  locator : NetworkIdentityLocator
  ttlSeconds : JsNumber

def NetworkIdentityLocator.kind : NetworkIdentityLocator → JsString
  | .evm _ => js "EVM"
  | .canton _ => js "CANTON"

def NetworkIdentityLocator.proofKind : NetworkIdentityLocator → IdentityProofKind
  | .evm _ => .evmPersonalSign
  | .canton _ => .cantonAuthorizedCommand

def IdentityProofKind.text : IdentityProofKind → JsString
  | .evmPersonalSign => js "EVM_PERSONAL_SIGN"
  | .cantonAuthorizedCommand => js "CANTON_AUTHORIZED_COMMAND"

/-- `/[0-9a-fA-F]/`. -/
def isHexadecimal (unit : UInt16) : Bool :=
  (48 ≤ unit && unit ≤ 57) || (97 ≤ unit && unit ≤ 102) || (65 ≤ unit && unit ≤ 70)

/-- `/^0x[0-9a-fA-F]{40}$/`. -/
def isEvmAddress (address : JsString) : Bool :=
  address.startsWith (js "0x") && (address.drop 2).length = 40 && (address.drop 2).all isHexadecimal

def assertEvmAddress (address : JsString) : Except Thrown Unit :=
  if isEvmAddress address then .ok () else .error (.error (js "invalid EVM address: " ++ address))

/-- `if (condition) throw new RegistryError(code, message)`. -/
def throwIf (condition : Bool) (code : RegistryErrorCode) (message : JsString) :
    Except Thrown Unit :=
  if condition then .error (.registryError code message) else .ok ()

/-- `if (!value) throw new RegistryError(code, message)`, and the value. -/
def orThrow {α : Type} (value : Option α) (code : RegistryErrorCode) (message : JsString) :
    Except Thrown α :=
  match value with
  | none => .error (.registryError code message)
  | some value => .ok value

/-- `#normalizeLocator`. -/
def normalizeLocator : NetworkIdentityLocator → Except Thrown NetworkIdentityLocator
  | .evm address => do
      assertEvmAddress address
      return .evm address.toLowerCase
  | .canton party => do
      throwIf party.isBlank .invalidArgument (js "Canton party is required")
      return .canton party

/-- `#locatorKey`. -/
def locatorKey (networkId : JsString) (locator : NetworkIdentityLocator) : JsString :=
  networkId ++ js "|" ++ locator.kind ++ js "|" ++
    match locator with
    | .evm address => address.toLowerCase
    | .canton party => party

/-- `#assertActor`. -/
def assertActor (actor : JsString) : Except Thrown Unit :=
  throwIf actor.isBlank .invalidArgument (js "audit actor is required")

/-- `!value` of an optional string. -/
def isMissing (value : Option JsString) : Bool := value.all List.isEmpty

def identityChallengeMessage (challenge : IdentityChallenge) : JsString :=
  let locator := match challenge.locator with
    | .evm address => js "EVM:" ++ address.toLowerCase
    | .canton party => js "CANTON:" ++ party
  JsString.join (js "\n") [js "InterWeave Identity Binding", js "Version: 1",
    js "Challenge: " ++ challenge.id, js "Identity: " ++ challenge.identityId,
    js "Network: " ++ challenge.networkId, js "Locator: " ++ locator,
    js "Nonce: " ++ challenge.nonce, js "Issued At: " ++ challenge.issuedAt,
    js "Expires At: " ++ challenge.expiresAt]

/-! ## The registry -/

/-- The platform, and the kinds of proofs that verifiers are configured for. -/
structure IdentityRegistryDependencies where
  platform : Platform
  verifiers : List IdentityProofKind

/-- The fields of the registry, with every identity under its own ID. The audit has its last event
first. -/
structure InMemoryIdentityRegistry where
  identities : AList fun _ : JsString => Identity
  challenges : AList fun _ : JsString => IdentityChallenge
  audit : List IdentityBindingAuditEvent
  filed : ∀ id identity, identities.lookup id = some identity → identity.id = id

/-- What `verifyChallenge` keeps while the verifier runs. -/
structure SuspendedVerification where
  challengeId : JsString
  challenge : IdentityChallenge
  now : Int
  bindingExpiresAt : Option JsString
  actor : JsString
  deriving DecidableEq, Repr

/-- `!binding.revokedAt && (!binding.expiresAt || Date.parse(binding.expiresAt) > now)`. A
revocation is never an empty text. -/
def NetworkIdentity.activeAt (platform : Platform) (now : Int) (binding : NetworkIdentity) : Bool :=
  binding.revokedAt.isNone && (isMissing binding.expiresAt ||
    numberLt (some now) (binding.expiresAt.bind platform.dateParse))

/-- The binding is active and has the key of a network and locator. -/
def NetworkIdentity.bindsAt (platform : Platform) (now : Int) (key : JsString)
    (binding : NetworkIdentity) : Bool :=
  binding.activeAt platform now && locatorKey binding.networkId binding.locator = key

def SuspendedVerification.key (verification : SuspendedVerification) : JsString :=
  locatorKey verification.challenge.networkId verification.challenge.locator

/-- The binding that a verified proof creates. -/
def SuspendedVerification.binding (platform : Platform) (verification : SuspendedVerification)
    (random : JsString)
    (verified : VerifiedIdentityProof) : NetworkIdentity :=
  { bindingId := js "IW:BINDING:" ++ random, networkId := verification.challenge.networkId
    locator := verification.challenge.locator, proofMethod := verified.method
    verifiedAt := platform.toISOString verification.now, expiresAt := verification.bindingExpiresAt
    revokedAt := none }

namespace InMemoryIdentityRegistry

def empty : InMemoryIdentityRegistry where
  identities := ∅
  challenges := ∅
  audit := []
  filed id identity found := by
    rw [AList.lookup_empty] at found
    cases found

/-- The bindings of all identities. -/
def bindings (registry : InMemoryIdentityRegistry) : List NetworkIdentity :=
  registry.identities.entries.flatMap fun entry => entry.snd.bindings

/-- `this.#identities.set(identity.id, identity)`. -/
def setIdentity (registry : InMemoryIdentityRegistry) (identity : Identity) :
    InMemoryIdentityRegistry :=
  { registry with
    identities := registry.identities.insert identity.id identity
    filed := by
      intro id other found
      by_cases same : id = identity.id
      · rw [same, AList.lookup_insert] at found
        cases found
        exact same.symm
      · rw [AList.lookup_insert_ne same] at found
        exact registry.filed id other found }

/-- `this.#challenges.set(id, challenge)`. -/
def setChallenge (registry : InMemoryIdentityRegistry) (id : JsString)
    (challenge : IdentityChallenge) : InMemoryIdentityRegistry :=
  { registry with challenges := registry.challenges.insert id challenge }

/-- `#record`. The calls have asserted their actor when they began. -/
def record (registry : InMemoryIdentityRegistry) (event : IdentityBindingAuditEvent) :
    InMemoryIdentityRegistry :=
  { registry with audit := event :: registry.audit }

def auditId (random : JsString) : JsString := js "IW:IDENTITY_AUDIT:" ++ random

variable (dependencies : IdentityRegistryDependencies) (registry : InMemoryIdentityRegistry)
  (now : Int) (randomId : Nat → JsString)

def createIdentity (id : JsString) (displayName : Option JsString) (actor : JsString) :
    Except Thrown (Identity × InMemoryIdentityRegistry) := do
  throwIf (!id.startsWith (js "IW:IDENTITY:") || id.length = (js "IW:IDENTITY:").length)
    .invalidArgument (js "invalid identity ID")
  assertActor actor
  throwIf (displayName.any JsString.isBlank) .invalidArgument
    (js "display name cannot be blank")
  throwIf (registry.identities.lookup id).isSome .alreadyExists
    (js "identity already exists: " ++ id)
  let createdAt := dependencies.platform.toISOString now
  let identity : Identity := { id, displayName, bindings := [], createdAt }
  return (identity, (registry.setIdentity identity).record
    { eventId := auditId (randomId 0), identityId := id, bindingId := none, challengeId := none
      action := .identityCreated, actor, occurredAt := createdAt, proofFingerprint := none })

/-- `issueChallenge`, up to the network registry. -/
def issueChallenge (input : IdentityChallengeRequest) (actor : JsString) : Except Thrown Unit := do
  assertActor actor
  throwIf (registry.identities.lookup input.identityId).isNone .notFound
    (js "identity not found: " ++ input.identityId)

/-- `issueChallenge`, from the answer of the network registry on. -/
def issueChallengeResumed (input : IdentityChallengeRequest) (actor : JsString)
    (network : Option Network) : Except Thrown (IdentityChallenge × InMemoryIdentityRegistry) := do
  let network ← orThrow (network.filter Network.enabled) .notFound
    (js "enabled network not found: " ++ input.networkId)
  throwIf (network.type ≠ input.locator.kind) .invalidArgument
    (js "identity locator does not match network type")
  throwIf (!input.ttlSeconds.isSafeInteger || input.ttlSeconds.lt (.ofNat 1) ||
      JsNumber.lt (.ofNat 900) input.ttlSeconds) .invalidArgument
    (js "challenge TTL must be from 1 to 900 seconds")
  let locator ← normalizeLocator input.locator
  let id := js "IW:IDENTITY_CHALLENGE:" ++ randomId 0
  let base : IdentityChallenge :=
    { id, identityId := input.identityId, networkId := input.networkId, locator
      proofKind := locator.proofKind, nonce := randomId 1, message := []
      issuedAt := dependencies.platform.toISOString now
      expiresAt := dependencies.platform.toISOString (now + input.ttlSeconds.toInt * 1000)
      consumedAt := none }
  let challenge := { base with message := identityChallengeMessage base }
  return (challenge, (registry.setChallenge id challenge).record
    { eventId := auditId (randomId 2), identityId := input.identityId, bindingId := none
      challengeId := some id, action := .challengeIssued, actor, occurredAt := base.issuedAt
      proofFingerprint := none })

/-- `verifyChallenge`, up to the verifier. -/
def verifyChallenge (challengeId : JsString) (proof : IdentityProof)
    (bindingExpiresAt : Option JsString) (actor : JsString) : Except Thrown SuspendedVerification := do
  assertActor actor
  let challenge ← orThrow (registry.challenges.lookup challengeId) .notFound
    (js "challenge not found: " ++ challengeId)
  throwIf challenge.consumedAt.isSome .conflict (js "challenge has already been consumed")
  throwIf (numberLe (dependencies.platform.dateParse challenge.expiresAt) (some now)) .conflict
    (js "challenge has expired")
  throwIf (proof.kind ≠ challenge.proofKind) .invalidArgument
    (js "proof kind does not match challenge")
  throwIf (bindingExpiresAt.any fun expiresAt => (dependencies.platform.dateParse expiresAt).isNone ||
      numberLe (dependencies.platform.dateParse expiresAt) (some now)) .invalidArgument
    (js "binding expiry must be a valid future timestamp")
  throwIf (proof.kind ∉ dependencies.verifiers) .invalidArgument
    (js "no verifier configured for " ++ proof.kind.text)
  return { challengeId, challenge, now, bindingExpiresAt, actor }

/-- The loops of `verifyChallenge` over all bindings. -/
def isBound (platform : Platform) (key : JsString) : Bool :=
  registry.bindings.any fun binding => binding.bindsAt platform now key

/-- `verifyChallenge`, from the answer of the verifier on. -/
def verifyChallengeResumed (verification : SuspendedVerification)
    (verified : Option VerifiedIdentityProof) :
    Except Thrown (NetworkIdentity × InMemoryIdentityRegistry) := do
  let challenge := verification.challenge
  let verified ← orThrow verified .invalidArgument (js "proof of control verification failed")
  let identity ← orThrow (registry.identities.lookup challenge.identityId) .notFound
    (js "identity not found: " ++ challenge.identityId)
  throwIf (registry.isBound verification.now dependencies.platform verification.key) .conflict
    (js "network identity already has an active binding")
  let binding := verification.binding dependencies.platform (randomId 0) verified
  let occurredAt := dependencies.platform.toISOString verification.now
  return (binding, ((registry.setIdentity
      { identity with bindings := identity.bindings ++ [binding] }).setChallenge
      verification.challengeId { challenge with consumedAt := some occurredAt }).record
    { eventId := auditId (randomId 1), identityId := identity.id
      bindingId := some binding.bindingId, challengeId := some verification.challengeId
      action := .bindingVerified, actor := verification.actor, occurredAt
      proofFingerprint := some verified.proofFingerprint })

def revokeBinding (identityId bindingId actor : JsString) :
    Except Thrown (NetworkIdentity × InMemoryIdentityRegistry) := do
  assertActor actor
  let identity ← orThrow (registry.identities.lookup identityId) .notFound
    (js "identity not found: " ++ identityId)
  let binding ← orThrow (identity.bindings.find? (·.bindingId = bindingId)) .notFound
    (js "binding not found: " ++ bindingId)
  throwIf binding.revokedAt.isSome .conflict (js "binding is already revoked")
  let occurredAt := dependencies.platform.toISOString now
  let revoked := { binding with revokedAt := some occurredAt }
  return (revoked, (registry.setIdentity { identity with
      bindings := identity.bindings.map fun item =>
        if item.bindingId = bindingId then revoked else item }).record
    { eventId := auditId (randomId 0), identityId, bindingId := some bindingId
      challengeId := none, action := .bindingRevoked, actor, occurredAt
      proofFingerprint := none })

def activeBindings (identityId : JsString) (networkId : Option JsString) :
    Except Thrown (List NetworkIdentity) := do
  let identity ← orThrow (registry.identities.lookup identityId) .notFound
    (js "identity not found: " ++ identityId)
  return identity.bindings.filter fun binding => binding.activeAt dependencies.platform now &&
    networkId.all (· = binding.networkId)

end InMemoryIdentityRegistry

/-! ## Calls -/

/-- The registry with its clock and the calls that await a service. -/
structure IdentityProcess where
  registry : InMemoryIdentityRegistry
  now : Int
  issuing : List (IdentityChallengeRequest × JsString)
  verifying : List SuspendedVerification

/-- What happens to the registry: a call begins or ends, an awaited service answers one of the
calls that wait for it, or the clock moves. -/
inductive IdentityCall where
  | clock (reading : Int)
  | createIdentity (id : JsString) (displayName : Option JsString) (actor : JsString)
      (randomId : Nat → JsString)
  | issueChallenge (input : IdentityChallengeRequest) (actor : JsString)
  | networkReturned (call : Nat) (answer : Except Thrown (Option Network))
      (randomId : Nat → JsString)
  | verifyChallenge (challengeId : JsString) (proof : IdentityProof)
      (bindingExpiresAt : Option JsString) (actor : JsString)
  | verifierReturned (call : Nat) (answer : Except Thrown (Option VerifiedIdentityProof))
      (randomId : Nat → JsString)
  | revokeBinding (identityId bindingId actor : JsString) (randomId : Nat → JsString)
  | activeBindings (identityId : JsString) (networkId : Option JsString)

inductive IdentityReply where
  | nothing
  | identity (identity : Identity)
  | challenge (challenge : IdentityChallenge)
  | binding (binding : NetworkIdentity)
  | bindings (bindings : List NetworkIdentity)
  deriving DecidableEq, Repr

namespace IdentityProcess

/-- The registry is empty and no call waits. -/
def initial (now : Int) : IdentityProcess := ⟨.empty, now, [], []⟩

variable {α : Type}

/-- A call that has thrown has changed nothing. -/
def settle (process : IdentityProcess) (reply : α → IdentityReply)
    (outcome : Except Thrown (α × InMemoryIdentityRegistry)) :
    Except Thrown IdentityReply × IdentityProcess :=
  match outcome with
  | .ok (value, registry) => (.ok (reply value), { process with registry })
  | .error error => (.error error, process)

/-- A call begins to wait. -/
def suspend (process : IdentityProcess) (outcome : Except Thrown α)
    (waits : α → IdentityProcess) : Except Thrown IdentityReply × IdentityProcess :=
  match outcome with
  | .ok value => (.ok .nothing, waits value)
  | .error error => (.error error, process)

end IdentityProcess

open InMemoryIdentityRegistry in
/-- The registry, one uninterrupted part of a call after another. -/
def identityRegistry (dependencies : IdentityRegistryDependencies) :
    Atomic.Machine IdentityProcess IdentityCall (Except Thrown IdentityReply) where
  execute call process :=
    match call with
    | .clock reading => (.ok .nothing, { process with now := reading })
    | .createIdentity id displayName actor randomId =>
        process.settle .identity
          (createIdentity dependencies process.registry process.now randomId id displayName actor)
    | .issueChallenge input actor =>
        process.suspend (process.registry.issueChallenge input actor) fun _ =>
          { process with issuing := process.issuing ++ [(input, actor)] }
    | .networkReturned call answer randomId =>
        match process.issuing[call]? with
        | none => (.ok .nothing, process)
        | some (input, actor) =>
            { process with issuing := process.issuing.eraseIdx call }.settle .challenge
              (answer >>= issueChallengeResumed dependencies process.registry process.now randomId
                input actor)
    | .verifyChallenge challengeId proof bindingExpiresAt actor =>
        process.suspend (verifyChallenge dependencies process.registry process.now challengeId proof
          bindingExpiresAt actor) fun verification =>
            { process with verifying := process.verifying ++ [verification] }
    | .verifierReturned call answer randomId =>
        match process.verifying[call]? with
        | none => (.ok .nothing, process)
        | some verification =>
            { process with verifying := process.verifying.eraseIdx call }.settle .binding
              (answer >>= verifyChallengeResumed dependencies process.registry randomId
                verification)
    | .revokeBinding identityId bindingId actor randomId =>
        process.settle .binding
          (revokeBinding dependencies process.registry process.now randomId identityId bindingId
            actor)
    | .activeBindings identityId networkId =>
        (.bindings <$> activeBindings dependencies process.registry process.now identityId networkId,
          process)

/-! ## What calls change -/

/-- What a call does to the registry and to the calls that wait. -/
inductive IdentityStep (dependencies : IdentityRegistryDependencies) (process : IdentityProcess) :
    IdentityCall → IdentityProcess → Prop where
  /-- A call that throws or that reads only, or an answer that no call waits for. -/
  | unchanged {call : IdentityCall} :
      (∀ index answer randomId, call = .verifierReturned index answer randomId →
        process.verifying[index]? = none) →
      IdentityStep dependencies process call process
  | clock {reading : Int} :
      IdentityStep dependencies process (.clock reading) { process with now := reading }
  | created {id actor : JsString} {displayName : Option JsString} {randomId : Nat → JsString}
      {identity : Identity} {event : IdentityBindingAuditEvent} :
      process.registry.identities.lookup identity.id = none → identity.bindings = [] →
      event.action = .identityCreated →
      IdentityStep dependencies process (.createIdentity id displayName actor randomId)
        { process with registry := (process.registry.setIdentity identity).record event }
  | asked {input : IdentityChallengeRequest} {actor : JsString} :
      process.registry.identities.lookup input.identityId ≠ none →
      IdentityStep dependencies process (.issueChallenge input actor)
        { process with issuing := process.issuing ++ [(input, actor)] }
  | refused {index : Nat} {answer : Except Thrown (Option Network)} {randomId : Nat → JsString} :
      IdentityStep dependencies process (.networkReturned index answer randomId)
        { process with issuing := process.issuing.eraseIdx index }
  | issued {index : Nat} {answer : Except Thrown (Option Network)} {randomId : Nat → JsString}
      {input : IdentityChallengeRequest} {actor : JsString} {challenge : IdentityChallenge}
      {event : IdentityBindingAuditEvent} :
      process.issuing[index]? = some (input, actor) →
      challenge.identityId = input.identityId → challenge.consumedAt = none →
      event.action = .challengeIssued →
      IdentityStep dependencies process (.networkReturned index answer randomId)
        { process with
          issuing := process.issuing.eraseIdx index
          registry := (process.registry.setChallenge
            (js "IW:IDENTITY_CHALLENGE:" ++ randomId 0) challenge).record event }
  | opened (verification : SuspendedVerification) {proof : IdentityProof} :
      process.registry.challenges.lookup verification.challengeId = some verification.challenge →
      verification.now = process.now →
      IdentityStep dependencies process (.verifyChallenge verification.challengeId proof
          verification.bindingExpiresAt verification.actor)
        { process with verifying := process.verifying ++ [verification] }
  | rejected {index : Nat} {answer : Except Thrown (Option VerifiedIdentityProof)}
      {randomId : Nat → JsString} {verification : SuspendedVerification} :
      process.verifying[index]? = some verification →
      (∀ verified, answer = .ok (some verified) →
        process.registry.identities.lookup verification.challenge.identityId = none ∨
          process.registry.isBound verification.now dependencies.platform verification.key = true) →
      IdentityStep dependencies process (.verifierReturned index answer randomId)
        { process with verifying := process.verifying.eraseIdx index }
  | bound {index : Nat} {verified : VerifiedIdentityProof} {randomId : Nat → JsString}
      {verification : SuspendedVerification} {identity : Identity} {occurredAt : JsString}
      {event : IdentityBindingAuditEvent} :
      process.verifying[index]? = some verification →
      process.registry.identities.lookup verification.challenge.identityId = some identity →
      process.registry.isBound verification.now dependencies.platform verification.key = false →
      event.action = .bindingVerified → event.challengeId = some verification.challengeId →
      IdentityStep dependencies process (.verifierReturned index (.ok (some verified)) randomId)
        { process with
          verifying := process.verifying.eraseIdx index
          registry := ((process.registry.setIdentity { identity with bindings := identity.bindings ++
              [verification.binding dependencies.platform (randomId 0) verified] }).setChallenge
            verification.challengeId
              { verification.challenge with consumedAt := some occurredAt }).record event }
  | revoked {identityId bindingId actor : JsString} {randomId : Nat → JsString}
      {identity : Identity} {revoked : NetworkIdentity} {event : IdentityBindingAuditEvent} :
      process.registry.identities.lookup identityId = some identity →
      revoked.revokedAt.isSome = true → event.action = .bindingRevoked →
      IdentityStep dependencies process (.revokeBinding identityId bindingId actor randomId)
        { process with registry := (process.registry.setIdentity { identity with
            bindings := identity.bindings.map fun item =>
              if item.bindingId = bindingId then revoked else item }).record event }

section Steps

open InMemoryIdentityRegistry

variable {dependencies : IdentityRegistryDependencies} {registry next : InMemoryIdentityRegistry}
  {now : Int} {randomId : Nat → JsString}

theorem ok_of_throwIf {α : Type} {condition : Bool} {code : RegistryErrorCode}
    {message : JsString} {rest : Except Thrown α} {value : α}
    (returned : (throwIf condition code message >>= fun _ => rest) = .ok value) :
    condition = false ∧ rest = .ok value := by
  cases condition with
  | true => cases returned
  | false => exact ⟨rfl, returned⟩

theorem ok_of_orThrow {α β : Type} {found : Option α} {code : RegistryErrorCode}
    {message : JsString} {next : α → Except Thrown β} {value : β}
    (returned : (orThrow found code message >>= next) = .ok value) :
    ∃ here, found = some here ∧ next here = .ok value := by
  cases found with
  | none => cases returned
  | some here => exact ⟨here, rfl, returned⟩

theorem createIdentity_ok {id actor : JsString} {displayName : Option JsString}
    {identity : Identity} (returned : createIdentity dependencies registry now randomId id displayName
      actor = .ok (identity, next)) :
    registry.identities.lookup identity.id = none ∧ identity.bindings = [] ∧
      ∃ event, event.action = .identityCreated ∧
        next = (registry.setIdentity identity).record event := by
  obtain ⟨_, returned⟩ := ok_of_throwIf returned
  obtain ⟨_, _, returned⟩ := Atomic.ok_of_bind returned
  obtain ⟨_, returned⟩ := ok_of_throwIf returned
  obtain ⟨absent, returned⟩ := ok_of_throwIf returned
  cases returned
  exact ⟨Option.isSome_eq_false_iff.mp absent |> Option.isNone_iff_eq_none.mp, rfl, _, rfl, rfl⟩

theorem issueChallenge_ok {input : IdentityChallengeRequest} {actor : JsString} {value : Unit}
    (returned : registry.issueChallenge input actor = .ok value) :
    registry.identities.lookup input.identityId ≠ none := by
  obtain ⟨_, _, returned⟩ := Atomic.ok_of_bind returned
  intro absent
  rw [absent] at returned
  cases returned

theorem issueChallengeResumed_ok {input : IdentityChallengeRequest} {actor : JsString}
    {network : Option Network} {challenge : IdentityChallenge}
    (returned : issueChallengeResumed dependencies registry now randomId input actor network =
      .ok (challenge, next)) :
    challenge.identityId = input.identityId ∧ challenge.consumedAt = none ∧
      ∃ event, event.action = .challengeIssued ∧
        next = (registry.setChallenge (js "IW:IDENTITY_CHALLENGE:" ++ randomId 0)
          challenge).record event := by
  obtain ⟨_, _, returned⟩ := ok_of_orThrow returned
  obtain ⟨_, returned⟩ := ok_of_throwIf returned
  obtain ⟨_, returned⟩ := ok_of_throwIf returned
  obtain ⟨_, _, returned⟩ := Atomic.ok_of_bind returned
  cases returned
  exact ⟨rfl, rfl, _, rfl, rfl⟩

theorem verifyChallenge_ok {challengeId actor : JsString} {proof : IdentityProof}
    {bindingExpiresAt : Option JsString} {verification : SuspendedVerification}
    (returned : verifyChallenge dependencies registry now challengeId proof bindingExpiresAt actor =
      .ok verification) :
    ∃ challenge, registry.challenges.lookup challengeId = some challenge ∧
      verification = ⟨challengeId, challenge, now, bindingExpiresAt, actor⟩ := by
  obtain ⟨_, _, returned⟩ := Atomic.ok_of_bind returned
  obtain ⟨challenge, found, returned⟩ := ok_of_orThrow returned
  obtain ⟨_, returned⟩ := ok_of_throwIf returned
  obtain ⟨_, returned⟩ := ok_of_throwIf returned
  obtain ⟨_, returned⟩ := ok_of_throwIf returned
  obtain ⟨_, returned⟩ := ok_of_throwIf returned
  obtain ⟨_, returned⟩ := ok_of_throwIf returned
  cases returned
  exact ⟨challenge, found, rfl⟩

theorem verifyChallengeResumed_ok {verification : SuspendedVerification}
    {answer : Option VerifiedIdentityProof} {binding : NetworkIdentity}
    (returned : verifyChallengeResumed dependencies registry randomId verification answer =
      .ok (binding, next)) :
    ∃ verified identity occurredAt event, answer = some verified ∧
      registry.identities.lookup verification.challenge.identityId = some identity ∧
      registry.isBound verification.now dependencies.platform verification.key = false ∧
      event.action = .bindingVerified ∧ event.challengeId = some verification.challengeId ∧
      next = ((registry.setIdentity { identity with bindings := identity.bindings ++
          [verification.binding dependencies.platform (randomId 0) verified] }).setChallenge
        verification.challengeId
          { verification.challenge with consumedAt := some occurredAt }).record event := by
  obtain ⟨verified, answered, returned⟩ := ok_of_orThrow returned
  obtain ⟨identity, found, returned⟩ := ok_of_orThrow returned
  obtain ⟨unbound, returned⟩ := ok_of_throwIf returned
  cases returned
  exact ⟨verified, identity, _, _, answered, found, unbound, rfl, rfl, rfl⟩

/-- A verified proof is refused for an identity that is missing or a locator that is bound. -/
theorem verifyChallengeResumed_error {verification : SuspendedVerification} {error : Thrown}
    {verified : VerifiedIdentityProof}
    (thrown : verifyChallengeResumed dependencies registry randomId verification (some verified) =
      .error error) :
    registry.identities.lookup verification.challenge.identityId = none ∨
      registry.isBound verification.now dependencies.platform verification.key = true := by
  cases found : registry.identities.lookup verification.challenge.identityId with
  | none => exact .inl rfl
  | some identity =>
      cases bound : registry.isBound verification.now dependencies.platform verification.key with
      | true => exact .inr rfl
      | false =>
          unfold verifyChallengeResumed at thrown
          simp only [orThrow, found, throwIf, bound] at thrown
          cases thrown

theorem revokeBinding_ok {identityId bindingId actor : JsString} {binding : NetworkIdentity}
    (returned : revokeBinding dependencies registry now randomId identityId bindingId actor =
      .ok (binding, next)) :
    ∃ identity event, registry.identities.lookup identityId = some identity ∧
      binding.revokedAt.isSome = true ∧ event.action = .bindingRevoked ∧
      next = (registry.setIdentity { identity with
        bindings := identity.bindings.map fun item =>
          if item.bindingId = bindingId then binding else item }).record event := by
  obtain ⟨_, _, returned⟩ := Atomic.ok_of_bind returned
  obtain ⟨identity, found, returned⟩ := ok_of_orThrow returned
  obtain ⟨_, _, returned⟩ := ok_of_orThrow returned
  obtain ⟨_, returned⟩ := ok_of_throwIf returned
  cases returned
  exact ⟨identity, _, found, rfl, rfl, rfl⟩

/-- Every call takes a step. -/
theorem identityStep (call : IdentityCall) (process : IdentityProcess) :
    IdentityStep dependencies process call ((identityRegistry dependencies).next call process) := by
  unfold Atomic.Machine.next identityRegistry
  cases call with
  | clock reading => exact .clock
  | createIdentity id displayName actor randomId =>
      dsimp only
      cases outcome : createIdentity dependencies process.registry process.now randomId id
          displayName actor with
      | error error => exact .unchanged fun _ _ _ same => by cases same
      | ok result =>
          obtain ⟨identity, registry⟩ := result
          obtain ⟨absent, empty, event, action, rfl⟩ := createIdentity_ok outcome
          exact .created absent empty action
  | issueChallenge input actor =>
      dsimp only
      cases outcome : process.registry.issueChallenge input actor with
      | error error => exact .unchanged fun _ _ _ same => by cases same
      | ok value => exact .asked (issueChallenge_ok outcome)
  | networkReturned index answer randomId =>
      dsimp only
      cases waiting : process.issuing[index]? with
      | none => exact .unchanged fun _ _ _ same => by cases same
      | some issue =>
          obtain ⟨input, actor⟩ := issue
          dsimp only
          cases outcome : answer >>= issueChallengeResumed dependencies process.registry process.now
              randomId input actor with
          | error error => exact .refused
          | ok result =>
              obtain ⟨challenge, registry⟩ := result
              obtain ⟨network, _, resumed⟩ := Atomic.ok_of_bind outcome
              obtain ⟨identity, unspent, event, action, rfl⟩ := issueChallengeResumed_ok resumed
              exact .issued waiting identity unspent action
  | verifyChallenge challengeId proof bindingExpiresAt actor =>
      dsimp only
      cases outcome : verifyChallenge dependencies process.registry process.now challengeId proof
          bindingExpiresAt actor with
      | error error => exact .unchanged fun _ _ _ same => by cases same
      | ok verification =>
          obtain ⟨challenge, found, rfl⟩ := verifyChallenge_ok outcome
          exact .opened ⟨challengeId, challenge, process.now, bindingExpiresAt, actor⟩ found rfl
  | verifierReturned index answer randomId =>
      dsimp only
      cases waiting : process.verifying[index]? with
      | none =>
          refine .unchanged fun other _ _ same => ?_
          cases same
          exact waiting
      | some verification =>
          dsimp only
          cases outcome : answer >>= verifyChallengeResumed dependencies process.registry randomId
              verification with
          | error error =>
              refine .rejected waiting fun verified same => ?_
              rw [same] at outcome
              exact verifyChallengeResumed_error outcome
          | ok result =>
              obtain ⟨binding, registry⟩ := result
              obtain ⟨given, answered, resumed⟩ := Atomic.ok_of_bind outcome
              obtain ⟨verified, identity, occurredAt, event, rfl, found, unbound, action, names,
                rfl⟩ := verifyChallengeResumed_ok resumed
              rw [answered]
              exact .bound waiting found unbound action names
  | revokeBinding identityId bindingId actor randomId =>
      dsimp only
      cases outcome : revokeBinding dependencies process.registry process.now randomId identityId
          bindingId actor with
      | error error => exact .unchanged fun _ _ _ same => by cases same
      | ok result =>
          obtain ⟨binding, registry⟩ := result
          obtain ⟨identity, event, found, revoked, action, rfl⟩ := revokeBinding_ok outcome
          exact .revoked found revoked action
  | activeBindings identityId networkId => exact .unchanged fun _ _ _ same => by cases same

end Steps
end InterWeave
