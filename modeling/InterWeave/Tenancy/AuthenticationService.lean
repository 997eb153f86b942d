import InterWeave.Core.Tenancy
import InterWeave.Rest.RestApi

/-! # Authentication and tenant authorization

`tenancy-auth.ts`: a bearer token is an API key, which its prefix and its hash find, or a token of
an external verifier. Either leads to a credential, and an active credential of an active hierarchy
to the context of a principal. The context scopes idempotency keys and needs a grant for network
operations.
-/

namespace InterWeave

/-! ## Records -/

inductive TenancyStatus where
  | active
  | suspended
  deriving DecidableEq, Repr

structure Organization where
  id : JsString
  status : TenancyStatus
  deriving DecidableEq, Repr

structure Project where
  id : JsString
  organizationId : JsString
  status : TenancyStatus
  deriving DecidableEq, Repr

structure TenantEnvironment where
  id : JsString
  organizationId : JsString
  projectId : JsString
  status : TenancyStatus
  deriving DecidableEq, Repr

/-- The kind of a credential, and the method of an authentication. -/
inductive CredentialKind where
  | apiKey
  | oidc
  deriving DecidableEq, Repr

structure Credential where
  id : JsString
  organizationId : JsString
  projectId : JsString
  environmentId : JsString
  subjectId : JsString
  kind : CredentialKind
  secretHash : Option JsString
  keyPrefix : Option JsString
  scopes : List Scope
  expiresAt : Option JsString
  revokedAt : Option JsString
  deriving DecidableEq, Repr

/-- The context that authentication returns. -/
structure AuthenticatedContext extends TenantContext where
  credentialId : JsString
  authenticationMethod : CredentialKind
  deriving DecidableEq, Repr

structure TenantRegistry where
  getOrganization : JsString → Option Organization
  getProject : JsString → Option Project
  getEnvironment : JsString → Option TenantEnvironment
  credentialsByPrefix : JsString → List Credential
  getCredential : JsString → Option Credential

structure OidcClaims where
  issuer : JsString
  subject : JsString
  credentialId : JsString
  audience : JsString
  deriving DecidableEq, Repr

/-- The subject of a credential as the verifier tells it. -/
def OidcClaims.subjectId (claims : OidcClaims) : JsString :=
  claims.issuer ++ js "|" ++ claims.subject

/-! ## API keys -/

def hashApiKey (platform : Platform) (key : JsString) : JsString :=
  js "sha256:" ++ platform.sha256Hex key.encode

/-- A digit of base64url. -/
def base64UrlDigit (value : Nat) : UInt16 :=
  if value < 26 then (65 + value).toUInt16
  else if value < 52 then (71 + value).toUInt16
  else if value < 62 then (value - 4).toUInt16
  else if value = 62 then 45
  else 95

/-- `bytes.toString("base64url")`. -/
def base64Url : List UInt8 → JsString
  | first :: second :: third :: rest =>
      base64UrlDigit (first.toNat / 4) ::
        base64UrlDigit (first.toNat % 4 * 16 + second.toNat / 16) ::
        base64UrlDigit (second.toNat % 16 * 4 + third.toNat / 64) ::
        base64UrlDigit (third.toNat % 64) :: base64Url rest
  | [first, second] =>
      [base64UrlDigit (first.toNat / 4),
        base64UrlDigit (first.toNat % 4 * 16 + second.toNat / 16),
        base64UrlDigit (second.toNat % 16 * 4)]
  | [first] => [base64UrlDigit (first.toNat / 4), base64UrlDigit (first.toNat % 4 * 16)]
  | [] => []

structure IssuedApiKey where
  key : JsString
  keyPrefix : JsString
  secretHash : JsString
  deriving DecidableEq, Repr

/-- The default of `issueApiKey`. -/
def defaultKeyPrefix : JsString := js "iw_live"

/-- `issueApiKey(prefix)`, where `randomBytes(32)` draws `random`. -/
def issueApiKey (platform : Platform) (keyPrefix : JsString) (random : List UInt8) : IssuedApiKey :=
  let key := keyPrefix ++ js "_" ++ base64Url random
  { key, keyPrefix, secretHash := hashApiKey platform key }

/-- `key.split("_").slice(0, 2).join("_")`. -/
def keyPrefixOf (key : JsString) : JsString := JsString.join (js "_") ((key.splitOn 95).take 2)

/-! ## Authentication -/

/-- A text that is present and not empty. -/
def isTruthy (value : Option JsString) : Bool := value.any fun text => !text.isEmpty

/-- The credential is an API key with the hash. -/
def Credential.matchesHash (credential : Credential) (hash : JsString) : Bool :=
  credential.kind = .apiKey && isTruthy credential.secretHash &&
    credential.secretHash.any fun stored => hash.encode = stored.encode

/-- `now` is the time value of the clock, missing for an invalid date. -/
structure AuthenticationService where
  registry : TenantRegistry
  oidc : Option (JsString → Except Thrown (Option OidcClaims))
  expectedAudience : JsString
  now : Option Int

namespace AuthenticationService

variable (platform : Platform) (service : AuthenticationService)

/-- The check of the hierarchy. -/
def isInconsistent (organization : Organization) (project : Project)
    (environment : TenantEnvironment) : Bool :=
  organization.status ≠ .active || project.status ≠ .active || environment.status ≠ .active ||
    project.organizationId ≠ organization.id || environment.organizationId ≠ organization.id ||
    environment.projectId ≠ project.id

/-- The context of a credential. -/
def contextOf (credential : Credential) (organization : Organization) (project : Project)
    (environment : TenantEnvironment) (method : CredentialKind) : AuthenticatedContext where
  organizationId := organization.id
  projectId := project.id
  environmentId := environment.id
  subjectId := credential.subjectId
  scopes := credential.scopes
  credentialId := credential.id
  authenticationMethod := method

/-- The check of the dates of a credential. -/
def isInactive (credential : Credential) : Bool :=
  isTruthy credential.revokedAt || (isTruthy credential.expiresAt &&
    numberLe (platform.dateParse (credential.expiresAt.getD [])) service.now)

def context (credential : Credential) (method : CredentialKind) :
    Except Thrown AuthenticatedContext :=
  if service.isInactive platform credential then
    .error (.registryError .conflict (js "credential is inactive"))
  else
    match service.registry.getOrganization credential.organizationId,
        service.registry.getProject credential.projectId,
        service.registry.getEnvironment credential.environmentId with
    | some organization, some project, some environment =>
        if isInconsistent organization project environment then
          .error (.registryError .conflict (js "tenant hierarchy is inactive or inconsistent"))
        else
          .ok (contextOf credential organization project environment method)
    | _, _, _ =>
        .error (.registryError .conflict (js "tenant hierarchy is inactive or inconsistent"))

/-- The credential of an API key. -/
def findApiKey (key : JsString) : Except Thrown Credential :=
  let hash := hashApiKey platform key
  match (service.registry.credentialsByPrefix (keyPrefixOf key)).find? (·.matchesHash hash) with
  | some credential => .ok credential
  | none => .error (.registryError .notFound (js "credential is invalid"))

def apiKey (key : JsString) : Except Thrown AuthenticatedContext := do
  let credential ← service.findApiKey platform key
  service.context platform credential .apiKey

/-- The credential of a token that the verifier takes. -/
def findOidc (token : JsString) : Except Thrown Credential :=
  match service.oidc with
  | none => .error (.registryError .notFound (js "OIDC authentication is not configured"))
  | some verify =>
      match verify token with
      | .error thrown => .error thrown
      | .ok none => .error (.registryError .notFound (js "OIDC token is invalid"))
      | .ok (some verified) =>
          if verified.audience ≠ service.expectedAudience then
            .error (.registryError .notFound (js "OIDC token is invalid"))
          else
            match service.registry.getCredential verified.credentialId with
            | none => .error (.registryError .notFound (js "OIDC subject is not authorized"))
            | some credential =>
                if credential.kind ≠ .oidc ||
                    credential.subjectId ≠ verified.subjectId then
                  .error (.registryError .notFound (js "OIDC subject is not authorized"))
                else .ok credential

def oidcToken (token : JsString) : Except Thrown AuthenticatedContext := do
  let credential ← service.findOidc token
  service.context platform credential .oidc

def authenticateBearer (value : JsString) : Except Thrown AuthenticatedContext :=
  if !value.startsWith (js "Bearer ") then
    .error (.registryError .invalidArgument (js "Bearer authentication is required"))
  else
    let token := trim (value.drop 7)
    if token.isEmpty then
      .error (.registryError .invalidArgument (js "credential is required"))
    else if token.startsWith (js "iw_") then service.apiKey platform token
    else service.oidcToken platform token

/-! ### The credential of a token -/

/-- The records of the hierarchy of a credential, active and consistent. -/
structure Hierarchy (credential : Credential) (organization : Organization) (project : Project)
    (environment : TenantEnvironment) : Prop where
  held : service.registry.getOrganization credential.organizationId = some organization
  owned : service.registry.getProject credential.projectId = some project
  placed : service.registry.getEnvironment credential.environmentId = some environment
  consistent : isInconsistent organization project environment = false

variable {platform service} {credential : Credential} {method : CredentialKind}
  {authenticated : AuthenticatedContext}

/-- A context is returned exactly for a credential that passes the checks. -/
theorem context_ok_iff : service.context platform credential method = .ok authenticated ↔
    service.isInactive platform credential = false ∧ ∃ organization project environment,
      service.Hierarchy credential organization project environment ∧
        authenticated = contextOf credential organization project environment method := by
  rw [context]
  by_cases inactive : service.isInactive platform credential = true
  · rw [if_pos inactive]
    constructor
    · intro returned
      cases returned
    · rintro ⟨active, _⟩
      rw [inactive] at active
      cases active
  · rw [if_neg inactive, and_iff_right (Bool.not_eq_true _ ▸ inactive)]
    constructor
    · intro returned
      split at returned
      · rename_i organization project environment held owned placed
        split at returned
        · cases returned
        · rename_i consistent
          cases returned
          exact ⟨organization, project, environment,
            ⟨held, owned, placed, Bool.not_eq_true _ ▸ consistent⟩, rfl⟩
      · cases returned
    · rintro ⟨organization, project, environment, ⟨held, owned, placed, consistent⟩, rfl⟩
      rw [held, owned, placed]
      change (if isInconsistent organization project environment = true then _ else _) = _
      rw [consistent, if_neg Bool.false_ne_true]

end AuthenticationService

/-! ## Authorization -/

def Scope.text : Scope → JsString
  | .assetsRead => js "assets:read"
  | .assetsWrite => js "assets:write"
  | .identitiesWrite => js "identities:write"
  | .transfersCreate => js "transfers:create"
  | .bridgeCreate => js "bridge:create"
  | .settlementsCreate => js "settlements:create"
  | .attestationsCreate => js "attestations:create"
  | .transactionsRead => js "transactions:read"
  | .webhooksWrite => js "webhooks:write"
  | .policiesAdmin => js "policies:admin"
  | .emergencyRead => js "emergency:read"
  | .emergencyAdmin => js "emergency:admin"

/-- `scopes[operation]`. -/
def RestOperation.scope : RestOperation → Scope
  | .networksList => .assetsRead
  | .assetsCreate => .assetsWrite
  | .assetsGet => .assetsRead
  | .assetsBalance => .assetsRead
  | .identitiesCreate => .identitiesWrite
  | .identitiesBind => .identitiesWrite
  | .transfersCreate => .transfersCreate
  | .transfersGet => .assetsRead
  | .bridgeCreate => .bridgeCreate
  | .bridgeGet => .assetsRead
  | .settlementsCreate => .settlementsCreate
  | .settlementsGet => .assetsRead
  | .attestationsCreate => .attestationsCreate
  | .attestationsGet => .assetsRead
  | .transactionsGet => .transactionsRead
  | .webhooksCreate => .webhooksWrite
  | .emergencyList => .emergencyRead
  | .emergencyCreate => .emergencyAdmin
  | .emergencyLift => .emergencyAdmin

namespace TenantAuthorizedBackend

/-- The key of a write, scoped to the tenant. -/
def scopedKey (tenant : Tenant) (idempotencyKey : JsString) : JsString :=
  tenant.organizationId ++ js ":" ++ tenant.projectId ++ js ":" ++ tenant.environmentId ++ js ":" ++
    idempotencyKey

/-- The command that `execute` passes to the inner backend. -/
def forwarded (tenant : TenantContext) (command : RestApiCommand) : Except Thrown RestApiCommand :=
  if !tenant.scopes.contains command.operation.scope then
    .error (.registryError .conflict
      (js "missing required scope: " ++ command.operation.scope.text))
  else
    .ok { command with
      idempotencyKey :=
        if isTruthy command.idempotencyKey then
          command.idempotencyKey.map (scopedKey tenant.toTenant)
        else none }

def execute (inner : RestApiCommand → TenantContext → Except Thrown JsValue)
    (tenant : TenantContext) (command : RestApiCommand) : Except Thrown JsValue := do
  let passed ← forwarded tenant command
  inner passed tenant

end TenantAuthorizedBackend

structure NetworkOperationGrant where
  organizationId : JsString
  projectId : JsString
  environmentId : JsString
  networkId : JsString
  operationId : JsString
  allowedAction : JsString
  expiresAt : JsString
  deriving DecidableEq, Repr

structure NetworkOperationRequest where
  networkId : JsString
  operationId : JsString
  action : JsString
  deriving DecidableEq, Repr

/-- `TenantNetworkAuthorizer.authorize`. -/
def TenantNetworkAuthorizer.authorize (platform : Platform) (context : Tenant)
    (grant : NetworkOperationGrant) (input : NetworkOperationRequest) (now : Option Int) :
    Except Thrown Unit :=
  if grant.organizationId ≠ context.organizationId || grant.projectId ≠ context.projectId ||
      grant.environmentId ≠ context.environmentId || grant.networkId ≠ input.networkId ||
      grant.operationId ≠ input.operationId || grant.allowedAction ≠ input.action ||
      numberLe (platform.dateParse grant.expiresAt) now then
    .error (.registryError .conflict (js "network operation is not authorized for tenant"))
  else .ok ()

end InterWeave
