import InterWeave.Core.IsoDate
import InterWeave.Tenancy.AuthenticationService

/-! # Expiry of credentials and grants

Authentication and network authorization refuse what they know to be over: an expiry that does not
parse is not known to be, and an empty date counts as none. Whatever else is wrong with a credential,
its hierarchy or a grant is refused.
-/

namespace InterWeave

variable {platform : Platform}

namespace AuthenticationService

variable {service : AuthenticationService} {value : JsString} {credential : Credential}
  {method : CredentialKind}

/-- The credential that authentication looks at, and the method. -/
def selected (platform : Platform) (service : AuthenticationService) (value : JsString) :
    Except Thrown (Credential × CredentialKind) :=
  if !value.startsWith (js "Bearer ") then
    .error (.registryError .invalidArgument (js "Bearer authentication is required"))
  else
    let token := trim (value.drop 7)
    if token.isEmpty then
      .error (.registryError .invalidArgument (js "credential is required"))
    else if token.startsWith (js "iw_") then
      (service.findApiKey platform token).map (·, .apiKey)
    else (service.findOidc token).map (·, .oidc)

theorem authenticateBearer_eq : service.authenticateBearer platform value =
    service.selected platform value >>= fun found =>
      service.context platform found.1 found.2 := by
  rw [authenticateBearer, selected]
  split
  · rfl
  dsimp only
  split
  · rfl
  split
  · rw [apiKey]
    cases service.findApiKey platform (trim (value.drop 7)) <;> rfl
  · rw [oidcToken]
    cases service.findOidc (trim (value.drop 7)) <;> rfl

/-- The token is a key of the credential, or a token of its subject: what is stored matches it. -/
def Presents (platform : Platform) (service : AuthenticationService) (value : JsString)
    (credential : Credential) : CredentialKind → Prop
  | .apiKey => ∃ hash, credential ∈
        service.registry.credentialsByPrefix (keyPrefixOf (trim (value.drop 7))) ∧
      credential.kind = .apiKey ∧ credential.secretHash = some hash ∧
      hash.encode = (hashApiKey platform (trim (value.drop 7))).encode
  | .oidc => ∃ verify claims, service.oidc = some verify ∧
      verify (trim (value.drop 7)) = .ok (some claims) ∧
      claims.audience = service.expectedAudience ∧
      service.registry.getCredential claims.credentialId = some credential ∧
      credential.kind = .oidc ∧ credential.subjectId = claims.subjectId

theorem findApiKey_presents
    (found : service.findApiKey platform (trim (value.drop 7)) = .ok credential) :
    Presents platform service value credential .apiKey := by
  rw [findApiKey] at found
  split at found
  · rename_i credential' first
    cases found
    have matching := List.find?_some first
    rw [Credential.matchesHash, Bool.and_eq_true, Bool.and_eq_true, decide_eq_true_eq,
      Option.any_eq_true] at matching
    obtain ⟨⟨kind, _⟩, hash, stored, same⟩ := matching
    exact ⟨hash, List.mem_of_find?_eq_some first, kind, stored, (of_decide_eq_true same).symm⟩
  · cases found

theorem findOidc_presents (found : service.findOidc (trim (value.drop 7)) = .ok credential) :
    Presents platform service value credential .oidc := by
  rw [findOidc] at found
  split at found
  · cases found
  rename_i verify configured
  split at found
  · cases found
  · cases found
  rename_i claims verified
  split at found
  · cases found
  rename_i audience
  split at found
  · cases found
  rename_i stored known
  split at found
  · cases found
  rename_i subject
  cases found
  simp only [ne_eq, Bool.or_eq_true, decide_eq_true_eq, not_or, not_not] at subject
  exact ⟨verify, claims, configured, verified, not_not.mp audience, known, subject.1, subject.2⟩

theorem selected_presents (found : service.selected platform value = .ok (credential, method)) :
    Presents platform service value credential method := by
  rw [selected] at found
  split at found
  · cases found
  dsimp only at found
  split at found
  · cases found
  split at found
  · cases key : service.findApiKey platform (trim (value.drop 7)) with
    | error thrown =>
        rw [key] at found
        cases found
    | ok credential =>
        rw [key] at found
        cases found
        exact findApiKey_presents key
  · cases token : service.findOidc (trim (value.drop 7)) with
    | error thrown =>
        rw [token] at found
        cases found
    | ok credential =>
        rw [token] at found
        cases found
        exact findOidc_presents token

/-- The credential is neither revoked nor over. -/
structure Live (platform : Platform) (service : AuthenticationService) (credential : Credential) :
    Prop where
  unrevoked : credential.revokedAt = none
  unexpired : ∀ expiresAt, credential.expiresAt = some expiresAt →
    numberLt service.now (platform.dateParse expiresAt) = true

/-- The dates of the credential and the clock can be compared. -/
structure Dated (platform : Platform) (service : AuthenticationService) (credential : Credential) :
    Prop where
  revokedAt : credential.revokedAt ≠ some []
  parses : ∀ expiresAt, credential.expiresAt = some expiresAt → expiresAt ≠ [] →
    platform.dateParse expiresAt ≠ none ∧ service.now ≠ none
  empty : credential.expiresAt = some [] →
    numberLt service.now (platform.dateParse []) = true

theorem numberLt_of_not_le {expiry now : Option Int} (later : numberLe expiry now = false)
    (parses : expiry ≠ none) (clock : now ≠ none) : numberLt now expiry = true := by
  cases expiry with
  | none => exact (parses rfl).elim
  | some expiry =>
      cases now with
      | none => exact (clock rfl).elim
      | some now =>
          rw [numberLe, decide_eq_false_iff_not] at later
          rw [numberLt, decide_eq_true_eq]
          omega

/-- Of the credentials that are not refused, those with comparable dates are live. -/
theorem live_iff_dated (active : service.isInactive platform credential = false) :
    Live platform service credential ↔ Dated platform service credential := by
  rw [isInactive, Bool.or_eq_false_iff] at active
  obtain ⟨unrevoked, unexpired⟩ := active
  constructor
  · intro live
    refine ⟨fun revoked => ?_, fun expiresAt some_ _ => ?_, fun empty => live.unexpired [] empty⟩
    · rw [live.unrevoked] at revoked
      cases revoked
    · have later := live.unexpired expiresAt some_
      constructor
      · intro unparsed
        rw [unparsed] at later
        cases now : service.now <;> rw [now] at later <;> cases later
      · intro undated
        rw [undated] at later
        cases later
  · intro dated
    constructor
    · cases revoked : credential.revokedAt with
      | none => rfl
      | some revokedAt =>
          rw [revoked] at unrevoked
          cases revokedAt with
          | nil => exact (dated.revokedAt revoked).elim
          | cons unit rest => cases unrevoked
    · intro expiresAt some_
      cases expiresAt with
      | nil => exact dated.empty some_
      | cons unit rest =>
          have truthy : isTruthy (some (unit :: rest)) = true := rfl
          rw [some_, truthy, Bool.true_and] at unexpired
          obtain ⟨parses, clock⟩ := dated.parses _ some_ (List.cons_ne_nil _ _)
          exact numberLt_of_not_le unexpired parses clock

/-- A context is returned for live credentials only, exactly if the credential that is looked at has
comparable dates wherever it is not refused. -/
theorem authenticateBearer_live_iff :
    (∀ authenticated, service.authenticateBearer platform value = .ok authenticated →
      ∃ credential method organization project environment,
        service.selected platform value = .ok (credential, method) ∧
        Presents platform service value credential method ∧
        Live platform service credential ∧
        service.Hierarchy credential organization project environment ∧
        authenticated = contextOf credential organization project environment method) ↔
    ∀ credential method organization project environment,
      service.selected platform value = .ok (credential, method) →
      service.isInactive platform credential = false →
      service.Hierarchy credential organization project environment →
      Dated platform service credential := by
  constructor
  · intro closed credential method organization project environment found active hierarchy
    have returned : service.authenticateBearer platform value =
        .ok (contextOf credential organization project environment method) := by
      rw [authenticateBearer_eq, found]
      exact context_ok_iff.mpr ⟨active, organization, project, environment, hierarchy, rfl⟩
    obtain ⟨other, _, _, _, _, looked, _, live, _⟩ := closed _ returned
    rw [found] at looked
    cases looked
    exact (live_iff_dated active).mp live
  · intro dated authenticated returned
    rw [authenticateBearer_eq] at returned
    cases found : service.selected platform value with
    | error thrown =>
        rw [found] at returned
        cases returned
    | ok pair =>
        obtain ⟨credential, method⟩ := pair
        rw [found] at returned
        obtain ⟨active, organization, project, environment, hierarchy, same⟩ :=
          context_ok_iff.mp returned
        have comparable := dated credential method organization project environment found active
          hierarchy
        exact ⟨credential, method, organization, project, environment, rfl,
          selected_presents found, (live_iff_dated active).mpr comparable, hierarchy, same⟩

end AuthenticationService

/-! ## Grants -/

/-- The grant is for the tenant and the operation. -/
structure NetworkOperationGrant.Covers (grant : NetworkOperationGrant) (context : Tenant)
    (input : NetworkOperationRequest) : Prop where
  organizationId : grant.organizationId = context.organizationId
  projectId : grant.projectId = context.projectId
  environmentId : grant.environmentId = context.environmentId
  networkId : grant.networkId = input.networkId
  operationId : grant.operationId = input.operationId
  allowedAction : grant.allowedAction = input.action

namespace TenantNetworkAuthorizer

variable {context : Tenant} {grant : NetworkOperationGrant} {input : NetworkOperationRequest}
  {now : Option Int}

theorem authorize_ok_iff : authorize platform context grant input now = .ok () ↔
    grant.Covers context input ∧ numberLe (platform.dateParse grant.expiresAt) now = false := by
  rw [authorize]
  constructor
  · intro returned
    split at returned
    · cases returned
    rename_i passed
    simp only [ne_eq, Bool.or_eq_true, decide_eq_true_eq, not_or, not_not, Bool.not_eq_true]
      at passed
    obtain ⟨⟨⟨⟨⟨⟨organization, project⟩, environment⟩, network⟩, operation⟩, action⟩, later⟩ := passed
    exact ⟨⟨organization, project, environment, network, operation, action⟩, later⟩
  · rintro ⟨⟨organization, project, environment, network, operation, action⟩, later⟩
    rw [if_neg]
    simp [organization, project, environment, network, operation, action, later]

/-- A grant is good for its tenant and operation until it expires, exactly if its expiry and the
clock can be compared wherever it covers the operation. -/
theorem authorize_unexpired_iff :
    (authorize platform context grant input now = .ok () → grant.Covers context input ∧
      numberLt now (platform.dateParse grant.expiresAt) = true) ↔
    (grant.Covers context input → platform.dateParse grant.expiresAt ≠ none ∧ now ≠ none) := by
  rw [authorize_ok_iff, and_imp]
  constructor
  · intro closed covers
    by_contra apart
    have later : numberLe (platform.dateParse grant.expiresAt) now = false := by
      rw [not_and_or, not_not, not_not] at apart
      rcases apart with unparsed | undated
      · rw [unparsed]
        rfl
      · rw [undated]
        cases platform.dateParse grant.expiresAt <;> rfl
    have before := (closed covers later).2
    rw [not_and_or, not_not, not_not] at apart
    rcases apart with unparsed | undated
    · rw [unparsed] at before
      cases now <;> cases before
    · rw [undated] at before
      cases before
  · intro comparable covers later
    obtain ⟨parses, clock⟩ := comparable covers
    exact ⟨covers, AuthenticationService.numberLt_of_not_le later parses clock⟩

end TenantNetworkAuthorizer

/-- **Fail closed.** A context is returned only for a stored credential that the token matches, that
is neither revoked nor over and whose hierarchy is active and consistent, exactly if the dates of the
credential can be compared; and an operation is authorized only by a matching grant that is not over,
exactly if the expiry of a matching grant can be. -/
theorem authentication_closed_iff (service : AuthenticationService) (value : JsString)
    (context : Tenant) (grant : NetworkOperationGrant) (input : NetworkOperationRequest)
    (now : Option Int) :
    ((∀ authenticated, service.authenticateBearer platform value = .ok authenticated →
      ∃ credential method organization project environment,
        service.selected platform value = .ok (credential, method) ∧
        AuthenticationService.Presents platform service value credential method ∧
        AuthenticationService.Live platform service credential ∧
        service.Hierarchy credential organization project environment ∧
        authenticated = AuthenticationService.contextOf credential organization project environment
          method) ↔
      ∀ credential method organization project environment,
        service.selected platform value = .ok (credential, method) →
        service.isInactive platform credential = false →
        service.Hierarchy credential organization project environment →
        AuthenticationService.Dated platform service credential) ∧
    ((TenantNetworkAuthorizer.authorize platform context grant input now = .ok () →
      grant.Covers context input ∧ numberLt now (platform.dateParse grant.expiresAt) = true) ↔
      (grant.Covers context input → platform.dateParse grant.expiresAt ≠ none ∧ now ≠ none)) :=
  ⟨AuthenticationService.authenticateBearer_live_iff,
    TenantNetworkAuthorizer.authorize_unexpired_iff⟩

namespace UndatedCredential

/-- A credential of the tests, with an expiry. -/
def credential (expiresAt : JsString) : Credential where
  id := js "IW:CREDENTIAL:one"
  organizationId := js "IW:ORGANIZATION:one"
  projectId := js "IW:PROJECT:one"
  environmentId := js "IW:ENVIRONMENT:prod"
  subjectId := js "IW:SERVICE_ACCOUNT:api"
  kind := .apiKey
  secretHash := some (hashApiKey isoPlatform (js "iw_live_secret"))
  keyPrefix := some (js "iw_live")
  scopes := [.assetsRead]
  expiresAt := some expiresAt
  revokedAt := none

def service (expiresAt : JsString) : AuthenticationService where
  registry :=
    { getOrganization := fun id => some ⟨id, .active⟩
      getProject := fun id => some ⟨id, js "IW:ORGANIZATION:one", .active⟩
      getEnvironment := fun id =>
        some ⟨id, js "IW:ORGANIZATION:one", js "IW:PROJECT:one", .active⟩
      credentialsByPrefix := fun _ => [credential expiresAt]
      getCredential := fun _ => some (credential expiresAt) }
  oidc := none
  expectedAudience := js "interweave"
  now := some 1786622460000

def grant (expiresAt : JsString) : NetworkOperationGrant where
  organizationId := js "IW:ORGANIZATION:one"
  projectId := js "IW:PROJECT:one"
  environmentId := js "IW:ENVIRONMENT:prod"
  networkId := js "IW:NETWORK:evm"
  operationId := js "IW:BRIDGE:one"
  allowedAction := js "MINT"
  expiresAt := expiresAt

/-- An expiry that does not parse never comes: the credential and the grant are good for ever. -/
theorem never_expires :
    ((service (js "2026-13-45")).authenticateBearer isoPlatform
      (js "Bearer iw_live_secret")).isOk = true ∧
    isoPlatform.dateParse (js "2026-13-45") = none ∧
    TenantNetworkAuthorizer.authorize isoPlatform
      ⟨js "IW:ORGANIZATION:one", js "IW:PROJECT:one", js "IW:ENVIRONMENT:prod"⟩
      (grant (js "2026-13-45")) ⟨js "IW:NETWORK:evm", js "IW:BRIDGE:one", js "MINT"⟩
      (some 1786622460000) = .ok () :=
  ⟨by decide +kernel, by decide +kernel, by
    rw [TenantNetworkAuthorizer.authorize, if_neg (by decide +kernel)]⟩

end UndatedCredential

end InterWeave
