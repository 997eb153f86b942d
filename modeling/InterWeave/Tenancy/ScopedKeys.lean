import InterWeave.Tenancy.AuthenticationService
import InterWeave.Text.Separators

/-! # Scoped idempotency keys

A scoped key joins the identifiers of a tenant and the key of its client by colons. Identifiers and
keys may contain colons: where an identifier goes on with a part of the other tenant's key, two
tenants share a scope.
-/

namespace InterWeave
namespace TenantAuthorizedBackend

variable {tenant other : Tenant} {key client : JsString}

/-- What follows the organization in a scoped key. -/
def behindOrganization (tenant : Tenant) (key : JsString) : JsString :=
  tenant.projectId ++ 58 :: (tenant.environmentId ++ 58 :: key)

/-- What follows the project in a scoped key. -/
def behindProject (tenant : Tenant) (key : JsString) : JsString := tenant.environmentId ++ 58 :: key

/-- No identifier of one tenant goes on, behind a colon, into the rest of the other's scoped key. -/
structure ScopesApart (tenant : Tenant) (key : JsString) (other : Tenant) (client : JsString) :
    Prop where
  organization : ¬ Text.Continues 58 tenant.organizationId (behindOrganization tenant key)
    other.organizationId (behindOrganization other client)
  project : tenant.organizationId = other.organizationId →
    ¬ Text.Continues 58 tenant.projectId (behindProject tenant key)
      other.projectId (behindProject other client)
  environment : tenant.organizationId = other.organizationId →
    tenant.projectId = other.projectId →
    ¬ Text.Continues 58 tenant.environmentId key other.environmentId client

theorem scopedKey_eq (tenant : Tenant) (key : JsString) : scopedKey tenant key =
    tenant.organizationId ++ 58 :: behindOrganization tenant key := by
  have colon : js ":" = [58] := by decide
  simp only [scopedKey, behindOrganization, colon, List.append_assoc, List.cons_append,
    List.nil_append]

/-- Scopes that are apart in both directions tell the tenant and the key. -/
theorem scopedKey_inj_iff :
    (scopedKey tenant key = scopedKey other client → tenant = other ∧ key = client) ↔
      ScopesApart tenant key other client ∧ ScopesApart other client tenant key := by
  have joined : ∀ {tenant other : Tenant} {key client : JsString},
      (scopedKey tenant key = scopedKey other client → tenant = other ∧ key = client) →
      ScopesApart tenant key other client := by
    intro tenant other key client told
    rw [scopedKey_eq, scopedKey_eq] at told
    refine ⟨fun reads => ?_, fun organization reads => ?_, fun organization project reads => ?_⟩
    · have same := told (Text.joined_eq_iff.mpr (.inr (.inl reads)))
      exact reads.ne (congrArg Tenant.organizationId same.1)
    · have behind : behindOrganization tenant key = behindOrganization other client :=
        Text.joined_eq_iff.mpr (.inr (.inl reads))
      have same := told (by rw [organization, behind])
      exact reads.ne (congrArg Tenant.projectId same.1)
    · have behind : behindProject tenant key = behindProject other client :=
        Text.joined_eq_iff.mpr (.inr (.inl reads))
      have same := told (by
        rw [organization, behindOrganization, behindOrganization, project]
        exact congrArg (fun rest => other.organizationId ++ 58 :: (other.projectId ++ 58 :: rest))
          behind)
      exact reads.ne (congrArg Tenant.environmentId same.1)
  constructor
  · intro told
    refine ⟨joined told, joined fun same => ?_⟩
    obtain ⟨tenants, keys⟩ := told same.symm
    exact ⟨tenants.symm, keys.symm⟩
  · rintro ⟨apart, back⟩ same
    rw [scopedKey_eq, scopedKey_eq] at same
    rcases Text.joined_eq_iff.mp same with ⟨organization, projects⟩ | reads | reads
    · rcases Text.joined_eq_iff.mp projects with ⟨project, environments⟩ | reads | reads
      · rcases Text.joined_eq_iff.mp environments with ⟨environment, keys⟩ | reads | reads
        · cases tenant
          cases other
          obtain rfl : _ = _ := organization
          obtain rfl : _ = _ := project
          obtain rfl : _ = _ := environment
          exact ⟨rfl, keys⟩
        · exact (apart.environment organization project reads).elim
        · exact (back.environment organization.symm project.symm reads).elim
      · exact (apart.project organization reads).elim
      · exact (back.project organization.symm reads).elim
    · exact (apart.organization reads).elim
    · exact (back.organization reads).elim

/-- **Scoped keys.** The keys that two principals' writes are passed on under tell the tenants and
the clients' keys, exactly if no identifier of one of them goes on into the other's scoped key. -/
theorem forwarded_keys_iff {principal second : TenantContext}
    {command another passed relayed : RestApiCommand}
    (forwards : forwarded principal command = .ok passed)
    (relays : forwarded second another = .ok relayed)
    (keyed : command.idempotencyKey = some key) (owned : another.idempotencyKey = some client)
    (some_ : key ≠ []) (given : client ≠ []) :
    (passed.idempotencyKey = relayed.idempotencyKey →
      principal.toTenant = second.toTenant ∧ key = client) ↔
    ScopesApart principal.toTenant key second.toTenant client ∧
      ScopesApart second.toTenant client principal.toTenant key := by
  have scope : ∀ {principal : TenantContext} {command passed : RestApiCommand} {key : JsString},
      forwarded principal command = .ok passed → command.idempotencyKey = some key → key ≠ [] →
      passed.idempotencyKey = some (scopedKey principal.toTenant key) := by
    intro principal command passed key forwards keyed some_
    have truthy : isTruthy (some key) = true := by
      cases key with
      | nil => exact (some_ rfl).elim
      | cons unit rest => rfl
    rw [forwarded] at forwards
    split at forwards
    · cases forwards
    cases forwards
    simp only [keyed, truthy, if_true, Option.map_some]
  rw [scope forwards keyed some_, scope relays owned given, Option.some.injEq]
  exact scopedKey_inj_iff

namespace SharedScope

/-- A principal of an environment that may create bridge transfers. -/
def principal (environmentId : JsString) : TenantContext where
  organizationId := js "IW:ORGANIZATION:one"
  projectId := js "IW:PROJECT:one"
  environmentId := environmentId
  subjectId := js "IW:SERVICE_ACCOUNT:api"
  scopes := [.bridgeCreate]

def command (key : JsString) : RestApiCommand where
  operation := .bridgeCreate
  path := []
  query := []
  body := some []
  idempotencyKey := some key
  requestId := js "r"

/-- The command under its scoped key. -/
def passed (environmentId key : JsString) : RestApiCommand :=
  { command key with idempotencyKey := some (scopedKey (principal environmentId).toTenant key) }

theorem forwards (environmentId : JsString) {key : JsString} (some_ : key ≠ []) :
    forwarded (principal environmentId) (command key) = .ok (passed environmentId key) := by
  cases key with
  | nil => exact (some_ rfl).elim
  | cons unit rest => rfl

/-- Two environments of a project share a scoped key. -/
theorem one_scope :
    forwarded (principal (js "IW:ENVIRONMENT:prod")) (command (js "eu:key-1")) =
      .ok (passed (js "IW:ENVIRONMENT:prod") (js "eu:key-1")) ∧
    forwarded (principal (js "IW:ENVIRONMENT:prod:eu")) (command (js "key-1")) =
      .ok (passed (js "IW:ENVIRONMENT:prod:eu") (js "key-1")) ∧
    (passed (js "IW:ENVIRONMENT:prod") (js "eu:key-1")).idempotencyKey =
      (passed (js "IW:ENVIRONMENT:prod:eu") (js "key-1")).idempotencyKey ∧
    js "IW:ENVIRONMENT:prod" ≠ js "IW:ENVIRONMENT:prod:eu" :=
  ⟨forwards _ (by decide), forwards _ (by decide), by decide +kernel, by decide⟩

/-- Environments with names of one length have scopes of their own. -/
theorem own_scope : (passed (js "IW:ENVIRONMENT:prod") (js "key-1")).idempotencyKey ≠
    (passed (js "IW:ENVIRONMENT:test") (js "key-1")).idempotencyKey := by
  have shorter : ∀ {first front second back : JsString}, first.length = second.length →
      ¬ Text.Continues 58 first front second back := by
    rintro first front second back lengths ⟨rest, longer, _⟩
    have length := congrArg List.length longer
    rw [List.length_append, List.length_cons] at length
    omega
  have apart : ∀ first second : JsString, first.length = second.length →
      ScopesApart (principal first).toTenant (js "key-1") (principal second).toTenant
        (js "key-1") :=
    fun first second lengths => ⟨shorter rfl, fun _ => shorter rfl, fun _ _ => shorter lengths⟩
  intro same
  have told := (forwarded_keys_iff (forwards (js "IW:ENVIRONMENT:prod") (by decide))
    (forwards (js "IW:ENVIRONMENT:test") (by decide)) rfl rfl (by decide) (by decide)).mpr
      ⟨apart _ _ (by decide), apart _ _ (by decide)⟩ same
  exact absurd (congrArg Tenant.environmentId told.1) (by decide)

end SharedScope

end TenantAuthorizedBackend
end InterWeave
