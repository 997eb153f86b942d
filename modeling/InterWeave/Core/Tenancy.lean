import InterWeave.Core.JsString

/-! # Tenants and their principals

`tenancy-auth.ts`: who calls a service, as the authentication service tells it. An
organization, a project and an environment together name a tenant.
-/

namespace InterWeave

inductive Scope where
  | assetsRead
  | assetsWrite
  | identitiesWrite
  | transfersCreate
  | bridgeCreate
  | settlementsCreate
  | attestationsCreate
  | transactionsRead
  | webhooksWrite
  | policiesAdmin
  | emergencyRead
  | emergencyAdmin
  deriving DecidableEq, Repr

structure Tenant where
  organizationId : JsString
  projectId : JsString
  environmentId : JsString
  deriving DecidableEq, Repr

/-- An authenticated principal of a tenant. -/
structure TenantContext extends Tenant where
  subjectId : JsString
  scopes : List Scope
  deriving DecidableEq, Repr

end InterWeave
