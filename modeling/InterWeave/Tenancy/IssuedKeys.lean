import InterWeave.Core.IsoDate
import InterWeave.Tenancy.AuthenticationService
import Mathlib.Data.List.TakeWhile

/-! # Issued keys

`issueApiKey` puts an underscore between any prefix and the secret; authentication takes the prefix
of a key to be what precedes its second underscore, and takes for keys only tokens that start with
`iw_`. A secret may contain underscores, a prefix has to contain exactly the first.
-/

namespace InterWeave

/-! ## Prefixes -/

theorem not_mem_takeWhile (text : JsString) : 95 ∉ text.takeWhile (· != 95) := by
  intro member
  have kept := List.mem_takeWhile_imp member
  simp at kept

/-- The part of a text before the first underscore is the first of its parts. -/
theorem take_one_splitOn (text : JsString) :
    (text.splitOn 95).take 1 = [text.takeWhile (· != 95)] := by
  have apart := not_mem_takeWhile text
  cases rest : text.dropWhile (· != 95) with
  | nil =>
      have whole : text.takeWhile (· != 95) = text := by
        have parts := List.takeWhile_append_dropWhile (p := (· != 95)) (l := text)
        rw [rest, List.append_nil] at parts
        exact parts
      rw [whole] at apart ⊢
      rw [List.splitOn_eq_singleton apart]
      rfl
  | cons unit tail =>
      have stop : unit = 95 := by
        have ends := List.head_dropWhile_not (l := text) (· != 95)
          (by rw [rest]; exact List.cons_ne_nil _ _)
        simpa [rest] using ends
      have parts := List.takeWhile_append_dropWhile (p := (· != 95)) (l := text)
      rw [rest, stop] at parts
      conv_lhs => rw [← parts]
      rw [List.splitOn_append_cons_self_of_not_mem apart]
      rfl

/-- The prefix of a key that starts with `iw_`. -/
theorem keyPrefixOf_iw (rest : JsString) :
    keyPrefixOf (js "iw_" ++ rest) = js "iw_" ++ rest.takeWhile (· != 95) := by
  have start : js "iw_" ++ rest = js "iw" ++ 95 :: rest := by
    have split : js "iw_" = js "iw" ++ [95] := by decide
    rw [split, List.append_assoc, List.singleton_append]
  have first : (95 : UInt16) ∉ js "iw" := by decide
  rw [keyPrefixOf, start, List.splitOn_append_cons_self_of_not_mem first, List.take_succ_cons,
    take_one_splitOn]
  rfl

/-- A prefix that authentication reads back: `iw_` and a text without underscores. -/
def IsKeyPrefix (keyPrefix : JsString) : Prop :=
  ∃ name, keyPrefix = js "iw_" ++ name ∧ 95 ∉ name

theorem isKeyPrefix_of_startsWith {token : JsString} (starts : token.startsWith (js "iw_") = true) :
    IsKeyPrefix (keyPrefixOf token) := by
  obtain ⟨rest, rfl⟩ := List.isPrefixOf_iff_prefix.mp starts
  exact ⟨rest.takeWhile (· != 95), keyPrefixOf_iw rest, not_mem_takeWhile rest⟩

theorem IsKeyPrefix.keyPrefixOf_key {keyPrefix : JsString} (valid : IsKeyPrefix keyPrefix)
    (secret : JsString) : keyPrefixOf (keyPrefix ++ js "_" ++ secret) = keyPrefix := by
  obtain ⟨name, rfl, apart⟩ := valid
  have separator : js "_" = [95] := by decide
  rw [separator, List.append_assoc, List.append_assoc, keyPrefixOf_iw, List.singleton_append,
    List.takeWhile_append_of_pos, List.takeWhile_cons_of_neg (by simp), List.append_nil]
  intro unit member
  rw [bne_iff_ne]
  rintro rfl
  exact apart member

/-! ## Secrets -/

theorem base64UrlDigit_not_isWhitespace {value : Nat} (small : value < 64) :
    JsString.isWhitespace (base64UrlDigit value) = false := by
  have digits : ∀ digit : Fin 64, JsString.isWhitespace (base64UrlDigit digit.val) = false := by
    decide
  exact digits ⟨value, small⟩

theorem base64Url_not_isWhitespace (bytes : List UInt8) :
    ∀ unit ∈ base64Url bytes, JsString.isWhitespace unit = false := by
  have bound : ∀ byte : UInt8, byte.toNat < 256 := fun byte => byte.toNat_lt
  fun_induction base64Url bytes with
  | case1 first second third rest ih =>
      have := bound first
      have := bound second
      have := bound third
      rw [List.forall_mem_cons, List.forall_mem_cons, List.forall_mem_cons, List.forall_mem_cons]
      refine ⟨?_, ?_, ?_, ?_, ih⟩
      all_goals
        apply base64UrlDigit_not_isWhitespace
        omega
  | case2 first second =>
      have := bound first
      have := bound second
      rw [List.forall_mem_cons, List.forall_mem_cons, List.forall_mem_singleton]
      refine ⟨?_, ?_, ?_⟩
      all_goals
        apply base64UrlDigit_not_isWhitespace
        omega
  | case3 first =>
      have := bound first
      rw [List.forall_mem_cons, List.forall_mem_singleton]
      constructor
      all_goals
        apply base64UrlDigit_not_isWhitespace
        omega
  | case4 => exact fun _ none => (List.not_mem_nil none).elim

theorem base64Url_ne_nil {bytes : List UInt8} (some_ : bytes ≠ []) : base64Url bytes ≠ [] := by
  fun_cases base64Url bytes with
  | case1 => exact List.cons_ne_nil _ _
  | case2 => exact List.cons_ne_nil _ _
  | case3 => exact List.cons_ne_nil _ _
  | case4 => exact (some_ rfl).elim

/-- A text between units that are no white space. -/
theorem trim_eq_self {first last : JsString} {unit final : UInt16}
    (starts : JsString.isWhitespace unit = false) (ends : JsString.isWhitespace final = false)
    (same : unit :: first = last ++ [final]) : trim (unit :: first) = unit :: first := by
  rw [trim, List.dropWhile_cons_of_neg (by rw [starts]; exact Bool.false_ne_true), same,
    List.reverse_append, List.reverse_singleton, List.singleton_append,
    List.dropWhile_cons_of_neg (by rw [ends]; exact Bool.false_ne_true), ← List.singleton_append,
    List.reverse_append, List.reverse_reverse, List.reverse_singleton]

theorem IsKeyPrefix.trim_key {keyPrefix : JsString} (valid : IsKeyPrefix keyPrefix)
    {random : List UInt8} (drawn : random.length = 32) :
    trim (keyPrefix ++ js "_" ++ base64Url random) = keyPrefix ++ js "_" ++ base64Url random := by
  obtain ⟨name, rfl, _⟩ := valid
  have some_ : base64Url random ≠ [] := by
    apply base64Url_ne_nil
    rintro rfl
    cases drawn
  have ends := base64Url_not_isWhitespace random _ (List.getLast_mem some_)
  have start : js "iw_" = 105 :: js "w_" := by decide
  have last : 105 :: (js "w_" ++ name ++ js "_" ++ base64Url random) =
      (105 :: (js "w_" ++ name ++ js "_" ++ (base64Url random).dropLast)) ++
        [(base64Url random).getLast some_] := by
    rw [List.cons_append, List.append_assoc _ _ [_], List.dropLast_append_getLast]
  rw [start, List.cons_append, List.cons_append, List.cons_append]
  exact trim_eq_self (by decide) ends last

/-! ## Authentication -/

namespace AuthenticationService

variable {platform : Platform} {service : AuthenticationService}
  {credentials before after : List Credential} {credential : Credential} {keyPrefix : JsString}
  {random : List UInt8} {organization : Organization} {project : Project}
  {environment : TenantEnvironment}

/-- The registry finds what is stored by its prefix, and identifiers are unique. -/
structure Stores (registry : TenantRegistry) (credentials : List Credential) : Prop where
  byPrefix : ∀ keyPrefix, registry.credentialsByPrefix keyPrefix =
    credentials.filter fun credential => credential.keyPrefix = some keyPrefix
  ids : (credentials.map Credential.id).Nodup

/-- The credential holds an issued key, and neither expires nor is revoked. -/
structure HoldsKey (credential : Credential) (issued : IssuedApiKey) : Prop where
  kind : credential.kind = .apiKey
  keyPrefix : credential.keyPrefix = some issued.keyPrefix
  secretHash : credential.secretHash = some issued.secretHash
  expiresAt : credential.expiresAt = none
  revokedAt : credential.revokedAt = none

theorem HoldsKey.isInactive {issued : IssuedApiKey} (holds : HoldsKey credential issued) :
    service.isInactive platform credential = false := by
  rw [AuthenticationService.isInactive, holds.expiresAt, holds.revokedAt]
  rfl

theorem HoldsKey.matchesHash (holds : HoldsKey credential (issueApiKey platform keyPrefix random)) :
    credential.matchesHash
      (hashApiKey platform (issueApiKey platform keyPrefix random).key) = true := by
  have start : js "sha256:" = 115 :: js "ha256:" := by decide
  have truthy : isTruthy (some (hashApiKey platform (issueApiKey platform keyPrefix random).key)) =
      true := by
    rw [hashApiKey, start]
    rfl
  have hashed : credential.secretHash =
      some (hashApiKey platform (issueApiKey platform keyPrefix random).key) := holds.secretHash
  rw [Credential.matchesHash, holds.kind, hashed, truthy]
  simp

theorem bearer_token (key : JsString) :
    (js "Bearer " ++ key).startsWith (js "Bearer ") = true ∧
      (js "Bearer " ++ key).drop 7 = key := by
  refine ⟨List.isPrefixOf_iff_prefix.mpr (List.prefix_append _ _), ?_⟩
  have length : (js "Bearer ").length = 7 := by decide
  rw [← length, List.drop_left]

/-- The credential has the prefix and the hash. -/
def answers (keyPrefix hash : JsString) (credential : Credential) : Bool :=
  credential.keyPrefix = some keyPrefix && credential.matchesHash hash

/-- The stored credential that a key finds. -/
theorem findApiKey_ok_iff (stores : Stores service.registry credentials) {key : JsString} :
    service.findApiKey platform key = .ok credential ↔
      credentials.find? (answers (keyPrefixOf key) (hashApiKey platform key)) =
        some credential := by
  have same : (credentials.find? fun other =>
      decide (decide (other.keyPrefix = some (keyPrefixOf key)) = true ∧
        other.matchesHash (hashApiKey platform key) = true)) =
      credentials.find? (answers (keyPrefixOf key) (hashApiKey platform key)) := by
    refine congrArg (credentials.find? ·) ?_
    funext other
    rw [answers, Bool.decide_and, Bool.decide_eq_true, Bool.decide_eq_true]
  rw [findApiKey, stores.byPrefix, List.find?_filter, same]
  cases credentials.find? (answers (keyPrefixOf key) (hashApiKey platform key)) <;> simp

/-- An item in the middle of a list is found exactly if nothing before it is. -/
theorem find?_middle {Item : Type} {property : Item → Bool} {start rest : List Item} {item : Item}
    (holds : property item = true) (fresh : item ∉ start) :
    (start ++ item :: rest).find? property = some item ↔
      ∀ other ∈ start, property other = false := by
  rw [List.find?_append, List.find?_cons_of_pos holds]
  cases first : start.find? property with
  | none =>
      rw [Option.none_or, eq_self_iff_true, true_iff]
      intro other member
      exact Bool.not_eq_true _ ▸ List.find?_eq_none.mp first other member
  | some other =>
      have member := List.mem_of_find?_eq_some first
      rw [Option.some_or, Option.some.injEq]
      constructor
      · rintro rfl
        exact (fresh member).elim
      · intro apart
        have hits := List.find?_some first
        rw [apart other member] at hits
        cases hits

/-- **Issued keys.** A stored key, without expiry or revocation and of an active consistent
hierarchy, authenticates as its credential exactly if its prefix is `iw_` with a text without
underscores, and no credential that is listed earlier under the prefix has the same hash. -/
theorem issued_key_authenticates_iff (stores : Stores service.registry credentials)
    (stored : credentials = before ++ credential :: after)
    (holds : HoldsKey credential (issueApiKey platform keyPrefix random))
    (hierarchy : service.Hierarchy credential organization project environment)
    (drawn : random.length = 32) :
    service.authenticateBearer platform
        (js "Bearer " ++ (issueApiKey platform keyPrefix random).key) =
      .ok (contextOf credential organization project environment .apiKey) ↔
    IsKeyPrefix keyPrefix ∧ ∀ other ∈ before, other.keyPrefix = some keyPrefix →
      other.matchesHash (issueApiKey platform keyPrefix random).secretHash = false := by
  obtain ⟨bearer, dropped⟩ := bearer_token (issueApiKey platform keyPrefix random).key
  have own : credential ∈ credentials := by
    rw [stored]
    exact List.mem_append_right _ List.mem_cons_self
  have fresh : credential ∉ before := by
    have ids := stores.ids
    rw [stored, List.map_append, List.map_cons] at ids
    intro member
    exact (List.nodup_append.mp ids).2.2 _ (List.mem_map_of_mem member) _ List.mem_cons_self rfl
  have found : answers keyPrefix
      (hashApiKey platform (issueApiKey platform keyPrefix random).key) credential = true := by
    have keyed : credential.keyPrefix = some keyPrefix := holds.keyPrefix
    rw [answers, keyed, decide_eq_true rfl, Bool.true_and]
    exact holds.matchesHash
  have earliest : credentials.find? (answers keyPrefix
      (hashApiKey platform (issueApiKey platform keyPrefix random).key)) = some credential ↔
      ∀ other ∈ before, other.keyPrefix = some keyPrefix →
        other.matchesHash (issueApiKey platform keyPrefix random).secretHash = false := by
    rw [stored, find?_middle found fresh]
    refine forall_congr' fun other => forall_congr' fun _ => ?_
    rw [answers, Bool.and_eq_false_imp, decide_eq_true_eq]
    rfl
  rw [authenticateBearer, bearer, Bool.not_true, if_neg Bool.false_ne_true, dropped, ← earliest]
  dsimp only
  constructor
  · intro returned
    split at returned
    · cases returned
    split at returned
    · rename_i starts
      rw [apiKey] at returned
      cases key : service.findApiKey platform (trim (issueApiKey platform keyPrefix random).key) with
      | error thrown =>
          rw [key] at returned
          cases returned
      | ok other =>
          rw [key] at returned
          obtain ⟨_, _, _, _, _, same⟩ := context_ok_iff.mp returned
          have hit := (findApiKey_ok_iff stores).mp key
          obtain rfl : credential = other := List.inj_on_of_nodup_map stores.ids own
            (List.mem_of_find?_eq_some hit) (congrArg AuthenticatedContext.credentialId same)
          have prefixed := List.find?_some hit
          rw [answers, Bool.and_eq_true, decide_eq_true_eq, holds.keyPrefix,
            Option.some.injEq] at prefixed
          have valid : IsKeyPrefix keyPrefix := by
            have own := isKeyPrefix_of_startsWith starts
            rw [← prefixed.1] at own
            exact own
          have trimmed : trim (issueApiKey platform keyPrefix random).key =
              (issueApiKey platform keyPrefix random).key := valid.trim_key drawn
          have reads : keyPrefixOf (issueApiKey platform keyPrefix random).key = keyPrefix :=
            valid.keyPrefixOf_key _
          rw [trimmed, reads] at hit
          exact ⟨valid, hit⟩
    · rw [oidcToken] at returned
      cases token : service.findOidc (trim (issueApiKey platform keyPrefix random).key) with
      | error thrown =>
          rw [token] at returned
          cases returned
      | ok other =>
          rw [token] at returned
          obtain ⟨_, _, _, _, _, same⟩ := context_ok_iff.mp returned
          have methods : CredentialKind.apiKey = .oidc :=
            congrArg AuthenticatedContext.authenticationMethod same
          cases methods
  · rintro ⟨valid, hit⟩
    have trimmed : trim (issueApiKey platform keyPrefix random).key =
        (issueApiKey platform keyPrefix random).key := valid.trim_key drawn
    have reads : keyPrefixOf (issueApiKey platform keyPrefix random).key = keyPrefix :=
      valid.keyPrefixOf_key _
    have key : service.findApiKey platform (issueApiKey platform keyPrefix random).key =
        .ok credential := by
      rw [findApiKey_ok_iff stores, reads]
      exact hit
    have starts : (issueApiKey platform keyPrefix random).key.startsWith (js "iw_") = true := by
      obtain ⟨name, rfl, _⟩ := valid
      refine List.isPrefixOf_iff_prefix.mpr ⟨name ++ (js "_" ++ base64Url random), ?_⟩
      rw [issueApiKey, List.append_assoc, List.append_assoc]
    have some_ : ¬ (issueApiKey platform keyPrefix random).key.isEmpty = true := by
      obtain ⟨rest, same⟩ := List.isPrefixOf_iff_prefix.mp starts
      have start : js "iw_" = 105 :: js "w_" := by decide
      rw [← same, start]
      exact Bool.false_ne_true
    rw [trimmed, if_neg some_, if_pos starts, apiKey, key]
    exact context_ok_iff.mpr
      ⟨holds.isInactive, organization, project, environment, hierarchy, rfl⟩

end AuthenticationService

namespace LongPrefix

open AuthenticationService

/-- Thirty-two drawn bytes. -/
def random : List UInt8 := List.replicate 32 255

def organization : Organization := ⟨js "IW:ORGANIZATION:one", .active⟩

def project : Project := ⟨js "IW:PROJECT:one", organization.id, .active⟩

def environment : TenantEnvironment :=
  ⟨js "IW:ENVIRONMENT:prod", organization.id, project.id, .active⟩

/-- A credential with a key that was issued under a prefix. -/
def credential (keyPrefix : JsString) : Credential where
  id := js "IW:CREDENTIAL:one"
  organizationId := organization.id
  projectId := project.id
  environmentId := environment.id
  subjectId := js "IW:SERVICE_ACCOUNT:api"
  kind := .apiKey
  secretHash := some (issueApiKey isoPlatform keyPrefix random).secretHash
  keyPrefix := some keyPrefix
  scopes := [.assetsRead]
  expiresAt := none
  revokedAt := none

def service (keyPrefix : JsString) : AuthenticationService where
  registry :=
    { getOrganization := fun _ => some organization
      getProject := fun _ => some project
      getEnvironment := fun _ => some environment
      credentialsByPrefix := fun other =>
        [credential keyPrefix].filter fun credential => credential.keyPrefix = some other
      getCredential := fun _ => some (credential keyPrefix) }
  oidc := none
  expectedAudience := js "interweave"
  now := some 1786622460000

theorem stores (keyPrefix : JsString) :
    Stores (service keyPrefix).registry [credential keyPrefix] :=
  ⟨fun _ => rfl, List.nodup_singleton _⟩

theorem hierarchy (keyPrefix : JsString) :
    (service keyPrefix).Hierarchy (credential keyPrefix) organization project environment :=
  ⟨rfl, rfl, rfl, by decide⟩

/-- A key under a prefix with two underscores does not find its credential. -/
theorem acme_refused : (service (js "iw_acme_live")).authenticateBearer isoPlatform
    (js "Bearer " ++ (issueApiKey isoPlatform (js "iw_acme_live") random).key) =
      .error (.registryError .notFound (js "credential is invalid")) := by
  have outcome : (match (service (js "iw_acme_live")).authenticateBearer isoPlatform
      (js "Bearer " ++ (issueApiKey isoPlatform (js "iw_acme_live") random).key) with
    | .ok _ => none
    | .error thrown => some thrown) =
      some (.registryError .notFound (js "credential is invalid")) := by decide +kernel
  split at outcome
  · cases outcome
  · rename_i thrown returned
    rw [returned, Option.some.inj outcome]

/-- A key under the default prefix authenticates. -/
theorem live_accepted : (service defaultKeyPrefix).authenticateBearer isoPlatform
    (js "Bearer " ++ (issueApiKey isoPlatform defaultKeyPrefix random).key) =
      .ok (contextOf (credential defaultKeyPrefix) organization project environment .apiKey) := by
  have holds : HoldsKey (credential defaultKeyPrefix)
      (issueApiKey isoPlatform defaultKeyPrefix random) := ⟨rfl, rfl, rfl, rfl, rfl⟩
  apply (@issued_key_authenticates_iff isoPlatform _ _ [] [] _ _ _ _ _ _ (stores _) rfl holds
    (hierarchy _) (by decide)).mpr
  exact ⟨⟨js "live", by decide, by decide⟩, fun _ none => (List.not_mem_nil none).elim⟩

end LongPrefix

end InterWeave
