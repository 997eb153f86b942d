import InterWeave.Finality.FinalityService

/-! # Registered networks and their consumers

`assertNetworkConfiguration` admits an EVM network, `EvmAdapterClient` connects to its chain and
waits for its number of confirmations, and the finality service assesses observations of it. Each
checks the chain ID and the number with rules of its own. The registry admits a zero in both
places, the consumers in neither.
-/

namespace InterWeave

open Async (Program)

/-! ## The registry -/

/-- The parts of a parsed URL that the registry reads. -/
structure Url where
  protocol : JsString
  username : JsString
  password : JsString
  deriving DecidableEq, Repr

/-- The fields of a `Network` that `assertNetworkConfiguration` reads. -/
structure RegisteredNetwork where
  id : JsString
  type : JsString
  name : JsString
  endpoints : List JsString
  chainId : Option JsString
  finalityPolicy : FinalityPolicy

/-- The check of one endpoint. `parseUrl` is the parser of the platform, `none` where it throws. -/
def assertEndpoint (parseUrl : JsString → Option Url) (endpoint : JsString) : Except Thrown Unit :=
  match parseUrl endpoint with
  | none => .error (.registryError .invalidArgument (js "invalid endpoint: " ++ endpoint))
  | some url =>
      if url.protocol ≠ js "http:" && url.protocol ≠ js "https:" && url.protocol ≠ js "ws:" &&
          url.protocol ≠ js "wss:" then
        .error (.registryError .invalidArgument
          (js "unsupported endpoint protocol: " ++ url.protocol))
      else if !url.username.isEmpty || !url.password.isEmpty then
        .error (.registryError .invalidArgument
          (js "endpoint credentials must not be stored in the registry"))
      else .ok ()

/-- The checks of the chain ID and the policy. `/^(0|[1-9][0-9]*)$/` is the format of atomic
amounts. -/
def assertChainAndPolicy (network : RegisteredNetwork) : Except Thrown Unit :=
  if network.type = js "EVM" &&
      (isAbsent network.chainId || !isAtomicAmount (network.chainId.getD [])) then
    .error (.registryError .invalidArgument (js "EVM networks require a decimal chain ID"))
  else if network.type = js "CANTON" && network.chainId.isSome then
    .error (.registryError .invalidArgument (js "Canton networks do not use an EVM chain ID"))
  else
    match network.finalityPolicy with
    | .evmConfirmations confirmations _ =>
        if !confirmations.isSafeInteger || confirmations.lt (.ofNat 0) then
          .error (.registryError .invalidArgument
            (js "confirmations must be a non-negative safe integer"))
        else .ok ()
    | _ => .ok ()

def assertNetworkConfiguration (parseUrl : JsString → Option Url) (network : RegisteredNetwork) :
    Except Thrown Unit :=
  if !network.id.startsWith (js "IW:NETWORK:") ||
      network.id.length = (js "IW:NETWORK:").length then
    .error (.registryError .invalidArgument (js "invalid network ID"))
  else if network.name.isBlank then
    .error (.registryError .invalidArgument (js "network name is required"))
  else if network.type.isBlank then
    .error (.registryError .invalidArgument (js "network type is required"))
  else if network.endpoints.isEmpty then
    .error (.registryError .invalidArgument (js "at least one network endpoint is required"))
  else do
    network.endpoints.forM (assertEndpoint parseUrl)
    assertChainAndPolicy network

/-! ## The adapter -/

/-- `/^[1-9][0-9]*$/`. -/
def isChainId : JsString → Bool
  | [] => false
  | digit :: rest => (49 ≤ digit && digit ≤ 57) && rest.all fun unit => 48 ≤ unit && unit ≤ 57

def assertChainId (chainId : JsString) : Except Thrown Unit :=
  if isChainId chainId then .ok () else .error (.error (js "invalid EVM chain ID: " ++ chainId))

/-- What the transport reports of a transaction. The receipt is handed on. -/
structure EvmConfirmation (Receipt : Type) where
  receipt : Receipt
  confirmations : JsNumber
  observedHead : Int
  observedAt : JsString

inductive EvmFinalityKind where
  | finalizedTag
  | confirmations
  deriving DecidableEq, Repr

structure EvmFinality (Receipt : Type) where
  receipt : Receipt
  kind : EvmFinalityKind
  observedBlock : Int
  requiredConfirmations : Option JsNumber
  observedAt : JsString

inductive EvmFinalityPolicy where
  | finalizedTag
  | confirmations (confirmations : JsNumber)

/-- The calls of `waitForFinality` to its transport. -/
inductive EvmTransportCall where
  | waitForFinalizedTag (hash : JsString)
  | waitForConfirmation (hash : JsString) (confirmations : JsNumber)

abbrev EvmTransportCall.Value (Receipt : Type) : EvmTransportCall → Type
  | .waitForFinalizedTag _ => EvmFinality Receipt
  | .waitForConfirmation _ _ => EvmConfirmation Receipt

abbrev evmTransport (Receipt : Type) : Async.Interface where
  Call := EvmTransportCall
  Value := EvmTransportCall.Value Receipt
  Error := Thrown

/-- The client; `#connection` is not read here. -/
structure EvmAdapterClient where
  expectedChainId : JsString
  deriving DecidableEq, Repr

namespace EvmAdapterClient

def constructor (expectedChainId : JsString) : Except Thrown EvmAdapterClient := do
  assertChainId expectedChainId
  return ⟨expectedChainId⟩

/-- `#assertConfirmations`. -/
def assertConfirmations (value : JsNumber) : Except Thrown Unit :=
  if !value.isSafeInteger || value.lt (.ofNat 1) then
    .error (.error (js "confirmations must be a positive safe integer"))
  else .ok ()

/-- `waitForFinality`, which throws before it returns a promise where a check fails. No field of
the client is read. -/
def waitForFinality (Receipt : Type) (hash : JsString) :
    EvmFinalityPolicy → Except Thrown (Program (evmTransport Receipt) (EvmFinality Receipt))
  | .finalizedTag =>
      .ok (Program.call (I := evmTransport Receipt) (.waitForFinalizedTag hash))
  | .confirmations confirmations => do
      assertConfirmations confirmations
      return do
        let result ← Program.call (I := evmTransport Receipt)
          (.waitForConfirmation hash confirmations)
        return ⟨result.receipt, .confirmations, result.observedHead, some confirmations,
          result.observedAt⟩

end EvmAdapterClient

/-! ## Usable networks -/

/-- An observation of a transaction on the network, as `assess` receives it: a proper assessment
ID, the transaction named twice, and timestamps that parse. -/
structure FinalityInput.WellFormed (platform : Platform) (instant : Int) (networkId : JsString)
    (input : FinalityInput) : Prop where
  identified : input.id.startsWith (js "IW:FINALITY:") = true
  proper : input.id.length ≠ (js "IW:FINALITY:").length
  named : input.observation.transactionId.isBlank = false
  same : input.transactionId = input.observation.transactionId
  network : input.observation.networkId = networkId
  kind : input.observation.kind = js "EVM"
  observed : platform.dateParse input.observation.observedAt ≠ none
  assessed : platform.dateParse (platform.toISOString instant) ≠ none

/-- The service assesses the input once its assessment has been stored. -/
def FinalityService.Assesses (platform : Platform) (service : FinalityService) (instant : Int)
    (input : FinalityInput) : Prop :=
  ∃ assessment, (service.assess platform instant input).Reaches
    [⟨.save assessment, .ok ()⟩] (.settled (.ok assessment))

/-- What its consumers do with a network: a client of its chain is constructed, waits for its
confirmations, and every service configured with it assesses every observation of it. -/
structure RegisteredNetwork.Usable (platform : Platform) (Receipt : Type)
    (network : RegisteredNetwork) (confirmations : JsNumber) : Prop where
  constructs : ∃ client, EvmAdapterClient.constructor (network.chainId.getD []) = .ok client
  waits : ∀ hash, ∃ program,
    EvmAdapterClient.waitForFinality Receipt hash (.confirmations confirmations) = .ok program
  assesses : ∀ networks service, FinalityService.constructor networks = .ok service →
    ∀ configuration ∈ networks, configuration.networkId = network.id →
      configuration.networkType = network.type → configuration.chainId = network.chainId →
      configuration.policy = network.finalityPolicy →
      ∀ instant (input : FinalityInput), input.WellFormed platform instant network.id →
        service.Assesses platform instant input

section Usable

variable {parseUrl : JsString → Option Url} {platform : Platform} {network : RegisteredNetwork}
  {confirmations : JsNumber} {requireFinalizedTag : Bool}

/-- Decimal numbers are those that start with a digit from one on, and zero. -/
theorem isChainId_iff {text : JsString} (decimal : isAtomicAmount text = true) :
    isChainId text = true ↔ text ≠ js "0" := by
  cases text with
  | nil => cases decimal
  | cons digit rest =>
      cases rest with
      | nil =>
          have bounds : 48 ≤ digit.toNat ∧ digit.toNat ≤ 57 := by
            simpa [isAtomicAmount, UInt16.le_iff_toNat_le] using decimal
          have zero : js "0" = [48] := by decide
          rw [zero, isChainId, List.all_nil, Bool.and_true, Bool.and_eq_true, decide_eq_true_eq,
            decide_eq_true_eq, UInt16.le_iff_toNat_le, UInt16.le_iff_toNat_le, ne_eq,
            List.singleton_inj, ← UInt16.toNat_inj]
          have values : (49 : UInt16).toNat = 49 ∧ (57 : UInt16).toNat = 57 ∧
              (48 : UInt16).toNat = 48 := by decide
          omega
      | cons next rest =>
          have longer : digit :: next :: rest ≠ js "0" := by
            intro same
            cases same
          rw [iff_true_right longer]
          exact decimal

theorem isSafeInteger_positive_iff (safe : confirmations.isSafeInteger = true)
    (nonnegative : confirmations.lt (.ofNat 0) = false) :
    confirmations.lt (.ofNat 1) = false ↔ confirmations ≠ .ofNat 0 := by
  constructor
  · rintro positive rfl
    cases positive.symm.trans JsNumber.lt_ofNat
  · intro nonzero
    cases confirmations with
    | finite value =>
        simp only [JsNumber.isSafeInteger, Bool.and_eq_true, decide_eq_true_eq] at safe
        simp only [JsNumber.lt, JsNumber.ofNat, decide_eq_false_iff_not, not_lt, Nat.cast_zero,
          Nat.cast_one] at nonnegative ⊢
        have whole : (value.num : Rat) = value := (Rat.den_eq_one_iff value).mp safe.1
        rw [← whole] at nonnegative ⊢
        have least : 0 ≤ value.num := by exact_mod_cast nonnegative
        have other : value.num ≠ 0 := by
          intro zero
          rw [zero, Int.cast_zero] at whole
          exact nonzero (by rw [← whole, JsNumber.ofNat, Nat.cast_zero])
        exact_mod_cast (by omega : 1 ≤ value.num)
    | nan => cases safe
    | infinity => cases safe
    | negativeInfinity => cases safe

/-- What the registry has checked of an EVM network. -/
theorem assertNetworkConfiguration_ok
    (accepted : assertNetworkConfiguration parseUrl network = .ok ())
    (type : network.type = js "EVM")
    (policy : network.finalityPolicy = .evmConfirmations confirmations requireFinalizedTag) :
    (∃ chainId, network.chainId = some chainId ∧ isAtomicAmount chainId = true) ∧
      confirmations.isSafeInteger = true ∧ confirmations.lt (.ofNat 0) = false := by
  rw [assertNetworkConfiguration] at accepted
  split at accepted
  · cases accepted
  · split at accepted
    · cases accepted
    · split at accepted
      · cases accepted
      · split at accepted
        · cases accepted
        · obtain ⟨_, _, accepted⟩ := Atomic.ok_of_bind accepted
          rw [assertChainAndPolicy, type, policy] at accepted
          split at accepted
          · cases accepted
          · rename_i decimal
            rw [decide_eq_true rfl, Bool.true_and, Bool.or_eq_true, not_or, Bool.not_eq_true,
              Bool.not_eq_true, Bool.not_eq_false'] at decimal
            split at accepted
            · cases accepted
            · dsimp only at accepted
              split at accepted
              · cases accepted
              · rename_i valid
                rw [Bool.or_eq_true, not_or, Bool.not_eq_true, Bool.not_eq_true,
                  Bool.not_eq_false'] at valid
                cases chainId : network.chainId with
                | none =>
                    rw [chainId] at decimal
                    cases decimal.1
                | some text =>
                    rw [chainId] at decimal
                    exact ⟨⟨text, rfl, decimal.2⟩, valid⟩

theorem assertConfirmations_iff :
    EvmAdapterClient.assertConfirmations confirmations = .ok () ↔
      confirmations.isSafeInteger = true ∧ confirmations.lt (.ofNat 1) = false := by
  rw [EvmAdapterClient.assertConfirmations]
  cases confirmations.isSafeInteger <;> cases confirmations.lt (.ofNat 1) <;> simp

theorem assertCommon_iff {instant : Int} {input : FinalityInput}
    {configuration : FinalityNetworkConfiguration} {networkId : JsString}
    (wellFormed : input.WellFormed platform instant networkId)
    (type : configuration.networkType = js "EVM")
    (policy : configuration.policy = .evmConfirmations confirmations requireFinalizedTag) :
    assertCommon platform input configuration (platform.toISOString instant) = .ok () ↔
      confirmations.isSafeInteger = true ∧ confirmations.lt (.ofNat 1) = false := by
  rw [assertCommon, if_neg (by simp [wellFormed.identified, wellFormed.proper]),
    if_neg (by simp [wellFormed.named, wellFormed.same]),
    if_neg (by rw [not_not, type, wellFormed.kind]),
    if_neg (by simp [wellFormed.observed, wellFormed.assessed]), policy]
  dsimp only
  cases confirmations.isSafeInteger <;> cases confirmations.lt (.ofNat 1) <;> simp

/-- **Usable networks.** A registered EVM network with a number of confirmations is usable by its
consumers exactly if neither its chain ID nor this number is zero. -/
theorem registered_usable_iff (Receipt : Type)
    (accepted : assertNetworkConfiguration parseUrl network = .ok ())
    (type : network.type = js "EVM")
    (policy : network.finalityPolicy = .evmConfirmations confirmations requireFinalizedTag) :
    network.Usable platform Receipt confirmations ↔
      network.chainId ≠ some (js "0") ∧ confirmations ≠ .ofNat 0 := by
  obtain ⟨⟨chainId, known, decimal⟩, safe, nonnegative⟩ :=
    assertNetworkConfiguration_ok accepted type policy
  have connects : (∃ client, EvmAdapterClient.constructor (network.chainId.getD []) = .ok client) ↔
      network.chainId ≠ some (js "0") := by
    rw [known, Option.getD_some, ne_eq, Option.some.injEq, ← ne_eq, ← isChainId_iff decimal,
      EvmAdapterClient.constructor, assertChainId]
    cases isChainId chainId with
    | true => exact iff_of_true ⟨_, rfl⟩ rfl
    | false => exact iff_of_false nofun nofun
  have counts := isSafeInteger_positive_iff safe nonnegative
  constructor
  · intro usable
    refine ⟨connects.mp usable.constructs, counts.mp ?_⟩
    obtain ⟨program, waiting⟩ := usable.waits []
    obtain ⟨_, checked, _⟩ := Atomic.ok_of_bind waiting
    exact (assertConfirmations_iff.mp checked).2
  · rintro ⟨chain, number⟩
    have positive := counts.mpr number
    refine ⟨connects.mpr chain, fun hash => ?_, ?_⟩
    · rw [EvmAdapterClient.waitForFinality, assertConfirmations_iff.mpr ⟨safe, positive⟩]
      exact ⟨_, rfl⟩
    · intro networks service constructed configuration member sameId sameType _ samePolicy instant
        input wellFormed
      have found := (FinalityService.find?_iff constructed).mpr ⟨member, sameId⟩
      rw [← wellFormed.network] at found
      refine ⟨_, FinalityService.assess_settles found ?_⟩
      refine (assertCommon_iff wellFormed (sameType.trans type) (samePolicy.trans policy)).mpr ?_
      exact ⟨safe, positive⟩

end Usable

namespace ZeroValues

/-- A parser that knows one endpoint. -/
def parseUrl (endpoint : JsString) : Option Url :=
  if endpoint = js "https://rpc.example" then some ⟨js "https:", [], []⟩ else none

def network (chainId : JsString) (confirmations : Nat) : RegisteredNetwork where
  id := js "IW:NETWORK:evm"
  type := js "EVM"
  name := js "chain"
  endpoints := [js "https://rpc.example"]
  chainId := some chainId
  finalityPolicy := .evmConfirmations (.ofNat confirmations) true

theorem ordinary_network_usable : (network (js "1") 6).Usable isoPlatform Unit (.ofNat 6) := by
  apply (@registered_usable_iff parseUrl _ _ _ _ Unit (by decide +kernel) rfl rfl).mpr
  exact ⟨by decide, by decide⟩

/-- The chain zero and zero confirmations are registered, but the adapter takes neither and the
service does not assess what is observed under the latter. -/
theorem zero_network_unusable :
    (assertNetworkConfiguration parseUrl (network (js "0") 6) = .ok () ∧
      EvmAdapterClient.constructor (js "0") =
        .error (.error (js "invalid EVM chain ID: " ++ js "0")) ∧
      ¬ (network (js "0") 6).Usable isoPlatform Unit (.ofNat 6)) ∧
    assertNetworkConfiguration parseUrl (network (js "1") 0) = .ok () ∧
      (∀ hash, EvmAdapterClient.waitForFinality Unit hash (.confirmations (.ofNat 0)) =
        .error (.error (js "confirmations must be a positive safe integer"))) ∧
      ¬ (network (js "1") 0).Usable isoPlatform Unit (.ofNat 0) := by
  have refused : EvmAdapterClient.constructor (js "0") =
      .error (.error (js "invalid EVM chain ID: " ++ js "0")) := by decide +kernel
  have checked : EvmAdapterClient.assertConfirmations (.ofNat 0) =
      .error (.error (js "confirmations must be a positive safe integer")) := by decide +kernel
  have throws (hash : JsString) :
      EvmAdapterClient.waitForFinality Unit hash (.confirmations (.ofNat 0)) =
        .error (.error (js "confirmations must be a positive safe integer")) := by
    rw [EvmAdapterClient.waitForFinality, checked]
    rfl
  refine ⟨⟨by decide +kernel, refused, ?_⟩, by decide +kernel, throws, ?_⟩
  · intro usable
    obtain ⟨client, constructed⟩ := usable.constructs
    cases refused.symm.trans constructed
  · intro usable
    obtain ⟨program, waiting⟩ := usable.waits []
    cases (throws []).symm.trans waiting

end ZeroValues
end InterWeave
