import InterWeave.Async.Transcript
import InterWeave.Atomic.Machine
import InterWeave.Core.IsoDate
import InterWeave.Core.Numbers
import InterWeave.Core.OrderedMap

/-! # Finality assessments

`finality-service.ts`: an observation of a transaction is judged by the policy of its network, and
the assessment is stored before it is returned. The identity of the chain and the policy come from
the configuration of the service. An observation says how many confirmations there are and whether
the block is finalized; its heights are recorded but not compared.
-/

namespace InterWeave

open Async (Program)

/-! ## Records -/

inductive FinalityPolicy where
  | evmConfirmations (confirmations : JsNumber) (requireFinalizedTag : Bool)
  | cantonCompletion (synchronizerId : Option JsString)
  | adapterDefined (name : JsString) (configuration : JsValue)

inductive ReceiptStatus where
  | success
  | reverted
  deriving DecidableEq, Repr

structure EvmFinalityObservation where
  networkId : JsString
  chainId : JsString
  transactionId : JsString
  receiptStatus : ReceiptStatus
  transactionBlockNumber : JsString
  transactionBlockHash : JsString
  canonicalBlockHash : JsString
  observedHead : JsString
  confirmations : JsNumber
  includedInFinalizedChain : Bool
  finalizedBlockNumber : Option JsString
  finalizedBlockHash : Option JsString
  provider : JsString
  observedAt : JsString

inductive CompletionStatus where
  | committed
  | rejected
  | unknown
  deriving DecidableEq, Repr

structure CantonFinalityObservation where
  networkId : JsString
  transactionId : JsString
  status : CompletionStatus
  completionOffset : Option JsString
  updateId : Option JsString
  synchronizerId : Option JsString
  participantId : JsString
  partyScope : List JsString
  observedAt : JsString

inductive NetworkFinalityObservation where
  | evm (observation : EvmFinalityObservation)
  | canton (observation : CantonFinalityObservation)

namespace NetworkFinalityObservation

def kind : NetworkFinalityObservation → JsString
  | .evm _ => js "EVM"
  | .canton _ => js "CANTON"

def networkId : NetworkFinalityObservation → JsString
  | .evm observation => observation.networkId
  | .canton observation => observation.networkId

def transactionId : NetworkFinalityObservation → JsString
  | .evm observation => observation.transactionId
  | .canton observation => observation.transactionId

def observedAt : NetworkFinalityObservation → JsString
  | .evm observation => observation.observedAt
  | .canton observation => observation.observedAt

end NetworkFinalityObservation

structure FinalityNetworkConfiguration where
  networkId : JsString
  networkType : JsString
  chainId : Option JsString
  policy : FinalityPolicy
  enabled : Bool

inductive FinalityOutcome where
  | satisfied
  | pending
  | rejected
  | uncertain
  deriving DecidableEq, Repr

structure FinalityAssessment where
  id : JsString
  networkId : JsString
  networkType : JsString
  transactionId : JsString
  policy : FinalityPolicy
  outcome : FinalityOutcome
  reasonCodes : List JsString
  observedPosition : JsString
  evidence : List JsString
  observation : NetworkFinalityObservation
  assessedAt : JsString

/-! ## Evaluation -/

/-- What `evaluation` returns. -/
structure FinalityEvaluation where
  outcome : FinalityOutcome
  reasonCodes : List JsString
  observedPosition : JsString
  evidence : List JsString

variable (platform : Platform)

def evaluation (outcome : FinalityOutcome) (reasonCodes : List JsString)
    (observedPosition : JsString) (observation : NetworkFinalityObservation) :
    FinalityEvaluation where
  outcome := outcome
  reasonCodes := reasonCodes
  observedPosition := observedPosition
  evidence :=
    match observation with
    | .evm observation =>
        [js "provider=" ++ observation.provider, js "chainId=" ++ observation.chainId,
          js "transactionBlock=" ++ observation.transactionBlockNumber ++ js ":" ++
            observation.transactionBlockHash,
          js "canonicalBlockHash=" ++ observation.canonicalBlockHash,
          js "confirmations=" ++ observation.confirmations.text platform,
          js "finalizedBlock=" ++ observation.finalizedBlockNumber.getD (js "none") ++ js ":" ++
            observation.finalizedBlockHash.getD (js "none")]
    | .canton observation =>
        [js "participant=" ++ observation.participantId,
          js "partyScope=" ++ JsString.join (js ",")
            (observation.partyScope.insertionSort (· ≤ ·)),
          js "completionOffset=" ++ observation.completionOffset.getD (js "none"),
          js "updateId=" ++ observation.updateId.getD (js "none"),
          js "synchronizerId=" ++ observation.synchronizerId.getD (js "none")]

/-- `!value` of an optional text. -/
def isAbsent : Option JsString → Bool
  | none => true
  | some text => text.isEmpty

/-- The reasons for which `evaluateEvm` finds a canonical transaction pending. -/
def pendingReasons (confirmations : JsNumber) (requireFinalizedTag : Bool)
    (observation : EvmFinalityObservation) : List JsString :=
  (if observation.confirmations.lt confirmations then [js "CONFIRMATIONS_PENDING"] else []) ++
    if requireFinalizedTag && (!observation.includedInFinalizedChain ||
        isAbsent observation.finalizedBlockNumber || isAbsent observation.finalizedBlockHash) then
      [js "FINALIZED_TAG_PENDING"]
    else []

def evaluateEvm (policy : FinalityPolicy) (observation : EvmFinalityObservation)
    (expectedChainId : Option JsString) : FinalityEvaluation :=
  let judged (outcome : FinalityOutcome) (reason : JsString) :=
    evaluation platform outcome [reason] observation.transactionBlockNumber (.evm observation)
  match policy with
  | .evmConfirmations confirmations requireFinalizedTag =>
      if isAbsent expectedChainId || some observation.chainId ≠ expectedChainId then
        judged .rejected (js "CHAIN_ID_MISMATCH")
      else if observation.receiptStatus = .reverted then
        judged .rejected (js "TRANSACTION_REVERTED")
      else if observation.transactionBlockHash.toLowerCase ≠
          observation.canonicalBlockHash.toLowerCase then
        judged .uncertain (js "BLOCK_NOT_CANONICAL")
      else if !observation.confirmations.isSafeInteger ||
          observation.confirmations.lt (.ofNat 0) then
        judged .rejected (js "INVALID_CONFIRMATION_EVIDENCE")
      else
        let reasons := pendingReasons confirmations requireFinalizedTag observation
        let finalized :=
          observation.includedInFinalizedChain && !isAbsent observation.finalizedBlockNumber
        let position :=
          if finalized then js "finalized:" ++ observation.finalizedBlockNumber.getD []
          else js "head:" ++ observation.observedHead
        evaluation platform (if reasons.isEmpty then .satisfied else .pending) reasons position
          (.evm observation)
  | _ => judged .rejected (js "POLICY_TYPE_MISMATCH")

def evaluateCanton (policy : FinalityPolicy) (observation : CantonFinalityObservation) :
    FinalityEvaluation :=
  let judged (outcome : FinalityOutcome) (reason : JsString) :=
    evaluation platform outcome [reason] (observation.completionOffset.getD (js "unknown"))
      (.canton observation)
  match policy with
  | .cantonCompletion synchronizerId =>
      if observation.partyScope.isEmpty then judged .rejected (js "PARTY_SCOPE_REQUIRED")
      else
        match observation.status with
        | .rejected => judged .rejected (js "COMMAND_REJECTED")
        | .unknown => judged .pending (js "COMPLETION_PENDING")
        | .committed =>
            if isAbsent observation.completionOffset || isAbsent observation.updateId then
              judged .uncertain (js "COMPLETION_EVIDENCE_INCOMPLETE")
            else if !isAbsent synchronizerId && observation.synchronizerId ≠ synchronizerId then
              judged .rejected (js "SYNCHRONIZER_MISMATCH")
            else
              evaluation platform .satisfied []
                (js "participant:" ++ observation.participantId ++ js ":offset:" ++
                  observation.completionOffset.getD []) (.canton observation)
  | _ => judged .rejected (js "POLICY_TYPE_MISMATCH")

/-! ## The service -/

structure FinalityInput where
  id : JsString
  transactionId : JsString
  observation : NetworkFinalityObservation

/-- `#networks`. -/
structure FinalityService where
  networks : OrderedMap JsString FinalityNetworkConfiguration

/-- The constructor: every network is configured once. -/
def FinalityService.constructor (networks : List FinalityNetworkConfiguration) :
    Except Thrown FinalityService := do
  let configured ← networks.foldlM
    (fun (configured : OrderedMap JsString FinalityNetworkConfiguration) network =>
      if (configured.find? network.networkId).isSome then
        .error (.registryError .conflict (js "duplicate finality network: " ++ network.networkId))
      else .ok (configured.set network.networkId network)) .empty
  return ⟨configured⟩

/-- `assertCommon`. -/
def assertCommon (input : FinalityInput) (configuration : FinalityNetworkConfiguration)
    (assessedAt : JsString) : Except Thrown Unit :=
  if !input.id.startsWith (js "IW:FINALITY:") ||
      input.id.length = (js "IW:FINALITY:").length then
    .error (.registryError .invalidArgument (js "invalid finality assessment ID"))
  else if input.transactionId.isBlank || input.transactionId ≠ input.observation.transactionId then
    .error (.registryError .invalidArgument (js "finality transaction ID mismatch"))
  else if configuration.networkType ≠ input.observation.kind then
    .error (.registryError .invalidArgument (js "finality network type mismatch"))
  else if (platform.dateParse input.observation.observedAt).isNone ||
      (platform.dateParse assessedAt).isNone then
    .error (.registryError .invalidArgument (js "invalid finality timestamp"))
  else
    match configuration.policy with
    | .evmConfirmations confirmations _ =>
        if !confirmations.isSafeInteger || confirmations.lt (.ofNat 1) then
          .error (.registryError .invalidArgument
            (js "EVM finality confirmations must be positive"))
        else .ok ()
    | _ => .ok ()

/-- What the service awaits: `save` of its store. -/
inductive FinalityCall where
  | save (assessment : FinalityAssessment)

abbrev finalityInterface : Async.Interface where
  Call := FinalityCall
  Value _ := Unit
  Error := Thrown

abbrev FinalityProgram := Program finalityInterface

namespace FinalityService

variable (service : FinalityService)

/-- What the evaluation of the input finds under a configuration. -/
def evaluate (configuration : FinalityNetworkConfiguration)
    (observation : NetworkFinalityObservation) : FinalityEvaluation :=
  if !configuration.enabled then
    evaluation platform .rejected [js "NETWORK_DISABLED"] (js "disabled") observation
  else
    match observation with
    | .evm evm => evaluateEvm platform configuration.policy evm configuration.chainId
    | .canton canton => evaluateCanton platform configuration.policy canton

/-- The assessment of an input under a configuration. -/
def assessment (instant : Int) (input : FinalityInput)
    (configuration : FinalityNetworkConfiguration) : FinalityAssessment :=
  let evaluated := evaluate platform configuration input.observation
  { id := input.id
    networkId := input.observation.networkId
    networkType := configuration.networkType
    transactionId := input.transactionId
    policy := configuration.policy
    outcome := evaluated.outcome
    reasonCodes := evaluated.reasonCodes
    observedPosition := evaluated.observedPosition
    evidence := evaluated.evidence
    observation := input.observation
    assessedAt := platform.toISOString instant }

/-- `assess`, at the instant of its clock. -/
def assess (instant : Int) (input : FinalityInput) : FinalityProgram FinalityAssessment :=
  match service.networks.find? input.observation.networkId with
  | none => Program.reject (.registryError .notFound
      (js "finality network not configured: " ++ input.observation.networkId))
  | some configuration => do
      Program.ofExcept (assertCommon platform input configuration (platform.toISOString instant))
      Program.call (I := finalityInterface)
        (.save (assessment platform instant input configuration))
      return assessment platform instant input configuration

end FinalityService

/-! ## Configured networks -/

section Configured

variable {platform} {networks : List FinalityNetworkConfiguration} {service : FinalityService}
  {configuration : FinalityNetworkConfiguration}

theorem configured_find?_iff {configured result : OrderedMap JsString FinalityNetworkConfiguration}
    (built : networks.foldlM
      (fun (configured : OrderedMap JsString FinalityNetworkConfiguration) network =>
        if (configured.find? network.networkId).isSome then
          Except.error (Thrown.registryError .conflict
            (js "duplicate finality network: " ++ network.networkId))
        else .ok (configured.set network.networkId network)) configured = .ok result)
    {networkId : JsString} : result.find? networkId = some configuration ↔
      configured.find? networkId = some configuration ∨
        configuration ∈ networks ∧ configuration.networkId = networkId := by
  induction networks generalizing configured with
  | nil =>
      cases built
      simp
  | cons network rest ih =>
      rw [List.foldlM_cons] at built
      obtain ⟨next, added, built⟩ := Atomic.ok_of_bind built
      split at added
      · cases added
      · rename_i absent
        cases added
        rw [Option.not_isSome_iff_eq_none] at absent
        rw [ih built, List.mem_cons]
        by_cases here : networkId = network.networkId
        · subst here
          rw [OrderedMap.find?_set_self, absent]
          constructor
          · rintro (same | ⟨member, named⟩)
            · exact .inr ⟨.inl (Option.some.inj same).symm, by rw [Option.some.inj same]⟩
            · exact .inr ⟨.inr member, named⟩
          · rintro (never | ⟨rfl | member, named⟩)
            · cases never
            · exact .inl rfl
            · exact .inr ⟨member, named⟩
        · rw [OrderedMap.find?_set_of_ne here]
          constructor
          · rintro (found | ⟨member, named⟩)
            · exact .inl found
            · exact .inr ⟨.inr member, named⟩
          · rintro (found | ⟨rfl | member, named⟩)
            · exact .inl found
            · exact absurd named.symm here
            · exact .inr ⟨member, named⟩

/-- The service knows exactly the networks it was constructed with. -/
theorem FinalityService.find?_iff (constructed : constructor networks = .ok service)
    {networkId : JsString} : service.networks.find? networkId = some configuration ↔
      configuration ∈ networks ∧ configuration.networkId = networkId := by
  obtain ⟨configured, built, same⟩ := Atomic.ok_of_bind constructed
  cases same
  rw [configured_find?_iff built, OrderedMap.find?_empty]
  simp

end Configured

/-! ## Assessments -/

section Assessments

variable {platform} {service : FinalityService} {instant : Int} {input : FinalityInput}
  {configuration : FinalityNetworkConfiguration} {assessment : FinalityAssessment}
  {exchanges : List (Async.Exchange finalityInterface)}

theorem assess_of_find? (found : service.networks.find? input.observation.networkId =
    some configuration) : service.assess platform instant input =
      (Program.ofExcept
          (assertCommon platform input configuration (platform.toISOString instant)) >>= fun _ =>
        Program.await
          (FinalityCall.save (FinalityService.assessment platform instant input configuration))
          fun answer => Program.settled answer >>= fun _ =>
            .settled (.ok (FinalityService.assessment platform instant input configuration))) := by
  rw [FinalityService.assess, found]
  rfl

/-- What is returned is the assessment of an input that has passed the checks. -/
theorem FinalityService.assess_ok (returned : (service.assess platform instant input).Reaches
    exchanges (.settled (.ok assessment))) : ∃ configuration,
      service.networks.find? input.observation.networkId = some configuration ∧
      assertCommon platform input configuration (platform.toISOString instant) = .ok () ∧
      assessment = FinalityService.assessment platform instant input configuration := by
  cases found : service.networks.find? input.observation.networkId with
  | none =>
      rw [assess, found] at returned
      cases returned
  | some configuration =>
      rw [assess_of_find? found] at returned
      refine ⟨configuration, rfl, ?_⟩
      cases checked : assertCommon platform input configuration (platform.toISOString instant) with
      | error error =>
          rw [checked] at returned
          cases returned
      | ok _ =>
          rw [checked] at returned
          cases returned with
          | answer answer rest =>
              cases answer with
              | error error => cases rest
              | ok _ =>
                  cases rest
                  exact ⟨rfl, rfl⟩

/-- An input that passes the checks is assessed as soon as its assessment is stored. -/
theorem FinalityService.assess_settles
    (found : service.networks.find? input.observation.networkId = some configuration)
    (checked : assertCommon platform input configuration (platform.toISOString instant) = .ok ()) :
    (service.assess platform instant input).Reaches
      [⟨.save (FinalityService.assessment platform instant input configuration), .ok ()⟩]
      (.settled (.ok (FinalityService.assessment platform instant input configuration))) := by
  rw [assess_of_find? found, checked]
  exact .answer _ (.refl _)

end Assessments

/-! ## Satisfied policies -/

/-- The observation says what the policy of the configuration asks for. -/
structure FinalityNetworkConfiguration.SatisfiedBy (configuration : FinalityNetworkConfiguration)
    (observation : EvmFinalityObservation) : Prop where
  enabled : configuration.enabled = true
  networkType : configuration.networkType = js "EVM"
  chainId : configuration.chainId = some observation.chainId
  named : observation.chainId ≠ []
  succeeded : observation.receiptStatus = .success
  canonical : observation.transactionBlockHash.toLowerCase =
    observation.canonicalBlockHash.toLowerCase
  confirmed : ∃ (required counted : Nat) (requireFinalizedTag : Bool),
    configuration.policy = .evmConfirmations (.ofNat required) requireFinalizedTag ∧
      observation.confirmations = .ofNat counted ∧ 1 ≤ required ∧ required ≤ counted ∧
      counted ≤ 2 ^ 53 - 1 ∧
      (requireFinalizedTag = true → observation.includedInFinalizedChain = true ∧
        isAbsent observation.finalizedBlockNumber = false ∧
        isAbsent observation.finalizedBlockHash = false)

section Satisfied

variable {platform} {networks : List FinalityNetworkConfiguration} {service : FinalityService}
  {instant : Int} {configuration : FinalityNetworkConfiguration}
  {observation : EvmFinalityObservation} {id transactionId assessedAt : JsString}
  {assessment : FinalityAssessment} {exchanges : List (Async.Exchange finalityInterface)}

@[simp] theorem evaluation_outcome {outcome : FinalityOutcome} {reasonCodes : List JsString}
    {position : JsString} {observed : NetworkFinalityObservation} :
    (evaluation platform outcome reasonCodes position observed).outcome = outcome := rfl

theorem pendingReasons_isEmpty_iff {confirmations : JsNumber} {requireFinalizedTag : Bool} :
    (pendingReasons confirmations requireFinalizedTag observation).isEmpty = true ↔
      observation.confirmations.lt confirmations = false ∧
      (requireFinalizedTag = true → observation.includedInFinalizedChain = true ∧
        isAbsent observation.finalizedBlockNumber = false ∧
        isAbsent observation.finalizedBlockHash = false) := by
  rw [pendingReasons, List.isEmpty_iff, List.append_eq_nil_iff]
  refine and_congr ?_ ?_
  · cases observation.confirmations.lt confirmations <;> simp
  · cases requireFinalizedTag with
    | false => simp
    | true =>
        cases observation.includedInFinalizedChain <;>
          cases isAbsent observation.finalizedBlockNumber <;>
          cases isAbsent observation.finalizedBlockHash <;> simp

theorem isAbsent_some {text : JsString} : isAbsent (some text) = false ↔ text ≠ [] := by
  cases text <;> simp [isAbsent]

/-- A finding that is not satisfied is not the one returned. -/
theorem satisfied_ite_iff {rejects : Prop} [Decidable rejects] {first second : FinalityEvaluation}
    (other : first.outcome ≠ .satisfied) :
    (if rejects then first else second).outcome = .satisfied ↔
      ¬ rejects ∧ second.outcome = .satisfied := by
  split
  · rename_i rejected
    exact ⟨fun same => absurd same other, fun passes => absurd rejected passes.1⟩
  · rename_i passes
    exact (and_iff_right passes).symm

theorem evaluateEvm_satisfied_iff {confirmations : JsNumber} {requireFinalizedTag : Bool}
    {expectedChainId : Option JsString} :
    (evaluateEvm platform (.evmConfirmations confirmations requireFinalizedTag) observation
        expectedChainId).outcome = .satisfied ↔
      (expectedChainId = some observation.chainId ∧ observation.chainId ≠ []) ∧
      observation.receiptStatus = .success ∧
      observation.transactionBlockHash.toLowerCase =
        observation.canonicalBlockHash.toLowerCase ∧
      (observation.confirmations.isSafeInteger = true ∧
        observation.confirmations.lt (.ofNat 0) = false) ∧
      (pendingReasons confirmations requireFinalizedTag observation).isEmpty = true := by
  rw [evaluateEvm]
  dsimp only
  rw [satisfied_ite_iff (by simp), satisfied_ite_iff (by simp), satisfied_ite_iff (by simp),
    satisfied_ite_iff (by simp), evaluation_outcome]
  refine and_congr ?_ (and_congr ?_ (and_congr not_not (and_congr ?_ ?_)))
  · rw [Bool.or_eq_true, not_or, Bool.not_eq_true, decide_eq_true_eq, not_not]
    constructor
    · rintro ⟨present, same⟩
      rw [← same, isAbsent_some] at present
      exact ⟨same.symm, present⟩
    · rintro ⟨same, named⟩
      rw [same, isAbsent_some]
      exact ⟨named, rfl⟩
  · cases observation.receiptStatus <;> simp
  · rw [Bool.or_eq_true, not_or, Bool.not_eq_true, Bool.not_eq_true, Bool.not_eq_false']
  · split
    · rename_i done
      rw [done]
      simp
    · rename_i pending
      rw [iff_false_right pending]
      simp

theorem evaluate_satisfied_iff :
    (FinalityService.evaluate platform configuration (.evm observation)).outcome = .satisfied ↔
      configuration.enabled = true ∧
      (evaluateEvm platform configuration.policy observation configuration.chainId).outcome =
        .satisfied := by
  rw [FinalityService.evaluate, satisfied_ite_iff (by simp)]
  simp

/-- What `assertCommon` has checked of the network. -/
theorem assertCommon_ok {input : FinalityInput}
    (checked : assertCommon platform input configuration assessedAt = .ok ()) :
    configuration.networkType = input.observation.kind ∧
      ∀ confirmations requireFinalizedTag,
        configuration.policy = .evmConfirmations confirmations requireFinalizedTag →
          ∃ required : Nat, confirmations = .ofNat required ∧ 1 ≤ required := by
  rw [assertCommon] at checked
  split at checked
  · cases checked
  · split at checked
    · cases checked
    · split at checked
      · cases checked
      · rename_i type
        rw [not_not] at type
        refine ⟨type, ?_⟩
        split at checked
        · cases checked
        · intro confirmations requireFinalizedTag policy
          rw [policy] at checked
          dsimp only at checked
          split at checked
          · cases checked
          · rename_i valid
            rw [Bool.or_eq_true, not_or, Bool.not_eq_true, Bool.not_eq_true,
              Bool.not_eq_false'] at valid
            exact JsNumber.eq_ofNat_of_isSafeInteger valid.1 valid.2

theorem isSafeInteger_ofNat {count : Nat} :
    (JsNumber.ofNat count).isSafeInteger = true ↔ count ≤ 2 ^ 53 - 1 := by
  simp only [JsNumber.isSafeInteger, JsNumber.ofNat, Rat.den_natCast, Rat.num_natCast,
    Int.natAbs_natCast, decide_true, Bool.true_and]
  exact decide_eq_true_iff

/-- A number that is not below a count is not below a smaller one. -/
theorem not_lt_ofNat_mono {value : JsNumber} {fewer more : Nat}
    (reaches : value.lt (.ofNat more) = false) (less : fewer ≤ more) :
    value.lt (.ofNat fewer) = false := by
  cases value with
  | finite value =>
      simp only [JsNumber.lt, JsNumber.ofNat, decide_eq_false_iff_not, not_lt] at reaches ⊢
      exact (Nat.cast_le.mpr less).trans reaches
  | nan => rfl
  | infinity => rfl
  | negativeInfinity => cases reaches

/-- Under a policy that the checks admit, the evaluation is satisfied exactly by what the policy
asks for. -/
theorem satisfiedBy_iff {input : FinalityInput} (observed : input.observation = .evm observation)
    (checked : assertCommon platform input configuration assessedAt = .ok ()) :
    (FinalityService.evaluate platform configuration (.evm observation)).outcome = .satisfied ↔
      configuration.SatisfiedBy observation := by
  obtain ⟨type, positive⟩ := assertCommon_ok checked
  rw [observed] at type
  rw [evaluate_satisfied_iff]
  cases policy : configuration.policy with
  | evmConfirmations confirmations requireFinalizedTag =>
      obtain ⟨required, rfl, least⟩ := positive _ _ policy
      rw [evaluateEvm_satisfied_iff, pendingReasons_isEmpty_iff]
      constructor
      · rintro ⟨enabled, ⟨chainId, named⟩, succeeded, canonical, ⟨safe, nonnegative⟩, deep, tagged⟩
        refine ⟨enabled, type, chainId, named, succeeded, canonical, ?_⟩
        obtain ⟨counted, same, _⟩ :=
          JsNumber.eq_ofNat_of_isSafeInteger safe (not_lt_ofNat_mono deep least)
        rw [same, JsNumber.lt_ofNat, decide_eq_false_iff_not, not_lt] at deep
        rw [same, isSafeInteger_ofNat] at safe
        exact ⟨required, counted, requireFinalizedTag, policy, same, least, deep, safe, tagged⟩
      · rintro ⟨enabled, _, chainId, named, succeeded, canonical,
          ⟨needed, counted, tag, same, counts, _, deep, safe, tagged⟩⟩
        rw [policy] at same
        cases same
        rw [counts, isSafeInteger_ofNat]
        refine ⟨enabled, ⟨chainId, named⟩, succeeded, canonical, ⟨safe, ?_⟩, ?_, tagged⟩
        · simp
        · simpa using deep
  | cantonCompletion synchronizerId =>
      constructor
      · rintro ⟨_, never⟩
        cases never
      · intro satisfied
        obtain ⟨_, _, _, same, _⟩ := satisfied.confirmed
        rw [policy] at same
        cases same
  | adapterDefined name values =>
      constructor
      · rintro ⟨_, never⟩
        cases never
      · intro satisfied
        obtain ⟨_, _, _, same, _⟩ := satisfied.confirmed
        rw [policy] at same
        cases same

/-- **Satisfied assessments.** An assessment of an EVM observation is satisfied exactly if the
network is enabled and of this type, chain, receipt and block hash are as expected, and the
observation itself claims the confirmations and the finalized block that the policy asks for. -/
theorem assess_satisfied_iff (constructed : FinalityService.constructor networks = .ok service)
    (returned : (service.assess platform instant ⟨id, transactionId, .evm observation⟩).Reaches
      exchanges (.settled (.ok assessment))) :
    assessment.outcome = .satisfied ↔ ∃ configuration ∈ networks,
      configuration.networkId = observation.networkId ∧ configuration.SatisfiedBy observation := by
  obtain ⟨configuration, found, checked, rfl⟩ := FinalityService.assess_ok returned
  obtain ⟨member, named⟩ := (FinalityService.find?_iff constructed).mp found
  change (FinalityService.evaluate platform configuration (.evm observation)).outcome = _ ↔ _
  rw [satisfiedBy_iff rfl checked]
  constructor
  · exact fun satisfied => ⟨configuration, member, named, satisfied⟩
  · rintro ⟨other, among, same, satisfied⟩
    have both := (FinalityService.find?_iff constructed).mpr ⟨among, same⟩
    rwa [Option.some.inj (found.symm.trans both)]

end Satisfied

namespace SixConfirmations

def network : FinalityNetworkConfiguration where
  networkId := js "IW:NETWORK:evm"
  networkType := js "EVM"
  chainId := some (js "1")
  policy := .evmConfirmations (.ofNat 6) true
  enabled := true

/-- A transaction in block 100 with a number of confirmations, a head and a finalized block. -/
def observation (confirmations : Nat) (observedHead finalizedBlockNumber : JsString) :
    EvmFinalityObservation where
  networkId := js "IW:NETWORK:evm"
  chainId := js "1"
  transactionId := js "0xtx"
  receiptStatus := .success
  transactionBlockNumber := js "100"
  transactionBlockHash := js "0xaaa"
  canonicalBlockHash := js "0xaaa"
  observedHead := observedHead
  confirmations := .ofNat confirmations
  includedInFinalizedChain := true
  finalizedBlockNumber := some finalizedBlockNumber
  finalizedBlockHash := some (js "0xfff")
  provider := js "validator-rpc-1"
  observedAt := js "2026-08-11T11:59:59.000Z"

def input (observation : EvmFinalityObservation) : FinalityInput where
  id := js "IW:FINALITY:f1"
  transactionId := js "0xtx"
  observation := .evm observation

def noon : Int := 1786449600000

theorem constructed : FinalityService.constructor [network] =
    .ok ⟨OrderedMap.empty.set network.networkId network⟩ := rfl

/-- The assessment that the service returns and has stored. -/
theorem returned (confirmations : Nat) (observedHead finalizedBlockNumber : JsString) :
    let observed := observation confirmations observedHead finalizedBlockNumber
    let assessed := FinalityService.assessment isoPlatform noon (input observed) network
    (FinalityService.assess isoPlatform ⟨OrderedMap.empty.set network.networkId network⟩ noon
      (input observed)).Reaches [⟨.save assessed, .ok ()⟩] (.settled (.ok assessed)) := by
  apply FinalityService.assess_settles
  · exact (FinalityService.find?_iff constructed).mpr ⟨List.mem_singleton_self _, rfl⟩
  · -- The checks read neither the heights nor the confirmations.
    change assertCommon isoPlatform (input (observation 0 [] [])) network
      (isoPlatform.toISOString noon) = .ok ()
    decide +kernel

/-- Six confirmations are claimed of block 100 at the head 50, with block 10 finalized. -/
theorem inconsistent_evidence_satisfied :
    FinalityService.constructor [network] =
      .ok ⟨OrderedMap.empty.set network.networkId network⟩ ∧
    ∃ assessment,
      (FinalityService.assess isoPlatform ⟨OrderedMap.empty.set network.networkId network⟩ noon
        (input (observation 6 (js "50") (js "10")))).Reaches [⟨.save assessment, .ok ()⟩]
        (.settled (.ok assessment)) ∧
      assessment.outcome = .satisfied ∧
      decimalValue (js "50") < decimalValue (js "100") + 6 - 1 ∧
      decimalValue (js "10") < decimalValue (js "100") := by
  refine ⟨constructed, _, returned 6 (js "50") (js "10"), ?_, ?_, ?_⟩
  · decide +kernel
  · decide +kernel
  · decide +kernel

/-- Eleven confirmations at the head 110, with block 105 finalized. -/
theorem consistent_evidence_satisfied :
    (FinalityService.assessment isoPlatform noon (input (observation 11 (js "110") (js "105")))
      network).outcome = .satisfied := by
  apply (assess_satisfied_iff constructed (returned 11 (js "110") (js "105"))).mpr
  refine ⟨network, List.mem_singleton_self _, rfl, rfl, rfl, rfl, by decide, rfl, rfl, 6, 11, true,
    rfl, rfl, by decide, by decide, by decide, fun _ => ⟨rfl, rfl, rfl⟩⟩

end SixConfirmations

end InterWeave
