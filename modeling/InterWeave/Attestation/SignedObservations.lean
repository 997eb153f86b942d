import InterWeave.Async.Protocol
import InterWeave.Attestation.ValidatorService
import InterWeave.Core.IsoDate

/-! # What validators sign

A validator signs an attestation only if the observation of its own reader agrees
with it. A truthful reader gives the same observation for the same event, so two
signed attestations of one source event agree on every observed field. The
destination is not observed: a coordinator chooses it, and a validator signs one
event towards any two destinations that it is asked for.
-/

namespace InterWeave

open Async

/-- The validator's memory: the networks whose provider exists. -/
structure ValidatorMemory where
  providers : List JsString

inductive ValidatorChoice where
  | instant (value : Int)
  | done
  | found
  | missing
  | signature (value : JsString)
  | failure (error : Thrown)

/-- The observation of each event, by network, transaction and event position. -/
abbrev SourceEvents := JsString → JsString → JsString → IndependentSourceObservation

/-- A truthful reader. It may fail or find nothing at any time, and whatever it
returns is the observation of the event. -/
def ValidatorMemory.reply (source : SourceEvents) :
    (call : ValidatorCall) → ValidatorChoice → ValidatorMemory →
      Option (validatorInterface.Answer call × ValidatorMemory)
  | .now, .instant value, memory => some (.ok value, memory)
  | .provider configuration, .done, memory =>
      some (.ok (), { memory with providers := configuration.networkId :: memory.providers })
  | .provider configuration, .failure error, memory =>
      if configuration.networkId ∈ memory.providers then none else some (.error error, memory)
  | .observe networkId query, .found, memory =>
      some (.ok (some (source networkId query.sourceTransactionId query.sourceEventPosition)),
        memory)
  | .observe _ _, .missing, memory => some (.ok none, memory)
  | .observe _ _, .failure error, memory => some (.error error, memory)
  | .sign _ _, .signature value, memory => some (.ok value, memory)
  | .sign _ _, .failure error, memory => some (.error error, memory)
  | _, _, _ => none

abbrev validatorServices (source : SourceEvents) : Services validatorInterface where
  State := ValidatorMemory
  Choice := ValidatorChoice
  reply := ValidatorMemory.reply source

/-- The attestations handed to the signer. -/
def signedAttestations {Worker : Type}
    (history : List (Event validatorInterface Worker UnsignedAttestation)) :
    List UnsignedAttestation :=
  history.filterMap fun event =>
    match event with
    | .issued _ (.sign attestation _) => some attestation
    | _ => none

/-! ## When the signer is called -/

theorem failedChecks_eq_nil_iff (checks : List (Bool × ValidatorRejectionCode)) :
    failedChecks checks = [] ↔ ∀ check ∈ checks, check.1 = false := by
  rw [failedChecks, List.filterMap_eq_nil_iff]
  refine forall₂_congr fun check _ => ?_
  cases check.1 <;> simp only [Bool.false_eq_true, ↓reduceIte, reduceCtorEq]

/-- The fields of an attestation that an observation without reasons decides. -/
structure UnsignedAttestation.Observed (attestation : UnsignedAttestation)
    (observation : IndependentSourceObservation) : Prop where
  networkType : observation.networkType = attestation.sourceNetworkType
  eventType : observation.eventType = attestation.eventType
  assetId : observation.assetId = attestation.assetId
  operationId : observation.operationId = attestation.operationId
  amount : observation.amount = attestation.amount
  sender : observation.sender = attestation.sender
  receiver : observation.receiver = attestation.receiver
  observedStatePosition : observation.observedStatePosition = attestation.observedStatePosition
  observedAt : observation.observedAt = attestation.observedAt

theorem UnsignedAttestation.Observed.of_reasons {attestation : UnsignedAttestation}
    {observation : IndependentSourceObservation} {expected : SourceAssetLocator}
    (clean : observationReasons attestation observation expected = []) :
    attestation.Observed observation := by
  rw [observationReasons, failedChecks_eq_nil_iff] at clean
  simp only [List.forall_mem_cons, Bool.or_eq_false_iff, bne_eq_false_iff_eq] at clean
  obtain ⟨network, _, _, _, event, asset, operation, amount, sender, receiver, _, position,
    time, _⟩ := clean
  exact ⟨network.2, event.2, asset, operation, amount, sender, receiver, position, time⟩

/-- An observation that is returned is the one of the event. -/
def TruthfulAnswer (source : SourceEvents) :
    (call : ValidatorCall) → validatorInterface.Answer call → Prop
  | .observe networkId query, .ok (some observation) =>
      observation = source networkId query.sourceTransactionId query.sourceEventPosition
  | _, _ => True

/-- The signer is called for attestations that the source bears out. -/
abbrev validatorProtocol (source : SourceEvents) :
    Protocol validatorInterface UnsignedAttestation where
  Local := Unit
  start _ := ()
  next _ _ _ := ()
  possible := TruthfulAnswer source
  allowed _ call :=
    match call with
    | .sign attestation _ =>
        attestation.Observed (source attestation.sourceNetworkId attestation.sourceTransactionId
          attestation.sourceEventPosition)
    | _ => True
  settles _ := True

theorem ValidatorMemory.reply_truthful {source : SourceEvents} :
    ∀ call choice memory answer next,
      ValidatorMemory.reply source call choice memory = some (answer, next) →
      TruthfulAnswer source call answer := by
  intro call choice memory answer next replied
  cases call with
  | now => trivial
  | provider configuration => trivial
  | sign attestation bytes => trivial
  | observe networkId query =>
      cases choice <;> simp only [ValidatorMemory.reply, Option.some.injEq, Prod.mk.injEq,
        reduceCtorEq] at replied
      all_goals
        obtain ⟨rfl, _⟩ := replied
        first | rfl | trivial

section Follows

variable {platform : Platform} {source : SourceEvents}

theorem signAttestation_follows {attestation : UnsignedAttestation} (signer : AttestationSigner)
    (signedAt : JsString)
    (observed : attestation.Observed (source attestation.sourceNetworkId
      attestation.sourceTransactionId attestation.sourceEventPosition)) :
    (signAttestation platform attestation signer signedAt).Follows (validatorProtocol source)
      (fun _ _ => True) () := by
  refine .ofExcept_seq (fun time _ => ?_) fun _ _ => trivial
  split
  · trivial
  · split
    · trivial
    · refine .ofExcept_seq (fun bytes _ => ?_) fun _ _ => trivial
      exact .call_seq observed (fun _ _ => trivial) fun _ _ => trivial

/-- The observation that `verifyAndSign` works with is the one of the event. -/
theorem ValidatorService.observeSource_follows {configuration : ValidatorNetworkConfiguration}
    {attestation : UnsignedAttestation} (expected : SourceAssetLocator)
    (network : configuration.networkId = attestation.sourceNetworkId) :
    (observeSource configuration attestation expected).Follows (validatorProtocol source)
      (fun _ outcome => ∀ observation, outcome = .ok (some observation) →
        observation = source attestation.sourceNetworkId attestation.sourceTransactionId
          attestation.sourceEventPosition) () := by
  refine .call_seq trivial (fun _ _ => ?_) fun _ _ _ same => nomatch same
  refine ⟨trivial, fun answer truthful observation same => ?_⟩
  subst same
  rw [← network]
  exact truthful

/-- The signer is reached without reasons only. -/
theorem ValidatorService.signObserved_follows (service : ValidatorService)
    (attestation : UnsignedAttestation) (expected : SourceAssetLocator) :
    (service.signObserved platform attestation (source attestation.sourceNetworkId
      attestation.sourceTransactionId attestation.sourceEventPosition) expected).Follows
        (validatorProtocol source) (fun _ _ => True) () := by
  rw [signObserved]
  split
  · trivial
  · rename_i clean
    have observed := UnsignedAttestation.Observed.of_reasons (not_not.mp clean)
    refine .call_seq trivial (fun signedAt _ => ?_) fun _ _ => trivial
    refine .seq (signAttestation_follows service.signer _ observed) (fun _ signature _ => ?_)
      fun _ _ _ => trivial
    exact .ofExcept_seq (fun _ _ => trivial) fun _ _ => trivial

theorem ValidatorService.verifyAndSign_follows (service : ValidatorService)
    (attestation : UnsignedAttestation) :
    (service.verifyAndSign platform attestation).Follows (validatorProtocol source)
      (fun _ _ => True) () := by
  refine .ofExcept_seq (fun _ _ => ?_) fun _ _ => trivial
  split
  · trivial
  · rename_i configuration found
    have network : configuration.networkId = attestation.sourceNetworkId := by
      simpa only [beq_iff_eq] using List.find?_some found
    split
    · trivial
    · refine .call_seq trivial (fun now _ => ?_) fun _ _ => trivial
      split
      · refine .attempt_seq (observeSource_follows _ network) fun _ outcome truthful => ?_
        match outcome with
        | .error _ => trivial
        | .ok none => trivial
        | .ok (some observation) =>
            obtain rfl := truthful observation rfl
            exact service.signObserved_follows attestation _
      · trivial

end Follows

/-! ## Two signed attestations of one event -/

section Signed

variable {platform : Platform} {service : ValidatorService} {source : SourceEvents}
  {Worker : Type} [DecidableEq Worker]

/-- The view before any candidate: no provider exists yet. -/
def ValidatorMemory.fresh (source : SourceEvents) (Worker : Type) :
    View (validatorServices source) Worker UnsignedAttestation :=
  ⟨⟨[]⟩, []⟩

/-- **A validator signs what its reader observes**, whatever candidates it is
given and however they interleave. -/
theorem ValidatorService.signed_observed
    {config : Config (validatorServices source) Worker UnsignedAttestation ValidatorDecision}
    (reached : Reachable (service.verifyAndSign platform) (fun _ _ => True)
      (ValidatorMemory.fresh source Worker) config)
    {attestation : UnsignedAttestation}
    (signed : attestation ∈ signedAttestations config.history) :
    attestation.Observed (source attestation.sourceNetworkId attestation.sourceTransactionId
      attestation.sourceEventPosition) := by
  have issued := Protocol.issuedAllowed service.verifyAndSign_follows
    ValidatorMemory.reply_truthful rfl reached
  obtain ⟨event, member, same⟩ := List.mem_filterMap.mp signed
  match event, same with
  | .issued worker (.sign _ bytes), rfl => exact (issued worker _ member).choose_spec

/-- Two signed attestations of one source event agree on every observed field. -/
theorem ValidatorService.signed_agree
    {config : Config (validatorServices source) Worker UnsignedAttestation ValidatorDecision}
    (reached : Reachable (service.verifyAndSign platform) (fun _ _ => True)
      (ValidatorMemory.fresh source Worker) config)
    {first second : UnsignedAttestation}
    (signedFirst : first ∈ signedAttestations config.history)
    (signedSecond : second ∈ signedAttestations config.history)
    (network : first.sourceNetworkId = second.sourceNetworkId)
    (transaction : first.sourceTransactionId = second.sourceTransactionId)
    (position : first.sourceEventPosition = second.sourceEventPosition) :
    first.sourceNetworkType = second.sourceNetworkType ∧ first.eventType = second.eventType ∧
      first.assetId = second.assetId ∧ first.operationId = second.operationId ∧
      first.amount = second.amount ∧ first.sender = second.sender ∧
      first.receiver = second.receiver ∧
      first.observedStatePosition = second.observedStatePosition ∧
      first.observedAt = second.observedAt := by
  have left := signed_observed reached signedFirst
  have right := signed_observed reached signedSecond
  rw [network, transaction, position] at left
  exact ⟨left.networkType.symm.trans right.networkType,
    left.eventType.symm.trans right.eventType, left.assetId.symm.trans right.assetId,
    left.operationId.symm.trans right.operationId, left.amount.symm.trans right.amount,
    left.sender.symm.trans right.sender, left.receiver.symm.trans right.receiver,
    left.observedStatePosition.symm.trans right.observedStatePosition,
    left.observedAt.symm.trans right.observedAt⟩

end Signed

/-! ## One burn signed towards two destinations -/

namespace BurnSignedTwice

def network : ValidatorNetworkConfiguration where
  networkId := js "IW:NETWORK:evm"
  networkType := js "EVM"
  endpoints := [js "https://validator-rpc.invalid"]
  enabled := true
  sourceAssets := [(js "IW:ASSET:usd", ⟨.evmContract, js "0x1234"⟩)]
  allowedPolicyVersions := some [js "bridge-7"]

def validator : ValidatorService where
  networks := [network]
  signer := ⟨js "validator-1", js "ED25519", js "key-1"⟩
  distinct := List.nodup_singleton _
  independent := by decide

def observation : IndependentSourceObservation where
  networkId := js "IW:NETWORK:evm"
  networkType := js "EVM"
  transactionId := js "0xabc"
  transactionStatus := .succeeded
  eventPosition := js "block:10:log:2"
  eventType := js "AssetBurned"
  sourceAsset := ⟨.evmContract, js "0x1234"⟩
  assetId := js "IW:ASSET:usd"
  operationId := js "IW:BRIDGE:o1"
  amount := js "40"
  sender := js "IW:IDENTITY:alice"
  receiver := js "IW:IDENTITY:alice"
  canonical := true
  finalitySatisfied := true
  observedStatePosition := js "finalized:20"
  observedAt := js "2026-08-11T11:59:00.000Z"
  finalityEvidence := [js "finalized block 20 contains block 10"]

def candidate (destination : JsString) : UnsignedAttestation where
  version := js "1"
  id := js "IW:ATTESTATION:a1"
  operationId := js "IW:BRIDGE:o1"
  sourceNetworkType := js "EVM"
  sourceNetworkId := js "IW:NETWORK:evm"
  sourceTransactionId := js "0xabc"
  sourceEventPosition := js "block:10:log:2"
  eventType := js "AssetBurned"
  assetId := js "IW:ASSET:usd"
  amount := js "40"
  sender := js "IW:IDENTITY:alice"
  receiver := js "IW:IDENTITY:alice"
  destinationNetworkType := js "CANTON"
  destinationNetworkId := destination
  nonce := js "nonce_1234567890abcdef"
  observedStatePosition := js "finalized:20"
  observedAt := js "2026-08-11T11:59:00.000Z"
  validFrom := js "2026-08-11T12:00:00.000Z"
  expiresAt := js "2026-08-11T12:10:00.000Z"
  policyVersion := js "bridge-7"

def source : SourceEvents := fun _ _ _ => observation

/-- 2026-08-11T12:01:00.000Z. -/
def clock : Int := 1786449660000

/-- A candidate from its submission to its signature. -/
def submit (destination : JsString) :
    List (Action (validatorServices source) Unit UnsignedAttestation) :=
  [.start () (candidate destination),
    .issue (), .answer () (.instant clock),
    .issue (), .answer () .done,
    .issue (), .answer () .found,
    .issue (), .answer () (.instant clock),
    .issue (), .answer () (.signature (js "0xsignature"))]

def cantonOne : JsString := js "IW:NETWORK:canton-1"

def cantonTwo : JsString := js "IW:NETWORK:canton-2"

def outcome : Option (Config (validatorServices source) Unit UnsignedAttestation
    ValidatorDecision) :=
  (Config.initial (ValidatorMemory.fresh source Unit)).run
    (validator.verifyAndSign isoPlatform) (fun _ _ => True) (submit cantonOne ++ submit cantonTwo)

theorem same_event (first second : JsString) :
    (candidate first).sourceNetworkId = (candidate second).sourceNetworkId ∧
      (candidate first).sourceTransactionId = (candidate second).sourceTransactionId ∧
      (candidate first).sourceEventPosition = (candidate second).sourceEventPosition ∧
      (candidate first).operationId = (candidate second).operationId :=
  ⟨rfl, rfl, rfl, rfl⟩

theorem outcome_signed : outcome.map (fun config => signedAttestations config.history) =
    some [candidate cantonTwo, candidate cantonOne] := by
  decide +kernel

/-- The run reaches a configuration in which both candidates are signed. -/
theorem reached : ∃ config : Config (validatorServices source) Unit UnsignedAttestation
      ValidatorDecision,
    Reachable (validator.verifyAndSign isoPlatform) (fun _ _ => True)
      (ValidatorMemory.fresh source Unit) config ∧
    candidate cantonOne ∈ signedAttestations config.history ∧
    candidate cantonTwo ∈ signedAttestations config.history := by
  obtain ⟨config, runs, signed⟩ := Option.map_eq_some_iff.mp outcome_signed
  refine ⟨config, Reachable.initial.of_run _ runs, ?_, ?_⟩
  · rw [signed]
    exact List.mem_cons_of_mem _ (List.mem_singleton_self _)
  · rw [signed]
    exact List.mem_cons_self ..

end BurnSignedTwice

/-- Two destinations of one burn agree on what was observed of it. -/
theorem ValidatorService.signed_agree_burn :
    (BurnSignedTwice.candidate BurnSignedTwice.cantonOne).amount =
      (BurnSignedTwice.candidate BurnSignedTwice.cantonTwo).amount := by
  obtain ⟨config, reached, one, two⟩ := BurnSignedTwice.reached
  obtain ⟨network, transaction, position, _⟩ := BurnSignedTwice.same_event
    BurnSignedTwice.cantonOne BurnSignedTwice.cantonTwo
  exact (signed_agree reached one two network transaction position).2.2.2.2.1

/-- **Destinations are not bound to events.** One validator signs one burn towards
two destination networks. -/
theorem ValidatorService.signed_destinations_differ :
    ¬ ∀ config : Config (validatorServices BurnSignedTwice.source) Unit UnsignedAttestation
        ValidatorDecision,
      Reachable (BurnSignedTwice.validator.verifyAndSign isoPlatform) (fun _ _ => True)
        (ValidatorMemory.fresh BurnSignedTwice.source Unit) config →
      ∀ first ∈ signedAttestations config.history, ∀ second ∈ signedAttestations config.history,
        first.sourceNetworkId = second.sourceNetworkId →
        first.sourceTransactionId = second.sourceTransactionId →
        first.sourceEventPosition = second.sourceEventPosition →
        first.operationId = second.operationId →
        first.destinationNetworkId = second.destinationNetworkId ∧
          first.destinationNetworkType = second.destinationNetworkType := by
  intro bound
  obtain ⟨config, reached, one, two⟩ := BurnSignedTwice.reached
  obtain ⟨network, transaction, position, operation⟩ := BurnSignedTwice.same_event
    BurnSignedTwice.cantonOne BurnSignedTwice.cantonTwo
  have same := (bound config reached _ one _ two network transaction position operation).1
  exact absurd same (by decide +kernel)

end InterWeave
