import InterWeave.Core.IsoDate
import InterWeave.Emergency.ControlCalls

/-! # Operations with omitted fields

A control selects by the fields that its selector sets, and an operation that leaves one of them out
is not selected. An operation with omitted fields is therefore blocked by those of the controls of a
completion of it that select by none of these fields.
-/

namespace InterWeave

open Async

variable {platform : Platform} {kind : EmergencyStoreKind} {controls : EmergencyControls}
  {principal : EmergencyPrincipal} {operation completed : EmergencyOperation}
  {control : EmergencyControl}

/-- `assertAllowed` rejects the operation under the stored controls. -/
def EmergencyControls.Blocks (platform : Platform) (kind : EmergencyStoreKind)
    (controls : EmergencyControls) (principal : EmergencyPrincipal)
    (operation : EmergencyOperation) : Prop :=
  ∃ error, (EmergencyControlService.assertAllowed principal operation).Reaches
    [⟨.list principal.toTenant, .ok (controls.list kind platform principal.toTenant)⟩]
    (.settled (.error error))

/-- An active control of the tenant matches the operation. -/
structure EmergencyControls.Pauses (platform : Platform) (kind : EmergencyStoreKind)
    (controls : EmergencyControls) (principal : EmergencyPrincipal)
    (operation : EmergencyOperation) (control : EmergencyControl) : Prop where
  listed : control ∈ controls.list kind platform principal.toTenant
  active : control.status = .active
  covers : control.covers operation = true

theorem EmergencyControls.blocks_iff : controls.Blocks platform kind principal operation ↔
    ∃ control, controls.Pauses platform kind principal operation control := by
  have answered : ∀ {outcome : Except Thrown Unit},
      (EmergencyControlService.assertAllowed principal operation).Reaches
        [⟨.list principal.toTenant, .ok (controls.list kind platform principal.toTenant)⟩]
        (.settled outcome) ↔
      (if ((controls.list kind platform principal.toTenant).filter fun control =>
            control.status = .active && control.covers operation).isEmpty then
          (pure () : EmergencyProgram Unit)
        else Program.reject (.registryError .conflict
          (js "operation paused by emergency control: " ++ JsString.join (js ",")
            (((controls.list kind platform principal.toTenant).filter fun control =>
              control.status = .active && control.covers operation).map fun control =>
                control.id)))) = .settled outcome := by
    intro outcome
    constructor
    · intro reaches
      cases reaches with
      | answer _ rest => exact rest.eq_of_nil.symm
    · intro same
      refine .answer _ ?_
      change Program.Reaches (ite _ _ _) [] _
      rw [same]
      exact .refl _
  rw [Blocks]
  simp only [answered]
  constructor
  · rintro ⟨error, rejected⟩
    split at rejected
    · cases rejected
    · rename_i some_
      rw [List.isEmpty_iff] at some_
      obtain ⟨control, member⟩ := List.exists_mem_of_ne_nil _ some_
      obtain ⟨listed, holds⟩ := List.mem_filter.mp member
      rw [Bool.and_eq_true, decide_eq_true_eq] at holds
      exact ⟨control, listed, holds.1, holds.2⟩
  · rintro ⟨control, listed, active, covers⟩
    refine ⟨_, if_neg ?_⟩
    rw [List.isEmpty_iff]
    refine List.ne_nil_of_mem (List.mem_filter.mpr ⟨listed, ?_⟩)
    rw [active, covers]
    rfl

/-- The completed operation is obtained by filling in omitted fields. -/
structure EmergencyOperation.Completes (operation completed : EmergencyOperation) : Prop where
  action : completed.action = operation.action
  assetId : operation.assetId = none ∨ completed.assetId = operation.assetId
  sourceNetworkId : operation.sourceNetworkId = none ∨
    completed.sourceNetworkId = operation.sourceNetworkId
  destinationNetworkId : operation.destinationNetworkId = none ∨
    completed.destinationNetworkId = operation.destinationNetworkId

/-- The selector sets none of the fields that the operation omits. -/
structure EmergencyControl.IgnoresOmitted (control : EmergencyControl)
    (operation : EmergencyOperation) : Prop where
  assetId : operation.assetId = none → isSet control.selector.assetId = false
  sourceNetworkId : operation.sourceNetworkId = none →
    isSet control.selector.sourceNetworkId = false
  destinationNetworkId : operation.destinationNetworkId = none →
    isSet control.selector.destinationNetworkId = false

/-- One field: it is selected in the operation exactly if it is in the completion, and is given. -/
theorem selects_iff {selected given filled : Option JsString}
    (completes : given = none ∨ filled = given) : (isSet selected && selected ≠ given) = false ↔
      (isSet selected && selected ≠ filled) = false ∧ (given = none → isSet selected = false) := by
  rcases completes with rfl | rfl
  · cases selected with
    | none => simp [isSet]
    | some text => cases text <;> simp [isSet]
  · rw [iff_self_and]
    rintro selects rfl
    cases selected with
    | none => rfl
    | some text => simpa using selects

theorem EmergencyControl.covers_iff : control.covers operation = true ↔
    (isSet control.selector.assetId && control.selector.assetId ≠ operation.assetId) = false ∧
    (isSet control.selector.sourceNetworkId &&
      control.selector.sourceNetworkId ≠ operation.sourceNetworkId) = false ∧
    (isSet control.selector.destinationNetworkId &&
      control.selector.destinationNetworkId ≠ operation.destinationNetworkId) = false ∧
    ∀ action, control.kind = .only action → action = operation.action := by
  rw [covers]
  dsimp only
  split
  · rename_i differs
    rw [Bool.or_eq_true, Bool.or_eq_true] at differs
    constructor
    · intro never
      cases never
    · rintro ⟨asset, source, destination, _⟩
      rw [asset, source, destination] at differs
      simp at differs
  · rename_i same
    rw [Bool.or_eq_true, Bool.or_eq_true, not_or, not_or, Bool.not_eq_true, Bool.not_eq_true,
      Bool.not_eq_true] at same
    rw [and_iff_right same.1.1, and_iff_right same.1.2, and_iff_right same.2]
    cases control.kind <;> simp

/-- A control matches an operation exactly if it matches a completion and ignores what is omitted. -/
theorem EmergencyControl.covers_iff_of_completes (completes : operation.Completes completed) :
    control.covers operation = true ↔
      control.covers completed = true ∧ control.IgnoresOmitted operation := by
  rw [covers_iff, covers_iff, completes.action, selects_iff completes.assetId,
    selects_iff completes.sourceNetworkId, selects_iff completes.destinationNetworkId]
  constructor
  · rintro ⟨⟨asset, noAsset⟩, ⟨source, noSource⟩, ⟨destination, noDestination⟩, action⟩
    exact ⟨⟨asset, source, destination, action⟩, noAsset, noSource, noDestination⟩
  · rintro ⟨⟨asset, source, destination, action⟩, noAsset, noSource, noDestination⟩
    exact ⟨⟨asset, noAsset⟩, ⟨source, noSource⟩, ⟨destination, noDestination⟩, action⟩

/-- **Omitted fields.** An operation with omitted fields is blocked exactly if one of the controls
that block a completion of it selects by none of these fields; and every completion of a blocked
operation is blocked. -/
theorem blocks_omitted_iff (completes : operation.Completes completed) :
    (controls.Blocks platform kind principal operation ↔ ∃ control,
      controls.Pauses platform kind principal completed control ∧
        control.IgnoresOmitted operation) ∧
    (controls.Blocks platform kind principal operation →
      controls.Blocks platform kind principal completed) := by
  have exact_ : controls.Blocks platform kind principal operation ↔ ∃ control,
      controls.Pauses platform kind principal completed control ∧
        control.IgnoresOmitted operation := by
    rw [EmergencyControls.blocks_iff]
    refine exists_congr fun control => ⟨fun pauses => ?_, fun ⟨pauses, ignores⟩ => ?_⟩
    · obtain ⟨covers, ignores⟩ :=
        (EmergencyControl.covers_iff_of_completes completes).mp pauses.covers
      exact ⟨⟨pauses.listed, pauses.active, covers⟩, ignores⟩
    · exact ⟨pauses.listed, pauses.active,
        (EmergencyControl.covers_iff_of_completes completes).mpr ⟨pauses.covers, ignores⟩⟩
  refine ⟨exact_, fun blocked => ?_⟩
  obtain ⟨control, pauses, _⟩ := exact_.mp blocked
  exact EmergencyControls.blocks_iff.mpr ⟨control, pauses⟩

namespace PausedAsset

def operator : EmergencyPrincipal where
  organizationId := js "IW:ORGANIZATION:o"
  projectId := js "IW:PROJECT:p"
  environmentId := js "IW:ENVIRONMENT:e"
  subjectId := js "security-operator"
  roles := [.operator]

def pauseAsset : EmergencyControlInput where
  id := js "IW:EMERGENCY_CONTROL:asset"
  kind := .asset
  selector := ⟨some (js "IW:ASSET:rwa"), none, none⟩
  reason := js "incident"

def pauseMint : EmergencyControlInput where
  id := js "IW:EMERGENCY_CONTROL:mint"
  kind := .only .mint
  selector := ⟨none, none, none⟩
  reason := js "incident"

/-- The store after an activation. -/
def activated (input : EmergencyControlInput) : EmergencyControls :=
  ((EmergencyControls.empty).create .inMemory
    (.activatedFrom isoPlatform operator input 1786622460000) 1786622460000).2

def mint (assetId : Option JsString) : EmergencyOperation where
  action := .mint
  assetId := assetId
  sourceNetworkId := some (js "IW:NETWORK:canton")
  destinationNetworkId := some (js "IW:NETWORK:evm")

theorem completes : (mint none).Completes (mint (some (js "IW:ASSET:rwa"))) :=
  ⟨rfl, .inl rfl, .inr rfl, .inr rfl⟩

/-- The asset is paused, but a mint that does not name it passes. -/
theorem unnamed_mint_passes : requireRole operator .operator = .ok () ∧
    pauseAsset.validate = .ok () ∧
    (activated pauseAsset).Blocks isoPlatform .inMemory operator
      (mint (some (js "IW:ASSET:rwa"))) ∧
    ¬ (activated pauseAsset).Blocks isoPlatform .inMemory operator (mint none) := by
  refine ⟨by rw [requireRole, if_neg (by decide)], ?_, ?_, ?_⟩
  · rw [EmergencyControlInput.validate, if_neg (by decide)]
    rfl
  · exact EmergencyControls.blocks_iff.mpr
      ⟨.activatedFrom isoPlatform operator pauseAsset 1786622460000, List.mem_singleton_self _, rfl,
        by decide⟩
  · rw [EmergencyControls.blocks_iff]
    rintro ⟨control, listed, _, covers⟩
    rw [List.mem_singleton.mp listed] at covers
    exact absurd covers (by decide)

/-- Where mints are paused, a mint that does not name its asset is blocked. -/
theorem unnamed_mint_blocked :
    (activated pauseMint).Blocks isoPlatform .inMemory operator (mint none) := by
  apply (blocks_omitted_iff completes).1.mpr
  exact ⟨.activatedFrom isoPlatform operator pauseMint 1786622460000,
    ⟨List.mem_singleton_self _, rfl, by decide⟩, fun _ => rfl, fun _ => rfl, fun _ => rfl⟩

end PausedAsset

end InterWeave
