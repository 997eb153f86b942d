import InterWeave.Bridge.TransactionRows
import InterWeave.Bridge.EvidencedRuns
import InterWeave.Async.Transcript
import Mathlib.Data.List.DropRight

/-! # Expiry gates of the coordinators

`DurableTransactionEngine.create` and the coordinators refuse what a comparison of two
parsed timestamps finds too late. A timestamp that does not parse is `NaN`, no comparison
with it holds, and it passes. What a gate lets through is before the expiry exactly when
the expiry parses.
-/

namespace InterWeave

open Async

variable {platform : Platform} {expiresAt : JsString} {instant : Int}

/-- The instant is strictly before an expiry that parses. -/
def Precedes (platform : Platform) (expiresAt : JsString) (instant : Int) : Prop :=
  ∃ expiry, platform.dateParse expiresAt = some expiry ∧ instant < expiry

/-- The instant has not reached the expiry, as far as the comparison `>=` tells. -/
def Unreached (platform : Platform) (expiresAt : JsString) (instant : Int) : Prop :=
  numberLe (platform.dateParse expiresAt) (some instant) = false

/-- An instant that has not reached an expiry is before it, unless the expiry is no date. -/
theorem Unreached.precedes_iff (unreached : Unreached platform expiresAt instant) :
    Precedes platform expiresAt instant ↔ (platform.dateParse expiresAt).isSome = true := by
  constructor
  · rintro ⟨expiry, parsed, _⟩
    rw [parsed, Option.isSome_some]
  · intro parses
    obtain ⟨expiry, parsed⟩ := Option.isSome_iff_exists.mp parses
    refine ⟨expiry, parsed, ?_⟩
    simpa only [Unreached, parsed, numberLe, decide_eq_false_iff_not, not_le] using unreached

/-- The expiry parses to an instant later than the creation. -/
def ExpiresLater (platform : Platform) (createdAt expiresAt : JsString) : Prop :=
  ∃ creation, platform.dateParse createdAt = some creation ∧ Precedes platform expiresAt creation

/-- What both validators check of a validity interval. -/
theorem expiresLater_iff {createdAt : JsString}
    (accepted : ((platform.dateParse createdAt).isNone ||
      numberLe (platform.dateParse expiresAt) (platform.dateParse createdAt)) = false) :
    ExpiresLater platform createdAt expiresAt ↔ (platform.dateParse expiresAt).isSome = true := by
  obtain ⟨parses, unreached⟩ := Bool.or_eq_false_iff.mp accepted
  rw [Option.isNone_eq_false_iff] at parses
  obtain ⟨creation, parsed⟩ := Option.isSome_iff_exists.mp parses
  rw [parsed] at unreached
  rw [← Unreached.precedes_iff unreached]
  constructor
  · rintro ⟨other, same, precedes⟩
    cases parsed.symm.trans same
    exact precedes
  · exact fun precedes => ⟨creation, parsed, precedes⟩

/-! ## Accepted inputs -/

namespace TransactionEngine

/-- An input is accepted when it is handed to the store. -/
def Accepts (platform : Platform) (input : CreateBridgeOperation) : Prop :=
  ∃ initial resume, create platform input = .await (.create input initial) resume

/-- An operation that is created expires after its creation when its expiry parses, and only
then. -/
theorem expiresLater_of_accepts {input : CreateBridgeOperation} (accepts : Accepts platform input) :
    ExpiresLater platform input.createdAt input.expiresAt ↔
      (platform.dateParse input.expiresAt).isSome = true := by
  obtain ⟨initial, resume, accepts⟩ := accepts
  refine expiresLater_iff (Bool.eq_false_iff.mpr fun refused => ?_)
  have checks : ∃ error, checkCreate platform input = .error error := by
    unfold checkCreate
    simp only [refused, if_true]
    cases assertPositiveAmount input.amount with
    | error error => exact ⟨error, rfl⟩
    | ok _ =>
        split
        · exact ⟨_, rfl⟩
        · split
          · exact ⟨_, rfl⟩
          · exact ⟨_, rfl⟩
  obtain ⟨error, checks⟩ := checks
  rw [create, checks] at accepts
  cases accepts

end TransactionEngine

/-! ## The gates of a run -/

/-- The calls that load the operation anew, which end an iteration of the loop. -/
def BridgeCall.loads : BridgeCall → Bool
  | .getOperation _ => true
  | .findTransition _ _ => true
  | .append _ => true
  | _ => false

/-- The exchanges of an iteration, since the operation was loaded. -/
abbrev iteration (exchanges : List (Exchange bridgeInterface)) : List (Exchange bridgeInterface) :=
  exchanges.rtakeWhile fun exchange => !exchange.call.loads

theorem iteration_stays {exchanges : List (Exchange bridgeInterface)}
    {exchange : Exchange bridgeInterface} (stays : exchange.call.loads = false) :
    iteration (exchanges ++ [exchange]) = iteration exchanges ++ [exchange] :=
  List.rtakeWhile_concat_pos _ _ _ (by rw [stays, Bool.not_false])

theorem iteration_loaded {exchanges : List (Exchange bridgeInterface)}
    {exchange : Exchange bridgeInterface} (loads : exchange.call.loads = true) :
    iteration (exchanges ++ [exchange]) = [] :=
  List.rtakeWhile_concat_neg _ _ _ (by rw [loads]; decide)

/-- What the clock readings of its iteration are for a lock or burn, and for a mint or release:
the first one for the expiry of the operation, the second one for that of the attestation. -/
def BridgeCall.Reads (compares : JsString → Int → Prop)
    (exchanges : List (Exchange bridgeInterface)) : BridgeCall → Prop
  | .perform .sourceEffect operation _ => ∃ opening rest,
      iteration exchanges = ⟨.now, .ok opening⟩ :: rest ∧ compares operation.expiresAt opening
  | .perform .destinationEffect operation input => ∃ opening asked checked rest attestation,
      iteration exchanges = ⟨.now, .ok opening⟩ :: asked :: ⟨.now, .ok checked⟩ :: rest ∧
        input = .authorized attestation ∧ compares operation.expiresAt opening ∧
        compares attestation.expiresAt checked
  | _ => True

/-- The expiries that a lock, burn, mint or release depends on parse. -/
def BridgeCall.Parses (platform : Platform) : BridgeCall → Prop
  | .perform .sourceEffect operation _ =>
      (platform.dateParse operation.expiresAt).isSome = true
  | .perform .destinationEffect operation (.authorized attestation) =>
      (platform.dateParse operation.expiresAt).isSome = true ∧
        (platform.dateParse attestation.expiresAt).isSome = true
  | _ => True

/-- A call whose readings have not reached the expiries is before them when they parse, and
only then. -/
theorem BridgeCall.Reads.precedes_iff {exchanges : List (Exchange bridgeInterface)}
    {call : BridgeCall} (reads : call.Reads (Unreached platform) exchanges) :
    call.Reads (Precedes platform) exchanges ↔ call.Parses platform := by
  cases call with
  | perform stage operation input =>
      cases stage with
      | sourceEffect =>
          obtain ⟨opening, rest, same, unreached⟩ := reads
          refine ⟨?_, fun parses => ⟨opening, rest, same, unreached.precedes_iff.mpr parses⟩⟩
          rintro ⟨_, _, _, expiry, parsed, _⟩
          exact Option.isSome_iff_exists.mpr ⟨expiry, parsed⟩
      | destinationEffect =>
          obtain ⟨opening, asked, checked, rest, attestation, same, rfl, first, second⟩ := reads
          constructor
          · rintro ⟨_, _, _, _, _, _, given, ⟨expiry, parsed, _⟩, ⟨limit, known, _⟩⟩
            cases given
            exact ⟨Option.isSome_iff_exists.mpr ⟨expiry, parsed⟩,
              Option.isSome_iff_exists.mpr ⟨limit, known⟩⟩
          · rintro ⟨parses, known⟩
            exact ⟨opening, asked, checked, rest, attestation, same, rfl,
              first.precedes_iff.mpr parses, second.precedes_iff.mpr known⟩
      | _ => exact Iff.rfl
  | _ => exact Iff.rfl

/-- The readings of an iteration stay while it goes on. -/
theorem BridgeCall.Reads.later {compares : JsString → Int → Prop}
    {exchanges : List (Exchange bridgeInterface)} {call : BridgeCall}
    (reads : call.Reads compares exchanges) (exchange : Exchange bridgeInterface)
    (stays : exchange.call.loads = false) : call.Reads compares (exchanges ++ [exchange]) := by
  have same : iteration (exchanges ++ [exchange]) = iteration exchanges ++ [exchange] :=
    iteration_stays stays
  cases call with
  | perform stage operation input =>
      cases stage with
      | sourceEffect =>
          obtain ⟨opening, rest, opens, unreached⟩ := reads
          exact ⟨opening, rest ++ [exchange], by rw [same, opens, List.cons_append], unreached⟩
      | destinationEffect =>
          obtain ⟨opening, asked, checked, rest, attestation, opens, given⟩ := reads
          exact ⟨opening, asked, checked, rest ++ [exchange], attestation,
            by rw [same, opens]; rfl, given⟩
      | _ => trivial
  | _ => trivial

namespace BridgeCoordinator

variable {route : BridgeRoute} {operation : DurableBridgeOperation}
  {exchanges : List (Exchange bridgeInterface)}

/-- The transcripts of a program that calls the effects before the expiries. -/
abbrev gates (platform : Platform) : Protocol bridgeInterface Unit :=
  transcriptProtocol fun exchanges call => call.Reads (Unreached platform) exchanges

/-- Where a transition succeeds, an iteration has ended. -/
def Resumes (there : List (Exchange bridgeInterface))
    (outcome : Except Thrown DurableBridgeOperation) : Prop :=
  ∀ operation, outcome = .ok operation → iteration there = []

theorem resumes_error {error : Thrown} : Resumes exchanges (.error error) :=
  fun _ same => by cases same

theorem transition_gated {target : BridgeState} {reason : JsString}
    {policyDecision : Option PolicyDecision} :
    (transition platform route operation target reason policyDecision).Follows (gates platform)
      Resumes exchanges := by
  refine .call_seq trivial (fun now _ => ?_) fun _ _ => resumes_error
  refine .ofExcept_seq (fun _ _ => ?_) fun _ _ => resumes_error
  refine .call_seq trivial (fun found _ => ?_) fun _ _ => resumes_error
  cases found with
  | none => exact resumes_error
  | some operation =>
      dsimp only
      split
      · refine .ofExcept_seq (fun _ _ => ?_) fun _ _ => resumes_error
        exact ⟨trivial, fun _ _ _ _ => iteration_loaded rfl⟩
      · refine .call_seq trivial (fun existing _ => ?_) fun _ _ => resumes_error
        split
        · exact fun _ _ => iteration_loaded rfl
        · exact resumes_error

theorem produce_gated {stage : BridgeStage} {input : Except Thrown StageInput}
    (reads : ∀ value, input = .ok value →
      (BridgeCall.perform stage operation value).Reads (Unreached platform) exchanges) :
    (produce route operation stage input).Follows (gates platform) (fun _ _ => True)
      exchanges := by
  refine .ofExcept_seq (fun value given => ?_) fun _ _ => trivial
  refine .call_seq (reads value given) (fun result _ => ?_) fun _ _ => trivial
  exact .ofExcept_seq (fun _ _ => trivial) fun _ _ => trivial

/-- A stage starts its service in the iteration in which it is entered. -/
theorem evidence_gated {stage : BridgeStage} {input : Except Thrown StageInput}
    (reads : ∀ value, input = .ok value →
      (BridgeCall.perform stage operation value).Reads (Unreached platform) exchanges) :
    (evidence platform route operation stage input).Follows (gates platform) (fun _ _ => True)
      exchanges := by
  refine .call_seq trivial (fun found _ => ?_) fun _ _ => trivial
  have asked := fun value given => (reads value given).later
    ⟨.getEvidence operation.id (route.stageText stage), .ok found⟩ rfl
  cases found with
  | some existing => trivial
  | none =>
      dsimp only
      split
      · refine .call_seq trivial (fun now _ => ?_) fun _ _ => trivial
        refine .seq (produce_gated fun value given => (asked value given).later ⟨.now, .ok now⟩ rfl)
          (fun _ data _ => ?_) fun _ _ _ => trivial
        exact ⟨trivial, fun _ _ => trivial⟩
      · refine .seq (produce_gated asked) (fun _ data _ => ?_) fun _ _ _ => trivial
        refine .call_seq trivial (fun now _ => ?_) fun _ _ => trivial
        exact ⟨trivial, fun _ _ => trivial⟩

theorem requiredEvidence_gated {operationId : JsString} {stage : BridgeStage} :
    (requiredEvidence route operationId stage).Follows (gates platform)
      (fun there _ => ∃ answer, there = exchanges ++
        [⟨.getEvidence operationId (route.stageText stage), answer⟩]) exchanges := by
  refine .call_seq trivial (fun found _ => ?_) fun _ _ => ⟨_, rfl⟩
  cases found with
  | none => exact ⟨_, rfl⟩
  | some value => exact ⟨_, rfl⟩

/-- What follows a stage: a transition, whose result goes on. -/
theorem some_gated {program : BridgeProgram DurableBridgeOperation}
    (follows : program.Follows (gates platform) Resumes exchanges) :
    (some <$> program).Follows (gates platform)
      (fun there outcome => ∀ operation, outcome = .ok (some operation) → iteration there = [])
      exchanges := by
  rw [Program.map_eq]
  refine .seq follows (fun there value resumes => ?_) fun _ _ _ _ same => by cases same
  exact fun _ _ => resumes value rfl

theorem followUp_gated {effect stage : BridgeStage} {verdict : JsString}
    {passed failed : BridgeState}
    (reads : ∀ there value, (BridgeCall.perform stage operation value).Reads
      (Unreached platform) there) :
    (followUp platform route operation effect stage verdict passed failed).Follows
      (gates platform) Resumes exchanges := by
  refine .seq requiredEvidence_gated (fun _ submitted _ => ?_) fun _ _ _ => resumes_error
  refine .seq (evidence_gated fun value _ => reads _ value) (fun _ evidence _ => ?_)
    fun _ _ _ => resumes_error
  exact transition_gated

/-- The destination effect comes after a second reading of the clock, for the attestation. -/
theorem destination_gated {opening : Int} (asked : Exchange bridgeInterface)
    {attestation : VerifiedThresholdAttestation} {checked : Int}
    (opens : iteration exchanges = [⟨.now, .ok opening⟩]) (stays : asked.call.loads = false)
    (unexpired : Unreached platform operation.expiresAt opening)
    (unreached : Unreached platform attestation.expiresAt checked) :
    (BridgeCall.perform .destinationEffect operation (.authorized attestation)).Reads
      (Unreached platform) (exchanges ++ [asked] ++ [⟨.now, .ok checked⟩]) := by
  refine ⟨opening, asked, checked, [], attestation, ?_, rfl, unexpired, unreached⟩
  have goes : BridgeCall.loads .now = false := rfl
  rw [iteration_stays goes, iteration_stays stays, opens]
  rfl

theorem advance_gated {opening : Int} (opens : iteration exchanges = [⟨.now, .ok opening⟩])
    (unexpired : Unreached platform operation.expiresAt opening) :
    (advance platform route operation).Follows (gates platform)
      (fun there outcome => ∀ operation, outcome = .ok (some operation) → iteration there = [])
      exchanges := by
  unfold advance
  split
  · exact .call_seq trivial (fun decision _ => some_gated transition_gated)
      fun _ _ _ same => by cases same
  · exact some_gated transition_gated
  · refine .seq (evidence_gated fun _ _ => ⟨opening, [], opens, unexpired⟩)
      (fun _ evidence _ => some_gated transition_gated) fun _ _ _ _ same => by cases same
  · exact some_gated (followUp_gated fun _ _ => trivial)
  · exact some_gated (followUp_gated fun _ _ => trivial)
  · exact some_gated transition_gated
  · refine .seq requiredEvidence_gated (fun _ finality _ => ?_) fun _ _ _ _ same => by cases same
    exact .seq (evidence_gated fun _ _ => trivial)
      (fun _ evidence _ => some_gated transition_gated) fun _ _ _ _ same => by cases same
  · exact some_gated transition_gated
  · refine .seq requiredEvidence_gated (fun there stored read => ?_)
      fun _ _ _ _ same => by cases same
    obtain ⟨answer, rfl⟩ := read
    refine .ofExcept_seq (fun attestation _ => ?_) fun _ _ _ same => by cases same
    refine .call_seq trivial (fun checked _ => ?_) fun _ _ _ same => by cases same
    split
    · exact some_gated transition_gated
    · rename_i unreached
      have reads := destination_gated ⟨.getEvidence _ _, answer⟩ opens rfl unexpired
        (Bool.eq_false_iff.mpr unreached)
      refine .seq (evidence_gated fun value given => ?_)
        (fun _ evidence _ => some_gated transition_gated) fun _ _ _ _ same => by cases same
      cases given
      exact reads
  · exact some_gated (followUp_gated fun _ _ => trivial)
  · exact some_gated (followUp_gated fun _ _ => trivial)
  · exact some_gated transition_gated
  · exact .seq (evidence_gated fun _ _ => trivial)
      (fun _ evidence _ => some_gated transition_gated) fun _ _ _ _ same => by cases same
  · exact some_gated transition_gated
  · exact fun _ same => by cases same

theorem drive_gated (guard : Nat) (loaded : iteration exchanges = []) :
    (drive platform route guard operation).Follows (gates platform) (fun _ _ => True)
      exchanges := by
  induction guard generalizing operation exchanges with
  | zero =>
      rw [drive]
      split <;> trivial
  | succ guard ih =>
      rw [drive]
      split
      · trivial
      · split
        · trivial
        · refine .call_seq trivial (fun opening _ => ?_) fun _ _ => trivial
          split
          · exact .seq transition_gated (fun _ expired resumes => ih (resumes expired rfl))
              fun _ _ _ => trivial
          · rename_i unreached
            have opens : iteration (exchanges ++ [⟨.now, .ok opening⟩]) =
                [⟨.now, .ok opening⟩] := by
              rw [iteration_stays rfl, loaded, List.nil_append]
            refine .seq (advance_gated opens (Bool.eq_false_iff.mpr unreached))
              (fun there next resumes => ?_) fun _ _ _ => trivial
            cases next with
            | some next => exact ih (resumes next rfl)
            | none => trivial

/-- Every effect of a run starts in an iteration whose readings have not reached its
expiries. -/
theorem run_gated (platform : Platform) (route : BridgeRoute) (operationId : JsString) :
    (run platform route operationId).Follows (gates platform) (fun _ _ => True) [] := by
  refine .call_seq trivial (fun found _ => ?_) fun _ _ => trivial
  cases found with
  | none => trivial
  | some operation => exact drive_gated 24 (iteration_loaded rfl)

end BridgeCoordinator

/-! ## Runs of the coordinators -/

section Runs

variable {services : Services bridgeInterface} {Worker : Type} [DecidableEq Worker]
  {admits : View services Worker (BridgeRoute × JsString) →
    Event bridgeInterface Worker (BridgeRoute × JsString) → Prop}
  {initial : View services Worker (BridgeRoute × JsString)}
  {config : Config services Worker (BridgeRoute × JsString) DurableBridgeOperation}

/-- A run of the coordinator of a route, for one operation. -/
abbrev coordinatorProgram (platform : Platform) (entry : BridgeRoute × JsString) :
    BridgeProgram DurableBridgeOperation :=
  BridgeCoordinator.run platform entry.1 entry.2

/-- In every run of the coordinators, each lock, burn, mint or release starts in an iteration
whose readings precede its expiries if and only if these parse. -/
theorem coordinators_precede_iff
    (reached : Reachable (coordinatorProgram platform) admits initial config)
    (fresh : initial.history = []) :
    EachCall (coordinatorProgram platform) config.history (fun _ exchanges call =>
      call.Reads (Precedes platform) exchanges ↔ call.Parses platform) := by
  refine reached.eachCall fresh ?_
  rintro entry exchanges call ⟨resume, reaches⟩
  exact BridgeCall.Reads.precedes_iff
    ((BridgeCoordinator.run_gated platform entry.1 entry.2).admits_of_reaches reaches)

end Runs

/-! ## An expiry that is no date -/

namespace MalformedExpiry

open BridgeExample (early)

/-- A date with the day first. -/
def malformed : JsString := js "31/08/2026"

theorem not_precedes (instant : Int) : ¬ Precedes isoPlatform malformed instant := by
  rintro ⟨expiry, parsed, _⟩
  have unparsed : isoPlatform.dateParse malformed = none := by decide +kernel
  cases unparsed.symm.trans parsed

def input : CreateBridgeOperation := { BridgeExample.input with expiresAt := malformed }

theorem accepted : TransactionEngine.Accepts isoPlatform input := by
  have checks : TransactionEngine.checkCreate isoPlatform input = .ok () := by decide +kernel
  refine ⟨TransactionEngine.initialTransition input, .settled, ?_⟩
  rw [TransactionEngine.create, checks]
  rfl

def table : OperationTable :=
  (DurableTransactionEngine.create isoPlatform input fun _ => none).2

/-- The operation is stored and no stage has evidence. -/
def opened : View bridgeServices Unit (BridgeRoute × JsString) :=
  ⟨⟨table, fun _ _ => none⟩, []⟩

/-- What a run is answered up to the source effect. -/
def prepares : List BridgeChoice :=
  [BridgeChoice.stored, .instant early, .decision BridgeExample.decision] ++
    BridgeExample.transition ++ [BridgeChoice.instant early] ++ BridgeExample.transition ++
    [BridgeChoice.instant early, .stored]

/-- A run of the lock-mint coordinator up to the lock. -/
def reachesLock : List (Action bridgeServices Unit (BridgeRoute × JsString)) :=
  .start () (lockMintRoute none, input.id) ::
    prepares.flatMap fun choice => [.issue (), .answer () choice]

/-- The event asks for the lock of an operation with that expiry. -/
def locks : Event bridgeInterface Unit (BridgeRoute × JsString) → Bool
  | .issued _ (.perform .sourceEffect operation _) => operation.expiresAt == malformed
  | _ => false

/-- The lock is called although the expiry is no date. -/
theorem locked : ∃ config : Config bridgeServices Unit (BridgeRoute × JsString)
      DurableBridgeOperation,
    Reachable (coordinatorProgram isoPlatform) (fun _ _ => True) opened config ∧
    ¬ EachCall (coordinatorProgram isoPlatform) config.history
      fun _ exchanges call => call.Reads (Precedes isoPlatform) exchanges := by
  obtain ⟨config, move, reached, moved, checked⟩ := Reachable.exists_move_of_run
    (coordinatorProgram isoPlatform) (fun _ _ => True) opened reachesLock (.issue ())
    (fun _ move => locks move.event) (by decide +kernel)
  refine ⟨config.apply move, .step reached moved trivial, fun each => ?_⟩
  have step := reached.step_of_move rfl moved
  obtain ⟨event, state, status⟩ := move
  unfold locks at checked
  dsimp only at checked
  split at checked
  · rename_i worker operation given
    cases step with
    | issued before _ =>
        obtain ⟨opening, _, _, precedes⟩ := each [] worker _ config.history _ _ rfl before
        rw [eq_of_beq checked] at precedes
        exact not_precedes opening precedes
  · cases checked

end MalformedExpiry
end InterWeave
