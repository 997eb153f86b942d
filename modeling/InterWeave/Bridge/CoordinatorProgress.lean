import InterWeave.Bridge.CoordinatorRefusals

/-! # Progress of the coordinators

Each iteration of a run that does not throw comes back with an operation in a strictly later state,
whatever other workers do to the operation meanwhile: it is the one that the iteration has moved,
or a snapshot that the others had moved past the state in memory. There are fewer states on a path
than iterations, so a run that does not throw ends with an operation in a terminal state.
-/

namespace InterWeave

open Async

namespace BridgeCoordinator

variable {platform : Platform} {route : BridgeRoute} {id : JsString} {world : BridgeWorld}
  {served : List (Served bridgeServices)} {operation : DurableBridgeOperation}

/-- The rest of an iteration, from where others may take the operation further. -/
abbrev Ensures {α : Type} (id : JsString)
    (post : BridgeWorld → List (Served bridgeServices) → Except Thrown α → Prop)
    (program : BridgeProgram α) (world : BridgeWorld) (served : List (Served bridgeServices)) :
    Prop :=
  @Program.Ensures _ bridgeServices _ (BridgeWorld.Continues id) (fun _ _ => True) post program
    world served

/-- A part of an iteration that comes back with a value. -/
def Returns {α : Type} (route : BridgeRoute) (id : JsString) (operation : DurableBridgeOperation)
    (earlier : List (Served bridgeServices)) (world : BridgeWorld)
    (served : List (Served bridgeServices)) : Except Thrown α → Prop
  | .ok _ => world.Copies id operation ∧ earlier ⊆ served
  | .error error => Explains route id operation world served error

/-- An iteration that has moved an operation. -/
def Moves (route : BridgeRoute) (id : JsString) (operation : DurableBridgeOperation)
    (world : BridgeWorld) (served : List (Served bridgeServices)) :
    Except Thrown DurableBridgeOperation → Prop
  | .ok next => world.Copies id next ∧ operation.state.Precedes next.state
  | .error error => Explains route id operation world served error

/-- A call that is made for its value. -/
theorem call_ensures {β : Type} {call : BridgeCall}
    {next : call.Value → BridgeProgram β}
    {post : BridgeWorld → List (Served bridgeServices) → Except Thrown β → Prop}
    (fails : ∀ world served error, Explains route id operation world served error →
      post world served (.error error)) (copies : world.Copies id operation)
    (ok : ∀ world more value, BridgeWorld.Copies world id operation → served ⊆ more →
      Ensures id post (next value) world more) :
    Ensures id post (Program.call (I := bridgeInterface) call >>= next) world served := by
  refine .call_seq (fun _ _ _ _ _ _ => trivial) (fun later continues choice value left replied => ?_)
    fun later _ choice error left replied => fails _ _ _ (.inl .last)
  exact ok left _ value
    ((copies.continues continues).continues (BridgeWorld.continues_of_reply replied))
    (List.subset_cons_self _ _)

/-- The append of an iteration. -/
theorem append_ensures (copies : world.Copies id operation) {command : TransitionCommand}
    (named : command.operationId = id)
    (legal : operation.state.canTransition command.target = true) :
    Ensures id (Moves route id operation) (BridgeProgram.append command) world served := by
  intro later continues choice answer left replied
  refine ⟨trivial, ?_⟩
  obtain ⟨_, logged, stored, ⟨there, same, path⟩, beginning⟩ := copies.continues continues
  subst named
  cases choice <;> cases replied
  rcases PostgresTransactionStore.append_cases later.operations command with
    ⟨_, refused⟩ | ⟨existing, found, entered, repeated⟩ | ⟨current, found, _, step, appended⟩
  · rw [refused]
    exact .inl .last
  · rw [repeated]
    cases found.symm.trans there
    exact ⟨BridgeWorld.Stores.copies ⟨found, same, path⟩,
      logged.precedes_of_mem path beginning legal entered⟩
  · rw [appended]
    cases found.symm.trans there
    have longer : operation.transitions <+:
        (PostgresTransactionStore.appended stored command).transitions :=
      beginning.trans (List.prefix_append _ _)
    have entered : command.target ∈ (PostgresTransactionStore.appended stored command).states := by
      simp only [DurableBridgeOperation.states, PostgresTransactionStore.appended, List.map_append,
        List.map_cons, List.mem_append, List.mem_cons, true_or, or_true]
    exact ⟨BridgeWorld.Stores.copies ⟨Function.update_self .., same, path.appended step⟩,
      logged.precedes_of_mem (path.appended step) longer legal entered⟩

/-- The exit of an operation that others have taken further. -/
theorem found_ensures {loaded : Served bridgeServices} (copies : world.Copies id operation)
    {current : DurableBridgeOperation}
    (read : loaded.exchange = ⟨.getOperation id, .ok (some current)⟩)
    (there : loaded.state.Stores id current) (stores : world.Stores id current)
    (beginning : operation.transitions <+: current.transitions) {target : BridgeState}
    (legal : operation.state.canTransition target = true)
    (illegal : current.state.canTransition target ≠ true) :
    Ensures id (Moves route id operation)
      (BridgeProgram.findTransition id (operation.id ++ js ":" ++ target.text) >>= fun existing =>
        if existing.map PersistedTransition.target = some target then return current
        else Program.reject (.registryError .conflict (js "illegal bridge transition: " ++
          current.state.text ++ js " -> " ++ target.text))) world (loaded :: served) := by
  refine .call_seq (fun _ _ _ _ _ _ => trivial) (fun later continues choice value left replied => ?_)
    fun later _ choice error left replied => .inl .last
  have step : BridgeWorld.Continues id later left := BridgeWorld.continues_of_reply replied
  have still := (stores.copies.continues continues).continues step
  have further : operation.state.Precedes current.state := by
    refine copies.2.1.precedes stores.2.2 beginning fun same => illegal ?_
    have state : operation.state = current.state := by
      have last := copies.2.1.last
      rw [DurableBridgeOperation.states, same] at last
      exact Option.some.inj (last.symm.trans stores.2.2.last)
    rw [← state]
    exact legal
  split
  · exact ⟨still, further⟩
  · rename_i other
    exact .inr ⟨(copies.continues continues).continues step,
      .illegal read there further legal illegal rfl other⟩

/-- A transition from the state in memory leaves the operation in a later one, or it is refused. -/
theorem transition_ensures (copies : world.Copies id operation) {target : BridgeState}
    (legal : operation.state.canTransition target = true) {reason : JsString}
    (reasoned : reason.isBlank = false) {policyDecision : Option PolicyDecision}
    (decides : ∀ command : TransitionCommand, command.target = target →
      command.policyDecision = policyDecision →
      DurableTransactionEngine.checkDecision command = .ok ()) :
    Ensures id (Moves route id operation)
      (transition platform route operation target reason policyDecision) world served := by
  refine call_ensures (fun _ _ _ explained => explained) copies fun world served now copies _ => ?_
  generalize asked : TransitionCommand.mk operation.id (operation.id ++ js ":" ++ target.text)
    operation.version target (platform.toISOString now) reason route.actor 1 policyDecision = command
  have named : command.operationId = id := by
    rw [← asked]
    exact copies.1
  have key : command.transitionKey = operation.id ++ js ":" ++ target.text := by rw [← asked]
  have given : command.reason = reason ∧ command.actor = route.actor ∧ command.attempt = 1 := by
    rw [← asked]
    exact ⟨rfl, rfl, rfl⟩
  obtain rfl : command.target = target := by rw [← asked]
  have decided := decides command rfl (by rw [← asked])
  refine .ofExcept_seq (fun _ _ => ?_) fun error refused => ?_
  · refine .call_seq (fun _ _ _ _ _ _ => trivial)
      (fun later continues choice value left replied => ?_)
      fun later _ choice error left replied => .inl .last
    have still := copies.continues continues
    obtain ⟨_, logged, stored, stores, beginning⟩ := still
    cases choice <;> cases replied
    rw [named, stores.1]
    dsimp only
    split
    · refine .ofExcept_seq (fun _ _ => ?_) fun error refused => ?_
      · exact append_ensures (copies.continues continues) named legal
      · rw [decided] at refused
        cases refused
    · rename_i illegal
      rw [key]
      exact found_ensures (copies.continues continues) rfl stores stores beginning legal illegal
  · -- the key and the reason are given, so the actor is refused
    obtain ⟨blank, rfl⟩ := checkCommand_error (key ▸ isBlank_transitionKey _ _)
      (given.1 ▸ reasoned) given.2.2 refused
    exact .inr ⟨copies, .actor (given.2.1 ▸ blank)⟩

theorem refusal_of_required {stage : BridgeStage} {input : StageInput} {data : StageData}
    {answered : Served bridgeServices} {error : Thrown}
    (returned : answered.exchange = ⟨.perform stage operation input, .ok data⟩)
    (state : operation.state = stage.state) {properties : List (JsString × JsString)}
    (among : properties ⊆ route.required stage)
    (refused : (properties.forM fun property => data.requireText property.1 property.2) =
      .error error) : BridgeRefusal route id operation (answered :: served) error := by
  induction properties with
  | nil => cases refused
  | cons property rest ih =>
      change (data.requireText property.1 property.2 >>= fun _ =>
        rest.forM fun property => data.requireText property.1 property.2) = _ at refused
      rcases Atomic.error_of_bind refused with failed | ⟨_, _, failed⟩
      · exact .result returned state (among List.mem_cons_self) failed
      · exact ih (List.subset_of_cons_subset among) failed

/-- An input that is refused by the time that a service is called. -/
abbrev Refuses (route : BridgeRoute) (id : JsString) (operation : DurableBridgeOperation)
    (served : List (Served bridgeServices)) (input : Except Thrown StageInput) : Prop :=
  ∀ more error, served ⊆ more → input = .error error → BridgeRefusal route id operation more error

theorem produce_ensures (copies : world.Copies id operation) {stage : BridgeStage}
    (state : operation.state = stage.state) {input : Except Thrown StageInput}
    (refuses : Refuses route id operation served input) :
    Ensures id (Returns route id operation served) (produce route operation stage input) world
      served := by
  refine .ofExcept_seq (fun value _ => ?_) fun error failed =>
    .inr ⟨copies, refuses served error (List.Subset.refl _) failed⟩
  refine .call_seq (fun _ _ _ _ _ _ => trivial) (fun later continues choice data left replied => ?_)
    fun later _ choice error left replied => .inl .last
  have still := (copies.continues continues).continues (BridgeWorld.continues_of_reply replied)
  exact .ofExcept_seq (fun _ _ => ⟨still, List.subset_cons_self _ _⟩) fun error refused =>
    .inr ⟨still, refusal_of_required rfl state (List.Subset.refl _) refused⟩

theorem put_ensures (copies : world.Copies id operation)
    {earlier : List (Served bridgeServices)} (grows : earlier ⊆ served)
    (evidence : StageEvidence) :
    Ensures id (Returns route id operation earlier) (BridgeProgram.putEvidence evidence) world
      served := by
  intro later continues choice answer left replied
  refine ⟨trivial, ?_⟩
  cases answer with
  | ok value =>
      exact ⟨(copies.continues continues).continues (BridgeWorld.continues_of_reply replied),
        List.Subset.trans grows (List.subset_cons_self _ _)⟩
  | error error => exact .inl .last

theorem evidence_ensures (stage : BridgeStage) (copies : world.Copies id operation)
    (state : operation.state = stage.state) {input : Except Thrown StageInput}
    (refuses : Refuses route id operation served input) :
    Ensures id (Returns route id operation served)
      (evidence platform route operation stage input) world served := by
  have explained : ∀ (world : BridgeWorld) (more : List (Served bridgeServices)) error,
      Explains route id operation world more error →
        Returns (α := StageEvidence) route id operation served world more (.error error) :=
    fun _ _ _ explained => explained
  refine call_ensures explained copies fun world first found copies known => ?_
  cases found with
  | some existing => exact ⟨copies, known⟩
  | none =>
      dsimp only
      split
      · refine call_ensures explained copies fun world second now copies read => ?_
        have grows := List.Subset.trans known read
        refine (produce_ensures copies state fun more error further =>
          refuses more error (List.Subset.trans grows further)).seq
            (fun world more data produced => ?_) explained
        exact put_ensures produced.1 (List.Subset.trans grows produced.2) _
      · refine (produce_ensures copies state fun more error further =>
          refuses more error (List.Subset.trans known further)).seq
            (fun world second data produced => ?_) explained
        refine call_ensures explained produced.1 fun world more now copies read => ?_
        exact put_ensures copies
          (List.Subset.trans (List.Subset.trans known produced.2) read) _

/-- Evidence that is required was read back. -/
theorem requiredEvidence_ensures (copies : world.Copies id operation) {stage : BridgeStage}
    (required : operation.state.required = some stage) :
    Ensures id (fun world served outcome => match outcome with
      | .ok evidence => world.Copies id operation ∧ ∃ answered earlier,
          served = answered :: earlier ∧
            Finds route id operation stage (some evidence) answered
      | .error error => Explains route id operation world served error)
      (requiredEvidence route operation.id stage) world served := by
  refine .call_seq (fun _ _ _ _ _ _ => trivial) (fun later continues choice value left replied => ?_)
    fun later _ choice error left replied => .inl .last
  have step : BridgeWorld.Continues id later left := BridgeWorld.continues_of_reply replied
  have still := (copies.continues continues).continues step
  have finds := Finds.of_reply replied still
  cases value with
  | none => exact .inr ⟨still, .missing finds required⟩
  | some evidence => exact ⟨still, _, _, rfl, finds⟩

/-- No transition out of the policy check is asked for without a decision. -/
theorem decides_nothing {target : BridgeState} (checked : target ≠ .policyChecked)
    (rejected : target ≠ .policyRejected) {policyDecision : Option PolicyDecision}
    (command : TransitionCommand) (named : command.target = target)
    (_ : command.policyDecision = policyDecision) :
    DurableTransactionEngine.checkDecision command = .ok () := by
  subst named
  simp only [DurableTransactionEngine.checkDecision, checked, rejected, false_and, ↓reduceIte]
  rfl

theorem followUp_ensures (stage : BridgeStage) (copies : world.Copies id operation)
    (state : operation.state = stage.state) {effect : BridgeStage}
    (required : stage.state.required = some effect)
    (effects : effect = .sourceEffect ∨ effect = .destinationEffect)
    {verdict : JsString} {passed failed : BridgeState}
    (passes : stage.state.canTransition passed = true)
    (fails : stage.state.canTransition failed = true)
    (plain : ∀ target ∈ [passed, failed], target ≠ .policyChecked ∧ target ≠ .policyRejected)
    (reasoned : ∀ data, (route.reason passed data).isBlank = false) :
    Ensures id (Moves route id operation)
      (followUp platform route operation effect stage verdict passed failed) world served := by
  rw [← state] at required passes fails
  refine (requiredEvidence_ensures copies required).seq (fun world served submitted known => ?_)
    fun _ _ _ explained => explained
  obtain ⟨still, answered, earlier, rfl, finds⟩ := known
  have refuses : Refuses route id operation (answered :: earlier)
      ((submitted.stringValue (js "transactionId")).map .transaction) := by
    intro more error grows refused
    cases text : submitted.stringValue (js "transactionId") with
    | error blank =>
        rw [text] at refused
        cases refused
        exact .transaction (grows List.mem_cons_self) finds required effects text
    | ok value =>
        rw [text] at refused
        cases refused
  refine (evidence_ensures stage still state refuses).seq (fun world served evidence found => ?_)
    fun _ _ _ explained => explained
  have target : (if evidence.data.isTrue verdict then passed else failed) ∈ [passed, failed] := by
    split <;> simp
  have legal : operation.state.canTransition
      (if evidence.data.isTrue verdict then passed else failed) = true := by
    split
    · exact passes
    · exact fails
  exact transition_ensures found.1 legal (reasoned _)
    (decides_nothing (plain _ target).1 (plain _ target).2)

/-- What the `switch` leaves of an iteration. -/
def Advances (route : BridgeRoute) (id : JsString) (operation : DurableBridgeOperation)
    (world : BridgeWorld) (served : List (Served bridgeServices)) :
    Except Thrown (Option DurableBridgeOperation) → Prop
  | .ok (some next) => world.Copies id next ∧ operation.state.Precedes next.state
  | .ok none => operation.state.terminal = true
  | .error error => Explains route id operation world served error

theorem some_ensures {program : BridgeProgram DurableBridgeOperation}
    (ensured : Ensures id (Moves route id operation) program world served) :
    Ensures id (Advances route id operation) (some <$> program) world served := by
  rw [Program.map_eq]
  exact ensured.seq (fun _ _ _ moved => moved) fun _ _ _ explained => explained

theorem proceed_ensures (copies : world.Copies id operation) {source target : BridgeState}
    (state : operation.state = source) (legal : source.canTransition target = true)
    (plain : target ≠ .policyChecked ∧ target ≠ .policyRejected) {reason : JsString}
    (reasoned : reason.isBlank = false) :
    Ensures id (Advances route id operation)
      (some <$> transition platform route operation target reason none) world served :=
  some_ensures (transition_ensures copies (state ▸ legal) reasoned
    (decides_nothing plain.1 plain.2))

/-- What a stage is given needs no refusal, so its evidence is there for what follows. -/
theorem staged_ensures (stage : BridgeStage) (copies : world.Copies id operation)
    (state : operation.state = stage.state) {input : StageInput}
    {rest : StageEvidence → BridgeProgram (Option DurableBridgeOperation)}
    (left : ∀ world served evidence, world.Copies id operation →
      Ensures id (Advances route id operation) (rest evidence) world served) :
    Ensures id (Advances route id operation)
      (evidence platform route operation stage (.ok input) >>= rest) world served := by
  have given : Refuses route id operation served (.ok input) := fun _ _ _ refused => by
    cases refused
  exact (evidence_ensures stage copies state given).seq
    (fun world served evidence found => left world served evidence found.1)
    fun _ _ _ explained => explained

/-- Every case of the `switch` moves the operation, and the default is for terminal states. -/
theorem advance_ensures (reasoned : route.Reasoned) (copies : world.Copies id operation) :
    Ensures id (Advances route id operation) (advance platform route operation) world served := by
  have explained : ∀ (world : BridgeWorld) (served : List (Served bridgeServices)) error,
      Explains route id operation world served error →
        Advances route id operation world served (.error error) :=
    fun _ _ _ explained => explained
  have enters := reasoned.enters
  unfold advance
  split <;> rename_i state
  · refine call_ensures explained copies fun world served decision copies _ => ?_
    refine some_ensures (transition_ensures copies ?_ rfl fun command named decided => ?_)
    · rw [state]
      split <;> rfl
    · simp only [DurableTransactionEngine.checkDecision, named, decided, Option.map_some]
      split <;> rename_i allow <;> simp [allow] <;> rfl
  · exact proceed_ensures copies state rfl (by decide) (enters _ rfl _)
  · refine staged_ensures .sourceEffect copies state fun world served evidence copies => ?_
    exact proceed_ensures copies state rfl (by decide) (enters _ rfl _)
  · exact some_ensures (followUp_ensures .sourceConfirmation copies state rfl (.inl rfl) rfl rfl
      (by decide) (enters _ rfl))
  · exact some_ensures (followUp_ensures .sourceFinality copies state rfl (.inl rfl) rfl rfl
      (by decide) (enters _ rfl))
  · exact proceed_ensures copies state rfl (by decide) (enters _ rfl _)
  · refine (requiredEvidence_ensures copies (by rw [state]; rfl)).seq
      (fun world served finality known => ?_) explained
    refine staged_ensures .attestation known.1 state fun world served evidence copies => ?_
    split
    · exact proceed_ensures copies state rfl (by decide) (enters _ rfl _)
    · exact proceed_ensures copies state rfl (by decide) (enters _ rfl _)
  · exact proceed_ensures copies state rfl (by decide) (enters _ rfl _)
  · refine (requiredEvidence_ensures copies (by rw [state]; rfl)).seq
      (fun world served stored known => ?_) explained
    obtain ⟨still, answered, earlier, rfl, finds⟩ := known
    refine .ofExcept_seq (fun attestation _ => ?_) fun error refused =>
      .inr ⟨still, .attestation finds state refused⟩
    refine call_ensures explained still fun world served now copies _ => ?_
    split
    · exact proceed_ensures copies state rfl (by decide) reasoned.expired
    · refine staged_ensures .destinationEffect copies state fun world served evidence copies => ?_
      exact proceed_ensures copies state rfl (by decide) (enters _ rfl _)
  · exact some_ensures (followUp_ensures .destinationConfirmation copies state rfl (.inr rfl) rfl
      rfl (by decide) (enters _ rfl))
  · exact some_ensures (followUp_ensures .destinationFinality copies state rfl (.inr rfl) rfl rfl
      (by decide) (enters _ rfl))
  · exact proceed_ensures copies state rfl (by decide) (enters _ rfl _)
  · refine staged_ensures .reconciliation copies state fun world served evidence copies => ?_
    split
    · exact proceed_ensures copies state rfl (by decide) (enters _ rfl _)
    · exact proceed_ensures copies state rfl (by decide) (enters _ rfl _)
  · exact proceed_ensures copies state rfl (by decide) (enters _ rfl _)
  · change operation.state.terminal = true
    cases final : operation.state <;> first | rfl | (exfalso; simp_all)

/-! ## The loop -/

/-- One iteration on an operation that is not terminal. -/
def iterate (platform : Platform) (route : BridgeRoute) (operation : DurableBridgeOperation) :
    BridgeProgram (Option DurableBridgeOperation) := do
  let now ← BridgeProgram.now
  if numberLe (platform.dateParse operation.expiresAt) (some now) then
    some <$> transition platform route operation .expired
      (js "bridge operation expired before completion") none
  else advance platform route operation

/-- The loop iterates until the operation is terminal. -/
theorem drive_succ (guard : Nat) : drive platform route (guard + 1) operation =
    if operation.state.terminal then pure operation
    else iterate platform route operation >>= fun
      | some next => drive platform route guard next
      | none => pure operation := by
  rw [drive]
  by_cases completed : operation.state = .completed
  · rw [if_pos completed, completed]
    rfl
  rw [if_neg completed]
  split
  · rfl
  rw [iterate, Program.bind_assoc]
  congr 1
  funext now
  split
  · rw [Program.map_eq, Program.bind_assoc]
    rfl
  · rfl

/-- What an iteration leaves. -/
def Progresses (route : BridgeRoute) (id : JsString) (operation : DurableBridgeOperation)
    (world : BridgeWorld) (served : List (Served bridgeServices)) :
    Except Thrown (Option DurableBridgeOperation) → Prop
  | .ok found => ∃ next, found = some next ∧ world.Copies id next ∧
      operation.state.Precedes next.state
  | .error error => Explains route id operation world served error

/-- An iteration moves the operation to a later state, or it throws. -/
theorem iterate_ensures (reasoned : route.Reasoned) (copies : world.Copies id operation)
    (running : operation.state.terminal = false) :
    Ensures id (Progresses route id operation) (iterate platform route operation) world served := by
  have advances : Ensures id (Advances route id operation) (iterate platform route operation) world
      served := by
    refine call_ensures (fun _ _ _ explained => explained) copies
      fun world served now copies _ => ?_
    split
    · refine proceed_ensures copies rfl ?_ (by decide) rfl
      simp [BridgeState.canTransition, running]
    · exact advance_ensures reasoned copies
  refine advances.imp fun world served outcome advanced => ?_
  cases outcome with
  | error error => exact advanced
  | ok found =>
      cases found with
      | none => cases running.symm.trans advanced
      | some next => exact ⟨next, rfl, advanced⟩

/-- How a run ends: it refuses with the copy that it holds. -/
def Ends (route : BridgeRoute) (id : JsString) (world : BridgeWorld)
    (served : List (Served bridgeServices)) : Except Thrown DurableBridgeOperation → Prop
  | .ok operation => operation.state.terminal = true
  | .error error => ThrownBy served error ∨ ∃ copy, world.Copies id copy ∧
      copy.state.terminal = false ∧ BridgeRefusal route id copy served error

/-- With more iterations than there are states ahead, the loop comes to a terminal state. -/
theorem drive_ensures (reasoned : route.Reasoned) {guard : Nat} (copies : world.Copies id operation)
    (enough : 15 ≤ operation.state.rank + guard) :
    Ensures id (Ends route id) (drive platform route guard operation) world served := by
  induction guard generalizing operation world served with
  | zero =>
      have bounded : ∀ state : BridgeState, state.rank ≤ 14 := by decide
      have := bounded operation.state
      omega
  | succ guard ih =>
      rw [drive_succ]
      split
      · rename_i final
        exact final
      · rename_i running
        rw [Bool.not_eq_true] at running
        refine (iterate_ensures reasoned copies running).seq (fun world served found progress => ?_)
          fun _ _ _ explained => explained.imp_right fun refused => ⟨_, refused.1, running, refused.2⟩
        obtain ⟨next, rfl, copied, further⟩ := progress
        have above := further.rank_lt
        exact ih copied (by omega)

theorem run_ensures (reasoned : route.Reasoned) (copies : world.Copies id operation) :
    Ensures id (Ends route id) (run platform route id) world served := by
  refine .call_seq (fun _ _ _ _ _ _ => trivial) (fun later continues choice value left replied => ?_)
    fun later _ choice error left replied => .inl .last
  obtain ⟨_, _, stored, stores, _⟩ := copies.continues continues
  cases choice <;> cases replied
  rw [stores.1]
  exact drive_ensures reasoned stores.copies (Nat.le_add_left_of_le (by decide))

end BridgeCoordinator
end InterWeave
