import InterWeave.Canton.Lineages

/-! # Intents for one operation

The templates do not compare contracts with each other: an operation and a holding are locked once
and released once where owner and operator sign one intent for them. A second intent for the
operation, or for a holding that is still bound, has a lineage of its own.
-/

namespace InterWeave.Interop

open Daml Daml.Update

section Intents

variable {Party : Type}

/-- The intent that a command creates. -/
def Command.intent : Command Party → Option (BridgeIntent Party)
  | .createBridgeIntent intent => some intent
  | _ => none

/-- The holding that an active contract binds. -/
def Payload.reserves : Payload Party → Option TokenHoldingRef
  | .bridgeIntent intent => some intent.holding
  | .lockedAsset locked => some locked.holding
  | _ => none

/-- The commands create intents for new operations, and for holdings that no intent and no
locked asset binds. -/
structure Fresh (ledger : Ledger Party) (commands : List (Command Party)) : Prop where
  operations : ((commands.filterMap Command.intent).map BridgeIntent.operationId).Nodup
  holdings : ((commands.filterMap Command.intent).map BridgeIntent.holding).Nodup
  unused : ∀ intent ∈ commands.filterMap Command.intent, ∀ contract earlier,
    ledger.payload contract = some (.bridgeIntent earlier) →
    earlier.operationId ≠ intent.operationId
  unbound : ∀ intent ∈ commands.filterMap Command.intent, ∀ contract payload,
    ledger.active contract = some payload → payload.reserves ≠ some intent.holding

/-- Intents are for different operations, and what is active binds different holdings. -/
structure Distinct (ledger : Ledger Party) : Prop where
  operations : ∀ first second intent other, ledger.payload first = some (.bridgeIntent intent) →
    ledger.payload second = some (.bridgeIntent other) →
    intent.operationId = other.operationId → first = second
  holdings : ∀ first second payload other holding, ledger.active first = some payload →
    ledger.active second = some other → payload.reserves = some holding →
    other.reserves = some holding → first = second

theorem Distinct.empty : Distinct (Daml.Ledger.empty : Ledger Party) where
  operations first second intent other known := by cases known
  holdings first second payload other holding known := by cases known

variable {ledger : Ledger Party}

/-- A contract that is no intent and binds nothing new. -/
theorem Distinct.append (distinct : Distinct ledger) {created : Created Party (Payload Party)}
    (operations : ∀ intent, created.payload = .bridgeIntent intent →
      ∀ contract earlier, ledger.payload contract = some (.bridgeIntent earlier) →
        earlier.operationId ≠ intent.operationId)
    (holdings : ∀ holding, created.payload.reserves = some holding →
      ∀ contract payload, ledger.active contract = some payload →
        payload.reserves ≠ some holding) :
    Distinct (ledger.append created) where
  operations first second intent other here there same := by
    rcases Daml.Ledger.payload_append.mp here with earlier | ⟨place, new⟩
    · rcases Daml.Ledger.payload_append.mp there with before | ⟨_, new⟩
      · exact distinct.operations first second intent other earlier before same
      · exact absurd same (operations other new first intent earlier)
    · rcases Daml.Ledger.payload_append.mp there with before | ⟨other, _⟩
      · exact absurd same.symm (operations intent new second _ before)
      · exact place.trans other.symm
  holdings first second payload other holding here there binds bound := by
    rcases Daml.Ledger.active_append here with earlier | ⟨place, rfl⟩
    · rcases Daml.Ledger.active_append there with before | ⟨_, rfl⟩
      · exact distinct.holdings first second payload other holding earlier before binds bound
      · exact absurd binds (holdings holding bound first payload earlier)
    · rcases Daml.Ledger.active_append there with before | ⟨other, _⟩
      · exact absurd bound (holdings holding binds second _ before)
      · exact place.trans other.symm

theorem Distinct.archive (distinct : Distinct ledger) (contract : ContractId) :
    Distinct (ledger.archive contract) where
  operations := distinct.operations
  holdings first second payload other holding here there :=
    distinct.holdings first second payload other holding (Daml.Ledger.active_archive.mp here).2
      (Daml.Ledger.active_archive.mp there).2

theorem Distinct.withdraw (distinct : Distinct ledger) (archival : Archival Party) :
    Distinct (ledger.withdraw archival) :=
  ⟨(distinct.archive archival.contract).operations, (distinct.archive archival.contract).holdings⟩

theorem Distinct.record (distinct : Distinct ledger) (exercised : Exercised Party Choice) :
    Distinct (ledger.record exercised) :=
  ⟨distinct.operations, distinct.holdings⟩

/-- A choice moves what its contract binds, or frees it. -/
theorem Yields.reserves {found : ContractId → Option (Payload Party)} {now : Time}
    {source target : Payload Party} {choice : Choice} (yields : Yields found now source choice target)
    {holding : TokenHoldingRef} (binds : target.reserves = some holding) :
    source.reserves = some holding := by
  cases yields with
  | lock _ => exact binds
  | authorizeRelease _ _ => cases binds
  | executeRelease _ => cases binds

theorem Yields.not_intent {found : ContractId → Option (Payload Party)} {now : Time}
    {source target : Payload Party} {choice : Choice} (yields : Yields found now source choice target)
    (intent : BridgeIntent Party) : target ≠ .bridgeIntent intent := by
  rintro rfl
  exact yields.not_submitted trivial

variable [DecidableEq Party] {context : Context Party} {after : Ledger Party}
  {result : ContractId} {command : Command Party} {rest : List (Command Party)}

/-- What a fresh command adds: a fresh intent, or a contract that binds what an active one
bound. -/
theorem Distinct.perform (distinct : Distinct ledger) (fresh : Fresh ledger (command :: rest))
    (returned : command.perform context ledger = .ok (result, after)) : Distinct after := by
  cases command with
  | createBridgeIntent intent =>
      obtain ⟨_, _, _, rfl⟩ := create_ok returned
      refine distinct.append (fun other same => ?_) fun holding binds => ?_
      · cases same
        exact fresh.unused intent List.mem_cons_self
      · cases binds
        exact fresh.unbound intent List.mem_cons_self
  | createAttestationRecord attestation =>
      obtain ⟨_, _, _, rfl⟩ := create_ok returned
      exact distinct.append (fun other same => by cases same) fun holding binds => by cases binds
  | exercise contract choice =>
      have step : Step context ledger (.exercise contract choice) after :=
        Command.perform_ok returned
      cases step with
      | @exercise _ _ source target actors active _ _ yields _ =>
          refine .record (.append (distinct.archive contract) (fun other same => ?_)
            fun holding binds => ?_) _
          · exact absurd same (yields.not_intent other)
          · intro second payload alive bound
            obtain ⟨other, before⟩ := Daml.Ledger.active_archive.mp alive
            exact other (distinct.holdings second contract payload source holding before active
              bound (yields.reserves binds))
  | archive contract =>
      have step : Step context ledger (.archive contract) after := Command.perform_ok returned
      cases step with
      | archive active signed => exact distinct.withdraw _

/-- What is fresh stays fresh after the commands before it. -/
theorem Fresh.later (fresh : Fresh ledger (command :: rest))
    (returned : command.perform context ledger = .ok (result, after)) : Fresh after rest := by
  cases command with
  | createBridgeIntent intent =>
      obtain ⟨_, _, _, rfl⟩ := create_ok returned
      obtain ⟨newOperation, operations⟩ := List.nodup_cons.mp fresh.operations
      obtain ⟨newHolding, holdings⟩ := List.nodup_cons.mp fresh.holdings
      refine ⟨operations, holdings, fun other member contract earlier known => ?_,
        fun other member contract payload active => ?_⟩
      · rcases Daml.Ledger.payload_append.mp known with before | ⟨_, same⟩
        · exact fresh.unused other (List.mem_cons_of_mem _ member) contract earlier before
        · cases same
          exact fun equal => newOperation (List.mem_map.mpr ⟨other, member, equal.symm⟩)
      · rcases Daml.Ledger.active_append active with before | ⟨_, rfl⟩
        · exact fresh.unbound other (List.mem_cons_of_mem _ member) contract payload before
        · exact fun equal => newHolding
            (List.mem_map.mpr ⟨other, member, (Option.some.inj equal).symm⟩)
  | createAttestationRecord attestation =>
      obtain ⟨_, _, _, rfl⟩ := create_ok returned
      refine ⟨fresh.operations, fresh.holdings, fun other member contract earlier known => ?_,
        fun other member contract payload active => ?_⟩
      · rcases Daml.Ledger.payload_append.mp known with before | ⟨_, same⟩
        · exact fresh.unused other member contract earlier before
        · cases same
      · rcases Daml.Ledger.active_append active with before | ⟨_, rfl⟩
        · exact fresh.unbound other member contract payload before
        · exact fun equal => by cases equal
  | exercise contract choice =>
      have step : Step context ledger (.exercise contract choice) after :=
        Command.perform_ok returned
      cases step with
      | @exercise _ _ source target actors held _ _ yields _ =>
          refine ⟨fresh.operations, fresh.holdings, fun other member second earlier known => ?_,
            fun other member second payload active => ?_⟩
          · rcases Daml.Ledger.payload_append.mp known with before | ⟨_, same⟩
            · exact fresh.unused other member second earlier before
            · exact absurd same (yields.not_intent earlier)
          · have stays : ((ledger.archive contract).append
                ⟨target, source.signatories ++ actors, context.time⟩).active second =
                  some payload := active
            rcases Daml.Ledger.active_append stays with before | ⟨_, rfl⟩
            · exact fresh.unbound other member second payload
                (Daml.Ledger.active_archive.mp before).2
            · exact fun binds =>
                fresh.unbound other member contract source held (yields.reserves binds)
  | archive contract =>
      have step : Step context ledger (.archive contract) after := Command.perform_ok returned
      cases step with
      | archive active signed =>
          refine ⟨fresh.operations, fresh.holdings, fresh.unused, ?_⟩
          intro other member second payload alive
          exact fresh.unbound other member second payload (Daml.Ledger.active_archive.mp alive).2

theorem Distinct.performAll {commands : List (Command Party)} (distinct : Distinct ledger)
    (fresh : Fresh ledger commands)
    (performed : Daml.performAll Command.perform context commands ledger = .ok after) :
    Distinct after := by
  induction commands generalizing ledger with
  | nil =>
      cases performed
      exact distinct
  | cons command rest ih =>
      obtain ⟨⟨result, middle⟩, first, performed⟩ := Atomic.ok_of_bind performed
      exact ih (distinct.perform fresh first) (fresh.later first) performed

/-- Every submission of the run is fresh. -/
def FreshRun (run : List (Submission Party (Command Party))) : Prop :=
  (Interop.ledger Party).Throughout (fun ledger submission => Fresh ledger submission.commands) run
    Daml.Ledger.empty

theorem Distinct.run {run : List (Submission Party (Command Party))} (distinct : Distinct ledger)
    (fresh : (Interop.ledger Party).Throughout
      (fun ledger submission => Fresh ledger submission.commands) run ledger) :
    Distinct ((Interop.ledger Party).run run ledger) := by
  induction run generalizing ledger with
  | nil => exact distinct
  | cons submission rest ih =>
      obtain ⟨now, later⟩ := fresh
      refine ih ?_ later
      cases performed : Daml.performAll Command.perform ⟨submission.actAs, submission.time⟩
          submission.commands ledger with
      | error error =>
          simp only [Atomic.Machine.next, submissions, Atomic.commit, performed, Except.map]
          exact distinct
      | ok next =>
          simp only [Atomic.Machine.next, submissions, Atomic.commit, performed, Except.map]
          exact distinct.performAll now performed

end Intents

/-- **One lock and one release for each operation.** In every run whose intents are for new
operations and for holdings that nothing binds, no two live locked assets are for one operation or
one holding, and an operation has one released asset at most. -/
theorem locks_unique {Party : Type} [DecidableEq Party]
    {run : List (Submission Party (Command Party))} (fresh : FreshRun run) :
    let reached := (ledger Party).run run Daml.Ledger.empty
    (∀ first second locked other, reached.active first = some (.lockedAsset locked) →
      reached.active second = some (.lockedAsset other) →
      locked.operationId = other.operationId ∨ locked.holding = other.holding →
      first = second) ∧
    ∀ first second released other, reached.payload first = some (.releasedAsset released) →
      reached.payload second = some (.releasedAsset other) →
      released.operationId = other.operationId → first = second := by
  intro reached
  have lineages : Lineages Payload.Submitted reached := Lineages.empty.run run
  have distinct : Distinct reached := Distinct.empty.run fresh
  -- Two contracts for one operation descend from one intent, and one of them was not consumed.
  have alone : ∀ first second payload another asset other,
      reached.payload first = some payload → reached.payload second = some another →
      payload.bridged = some asset → another.bridged = some other →
      Unexercised reached first → Unexercised reached second →
      asset.operationId = other.operationId → first = second := by
    intro first second payload another asset other known found stands bears ends stops same
    obtain ⟨origin, intent, begun, rfl, here⟩ :=
      lineages.origin (fun _ direct _ => direct) known stands
    obtain ⟨source, second_intent, started, rfl, there⟩ :=
      lineages.origin (fun _ direct _ => direct) found bears
    obtain rfl := distinct.operations origin source intent second_intent begun started same
    exact Descends.unique lineages.consuming here there ends stops
  constructor
  · rintro first second locked other active alive (operation | holding)
    · exact alone first second _ _ _ _ (Daml.Ledger.payload_of_active active)
        (Daml.Ledger.payload_of_active alive) rfl rfl (lineages.consuming.unexercised active)
        (lineages.consuming.unexercised alive) operation
    · exact distinct.holdings first second _ _ _ active alive rfl (congrArg some holding.symm)
  · intro first second released other known found same
    exact alone first second _ _ _ _ known found rfl rfl (lineages.released_unexercised known)
      (lineages.released_unexercised found) same

namespace SecondIntent

open SelfAttested

/-- An intent for another operation and another holding. -/
def another : BridgeIntent String :=
  { intent with operationId := "op-2", holding := ⟨.cip0056, "instrument", "holding-2"⟩ }

/-- Owner and operator sign two intents, and the owner locks both. -/
def locking (first second : BridgeIntent String) : List (Submission String (Command String)) :=
  [⟨["Alice", "Operator"], 1, [.createBridgeIntent first, .createBridgeIntent second]⟩,
    ⟨["Alice"], 2, [.exercise 0 .lock, .exercise 1 .lock]⟩]

theorem locking_fresh : FreshRun (locking intent another) := by
  refine ⟨⟨by decide, by decide, ?_, ?_⟩, ⟨by decide, by decide, ?_, ?_⟩, trivial⟩
  · intro intent _ contract earlier known
    cases known
  · intro intent _ contract payload active
    cases active
  · intro intent member
    cases member
  · intro intent member
    cases member

/-- Two intents for different operations and holdings are locked apart. -/
theorem locks_unique_two :
    let reached := (ledger String).run (locking intent another) Daml.Ledger.empty
    reached.active 2 = some (.lockedAsset (intent.locked 2)) ∧
      ∀ second locked, reached.active second = some (.lockedAsset locked) →
        locked.operationId = "op-1" → second = 2 := by
  intro reached
  have held : reached.active 2 = some (.lockedAsset (intent.locked 2)) := by decide +kernel
  refine ⟨held, fun second locked active same => ?_⟩
  exact (locks_unique locking_fresh).1 second 2 locked (intent.locked 2) active held (.inl same)

/-- **A holding backs two locks.** A second intent for the same operation and holding is locked
beside the first. -/
theorem locked_twice :
    ¬ ∀ (run : List (Submission String (Command String))) (first second : ContractId)
      (locked other : LockedAsset String),
      ((ledger String).run run Daml.Ledger.empty).active first = some (.lockedAsset locked) →
      ((ledger String).run run Daml.Ledger.empty).active second = some (.lockedAsset other) →
      locked.operationId = other.operationId ∨ locked.holding = other.holding →
      first = second := by
  intro claim
  have same := claim (locking intent intent) 2 3 (intent.locked 2) (intent.locked 2)
    (by decide +kernel) (by decide +kernel) (.inl rfl)
  cases same

end SecondIntent
end InterWeave.Interop
