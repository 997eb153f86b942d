import InterWeave.Atomic.Machine
import Mathlib.Data.List.Basic

/-! # Ledgers of signed contracts

Contracts are created under the authority of their signatories and archived by the
choices of their controllers. A choice runs under the authority of its controllers and
of the signatories of its contract, so that a party who has signed a contract agrees to
what its choices create. All its signatories together may also archive a contract without a
choice. The ledger keeps every contract that was created, every choice that was exercised and
every contract that was archived without one, with the authority it had.
-/

namespace Daml

abbrev ContractId := Nat

/-- Microseconds since the epoch. -/
abbrev Time := Int

inductive Error where
  | assertionFailed (message : String)
  | contractNotActive (contract : ContractId)
  | wrongTemplate
  | authorizationMissing
  | preconditionFailed
  deriving DecidableEq, Repr

/-- Who signs and who observes a contract, and what its fields must satisfy. -/
structure Templates (Party Payload : Type) where
  signatories : Payload → List Party
  observers : Payload → List Party
  ensures : Payload → Bool

structure Created (Party Payload : Type) where
  payload : Payload
  authorizers : List Party
  time : Time

structure Exercised (Party Choice : Type) where
  contract : ContractId
  choice : Choice
  authorizers : List Party
  time : Time
  result : ContractId

/-- A contract archived without a choice of its template. -/
structure Archival (Party : Type) where
  contract : ContractId
  authorizers : List Party
  time : Time

/-- The contract with identifier `n` is the one created after `n` others. -/
structure Ledger (Party Payload Choice : Type) where
  created : List (Created Party Payload)
  archived : List ContractId
  exercised : List (Exercised Party Choice)
  archivals : List (Archival Party)

variable {Party Payload Choice α β : Type}

namespace Ledger

def empty : Ledger Party Payload Choice := ⟨[], [], [], []⟩

/-- A contract, archived or not. -/
def payload (ledger : Ledger Party Payload Choice) (contract : ContractId) : Option Payload :=
  ledger.created[contract]?.map Created.payload

def active (ledger : Ledger Party Payload Choice) (contract : ContractId) : Option Payload :=
  if contract ∈ ledger.archived then none else ledger.payload contract

def archive (ledger : Ledger Party Payload Choice) (contract : ContractId) :
    Ledger Party Payload Choice :=
  { ledger with archived := contract :: ledger.archived }

def append (ledger : Ledger Party Payload Choice) (created : Created Party Payload) :
    Ledger Party Payload Choice :=
  { ledger with created := ledger.created ++ [created] }

def record (ledger : Ledger Party Payload Choice) (exercised : Exercised Party Choice) :
    Ledger Party Payload Choice :=
  { ledger with exercised := exercised :: ledger.exercised }

def withdraw (ledger : Ledger Party Payload Choice) (archival : Archival Party) :
    Ledger Party Payload Choice :=
  { ledger.archive archival.contract with archivals := archival :: ledger.archivals }

variable {ledger : Ledger Party Payload Choice} {contract : ContractId} {payload : Payload}
  {created : Created Party Payload}

theorem payload_of_active (active : ledger.active contract = some payload) :
    ledger.payload contract = some payload := by
  unfold Ledger.active at active
  split at active
  · cases active
  · exact active

theorem unarchived_of_active (active : ledger.active contract = some payload) :
    contract ∉ ledger.archived := by
  intro archived
  simp only [Ledger.active, archived, ↓reduceIte, reduceCtorEq] at active

theorem lt_of_payload (known : ledger.payload contract = some payload) :
    contract < ledger.created.length := by
  obtain ⟨created, found, _⟩ := Option.map_eq_some_iff.mp known
  exact (List.getElem?_eq_some_iff.mp found).1

/-- A contract of a longer ledger is an earlier one or the one just created. -/
theorem payload_append : (ledger.append created).payload contract = some payload ↔
    ledger.payload contract = some payload ∨
      contract = ledger.created.length ∧ created.payload = payload := by
  unfold Ledger.payload append
  rcases Nat.lt_trichotomy contract ledger.created.length with earlier | rfl | later
  · rw [List.getElem?_append_left earlier]
    exact ⟨.inl, fun known => known.resolve_right fun here => Nat.ne_of_lt earlier here.1⟩
  · rw [List.getElem?_concat_length, List.getElem?_eq_none (Nat.le_refl _)]
    simp only [Option.map_some, Option.some.injEq, Option.map_none, reduceCtorEq, true_and,
      false_or]
  · have beyond : (ledger.created ++ [created]).length ≤ contract := by
      rw [List.length_append, List.length_singleton]
      exact later
    rw [List.getElem?_eq_none beyond, List.getElem?_eq_none (Nat.le_of_lt later)]
    simp only [Option.map_none, reduceCtorEq, false_or, false_iff]
    exact fun here => Nat.ne_of_gt later here.1

/-- An active contract of a longer ledger was active or was just created. -/
theorem active_append (active : (ledger.append created).active contract = some payload) :
    ledger.active contract = some payload ∨
      contract = ledger.created.length ∧ created.payload = payload := by
  unfold Ledger.active at active ⊢
  split at active
  · cases active
  · rename_i unarchived
    have kept : contract ∉ ledger.archived := unarchived
    rw [if_neg kept]
    exact payload_append.mp active

/-- An active contract stays active when the ledger grows. -/
theorem active_append_of_active (active : ledger.active contract = some payload)
    (created : Created Party Payload) : (ledger.append created).active contract = some payload := by
  have known : (ledger.append created).payload contract = some payload :=
    payload_append.mpr (.inl (payload_of_active active))
  unfold Ledger.active at active ⊢
  split at active
  · cases active
  · rename_i unarchived
    have kept : contract ∉ (ledger.append created).archived := unarchived
    rw [if_neg kept]
    exact known

/-- An active contract stays active when others are archived. -/
theorem active_archive {archived : ContractId} :
    (ledger.archive archived).active contract = some payload ↔
      contract ≠ archived ∧ ledger.active contract = some payload := by
  unfold Ledger.active
  by_cases before : contract ∈ ledger.archived
  · simp only [archive, before, List.mem_cons, or_true, ↓reduceIte, reduceCtorEq, and_false]
  · by_cases same : contract = archived
    · simp only [archive, same, List.mem_cons, true_or, ↓reduceIte, reduceCtorEq, ne_eq,
        not_true_eq_false, false_and]
    · simp only [archive, before, same, List.mem_cons, or_self, ↓reduceIte, ne_eq,
        not_false_eq_true, true_and]
      rfl

end Ledger

/-! ## Updates -/

/-- The authority under which an update runs, and the time of its transaction. -/
structure Context (Party : Type) where
  authorizers : List Party
  time : Time

def Update (Party Payload Choice α : Type) : Type :=
  Context Party → Ledger Party Payload Choice → Except Error (α × Ledger Party Payload Choice)

namespace Update

instance : Monad (Update Party Payload Choice) where
  pure value _ ledger := .ok (value, ledger)
  bind first next context ledger := do
    let (value, middle) ← first context ledger
    next value context middle

variable {context : Context Party} {ledger after : Ledger Party Payload Choice}

theorem ok_of_bind {first : Update Party Payload Choice α}
    {next : α → Update Party Payload Choice β} {value : β}
    (returned : (first >>= next) context ledger = .ok (value, after)) :
    ∃ found middle, first context ledger = .ok (found, middle) ∧
      next found context middle = .ok (value, after) := by
  obtain ⟨⟨found, middle⟩, performed, returned⟩ := Atomic.ok_of_bind returned
  exact ⟨found, middle, performed, returned⟩

def fail (error : Error) : Update Party Payload Choice α := fun _ _ => .error error

def getTime : Update Party Payload Choice Time := fun context ledger => .ok (context.time, ledger)

def assertMsg (message : String) (condition : Bool) : Update Party Payload Choice Unit :=
  if condition then pure () else fail (.assertionFailed message)

theorem ok_of_getTime {next : Time → Update Party Payload Choice α} {value : α}
    (returned : (getTime >>= next) context ledger = .ok (value, after)) :
    next context.time context ledger = .ok (value, after) := returned

theorem ok_of_assertMsg {message : String} {condition : Bool}
    {next : Unit → Update Party Payload Choice α} {value : α}
    (returned : (assertMsg message condition >>= next) context ledger = .ok (value, after)) :
    condition = true ∧ next () context ledger = .ok (value, after) := by
  cases condition with
  | true => exact ⟨rfl, returned⟩
  | false => cases returned

variable [DecidableEq Party] (templates : Templates Party Payload)

/-- Create a contract under the authority of all its signatories. -/
def create (payload : Payload) : Update Party Payload Choice ContractId := fun context ledger =>
  if !templates.ensures payload then .error .preconditionFailed
  else if ∀ party ∈ templates.signatories payload, party ∈ context.authorizers then
    .ok (ledger.created.length, ledger.append ⟨payload, context.authorizers, context.time⟩)
  else .error .authorizationMissing

/-- Fetch an active contract under the authority of one of its stakeholders. -/
def fetch (contract : ContractId) : Update Party Payload Choice Payload := fun context ledger =>
  match ledger.active contract with
  | none => .error (.contractNotActive contract)
  | some payload =>
      if ∃ party ∈ templates.signatories payload ++ templates.observers payload,
        party ∈ context.authorizers then .ok (payload, ledger)
      else .error .authorizationMissing

/-- Exercise a consuming choice. The contract is archived before the choice runs. -/
def exercise (controllers : Payload → Choice → Option (List Party))
    (body : Payload → Choice → Update Party Payload Choice ContractId) (contract : ContractId)
    (choice : Choice) : Update Party Payload Choice ContractId := fun context ledger =>
  match ledger.active contract with
  | none => .error (.contractNotActive contract)
  | some payload =>
      match controllers payload choice with
      | none => .error .wrongTemplate
      | some actors =>
          if ∀ party ∈ actors, party ∈ context.authorizers then do
            let (result, after) ← body payload choice
              ⟨templates.signatories payload ++ actors, context.time⟩ (ledger.archive contract)
            return (result, after.record
              ⟨contract, choice, context.authorizers, context.time, result⟩)
          else .error .authorizationMissing

/-- Archive a contract under the authority of all its signatories: the choice `Archive` that
every template has. -/
def archive (contract : ContractId) : Update Party Payload Choice Unit := fun context ledger =>
  match ledger.active contract with
  | none => .error (.contractNotActive contract)
  | some payload =>
      if ∀ party ∈ templates.signatories payload, party ∈ context.authorizers then
        .ok ((), ledger.withdraw ⟨contract, context.authorizers, context.time⟩)
      else .error .authorizationMissing

/-! ### Updates that succeed -/

omit [DecidableEq Party] in
theorem bind_of {first : Update Party Payload Choice α} {next : α → Update Party Payload Choice β}
    {found : α} {middle : Ledger Party Payload Choice} {value : β}
    (performed : first context ledger = .ok (found, middle))
    (returned : next found context middle = .ok (value, after)) :
    (first >>= next) context ledger = .ok (value, after) := by
  change (first context ledger >>= fun answer => next answer.1 context answer.2) = _
  rw [performed]
  exact returned

omit [DecidableEq Party] in
theorem bind_of_getTime {next : Time → Update Party Payload Choice α} {value : α}
    (returned : next context.time context ledger = .ok (value, after)) :
    (getTime >>= next) context ledger = .ok (value, after) := returned

omit [DecidableEq Party] in
theorem bind_of_assertMsg {message : String} {condition : Bool}
    {next : Unit → Update Party Payload Choice α} {value : α} (met : condition = true)
    (returned : next () context ledger = .ok (value, after)) :
    (assertMsg message condition >>= next) context ledger = .ok (value, after) := by
  rw [met]
  exact returned

variable {templates} in
theorem create_of {payload : Payload} (ensured : templates.ensures payload = true)
    (authorized : ∀ party ∈ templates.signatories payload, party ∈ context.authorizers) :
    create templates payload context ledger =
      .ok (ledger.created.length, ledger.append ⟨payload, context.authorizers, context.time⟩) := by
  simp only [create, ensured, Bool.not_true, Bool.false_eq_true, ↓reduceIte, if_pos authorized]

variable {templates} in
theorem fetch_of {payload : Payload} {contract : ContractId} {party : Party}
    (active : ledger.active contract = some payload)
    (stakeholder : party ∈ templates.signatories payload ++ templates.observers payload)
    (present : party ∈ context.authorizers) :
    fetch templates contract context ledger = .ok (payload, ledger) := by
  unfold fetch
  rw [active]
  exact if_pos ⟨party, stakeholder, present⟩

variable {templates} in
theorem exercise_of {controllers : Payload → Choice → Option (List Party)}
    {body : Payload → Choice → Update Party Payload Choice ContractId} {contract : ContractId}
    {choice : Choice} {payload : Payload} {actors : List Party} {result : ContractId}
    (active : ledger.active contract = some payload)
    (controlled : controllers payload choice = some actors)
    (permitted : ∀ party ∈ actors, party ∈ context.authorizers)
    (performed : body payload choice ⟨templates.signatories payload ++ actors, context.time⟩
      (ledger.archive contract) = .ok (result, after)) :
    exercise templates controllers body contract choice context ledger =
      .ok (result, after.record ⟨contract, choice, context.authorizers, context.time, result⟩) := by
  unfold exercise
  rw [active]
  dsimp only
  rw [controlled]
  dsimp only
  rw [if_pos permitted, performed]
  rfl

/-! ### What successful updates have done -/

variable {templates} {payload : Payload} {contract result : ContractId} {choice : Choice}

theorem create_ok
    (returned : create templates payload context ledger = .ok (result, after)) :
    result = ledger.created.length ∧ templates.ensures payload = true ∧
      (∀ party ∈ templates.signatories payload, party ∈ context.authorizers) ∧
      after = ledger.append ⟨payload, context.authorizers, context.time⟩ := by
  unfold create at returned
  split at returned
  · cases returned
  · rename_i ensured
    split at returned
    · rename_i authorized
      cases returned
      exact ⟨rfl, by simpa using ensured, authorized, rfl⟩
    · cases returned

theorem fetch_ok (returned : fetch templates contract context ledger = .ok (payload, after)) :
    ledger.active contract = some payload ∧ after = ledger ∧
      ∃ party ∈ templates.signatories payload ++ templates.observers payload,
        party ∈ context.authorizers := by
  unfold fetch at returned
  split at returned
  · cases returned
  · rename_i found active
    split at returned
    · rename_i stakeholder
      cases returned
      exact ⟨active, rfl, stakeholder⟩
    · cases returned

theorem exercise_ok {controllers : Payload → Choice → Option (List Party)}
    {body : Payload → Choice → Update Party Payload Choice ContractId}
    (returned : exercise templates controllers body contract choice context ledger =
      .ok (result, after)) :
    ∃ payload actors middle, ledger.active contract = some payload ∧
      controllers payload choice = some actors ∧ (∀ party ∈ actors, party ∈ context.authorizers) ∧
      body payload choice ⟨templates.signatories payload ++ actors, context.time⟩
        (ledger.archive contract) = .ok (result, middle) ∧
      after = middle.record ⟨contract, choice, context.authorizers, context.time, result⟩ := by
  unfold exercise at returned
  split at returned
  · cases returned
  · rename_i payload active
    split at returned
    · cases returned
    · rename_i actors controlled
      split at returned
      · rename_i authorized
        obtain ⟨⟨inner, middle⟩, performed, returned⟩ := Atomic.ok_of_bind returned
        cases returned
        exact ⟨payload, actors, middle, active, controlled, authorized, performed, rfl⟩
      · cases returned

theorem archive_ok {answer : Unit}
    (returned : archive templates contract context ledger = .ok (answer, after)) :
    ∃ payload, ledger.active contract = some payload ∧
      (∀ party ∈ templates.signatories payload, party ∈ context.authorizers) ∧
      after = ledger.withdraw ⟨contract, context.authorizers, context.time⟩ := by
  unfold archive at returned
  split at returned
  · cases returned
  · rename_i payload active
    split at returned
    · rename_i authorized
      cases returned
      exact ⟨payload, active, authorized, rfl⟩
    · cases returned

end Update

/-! ## Submissions -/

/-- Commands that parties submit together, as one transaction. -/
structure Submission (Party Command : Type) where
  actAs : List Party
  time : Time
  commands : List Command

variable {Command : Type} (perform : Command → Update Party Payload Choice ContractId)

/-- The ledger after the commands of a transaction. -/
def performAll (context : Context Party) :
    List Command → Ledger Party Payload Choice → Except Error (Ledger Party Payload Choice)
  | [], ledger => .ok ledger
  | command :: rest, ledger => do
      let (_, next) ← perform command context ledger
      performAll context rest next

/-- The submission with its commands in another language. -/
def Submission.map {Command Other : Type} (translate : Command → Other)
    (submission : Submission Party Command) : Submission Party Other :=
  ⟨submission.actAs, submission.time, submission.commands.map translate⟩

/-- The ledger as a machine. A rejected submission leaves it as it was. -/
def submissions : Atomic.Machine (Ledger Party Payload Choice) (Submission Party Command)
    (Except Error Unit) where
  execute submission ledger :=
    Atomic.commit (fun ledger =>
      (performAll perform ⟨submission.actAs, submission.time⟩ submission.commands ledger).map
        fun next => ((), next)) ledger

/-! ### Commands in another language -/

section Translation

variable {Other : Type} (translate : Other → Command)

theorem performAll_map (context : Context Party) (commands : List Other)
    (ledger : Ledger Party Payload Choice) :
    performAll perform context (commands.map translate) ledger =
      performAll (fun command => perform (translate command)) context commands ledger := by
  induction commands generalizing ledger with
  | nil => rfl
  | cons command rest ih =>
      unfold performAll
      exact bind_congr fun answer => ih answer.2

theorem submissions_next_map (submission : Submission Party Other)
    (ledger : Ledger Party Payload Choice) :
    (submissions perform).next (submission.map translate) ledger =
      (submissions fun command => perform (translate command)).next submission ledger := by
  simp only [Atomic.Machine.next, submissions, Submission.map, performAll_map]

/-- A run of the one language is a run of the other. -/
theorem submissions_run_map (run : List (Submission Party Other))
    (ledger : Ledger Party Payload Choice) :
    (submissions perform).run (run.map (Submission.map translate)) ledger =
      (submissions fun command => perform (translate command)).run run ledger := by
  induction run generalizing ledger with
  | nil => rfl
  | cons submission rest ih =>
      rw [List.map_cons, Atomic.Machine.run_cons, Atomic.Machine.run_cons, submissions_next_map, ih]

end Translation

variable {perform} {holds : Ledger Party Payload Choice → Prop}

/-- A submission of one command that succeeds. -/
theorem submissions_next {command : Command} {actAs : List Party} {time : Time}
    {ledger next : Ledger Party Payload Choice} {result : ContractId}
    (performed : perform command ⟨actAs, time⟩ ledger = .ok (result, next)) :
    (submissions perform).next ⟨actAs, time, [command]⟩ ledger = next := by
  have all : performAll perform ⟨actAs, time⟩ [command] ledger = .ok next := by
    unfold performAll
    rw [performed]
    rfl
  simp only [Atomic.Machine.next, submissions, Atomic.commit, all, Except.map]

/-- A submission leaves the ledger as it was, or executes its commands one after another. -/
theorem submission_advances {submission : Submission Party Command}
    (holds : List Command → Ledger Party Payload Choice → Prop)
    (commands : ∀ command rest ledger result next, holds (command :: rest) ledger →
      perform command ⟨submission.actAs, submission.time⟩ ledger = .ok (result, next) →
      holds rest next)
    {ledger : Ledger Party Payload Choice} (valid : holds submission.commands ledger) :
    (submissions perform).next submission ledger = ledger ∨
      holds [] ((submissions perform).next submission ledger) := by
  have transaction : ∀ list ledger next, holds list ledger →
      performAll perform ⟨submission.actAs, submission.time⟩ list ledger = .ok next →
      holds [] next := by
    intro list
    induction list with
    | nil =>
        intro ledger next valid performed
        cases performed
        exact valid
    | cons command rest ih =>
        intro ledger next valid performed
        obtain ⟨⟨result, middle⟩, first, performed⟩ := Atomic.ok_of_bind performed
        exact ih middle next (commands command rest ledger result middle valid first) performed
  cases performed : performAll perform ⟨submission.actAs, submission.time⟩ submission.commands
      ledger with
  | error error =>
      left
      simp only [Atomic.Machine.next, submissions, Atomic.commit, performed, Except.map]
  | ok next =>
      right
      simp only [Atomic.Machine.next, submissions, Atomic.commit, performed, Except.map]
      exact transaction _ _ _ valid performed

/-- What the commands of a submission preserve, the submission preserves. -/
theorem submission_preserves_of_mem {submission : Submission Party Command}
    (commands : ∀ command ∈ submission.commands, ∀ ledger result next, holds ledger →
      perform command ⟨submission.actAs, submission.time⟩ ledger = .ok (result, next) → holds next)
    {ledger : Ledger Party Payload Choice} (valid : holds ledger) :
    holds ((submissions perform).next submission ledger) := by
  have advances : ∀ command rest ledger result next,
      ((∀ other ∈ command :: rest, other ∈ submission.commands) ∧ holds ledger) →
      perform command ⟨submission.actAs, submission.time⟩ ledger = .ok (result, next) →
      (∀ other ∈ rest, other ∈ submission.commands) ∧ holds next := by
    intro command rest ledger result next holding performed
    obtain ⟨here, later⟩ := List.forall_mem_cons.mp holding.1
    exact ⟨later, commands command here ledger result next holding.2 performed⟩
  rcases submission_advances (fun rest ledger => (∀ other ∈ rest, other ∈ submission.commands) ∧
      holds ledger) advances ⟨fun _ member => member, valid⟩ with same | accepted
  · rwa [same]
  · exact accepted.2

/-- What every command of a submission preserves, the submission preserves. -/
theorem submission_preserves {submission : Submission Party Command}
    (commands : ∀ command ledger result next, holds ledger →
      perform command ⟨submission.actAs, submission.time⟩ ledger = .ok (result, next) → holds next)
    {ledger : Ledger Party Payload Choice} (valid : holds ledger) :
    holds ((submissions perform).next submission ledger) :=
  submission_preserves_of_mem (fun command _ => commands command) valid

/-- What every command preserves, every submission preserves. -/
theorem submissions_preserves
    (commands : ∀ command context ledger result next, holds ledger →
      perform command context ledger = .ok (result, next) → holds next) :
    (submissions perform).Preserves holds := by
  intro submission ledger valid
  exact submission_preserves (fun command ledger result next => commands command _ ledger result next)
    valid

end Daml
