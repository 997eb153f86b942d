import InterWeave.Idempotency.BoundKeys

/-! # Holders of a claim

A client whose claim returned CLAIMED holds the write until its own `complete` or `fail` arrives.
A call that finishes a claim names the key and the request, not the claim, so one that arrives
late, or a second time, may finish the claim of another holder.
-/

namespace InterWeave

variable {Response : Type}

/-- The records, what the claims that returned CLAIMED were given, oldest first, and the holders of
which a finishing call has arrived. -/
structure ClaimHolders (Response : Type) where
  records : IdempotencyRecords Response
  holders : List (IdempotencyRecord Response)
  finished : List Nat

/-- A claim, or the arrival of `complete` or `fail` of a holder. -/
inductive HolderCommand (Response : Type) where
  | claim (request : IdempotencyRequest)
  | finish (holder : Nat) (patch : IdempotencyPatch Response)

/-- Patching a record that runs changes its status. -/
theorem IdempotencyRecord.patched_ne {record : IdempotencyRecord Response}
    (unfailed : record.status ≠ .failed) (running : record.status ≠ .completed)
    (patch : IdempotencyPatch Response) : record.patched patch ≠ record := by
  intro same
  cases patch with
  | completed response updatedAt =>
      exact running (congrArg IdempotencyRecord.status same).symm
  | failed errorCode updatedAt =>
      exact unfailed (congrArg IdempotencyRecord.status same).symm

namespace ClaimHolders

def empty : ClaimHolders Response := ⟨.empty, [], []⟩

/-- The clients of the store. What a holder finishes is what its claim returned. -/
def clients : Atomic.Machine (ClaimHolders Response) (HolderCommand Response)
    (Option (IdempotencyResult Response)) where
  execute
    | .claim request, state =>
        let claimed := state.records.claim request.record
        (some (.claimed claimed.1), {
          state with
          records := claimed.2
          holders :=
            if claimed.1.outcome = .claimed then state.holders ++ [claimed.1.record]
            else state.holders })
    | .finish holder patch, state =>
        match state.holders[holder]? with
        | none => (none, state)
        | some record =>
            let finished :=
              state.records.finish record.scope record.key record.requestHash (.ok patch)
            (some (.finished finished.1),
              { state with records := finished.2, finished := holder :: state.finished })

/-- A client holds the write of a key. -/
def Holds (state : ClaimHolders Response) (holder : Nat) (scope key : JsString) : Prop :=
  (∃ record, state.holders[holder]? = some record ∧ record.scope = scope ∧ record.key = key) ∧
    holder ∉ state.finished

/-- While a client holds a write, no other claim gets it, and no earlier holder's call changes
its record. -/
def Exclusive (state : ClaimHolders Response) : HolderCommand Response → Prop
  | .claim request =>
      (∃ holder, state.Holds holder request.scope request.key) →
        (state.records.claim request.record).1.outcome ≠ .claimed
  | .finish earlier patch =>
      ∀ record holder, state.holders[earlier]? = some record → earlier < holder →
        state.Holds holder record.scope record.key →
        (clients.next (.finish earlier patch) state).records.find record.scope record.key =
          state.records.find record.scope record.key

/-- No call of an earlier holder arrives while a later one holds an uncompleted write. -/
def InOrder (state : ClaimHolders Response) : HolderCommand Response → Prop
  | .claim _ => True
  | .finish earlier _ =>
      ∀ record holder, state.holders[earlier]? = some record → earlier < holder →
        state.Holds holder record.scope record.key →
        ∃ stored, state.records.find record.scope record.key = some stored ∧
          stored.status = .completed

/-- The invariant of holders. -/
structure Sound (state : ClaimHolders Response) : Prop where
  known : ∀ (holder : Nat) record, state.holders[holder]? = some record →
    ∃ stored, state.records.find record.scope record.key = some stored ∧
      stored.requestHash = record.requestHash
  unfailed : ∀ holder scope key, state.Holds holder scope key →
    ∀ stored, state.records.find scope key = some stored → stored.status ≠ .failed
  latest : ∀ holder scope key, state.Holds holder scope key → ∀ (other : Nat) record,
    state.holders[other]? = some record → record.scope = scope → record.key = key →
    other ≤ holder

theorem Sound.empty : Sound (ClaimHolders.empty : ClaimHolders Response) where
  known holder record held := by cases held
  unfailed holder scope key holds := by
    obtain ⟨⟨record, held, _⟩, _⟩ := holds
    cases held
  latest holder scope key holds := by
    obtain ⟨⟨record, held, _⟩, _⟩ := holds
    cases held

variable {state : ClaimHolders Response}

/-- The record of a write that a client holds. -/
theorem Sound.held (sound : state.Sound) {holder : Nat} {scope key : JsString}
    (holds : state.Holds holder scope key) : ∃ stored,
      state.records.find scope key = some stored ∧ stored.status ≠ .failed := by
  obtain ⟨record, held, rfl, rfl⟩ := holds.1
  obtain ⟨stored, found, _⟩ := sound.known holder record held
  exact ⟨stored, found, sound.unfailed holder _ _ holds stored found⟩

/-- **One step.** While holders are sound, calls that arrive in order are the ones that leave the
holder alone. -/
theorem Sound.exclusive_iff (sound : state.Sound) (command : HolderCommand Response) :
    state.Exclusive command ↔ state.InOrder command := by
  cases command with
  | claim request =>
      refine ⟨fun _ => trivial, fun _ => ?_⟩
      rintro ⟨holder, holds⟩ claimed
      obtain ⟨stored, found, unfailed⟩ := sound.held holds
      rcases state.records.claim_cases request with ⟨refused, _⟩ | ⟨record, _, _, _, _, free⟩
      · exact refused claimed
      · exact unfailed (free stored found).1
  | finish earlier patch =>
      refine forall_congr' fun record => forall_congr' fun holder => forall_congr' fun held =>
        forall_congr' fun _ => forall_congr' fun holds => ?_
      obtain ⟨stored, found, unfailed⟩ := sound.held holds
      obtain ⟨other, same, hash⟩ := sound.known earlier record held
      cases found.symm.trans same
      have left : (clients.next (.finish earlier patch) state).records =
          (state.records.finish record.scope record.key record.requestHash (.ok patch)).2 := by
        simp only [Atomic.Machine.next, clients, held]
      rw [left]
      rcases state.records.finish_cases record.scope record.key record.requestHash patch with
        ⟨_, mismatch, _⟩ | ⟨there, present, _, ⟨completed, unchanged⟩ | ⟨running, written⟩⟩
      · exact absurd hash (mismatch stored found)
      · rw [unchanged]
        exact ⟨fun _ => ⟨there, present, completed⟩, fun _ => rfl⟩
      · cases found.symm.trans present
        have place : stored.scope = record.scope ∧ stored.key = record.key :=
          state.records.filed _ _ stored found
        have replaced : (state.records.put (stored.patched patch)).find record.scope record.key =
            some (stored.patched patch) := by
          refine IdempotencyRecords.find_put ?_
          cases patch <;> exact place
        rw [written, replaced, found]
        constructor
        · intro same
          exact absurd (Option.some.inj same) (IdempotencyRecord.patched_ne unfailed running patch)
        · rintro ⟨there, present, completed⟩
          cases present
          exact absurd completed running

/-- What a claim does to the holders. -/
theorem next_claim (state : ClaimHolders Response) (request : IdempotencyRequest) :
    clients.next (.claim request) state = state ∨
      ∃ record, record.scope = request.scope ∧ record.key = request.key ∧
        record.status = .inProgress ∧
        (∀ existing, state.records.find request.scope request.key = some existing →
          existing.status = .failed ∧ existing.requestHash = record.requestHash) ∧
        clients.next (.claim request) state =
          ⟨state.records.put record, state.holders ++ [record], state.finished⟩ := by
  rcases state.records.claim_cases request with
    ⟨refused, same⟩ | ⟨record, claimed, scope, key, status, free⟩
  · left
    simp only [Atomic.Machine.next, clients, refused, same, ↓reduceIte]
  · refine .inr ⟨record, scope, key, status, free, ?_⟩
    simp only [Atomic.Machine.next, clients, claimed, ↓reduceIte]

theorem held_append {holders : List (IdempotencyRecord Response)}
    {record other : IdempotencyRecord Response} {holder : Nat}
    (held : (holders ++ [record])[holder]? = some other) :
    holders[holder]? = some other ∨ holder = holders.length ∧ other = record := by
  rw [List.getElem?_append] at held
  split at held
  · exact .inl held
  · rename_i beyond
    obtain ⟨bound, same⟩ := List.getElem?_eq_some_iff.mp held
    rw [List.length_singleton, Nat.lt_one_iff] at bound
    rw [List.getElem_singleton] at same
    exact .inr ⟨by omega, same.symm⟩

/-- A claim that gets the write finds no holder of it. -/
theorem Sound.claimed (sound : state.Sound) {record : IdempotencyRecord Response}
    (running : record.status = .inProgress)
    (free : ∀ existing, state.records.find record.scope record.key = some existing →
      existing.status = .failed ∧ existing.requestHash = record.requestHash) :
    Sound ⟨state.records.put record, state.holders ++ [record], state.finished⟩ := by
  have unheld : ∀ holder, ¬state.Holds holder record.scope record.key := by
    intro holder holds
    obtain ⟨stored, found, unfailed⟩ := sound.held holds
    exact unfailed (free stored found).1
  have stored : (state.records.put record).find record.scope record.key = some record :=
    IdempotencyRecords.find_put ⟨rfl, rfl⟩
  constructor
  · intro holder other held
    by_cases own : record.scope = other.scope ∧ record.key = other.key
    · refine ⟨record, own.1 ▸ own.2 ▸ stored, ?_⟩
      rcases held_append held with earlier | ⟨_, rfl⟩
      · obtain ⟨existing, found, hash⟩ := sound.known holder other earlier
        rw [← own.1, ← own.2] at found
        rw [← hash, (free existing found).2]
      · rfl
    · rcases held_append held with earlier | ⟨_, rfl⟩
      · rw [IdempotencyRecords.find_put_of_ne own]
        exact sound.known holder other earlier
      · exact absurd ⟨rfl, rfl⟩ own
  · rintro holder scope key ⟨⟨other, held, rfl, rfl⟩, unfinished⟩ there found
    by_cases own : record.scope = other.scope ∧ record.key = other.key
    · rw [← own.1, ← own.2] at found
      cases stored.symm.trans found
      rw [running]
      exact fun same => by cases same
    · rw [IdempotencyRecords.find_put_of_ne own] at found
      rcases held_append held with earlier | ⟨_, rfl⟩
      · exact sound.unfailed holder _ _ ⟨⟨other, earlier, rfl, rfl⟩, unfinished⟩ there found
      · exact absurd ⟨rfl, rfl⟩ own
  · rintro holder scope key ⟨⟨mine, held, rfl, rfl⟩, unfinished⟩ rival other listed sameScope sameKey
    rcases held_append held with earlier | ⟨rfl, rfl⟩
    · rcases held_append listed with before | ⟨rfl, rfl⟩
      · exact sound.latest holder _ _ ⟨⟨mine, earlier, rfl, rfl⟩, unfinished⟩ rival other before
          sameScope sameKey
      · rw [sameScope, sameKey] at unheld
        exact absurd ⟨⟨mine, earlier, rfl, rfl⟩, unfinished⟩ (unheld holder)
    · have bound := (List.getElem?_eq_some_iff.mp listed).1
      rw [List.length_append, List.length_singleton] at bound
      omega

theorem Holds.of_finished {records : IdempotencyRecords Response} {earlier holder : Nat}
    {scope key : JsString}
    (holds : Holds ⟨records, state.holders, earlier :: state.finished⟩ holder scope key) :
    state.Holds holder scope key ∧ holder ≠ earlier := by
  obtain ⟨held, unfinished⟩ := holds
  rw [List.mem_cons, not_or] at unfinished
  exact ⟨⟨held, unfinished.2⟩, unfinished.1⟩

/-- A call that finishes a holder leaves the records or patches one. -/
theorem Sound.patched (sound : state.Sound) {earlier : Nat}
    {record existing : IdempotencyRecord Response} {patch : IdempotencyPatch Response}
    (held : state.holders[earlier]? = some record)
    (ordered : state.InOrder (.finish earlier patch))
    (found : state.records.find record.scope record.key = some existing)
    (running : existing.status ≠ .completed) :
    Sound ⟨state.records.put (existing.patched patch), state.holders,
      earlier :: state.finished⟩ := by
  have place : (existing.patched patch).scope = record.scope ∧
      (existing.patched patch).key = record.key := by
    cases patch <;> exact state.records.filed _ _ existing found
  have hash : (existing.patched patch).requestHash = existing.requestHash := by
    cases patch <;> rfl
  have stored : (state.records.put (existing.patched patch)).find record.scope record.key =
      some (existing.patched patch) := IdempotencyRecords.find_put place
  have elsewhere : ∀ {scope key}, ¬(record.scope = scope ∧ record.key = key) →
      (state.records.put (existing.patched patch)).find scope key =
        state.records.find scope key := by
    intro scope key other
    exact IdempotencyRecords.find_put_of_ne (by rwa [place.1, place.2])
  constructor
  · intro holder other listed
    obtain ⟨there, present, same⟩ := sound.known holder other listed
    by_cases own : record.scope = other.scope ∧ record.key = other.key
    · refine ⟨existing.patched patch, own.1 ▸ own.2 ▸ stored, ?_⟩
      rw [← own.1, ← own.2] at present
      cases found.symm.trans present
      rw [hash, same]
    · exact ⟨there, (elsewhere own).trans present, same⟩
  · intro holder scope key holds there present
    obtain ⟨holds, other⟩ := Holds.of_finished holds
    by_cases own : record.scope = scope ∧ record.key = key
    · obtain ⟨rfl, rfl⟩ := own
      have before := sound.latest holder _ _ holds earlier record held rfl rfl
      obtain ⟨completed, known, settled⟩ := ordered record holder held
        (Nat.lt_of_le_of_ne before (Ne.symm other)) holds
      cases found.symm.trans known
      exact absurd settled running
    · exact sound.unfailed holder scope key holds there ((elsewhere own).symm.trans present)
  · intro holder scope key holds
    exact sound.latest holder scope key (Holds.of_finished holds).1

/-- A call that arrives in order leaves the holders sound. -/
theorem Sound.next (sound : state.Sound) (command : HolderCommand Response)
    (ordered : state.InOrder command) : (clients.next command state).Sound := by
  cases command with
  | claim request =>
      rcases next_claim state request with same | ⟨record, scope, key, running, free, after⟩
      · rw [same]
        exact sound
      · rw [after]
        refine sound.claimed running ?_
        rw [scope, key]
        exact free
  | finish earlier patch =>
      cases held : state.holders[earlier]? with
      | none =>
          simp only [Atomic.Machine.next, clients, held]
          exact sound
      | some record =>
          simp only [Atomic.Machine.next, clients, held]
          have kept : Sound ⟨state.records, state.holders, earlier :: state.finished⟩ :=
            ⟨sound.known,
              fun holder scope key holds =>
                sound.unfailed holder scope key (Holds.of_finished holds).1,
              fun holder scope key holds =>
                sound.latest holder scope key (Holds.of_finished holds).1⟩
          rcases state.records.finish_cases record.scope record.key record.requestHash patch with
            ⟨_, _, fails⟩ | ⟨existing, found, _, ⟨_, unchanged⟩ | ⟨running, written⟩⟩
          · rw [fails]
            exact kept
          · rw [unchanged]
            exact kept
          · rw [written]
            exact sound.patched held ordered found running

/-- **Holders are alone exactly when their calls arrive in order.** In a run of clients whose
finishing calls arrive late or repeatedly, a client that holds a write is the only one, and no
call of an earlier holder changes its record, if and only if no such call arrives while it holds
an uncompleted write. -/
theorem exclusive_iff_inOrder (commands : List (HolderCommand Response)) :
    clients.Throughout Exclusive commands ClaimHolders.empty ↔
      clients.Throughout InOrder commands ClaimHolders.empty :=
  Atomic.Machine.throughout_congr (fun _ command sound => Sound.exclusive_iff sound command)
    (fun _ command sound ordered => Sound.next sound command ordered) commands .empty

end ClaimHolders

namespace LateFailure

open ClaimHolders

def request : IdempotencyRequest where
  scope := js "tenant-a:settlement"
  key := js "request-0002"
  requestHash := js "sha256:20"
  operationId := js "IW:BRIDGE:two"
  timestamp := js "2026-08-08T00:00:00.000Z"

def failure : IdempotencyPatch Unit :=
  .failed (js "TEMPORARY_UNAVAILABLE") (js "2026-08-08T00:00:01.000Z")

/-- The first client fails, the second one claims the write, and the failure of the first one
arrives again. -/
def commands : List (HolderCommand Unit) :=
  [.claim request, .finish 0 failure, .claim request, .finish 0 failure]

/-- **A third client gets a write that is held.** -/
theorem third_client_claims :
    ¬ ∀ commands : List (HolderCommand Unit),
      clients.Throughout Exclusive commands ClaimHolders.empty := by
  intro claim
  obtain ⟨_, _, _, _, exclusive, _⟩ := claim (commands ++ [.claim request])
  refine exclusive ⟨1, ?_⟩ (by decide)
  exact ⟨⟨_, rfl, rfl, rfl⟩, by decide⟩

end LateFailure
end InterWeave
