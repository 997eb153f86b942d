import InterWeave.Async.Protocol

/-! # Transcripts

The transcript of a program lists the calls it has made with the answers it received.
What a program may do after which transcript is a protocol whose local state is the
transcript itself, so the rules of protocols apply. No shared state occurs: the
answers are arbitrary.
-/

namespace Async

/-- A call and its answer. -/
structure Exchange (I : Interface) where
  call : I.Call
  answer : I.Answer call

variable {I : Interface} {Entry : Type} {α : Type}

/-- After a transcript, this is left of a program. -/
inductive Program.Reaches : Program I α → List (Exchange I) → Program I α → Prop where
  | refl (program : Program I α) : Reaches program [] program
  | answer {call : I.Call} {resume : I.Answer call → Program I α} (answer : I.Answer call)
      {exchanges : List (Exchange I)} {left : Program I α} :
      Reaches (resume answer) exchanges left →
      Reaches (.await call resume) (⟨call, answer⟩ :: exchanges) left

/-- After no exchange the whole program is left. -/
theorem Program.Reaches.eq_of_nil {program left : Program I α} (reaches : program.Reaches [] left) :
    left = program := by
  cases reaches with
  | refl => rfl

/-- A program that follows a protocol follows it after every possible transcript. -/
theorem Program.Reaches.follows {protocol : Protocol I Entry}
    {post : protocol.Local → Except I.Error α → Prop} {program left : Program I α}
    {here : protocol.Local} {exchanges : List (Exchange I)}
    (reaches : program.Reaches exchanges left) (follows : program.Follows protocol post here)
    (possible : ∀ exchange ∈ exchanges, protocol.possible exchange.call exchange.answer) :
    left.Follows protocol post
      (exchanges.foldl (fun there exchange => protocol.next there exchange.call exchange.answer)
        here) := by
  induction reaches generalizing here with
  | refl program => exact follows
  | answer answer _ ih =>
      rw [List.forall_mem_cons] at possible
      exact ih (follows.2 answer possible.1) possible.2

/-- The protocol of what may be called after which transcript. -/
abbrev transcriptProtocol (admits : List (Exchange I) → I.Call → Prop) : Protocol I Unit where
  Local := List (Exchange I)
  start _ := []
  next exchanges call answer := exchanges ++ [⟨call, answer⟩]
  possible _ _ := True
  allowed := admits
  settles _ := True

section Transcript

variable {admits : List (Exchange I) → I.Call → Prop}
  {post : List (Exchange I) → Except I.Error α → Prop} {program : Program I α}
  {exchanges : List (Exchange I)}

theorem foldl_append_exchange (earlier exchanges : List (Exchange I)) :
    exchanges.foldl (fun there exchange => there ++ [⟨exchange.call, exchange.answer⟩]) earlier =
      earlier ++ exchanges := by
  induction exchanges generalizing earlier with
  | nil => rw [List.foldl_nil, List.append_nil]
  | cons exchange rest ih => rw [List.foldl_cons, ih, List.append_assoc, List.singleton_append]

theorem Program.Follows.afterTranscript {left : Program I α}
    (follows : program.Follows (transcriptProtocol admits) post [])
    (reaches : program.Reaches exchanges left) :
    left.Follows (transcriptProtocol admits) post exchanges := by
  have reached := reaches.follows follows fun _ _ => trivial
  rwa [foldl_append_exchange, List.nil_append] at reached

/-- A call is made only after a transcript that admits it. -/
theorem Program.Follows.admits_of_reaches {call : I.Call} {resume : I.Answer call → Program I α}
    (follows : program.Follows (transcriptProtocol admits) post [])
    (reaches : program.Reaches exchanges (.await call resume)) : admits exchanges call :=
  (follows.afterTranscript reaches).1

/-- An outcome is reached only after a transcript that bears it out. -/
theorem Program.Follows.post_of_reaches {outcome : Except I.Error α}
    (follows : program.Follows (transcriptProtocol admits) post [])
    (reaches : program.Reaches exchanges (.settled outcome)) : post exchanges outcome :=
  follows.afterTranscript reaches

/-- What a program does adds to its transcript. -/
theorem Program.Follows.grows (follows : program.Follows (transcriptProtocol admits) post exchanges) :
    program.Follows (transcriptProtocol admits)
      (fun there outcome => exchanges <+: there ∧ post there outcome) exchanges := by
  suffices holds : ∀ earlier, earlier <+: exchanges → program.Follows (transcriptProtocol admits)
      (fun there outcome => earlier <+: there ∧ post there outcome) exchanges from
    holds exchanges (List.prefix_refl _)
  intro earlier starts
  induction program generalizing exchanges with
  | settled outcome => exact ⟨starts, follows⟩
  | await call resume ih =>
      exact ⟨follows.1, fun answer given => ih answer (follows.2 answer given)
        (starts.trans (List.prefix_append _ _))⟩

/-- From a transcript after which everything is admitted, a program may do anything. -/
theorem Program.follows_of_forall (program : Program I α) (exchanges : List (Exchange I))
    (all : ∀ there, exchanges <+: there → ∀ call, admits there call) :
    program.Follows (transcriptProtocol admits) (fun there _ => exchanges <+: there)
      exchanges := by
  suffices holds : ∀ there, exchanges <+: there →
      program.Follows (transcriptProtocol admits) (fun there _ => exchanges <+: there) there from
    holds exchanges (List.prefix_refl _)
  intro there starts
  induction program generalizing there with
  | settled outcome => exact starts
  | await call resume ih =>
      exact ⟨all there starts call, fun answer _ =>
        ih answer _ (starts.trans (List.prefix_append _ _))⟩

/-- A call leaves its exchange. -/
theorem Program.Follows.asked {call : I.Call} (admitted : admits exchanges call) :
    (Program.call call).Follows (transcriptProtocol admits)
      (fun there outcome => there = exchanges ++ [⟨call, outcome⟩]) exchanges :=
  ⟨admitted, fun _ _ => rfl⟩

end Transcript

/-! ## Transcripts in a pool -/

theorem Program.Reaches.snoc {program : Program I α} {exchanges : List (Exchange I)}
    {call : I.Call} {resume : I.Answer call → Program I α}
    (reaches : program.Reaches exchanges (.await call resume)) (answer : I.Answer call) :
    program.Reaches (exchanges ++ [⟨call, answer⟩]) (resume answer) := by
  generalize same : Program.await call resume = left at reaches
  induction reaches with
  | refl program =>
      subst same
      exact .answer answer (.refl _)
  | answer earlier _ ih => exact .answer earlier (ih same)

/-- The protocol that only records: the local state of a worker is the entry it runs and
its transcript, and it may do what its program does next. -/
abbrev recording (program : Entry → Program I α) : Protocol I Entry where
  Local := Entry × List (Exchange I)
  start entry := (entry, [])
  next here call answer := (here.1, here.2 ++ [⟨call, answer⟩])
  possible _ _ := True
  allowed here call := ∃ resume, (program here.1).Reaches here.2 (.await call resume)
  settles here := ∃ outcome, (program here.1).Reaches here.2 (.settled outcome)

variable {program : Entry → Program I α}

theorem Program.Reaches.follows_recording {entry : Entry} {exchanges : List (Exchange I)}
    {left : Program I α} (reaches : (program entry).Reaches exchanges left) :
    left.Follows (recording program) (fun there _ => (recording program).settles there)
      (entry, exchanges) := by
  induction left generalizing exchanges with
  | settled outcome => exact ⟨outcome, reaches⟩
  | await call resume ih =>
      exact ⟨⟨resume, reaches⟩, fun answer _ => ih answer (reaches.snoc answer)⟩

/-- Every program follows its own record. -/
theorem follows_recording (program : Entry → Program I α) (entry : Entry) :
    (program entry).Follows (recording program)
      (fun there _ => (recording program).settles there) ((recording program).start entry) :=
  Program.Reaches.follows_recording (.refl _)

section Pools

variable {services : Services I} {Worker : Type} [DecidableEq Worker]
  {admits : View services Worker Entry → Event I Worker Entry → Prop}
  {initial : View services Worker Entry} {config : Config services Worker Entry α}

/-- The entry that a worker runs and its transcript so far, read off the history. -/
abbrev transcriptOf (program : Entry → Program I α) (worker : Worker)
    (history : List (Event I Worker Entry)) : Option (Entry × List (Exchange I)) :=
  (recording program).localOf worker history

/-- How the status of a worker agrees with its transcript. -/
def Tracks (program : Entry → Program I α) (worker : Worker)
    (history : List (Event I Worker Entry)) : Status I α → Prop
  | .idle => transcriptOf program worker history = none
  | .running left => ∃ here, transcriptOf program worker history = some here ∧
      (program here.1).Reaches here.2 left
  | .waiting call resume => ∃ here, transcriptOf program worker history = some here ∧
      (program here.1).Reaches here.2 (.await call resume)
  | .crashed => transcriptOf program worker history = none

/-- The steps of others do not touch the transcript of a worker. -/
theorem Tracks.frame {worker : Worker} {event : Event I Worker Entry}
    {earlier : List (Event I Worker Entry)} {status : Status I α} (other : event.worker ≠ worker)
    (tracks : Tracks program worker earlier status) :
    Tracks program worker (event :: earlier) status := by
  cases status <;>
    simpa only [Tracks, transcriptOf, Protocol.localOf_cons_of_ne other] using tracks

theorem Tracks.move {action : Action services Worker Entry} {move : Move services Worker Entry α}
    (tracks : ∀ worker, Tracks program worker config.history (config.workers worker))
    (moved : config.move program action = some move) :
    Tracks program move.event.worker (move.event :: config.history) move.status := by
  cases Config.moves_of_move moved with
  | start _ => exact ⟨(_, []), Protocol.localOf_started_self .., .refl _⟩
  | @issue worker call resume status =>
      have here := tracks worker
      rw [status] at here
      obtain ⟨there, known, reaches⟩ := here
      exact ⟨there, (Protocol.localOf_issued ..).trans known, reaches⟩
  | @answer worker call resume choice answer state status _ =>
      have here := tracks worker
      rw [status] at here
      obtain ⟨there, known, reaches⟩ := here
      exact ⟨_, (Protocol.localOf_answered_self ..).trans (congrArg _ known),
        reaches.snoc answer⟩
  | crash _ => exact Protocol.localOf_crashed_self ..

/-- In every reachable configuration, what is left of a worker's program is what its
transcript leaves of the entry it runs. -/
theorem Reachable.tracks (fresh : initial.history = [])
    (reached : Reachable program admits initial config) :
    ∀ worker, Tracks program worker config.history (config.workers worker) := by
  induction reached with
  | initial =>
      intro worker
      change (recording program).localOf worker initial.history = none
      rw [fresh]
      rfl
  | @step config action move _ moved _ ih =>
      intro worker
      by_cases same : worker = move.event.worker
      · subst same
        simpa only [Config.apply, Function.update_self] using Tracks.move ih moved
      · simpa only [Config.apply, Function.update_of_ne same] using
          (ih worker).frame fun equal => same equal.symm

/-- A transcript is one of the program that its worker runs. -/
theorem Reachable.reaches (fresh : initial.history = [])
    (reached : Reachable program admits initial config) {worker : Worker}
    {here : Entry × List (Exchange I)}
    (known : transcriptOf program worker config.history = some here) :
    ∃ left, (program here.1).Reaches here.2 left := by
  have tracked := reached.tracks fresh worker
  cases status : config.workers worker with
  | idle =>
      rw [status] at tracked
      cases known.symm.trans tracked
  | running left =>
      rw [status] at tracked
      obtain ⟨there, same, reaches⟩ := tracked
      cases known.symm.trans same
      exact ⟨left, reaches⟩
  | waiting call resume =>
      rw [status] at tracked
      obtain ⟨there, same, reaches⟩ := tracked
      cases known.symm.trans same
      exact ⟨_, reaches⟩
  | crashed =>
      rw [status] at tracked
      cases known.symm.trans tracked

/-- The steps of reachable configurations, as the transcripts of their workers allow. -/
theorem Reachable.step_of_move (fresh : initial.history = [])
    (reached : Reachable program admits initial config) {action : Action services Worker Entry}
    {move : Move services Worker Entry α} (moved : config.move program action = some move) :
    (recording program).Step config.toView move.event move.state :=
  Protocol.step_of_reachable (follows_recording program) (fun _ _ _ _ _ _ => trivial) fresh reached
    moved

/-- What every admitted move has when it is made, every event of a run had: it is a fact
about the event and the history before it. -/
theorem Reachable.forall_moves (reached : Reachable program admits initial config)
    (holds : List (Event I Worker Entry) → Event I Worker Entry → Prop)
    (fresh : initial.history = [])
    (each : ∀ {config : Config services Worker Entry α} {action move},
      Reachable program admits initial config → config.move program action = some move →
      admits config.toView move.event → holds config.history move.event)
    {later : List (Event I Worker Entry)}
    {event : Event I Worker Entry} {earlier : List (Event I Worker Entry)}
    (split : config.history = later ++ event :: earlier) : holds earlier event := by
  induction reached generalizing later with
  | initial =>
      change initial.history = _ at split
      rw [fresh] at split
      simp only [List.nil_eq, List.append_eq_nil_iff, reduceCtorEq, and_false] at split
  | @step config action move before moved admitted ih =>
      change move.event :: config.history = _ at split
      cases later with
      | nil =>
          rw [List.nil_append, List.cons.injEq] at split
          rw [← split.1, ← split.2]
          exact each before moved admitted
      | cons newest later =>
          rw [List.cons_append, List.cons.injEq] at split
          exact ih split.2

/-- The same for the steps that the transcripts allow. -/
theorem Reachable.forall_events (reached : Reachable program admits initial config)
    (holds : List (Event I Worker Entry) → Event I Worker Entry → Prop)
    (fresh : initial.history = [])
    (each : ∀ {config : Config services Worker Entry α} {event state},
      Reachable program admits initial config →
      (recording program).Step config.toView event state → admits config.toView event →
      holds config.history event)
    {later : List (Event I Worker Entry)}
    {event : Event I Worker Entry} {earlier : List (Event I Worker Entry)}
    (split : config.history = later ++ event :: earlier) : holds earlier event :=
  reached.forall_moves holds fresh
    (fun before moved admitted => each before (before.step_of_move fresh moved) admitted) split

/-- **Invariants of runs, by their transcripts.** A step may be assumed to leave from a
reachable configuration, so that invariants build on each other. -/
theorem Reachable.invariant (reached : Reachable program admits initial config)
    (holds : View services Worker Entry → Prop) (fresh : initial.history = []) (initially : holds initial)
    (preserved : ∀ {config : Config services Worker Entry α} {event state},
      Reachable program admits initial config →
      (recording program).Step config.toView event state → admits config.toView event →
      holds config.toView → holds (Protocol.after config.toView event state)) :
    holds config.toView := by
  induction reached with
  | initial => exact initially
  | step before moved admitted ih =>
      exact preserved before (before.step_of_move fresh moved) admitted ih

/-- What holds of the empty transcript and is kept by every admitted answer holds of the
transcripts of all workers. -/
theorem Reachable.transcripts_hold (reached : Reachable program admits initial config)
    (holds : Entry → List (Exchange I) → Prop) (fresh : initial.history = [])
    (started : ∀ entry, holds entry [])
    (answered : ∀ {config : Config services Worker Entry α} {worker entry exchanges call choice
      answer next}, Reachable program admits initial config →
      transcriptOf program worker config.history = some (entry, exchanges) →
      (recording program).allowed (entry, exchanges) call →
      admits config.toView (.answered worker call answer) →
      services.reply call choice config.state = some (answer, next) → holds entry exchanges →
      holds entry (exchanges ++ [⟨call, answer⟩])) :
    ∀ worker entry exchanges,
      transcriptOf program worker config.history = some (entry, exchanges) →
      holds entry exchanges := by
  refine reached.invariant (fun view => ∀ worker entry exchanges,
    transcriptOf program worker view.history = some (entry, exchanges) → holds entry exchanges)
    fresh ?_ ?_
  · intro worker entry exchanges known
    rw [fresh] at known
    cases known
  · intro config event state reachable step admitted ih worker entry exchanges known
    by_cases own : event.worker = worker
    · cases step with
      | @started starter command _ =>
          obtain rfl : starter = worker := own
          rw [transcriptOf, Protocol.after_history, Protocol.localOf_started_self] at known
          cases known
          exact started _
      | issued _ _ =>
          rw [transcriptOf, Protocol.after_history, Protocol.localOf_issued] at known
          exact ih worker entry exchanges known
      | @answered asker call answer here choice state _ before allowed reply =>
          obtain rfl : asker = worker := own
          rw [transcriptOf, Protocol.after_history, Protocol.localOf_answered_self, before]
            at known
          cases known
          exact answered reachable before allowed admitted reply (ih asker _ _ before)
      | @crashed crasher _ _ =>
          obtain rfl : crasher = worker := own
          rw [transcriptOf, Protocol.after_history, Protocol.localOf_crashed_self] at known
          cases known
    · rw [transcriptOf, Protocol.after_history, Protocol.localOf_cons_of_ne own] at known
      exact ih worker entry exchanges known

/-- What replies establish of an exchange and the state, and no reply to a worker whose exchanges
it holds of undoes, holds of every exchange in a transcript. -/
theorem Reachable.exchanges_hold_of_steps (reached : Reachable program admits initial config)
    (holds : Entry → services.State → Exchange I → Prop) (fresh : initial.history = [])
    (replied : ∀ {config : Config services Worker Entry α} {worker entry exchanges call choice
      answer next}, Reachable program admits initial config →
      transcriptOf program worker config.history = some (entry, exchanges) →
      (recording program).allowed (entry, exchanges) call →
      admits config.toView (.answered worker call answer) →
      services.reply call choice config.state = some (answer, next) →
      holds entry next ⟨call, answer⟩)
    (stable : ∀ {entry exchanges call choice state answer next other exchange},
      (recording program).allowed (entry, exchanges) call →
      services.reply call choice state = some (answer, next) →
      (∀ exchange ∈ exchanges, holds entry state exchange) → holds other state exchange →
      holds other next exchange) :
    ∀ worker entry exchanges,
      transcriptOf program worker config.history = some (entry, exchanges) →
      ∀ exchange ∈ exchanges, holds entry config.state exchange := by
  refine reached.invariant (fun view => ∀ worker entry exchanges,
    transcriptOf program worker view.history = some (entry, exchanges) →
    ∀ exchange ∈ exchanges, holds entry view.state exchange) fresh ?_ ?_
  · intro worker entry exchanges known
    rw [fresh] at known
    cases known
  · intro config event state reachable step admitted ih worker entry exchanges known
    by_cases own : event.worker = worker
    · cases step with
      | @started starter command _ =>
          obtain rfl : starter = worker := own
          rw [transcriptOf, Protocol.after_history, Protocol.localOf_started_self] at known
          cases known
          exact fun exchange member => nomatch member
      | issued _ _ =>
          rw [transcriptOf, Protocol.after_history, Protocol.localOf_issued] at known
          exact ih worker entry exchanges known
      | @answered asker call answer here choice state _ before allowed reply =>
          obtain rfl : asker = worker := own
          rw [transcriptOf, Protocol.after_history, Protocol.localOf_answered_self, before]
            at known
          cases known
          have kept := ih asker _ _ before
          intro exchange member
          rcases List.mem_append.mp member with earlier | last
          · exact stable allowed reply kept (kept exchange earlier)
          · obtain rfl := List.mem_singleton.mp last
            exact replied reachable before allowed admitted reply
      | @crashed crasher _ _ =>
          obtain rfl : crasher = worker := own
          rw [transcriptOf, Protocol.after_history, Protocol.localOf_crashed_self] at known
          cases known
    · rw [transcriptOf, Protocol.after_history, Protocol.localOf_cons_of_ne own] at known
      have kept := ih worker entry exchanges known
      cases step with
      | started _ => exact kept
      | issued _ _ => exact kept
      | answered _ before allowed reply =>
          exact fun exchange member => stable allowed reply (ih _ _ _ before) (kept exchange member)
      | crashed _ => exact kept

/-- The same for what no reply undoes. -/
theorem Reachable.exchanges_hold (reached : Reachable program admits initial config)
    (holds : Entry → services.State → Exchange I → Prop) (fresh : initial.history = [])
    (replied : ∀ {config : Config services Worker Entry α} {worker entry exchanges call choice
      answer next}, Reachable program admits initial config →
      transcriptOf program worker config.history = some (entry, exchanges) →
      (recording program).allowed (entry, exchanges) call →
      admits config.toView (.answered worker call answer) →
      services.reply call choice config.state = some (answer, next) →
      holds entry next ⟨call, answer⟩)
    (stable : ∀ {entry call choice state answer next exchange},
      services.reply call choice state = some (answer, next) → holds entry state exchange →
      holds entry next exchange) :
    ∀ worker entry exchanges,
      transcriptOf program worker config.history = some (entry, exchanges) →
      ∀ exchange ∈ exchanges, holds entry config.state exchange :=
  reached.exchanges_hold_of_steps holds fresh replied fun _ reply _ => stable reply

/-- The exchanges of a transcript are events of the history, each after the ones before it. -/
theorem split_of_transcriptOf {worker : Worker} {history : List (Event I Worker Entry)}
    {entry : Entry} {front back : List (Exchange I)} {exchange : Exchange I}
    (known : transcriptOf program worker history = some (entry, front ++ exchange :: back)) :
    ∃ later earlier, history = later ++
        .answered worker exchange.call exchange.answer :: earlier ∧
      transcriptOf program worker earlier = some (entry, front) := by
  induction history generalizing back with
  | nil => cases known
  | cons event earlier ih =>
      by_cases own : event.worker = worker
      · cases event with
        | started starter other =>
            obtain rfl : starter = worker := own
            rw [transcriptOf, Protocol.localOf_started_self] at known
            simp only [Option.some.injEq, Prod.mk.injEq, List.nil_eq, List.append_eq_nil_iff,
              reduceCtorEq, and_false] at known
        | issued issuer call =>
            rw [transcriptOf, Protocol.localOf_issued] at known
            obtain ⟨later, before, split, here⟩ := ih known
            exact ⟨.issued issuer call :: later, before, by rw [split, List.cons_append], here⟩
        | answered asker call answer =>
            obtain rfl : asker = worker := own
            rw [transcriptOf, Protocol.localOf_answered_self, Option.map_eq_some_iff] at known
            obtain ⟨⟨there, exchanges⟩, before, same⟩ := known
            simp only [Prod.mk.injEq] at same
            obtain ⟨rfl, same⟩ := same
            cases List.eq_nil_or_concat back with
            | inl last =>
                subst last
                rw [List.append_cons front exchange [], List.append_nil] at same
                obtain ⟨rfl, rfl⟩ := List.append_singleton_inj.mp same
                exact ⟨[], earlier, rfl, before⟩
            | inr more =>
                obtain ⟨init, last, rfl⟩ := more
                rw [List.concat_eq_append, ← List.cons_append, ← List.append_assoc] at same
                obtain ⟨rfl, rfl⟩ := List.append_singleton_inj.mp same
                obtain ⟨later, first, split, here⟩ := ih before
                exact ⟨_ :: later, first, by rw [split, List.cons_append], here⟩
        | crashed crasher =>
            obtain rfl : crasher = worker := own
            rw [transcriptOf, Protocol.localOf_crashed_self] at known
            cases known
      · rw [transcriptOf, Protocol.localOf_cons_of_ne own] at known
        obtain ⟨later, before, split, here⟩ := ih known
        exact ⟨event :: later, before, by rw [split, List.cons_append], here⟩

/-- Every exchange of a transcript is an event of the history. -/
theorem answered_of_transcriptOf {worker : Worker} {history : List (Event I Worker Entry)}
    {entry : Entry} {exchanges : List (Exchange I)} {exchange : Exchange I}
    (known : transcriptOf program worker history = some (entry, exchanges))
    (member : exchange ∈ exchanges) :
    .answered worker exchange.call exchange.answer ∈ history := by
  obtain ⟨front, back, split⟩ := List.append_of_mem member
  rw [split] at known
  obtain ⟨later, earlier, happened, _⟩ := split_of_transcriptOf known
  rw [happened]
  exact List.mem_append_right _ List.mem_cons_self

/-- The steps of others do not touch a transcript. -/
theorem transcriptOf_append_of_ne {worker : Worker} {later earlier : List (Event I Worker Entry)}
    (others : ∀ event ∈ later, event.worker ≠ worker) :
    transcriptOf program worker (later ++ earlier) = transcriptOf program worker earlier := by
  induction later with
  | nil => rfl
  | cons event later ih =>
      rw [List.forall_mem_cons] at others
      rw [List.cons_append, transcriptOf, Protocol.localOf_cons_of_ne others.1]
      exact ih others.2

/-- A worker that is about to continue has taken no step since its last answer. -/
theorem Reachable.last_exchange
    (reached : Reachable program admits initial config) {worker : Worker} {left : Program I α}
    (running : config.workers worker = .running left) {entry : Entry}
    {front : List (Exchange I)} {exchange : Exchange I}
    (known : transcriptOf program worker config.history = some (entry, front ++ [exchange])) :
    ∃ later earlier, config.history = later ++
        .answered worker exchange.call exchange.answer :: earlier ∧
      (∀ event ∈ later, event.worker ≠ worker) ∧
      transcriptOf program worker earlier = some (entry, front) := by
  induction reached with
  | initial => cases running
  | @step config action move before moved _ ih =>
      by_cases own : move.event.worker = worker
      · subst own
        change Function.update config.workers move.event.worker move.status _ = _ at running
        rw [Function.update_self] at running
        change transcriptOf program move.event.worker (move.event :: config.history) = _ at known
        change ∃ later earlier, move.event :: config.history = _ ∧ _
        cases Config.moves_of_move moved with
        | @start starter command _ =>
            change (recording program).localOf starter (.started starter command :: _) = _
              at known
            rw [Protocol.localOf_started_self] at known
            simp only [Option.some.injEq, Prod.mk.injEq, List.nil_eq, List.append_eq_nil_iff,
              reduceCtorEq, and_false] at known
        | issue _ => cases running
        | @answer asker call resume choice answer state _ _ =>
            change (recording program).localOf asker (.answered asker call answer :: _) = _
              at known
            rw [Protocol.localOf_answered_self, Option.map_eq_some_iff] at known
            obtain ⟨⟨there, exchanges⟩, earlier, same⟩ := known
            simp only [Prod.mk.injEq] at same
            obtain ⟨rfl, same⟩ := same
            obtain ⟨rfl, rfl⟩ := List.append_singleton_inj.mp same
            exact ⟨[], config.history, rfl, fun _ member => (by cases member), earlier⟩
        | crash _ => cases running
      · change Function.update config.workers move.event.worker move.status _ = _ at running
        rw [Function.update_of_ne (Ne.symm own)] at running
        change (recording program).localOf worker (move.event :: config.history) = _ at known
        rw [Protocol.localOf_cons_of_ne own] at known
        obtain ⟨later, earlier, split, others, here⟩ := ih running known
        refine ⟨move.event :: later, earlier, ?_, List.forall_mem_cons.mpr ⟨own, others⟩, here⟩
        change move.event :: config.history = _
        rw [split, List.cons_append]

/-! ## The calls of a run -/

/-- Every call that was started in a history has this, of the entry its worker ran and of the
transcript it was started after. -/
def EachCall (program : Entry → Program I α) (history : List (Event I Worker Entry))
    (holds : Entry → List (Exchange I) → I.Call → Prop) : Prop :=
  ∀ later worker call earlier entry exchanges, history = later ++ .issued worker call :: earlier →
    transcriptOf program worker earlier = some (entry, exchanges) → holds entry exchanges call

/-- What programs allow of a call holds of every call of a run. -/
theorem Reachable.eachCall (reached : Reachable program admits initial config)
    (fresh : initial.history = []) {holds : Entry → List (Exchange I) → I.Call → Prop}
    (each : ∀ entry exchanges call, (recording program).allowed (entry, exchanges) call →
      holds entry exchanges call) : EachCall program config.history holds := by
  intro later worker call earlier entry exchanges split known
  refine reached.forall_events (fun history event => ∀ call entry exchanges,
    event = .issued event.worker call →
    transcriptOf program event.worker history = some (entry, exchanges) →
    holds entry exchanges call) fresh ?_ split call entry exchanges rfl known
  intro config event state _ step _ call entry exchanges issued known
  cases step with
  | issued before allowed =>
      cases issued
      cases before.symm.trans known
      exact each entry exchanges _ allowed
  | started _ => cases issued
  | answered _ _ _ _ => cases issued
  | crashed _ => cases issued

/-! ## Entries -/

/-- The entry that a worker was started with last. -/
def entryOf (worker : Worker) : List (Event I Worker Entry) → Option Entry
  | [] => none
  | .started starter entry :: earlier =>
      if starter = worker then some entry else entryOf worker earlier
  | _ :: earlier => entryOf worker earlier

theorem started_of_entryOf {worker : Worker} {entry : Entry}
    {history : List (Event I Worker Entry)} (entered : entryOf worker history = some entry) :
    .started worker entry ∈ history := by
  induction history with
  | nil => cases entered
  | cons event earlier ih =>
      cases event with
      | started starter other =>
          by_cases own : starter = worker
          · subst own
            simp only [entryOf, ↓reduceIte, Option.some.injEq] at entered
            subst entered
            exact List.mem_cons_self
          · simp only [entryOf, own, ↓reduceIte] at entered
            exact List.mem_cons_of_mem _ (ih entered)
      | issued _ _ => exact List.mem_cons_of_mem _ (ih entered)
      | answered _ _ _ => exact List.mem_cons_of_mem _ (ih entered)
      | crashed _ => exact List.mem_cons_of_mem _ (ih entered)

theorem entryOf_of_transcriptOf {worker : Worker} {history : List (Event I Worker Entry)}
    {here : Entry × List (Exchange I)}
    (known : transcriptOf program worker history = some here) :
    entryOf worker history = some here.1 := by
  induction history generalizing here with
  | nil => cases known
  | cons event earlier ih =>
      by_cases own : event.worker = worker
      · cases event with
        | started starter entry =>
            obtain rfl : starter = worker := own
            rw [transcriptOf, Protocol.localOf_started_self] at known
            cases known
            simp only [entryOf, ↓reduceIte]
        | issued issuer call =>
            rw [transcriptOf, Protocol.localOf_issued] at known
            exact ih known
        | answered asker call answer =>
            obtain rfl : asker = worker := own
            rw [transcriptOf, Protocol.localOf_answered_self, Option.map_eq_some_iff] at known
            obtain ⟨there, before, rfl⟩ := known
            have kept := ih before
            exact kept
        | crashed crasher =>
            obtain rfl : crasher = worker := own
            rw [transcriptOf, Protocol.localOf_crashed_self] at known
            cases known
      · rw [transcriptOf, Protocol.localOf_cons_of_ne own] at known
        cases event with
        | started starter entry =>
            have other : starter ≠ worker := own
            simp only [entryOf, other, ↓reduceIte]
            exact ih known
        | issued issuer call => exact ih known
        | answered asker call answer => exact ih known
        | crashed crasher => exact ih known

/-- Whatever a worker runs, it was admitted to start. -/
theorem Reachable.admitted_entry (reached : Reachable program admits initial config)
    (fresh : initial.history = []) {worker : Worker} {here : Entry × List (Exchange I)}
    (known : transcriptOf program worker config.history = some here) :
    ∃ view, admits view (.started worker here.1) := by
  have member := started_of_entryOf (entryOf_of_transcriptOf known)
  obtain ⟨later, earlier, split⟩ := List.append_of_mem member
  exact reached.forall_moves (fun _ event => ∃ view, admits view event) fresh
    (fun _ _ admitted => ⟨_, admitted⟩) split

end Pools
end Async
