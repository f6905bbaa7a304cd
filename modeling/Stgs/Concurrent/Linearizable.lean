/-
# Concurrent.Linearizable -- the queue under any number of threads

Any threads call `push`, `pop`, `close`, `size` and `closed` in any order.  Their steps
interleave, a sleeping thread may wake up by itself, and an insertion may throw.  The
history has three events for each call: it is invoked, it takes effect, it returns.

`linearizable`: the effects, in their order, are a run of the sequential queue
(`Runs`), and each lies between the invocation and the return it belongs to
(`Placed`).  What holds of a bounded queue with close then holds of the history.
-/
import Mathlib.Data.List.Basic
import Stgs.Concurrent.Monitor
import Stgs.Theory.History
import Stgs.Theory.Transition

namespace Stgs.Concurrent

open Stgs.Theory.History Stgs.Theory.Transition

set_option autoImplicit false

universe u v

/-! ## Histories -/

section Histories

variable (Thread : Type v) (α : Type u)

inductive Event where
  | invoked (thread : Thread) (call : Call α)
  | took (thread : Thread) (call : Call α) (outcome : Outcome α)
  | returned (thread : Thread) (call : Call α) (outcome : Outcome α)

structure QueueState where
  queue : BlockingQueue α
  sync : Sync Thread α := {}
  history : List (Event Thread α) := []

end Histories

section System

variable {Thread : Type v} [DecidableEq Thread] {α : Type u}

/-- A step of a thread. -/
inductive QueueStep (thread : Thread) (state : QueueState Thread α) :
    QueueState Thread α → Prop where
  | invokes {call : Call α} (idle : state.sync.phase thread = .idle) :
      QueueStep thread state
        { state with
          sync := state.sync.set thread (.locking call)
          history := state.history ++ [.invoked thread call] }
  | moves {sync : Sync Thread α} (moves : Moves state.queue thread state.sync sync) :
      QueueStep thread state { state with sync }
  | stirs {call : Call α} (waiting : state.sync.phase thread = .waiting call) :
      QueueStep thread state { state with sync := state.sync.set thread (.locking call) }
  | acts {call : Call α} {outcome : Outcome α} {queue : BlockingQueue α}
      (acting : state.sync.phase thread = .acting call) (acts : Acts state.queue call outcome queue) :
      QueueStep thread state
        { queue
          sync := state.sync.set thread (.leaving call outcome)
          history := state.history ++ [.took thread call outcome] }
  | returns {call : Call α} {outcome : Outcome α}
      (waking : state.sync.phase thread = .waking call outcome []) :
      QueueStep thread state
        { state with
          sync := state.sync.set thread .idle
          history := state.history ++ [.returned thread call outcome] }

/-- **The queue and its threads**: any thread may take the next step. -/
def blockingQueue (Thread : Type v) [DecidableEq Thread] (α : Type u) (capacity : Nat) :
    System (QueueState Thread α) where
  start state := state = { queue := .create capacity }
  step state next := ∃ thread, QueueStep thread state next

end System

/-! ## The sequential queue -/

section Runs

variable {Thread : Type v} {α : Type u}

/-- The effects in a history, in order, take the queue from `start` to a queue. -/
inductive Runs (start : BlockingQueue α) : List (Event Thread α) → BlockingQueue α → Prop where
  | nil : Runs start [] start
  | invoked {history : List (Event Thread α)} {queue : BlockingQueue α} (thread : Thread)
      (call : Call α) (runs : Runs start history queue) :
      Runs start (history ++ [.invoked thread call]) queue
  | took {history : List (Event Thread α)} {queue after : BlockingQueue α} {call : Call α}
      {outcome : Outcome α} (thread : Thread) (runs : Runs start history queue)
      (acts : Acts queue call outcome after) :
      Runs start (history ++ [.took thread call outcome]) after
  | returned {history : List (Event Thread α)} {queue : BlockingQueue α} (thread : Thread)
      (call : Call α) (outcome : Outcome α) (runs : Runs start history queue) :
      Runs start (history ++ [.returned thread call outcome]) queue

/-- The value a push inserted. -/
def Event.inserted : Event Thread α → Option α
  | took _ (.push value) (.pushed true) => some value
  | _ => none

/-- The value a pop took. -/
def Event.delivered : Event Thread α → Option α
  | took _ .pop (.popped value) => value
  | _ => none

/-- A push that found the queue closed. -/
def Event.Refuses : Event Thread α → Prop
  | took _ (.push _) (.pushed false) => True
  | _ => False

/-- A pop that found nothing. -/
def Event.Nothing : Event Thread α → Prop
  | took _ .pop (.popped none) => True
  | _ => False

/-- The values inserted, in order. -/
def inserted (history : List (Event Thread α)) : List α := history.filterMap Event.inserted

/-- The values taken out, in order. -/
def delivered (history : List (Event Thread α)) : List α := history.filterMap Event.delivered

/-- A close took effect. -/
def Closed (history : List (Event Thread α)) : Prop :=
  ∃ thread, Event.took thread .close .closed ∈ history

@[simp] theorem inserted_concat (history : List (Event Thread α)) (event : Event Thread α) :
    inserted (history ++ [event]) = inserted history ++ event.inserted.toList := by
  rw [inserted, List.filterMap_append, List.filterMap_cons]
  cases event.inserted <;> rfl

@[simp] theorem delivered_concat (history : List (Event Thread α)) (event : Event Thread α) :
    delivered (history ++ [event]) = delivered history ++ event.delivered.toList := by
  rw [delivered, List.filterMap_append, List.filterMap_cons]
  cases event.delivered <;> rfl

/-- An effect other than a close does not close. -/
theorem closed_concat {history : List (Event Thread α)} {event : Event Thread α} :
    Closed (history ++ [event]) ↔
      Closed history ∨ ∃ thread, event = .took thread .close .closed := by
  simp only [Closed, List.mem_append, List.mem_singleton]
  constructor
  · rintro ⟨thread, earlier | now⟩
    · exact Or.inl ⟨thread, earlier⟩
    · exact Or.inr ⟨thread, now.symm⟩
  · rintro (⟨thread, earlier⟩ | ⟨thread, now⟩)
    · exact ⟨thread, Or.inl earlier⟩
    · exact ⟨thread, Or.inr now.symm⟩

/-- What a sequential run says about the queue it ends with. -/
structure Accounts (capacity : Nat) (history : List (Event Thread α)) (queue : BlockingQueue α) :
    Prop where
  capacity : queue.capacity = capacity
  fifo : inserted history = delivered history ++ queue.queue
  closed : queue.closed = true ↔ Closed history
  drained : (∃ event ∈ history, event.Nothing) → queue.Drained

/-- What was true of each effect. -/
structure Lawful (past : List (Event Thread α)) (event : Event Thread α) : Prop where
  sealed : event.inserted.isSome = true → ¬ Closed past
  refused : event.Refuses → Closed past
  nothing : event.Nothing → Closed past ∧ inserted past = delivered past
  final : event.delivered.isSome = true → ∀ earlier ∈ past, ¬ earlier.Nothing

/-- An event that is no effect changes nothing. -/
theorem Accounts.skip {capacity : Nat} {history : List (Event Thread α)} {queue : BlockingQueue α}
    (accounts : Accounts capacity history queue) {event : Event Thread α}
    (inserts : event.inserted = none) (delivers : event.delivered = none)
    (closes : ∀ thread, event ≠ .took thread .close .closed) (finds : ¬ event.Nothing) :
    Accounts capacity (history ++ [event]) queue := by
  refine ⟨accounts.capacity, ?_, ?_, ?_⟩
  · rw [inserted_concat, delivered_concat, inserts, delivers]
    simpa using accounts.fifo
  · rw [closed_concat, accounts.closed]
    exact (or_iff_left fun ⟨thread, same⟩ => closes thread same).symm
  · rintro ⟨other, member, nothing⟩
    rcases List.mem_append.mp member with earlier | now
    · exact accounts.drained ⟨other, earlier, nothing⟩
    · obtain rfl := List.mem_singleton.mp now
      exact absurd nothing finds

/-- What is said of an event that does not say it. -/
theorem lawful_skip {history : List (Event Thread α)} {event : Event Thread α}
    (inserts : event.inserted = none) (delivers : event.delivered = none)
    (refuses : ¬ event.Refuses) (finds : ¬ event.Nothing) : Lawful history event where
  sealed is := by simp [inserts] at is
  refused is := absurd is refuses
  nothing is := absurd is finds
  final is := by simp [delivers] at is

/-- **One effect**: the account of the queue after it, and what was true before. -/
theorem Accounts.acts {capacity : Nat} {history : List (Event Thread α)}
    {queue after : BlockingQueue α} {call : Call α} {outcome : Outcome α}
    (accounts : Accounts capacity history queue) (acts : Acts queue call outcome after)
    (thread : Thread) :
    Accounts capacity (history ++ [.took thread call outcome]) after ∧
      Lawful history (.took thread call outcome) := by
  cases acts with
  | @pushes value accepted after pushed =>
      cases accepted with
      | true =>
          obtain ⟨isOpen, stillOpen, content⟩ := BlockingQueue.push_accepted pushed
          have before : ¬ Closed history := by
            rw [← accounts.closed, isOpen]
            decide
          refine ⟨⟨?_, ?_, ?_, ?_⟩, fun _ => before, nofun, nofun, nofun⟩
          · rw [BlockingQueue.push_capacity pushed, accounts.capacity]
          · rw [inserted_concat, delivered_concat, accounts.fifo, content]
            simp [Event.inserted, Event.delivered]
          · rw [closed_concat, stillOpen]
            refine iff_of_false nofun ?_
            rintro (earlier | ⟨other, same⟩)
            · exact before earlier
            · cases same
          · rintro ⟨event, member, nothing⟩
            rcases List.mem_append.mp member with earlier | now
            · have drained := accounts.drained ⟨event, earlier, nothing⟩
              rw [drained.1] at isOpen
              cases isOpen
            · obtain rfl := List.mem_singleton.mp now
              exact nothing.elim
      | false =>
          obtain ⟨isClosed, rfl⟩ := BlockingQueue.push_refused pushed
          exact ⟨accounts.skip rfl rfl nofun id, nofun, fun _ => accounts.closed.mp isClosed, nofun,
            nofun⟩
  | throws isOpen => exact ⟨accounts.skip rfl rfl nofun id, lawful_skip rfl rfl id id⟩
  | @pops value after popped =>
      cases value with
      | some value =>
          obtain ⟨front, same⟩ := BlockingQueue.pop_value popped
          have filled : ¬ queue.Drained := by
            rintro ⟨_, empty⟩
            rw [front] at empty
            cases empty
          have fresh (event : Event Thread α) (member : event ∈ history) : ¬ event.Nothing :=
            fun nothing => filled (accounts.drained ⟨event, member, nothing⟩)
          refine ⟨⟨?_, ?_, ?_, ?_⟩, nofun, nofun, nofun, fun _ => fresh⟩
          · rw [BlockingQueue.pop_capacity popped, accounts.capacity]
          · rw [inserted_concat, delivered_concat, accounts.fifo, front]
            simp [Event.inserted, Event.delivered]
          · rw [closed_concat, same, accounts.closed]
            exact (or_iff_left nofun).symm
          · rintro ⟨event, member, nothing⟩
            rcases List.mem_append.mp member with earlier | now
            · exact absurd nothing (fresh event earlier)
            · obtain rfl := List.mem_singleton.mp now
              exact nothing.elim
      | none =>
          obtain ⟨isClosed, empty, rfl⟩ := BlockingQueue.pop_nothing popped
          have all : inserted history = delivered history := by
            rw [accounts.fifo, empty, List.append_nil]
          refine ⟨⟨accounts.capacity, ?_, ?_, fun _ => ⟨isClosed, empty⟩⟩, nofun, nofun,
            fun _ => ⟨accounts.closed.mp isClosed, all⟩, nofun⟩
          · rw [inserted_concat, delivered_concat, accounts.fifo]
            simp [Event.inserted, Event.delivered]
          · rw [closed_concat, accounts.closed]
            exact (or_iff_left nofun).symm
  | closes =>
      refine ⟨⟨accounts.capacity, ?_, ?_, ?_⟩, lawful_skip rfl rfl id id⟩
      · rw [inserted_concat, delivered_concat, accounts.fifo]
        simp [Event.inserted, Event.delivered]
      · rw [closed_concat]
        exact iff_of_true rfl (Or.inr ⟨thread, rfl⟩)
      · rintro ⟨event, member, nothing⟩
        rcases List.mem_append.mp member with earlier | now
        · exact ⟨rfl, (accounts.drained ⟨event, earlier, nothing⟩).2⟩
        · obtain rfl := List.mem_singleton.mp now
          exact nothing.elim
  | sizes => exact ⟨accounts.skip rfl rfl nofun id, lawful_skip rfl rfl id id⟩
  | tells => exact ⟨accounts.skip rfl rfl nofun id, lawful_skip rfl rfl id id⟩

/-- **A sequential run accounts for every value.** -/
theorem runs_accounts {capacity : Nat} {history : List (Event Thread α)} {queue : BlockingQueue α}
    (runs : Runs (.create capacity) history queue) :
    Accounts capacity history queue ∧ Always Lawful history := by
  induction runs with
  | nil =>
      refine ⟨⟨rfl, rfl, iff_of_false nofun ?_, ?_⟩, always_nil⟩
      · rintro ⟨thread, member⟩
        cases member
      · rintro ⟨event, member, _⟩
        cases member
  | invoked thread call runs ih =>
      exact ⟨ih.1.skip rfl rfl nofun id, always_concat.mpr ⟨ih.2, lawful_skip rfl rfl id id⟩⟩
  | took thread runs acts ih =>
      obtain ⟨accounts, lawful⟩ := ih.1.acts acts thread
      exact ⟨accounts, always_concat.mpr ⟨ih.2, lawful⟩⟩
  | returned thread call outcome runs ih =>
      exact ⟨ih.1.skip rfl rfl nofun id, always_concat.mpr ⟨ih.2, lawful_skip rfl rfl id id⟩⟩

end Runs

/-! ## Real time -/

section Placement

variable {Thread : Type v} {α : Type u}

def Event.thread : Event Thread α → Thread
  | invoked thread _ => thread
  | took thread _ _ => thread
  | returned thread _ _ => thread

/-- The last event of a thread. -/
def LastOf (thread : Thread) (event : Event Thread α) (history : List (Event Thread α)) : Prop :=
  ∃ past later, history = past ++ event :: later ∧ ∀ other ∈ later, other.thread ≠ thread

/-- The thread has no call: it made none, or the last one returned. -/
def Outside (thread : Thread) (history : List (Event Thread α)) : Prop :=
  (∀ event ∈ history, event.thread ≠ thread) ∨
    ∃ call outcome, LastOf thread (.returned thread call outcome) history

/-- The thread's call is invoked and has no effect yet. -/
def Invoked (thread : Thread) (call : Call α) (history : List (Event Thread α)) : Prop :=
  LastOf thread (.invoked thread call) history

/-- The thread's call was invoked, then took effect, and has not returned. -/
def Answered (thread : Thread) (call : Call α) (outcome : Outcome α)
    (history : List (Event Thread α)) : Prop :=
  ∃ past later, history = past ++ .took thread call outcome :: later ∧
    Invoked thread call past ∧ ∀ other ∈ later, other.thread ≠ thread

/-- **An event is in its place**: a thread makes one call at a time, each takes effect
once, after its invocation and before its return, and returns what it took. -/
def Placed (past : List (Event Thread α)) : Event Thread α → Prop
  | .invoked thread _ => Outside thread past
  | .took thread call _ => Invoked thread call past
  | .returned thread call outcome => Answered thread call outcome past

/-- Where a phase places its thread. -/
def Phase.Locates (thread : Thread) (history : List (Event Thread α)) : Phase α → Prop
  | idle => Outside thread history
  | locking call | checking call | waiting call | acting call => Invoked thread call history
  | leaving call outcome | waking call outcome _ => Answered thread call outcome history

/-- The events of others do not matter. -/
theorem LastOf.concat {thread : Thread} {event other : Event Thread α}
    {history : List (Event Thread α)} (last : LastOf thread event history)
    (apart : other.thread ≠ thread) : LastOf thread event (history ++ [other]) := by
  obtain ⟨past, later, rfl, quiet⟩ := last
  refine ⟨past, later ++ [other], by simp, fun event member => ?_⟩
  rcases List.mem_append.mp member with earlier | now
  · exact quiet event earlier
  · obtain rfl := List.mem_singleton.mp now
    exact apart

theorem lastOf_self {event : Event Thread α} (history : List (Event Thread α)) :
    LastOf event.thread event (history ++ [event]) :=
  ⟨history, [], rfl, nofun⟩

theorem Phase.Locates.concat {thread : Thread} {history : List (Event Thread α)} {phase : Phase α}
    (located : phase.Locates thread history) {other : Event Thread α}
    (apart : other.thread ≠ thread) : phase.Locates thread (history ++ [other]) := by
  have answered {call : Call α} {outcome : Outcome α}
      (before : Answered thread call outcome history) :
      Answered thread call outcome (history ++ [other]) := by
    obtain ⟨past, later, rfl, invoked, quiet⟩ := before
    refine ⟨past, later ++ [other], by simp, invoked, fun event member => ?_⟩
    rcases List.mem_append.mp member with earlier | now
    · exact quiet event earlier
    · obtain rfl := List.mem_singleton.mp now
      exact apart
  cases phase with
  | idle =>
      rcases located with never | ⟨call, outcome, last⟩
      · refine Or.inl fun event member => ?_
        rcases List.mem_append.mp member with earlier | now
        · exact never event earlier
        · obtain rfl := List.mem_singleton.mp now
          exact apart
      · exact Or.inr ⟨call, outcome, last.concat apart⟩
  | leaving call outcome => exact answered located
  | waking call outcome left => exact answered located
  | _ => exact LastOf.concat located apart

end Placement

/-! ## Every run -/

section Reachable

variable {Thread : Type v} [DecidableEq Thread] {α : Type u} {capacity : Nat}
  {state next : QueueState Thread α} {thread : Thread}

/-- A move leaves every thread at the same place in its call. -/
theorem moves_locates {queue : BlockingQueue α} {sync next : Sync Thread α}
    (moves : Moves queue thread sync next) {history : List (Event Thread α)} {other : Thread}
    (located : (sync.phase other).Locates other history) :
    (next.phase other).Locates other history := by
  have set {before : Phase α} (after : Phase α) (here : sync.phase thread = before)
      (same : before.Locates thread history → after.Locates thread history) :
      ((sync.set thread after).phase other).Locates other history := by
    by_cases this : other = thread
    · subst this
      rw [Sync.set_self]
      rw [here] at located
      exact same located
    · rw [Sync.set_other _ _ this]
      exact located
  cases moves with
  | locks locking free => exact set _ locking id
  | passes checking ready => exact set _ checking id
  | waits checking unready => exact set _ checking id
  | unlocks leaving => exact set _ leaving id
  | @wakesOne call call' outcome side left sleeper waking sleeps there =>
      by_cases this : other = sleeper
      · subst this
        rw [Sync.set_self]
        rw [sleeps] at located
        exact located
      · rw [Sync.set_other _ _ this]
        exact set _ waking id
  | wakesNobody waking awake => exact set _ waking id
  | @wakesAll call outcome side left waking =>
      have still := set (.waking call outcome left) waking id
      rcases wakeAll_phase (sync.set thread (.waking call outcome left)) side other with
        same | ⟨call', asleep, woken⟩
      · rw [same]
        exact still
      · rw [asleep] at still
        rw [woken]
        exact still

/-- What holds in every reachable state. -/
structure QueueOk (capacity : Nat) (state : QueueState Thread α) : Prop where
  sync : SyncOk state.queue state.sync
  runs : Runs (.create capacity) state.history state.queue
  located : ∀ thread, (state.sync.phase thread).Locates thread state.history
  placed : Always Placed state.history

/-- A thread takes a step with an event. -/
theorem locates_event (located : ∀ other, (state.sync.phase other).Locates other state.history)
    (event : Event Thread α) {phase : Phase α}
    (here : phase.Locates event.thread (state.history ++ [event])) (other : Thread) :
    ((state.sync.set event.thread phase).phase other).Locates other (state.history ++ [event]) := by
  by_cases this : other = event.thread
  · rw [this, Sync.set_self]
    exact here
  · rw [Sync.set_other _ _ this]
    exact (located other).concat fun same => this same.symm

theorem queueOk_step (ok : QueueOk capacity state) (step : QueueStep thread state next) :
    QueueOk capacity next := by
  have mine := ok.located thread
  cases step with
  | invokes idle =>
      rw [idle] at mine
      refine ⟨ok.sync.outside idle id id nofun, ok.runs.invoked thread _,
        locates_event ok.located (.invoked thread _) (lastOf_self _),
        always_concat.mpr ⟨ok.placed, mine⟩⟩
  | moves moves =>
      exact ⟨ok.sync.moves moves, ok.runs, fun other => moves_locates moves (ok.located other),
        ok.placed⟩
  | @stirs call waiting =>
      refine ⟨ok.sync.outside waiting id id nofun, ok.runs, fun other => ?_, ok.placed⟩
      by_cases this : other = thread
      · rw [waiting] at mine
        subst this
        show ((state.sync.set other (.locking call)).phase other).Locates other state.history
        rw [Sync.set_self]
        exact mine
      · show ((state.sync.set thread (.locking call)).phase other).Locates other state.history
        rw [Sync.set_other _ _ this]
        exact ok.located other
  | @acts call outcome queue acting acts =>
      rw [acting] at mine
      have answered : Answered thread call outcome
          (state.history ++ [.took thread call outcome]) :=
        ⟨state.history, [], rfl, mine, nofun⟩
      exact ⟨ok.sync.act acting outcome queue, ok.runs.took thread acts,
        locates_event ok.located (.took thread call outcome) answered,
        always_concat.mpr ⟨ok.placed, mine⟩⟩
  | @returns call outcome waking =>
      rw [waking] at mine
      exact ⟨ok.sync.outside waking id id nofun, ok.runs.returned thread call outcome,
        locates_event ok.located (.returned thread call outcome)
          (Or.inr ⟨call, outcome, lastOf_self _⟩),
        always_concat.mpr ⟨ok.placed, mine⟩⟩

theorem queueOk (reachable : (blockingQueue Thread α capacity).Reachable state) :
    QueueOk capacity state := by
  refine System.invariant ?_ ?_ reachable
  · rintro _ rfl
    exact ⟨syncOk_start _, .nil, fun thread => Or.inl nofun, always_nil⟩
  · rintro state next ok ⟨thread, step⟩
    exact queueOk_step ok step

/-- What a bounded queue with close does, along its history. -/
structure BoundedFifo (capacity : Nat) (state : QueueState Thread α) : Prop where
  sequential : Runs (.create capacity) state.history state.queue
  placed : Always Placed state.history
  fifo : inserted state.history = delivered state.history ++ state.queue.queue
  bounded : capacity ≠ 0 → state.queue.queue.length ≤ capacity
  sealed : Always (fun past event => event.inserted.isSome = true → ¬ Closed past) state.history
  refused : Always (fun past event => event.Refuses → Closed past) state.history
  undelivered : ∀ value,
    (∀ thread, Event.took thread (.push value) (.pushed true) ∉ state.history) →
      value ∉ delivered state.history
  nothing : Always
    (fun past event => event.Nothing → Closed past ∧ inserted past = delivered past) state.history
  final : Always
    (fun past event => event.delivered.isSome = true → ∀ earlier ∈ past, ¬ earlier.Nothing)
    state.history

/-- **The queue is linearizable.**  Under any interleaving of any threads the effects are
a sequential run, each between its invocation and its return.  So the values taken
out, then those in the queue, are the values inserted, in order; the queue keeps its
bound; nothing is inserted after a close; a push is refused only after one, and a value
that no push inserted is never taken out; a pop finds nothing only when the queue is
closed and empty, and no pop takes anything after that. -/
theorem linearizable (reachable : (blockingQueue Thread α capacity).Reachable state) :
    BoundedFifo capacity state := by
  have ok := queueOk reachable
  obtain ⟨accounts, lawful⟩ := runs_accounts ok.runs
  refine ⟨ok.runs, ok.placed, accounts.fifo, fun bounded => ?_,
    lawful.imp fun _ _ law => law.sealed, lawful.imp fun _ _ law => law.refused,
    fun value never taken => ?_, lawful.imp fun _ _ law => law.nothing,
    lawful.imp fun _ _ law => law.final⟩
  · rw [← accounts.capacity] at bounded ⊢
    exact state.queue.bounded.resolve_left bounded
  · have among : value ∈ inserted state.history := by
      rw [accounts.fifo]
      exact List.mem_append_left _ taken
    obtain ⟨event, member, inserts⟩ := List.mem_filterMap.mp among
    unfold Event.inserted at inserts
    split at inserts
    · obtain rfl := Option.some.inj inserts
      exact never _ member
    · cases inserts

/-- One thread pushes one value. -/
theorem linearizable_push :
    ∃ state : QueueState Bool Nat, inserted state.history = [7] ∧ BoundedFifo 1 state := by
  have start : (blockingQueue Bool Nat 1).Reachable { queue := .create 1 } := .start rfl
  have invoked := start.step ⟨true, @QueueStep.invokes _ _ _ true _ (.push 7) rfl⟩
  have locked := invoked.step ⟨true, .moves (@Moves.locks _ _ _ _ true _ (.push 7) rfl rfl)⟩
  have ready : (Call.push 7).Ready (.create 1 : BlockingQueue Nat) := Or.inr (Or.inr Nat.one_pos)
  have passed := locked.step
    ⟨true, .moves (@Moves.passes _ _ _ _ true _ (.push 7) rfl ready)⟩
  have acted := passed.step
    ⟨true, @QueueStep.acts _ _ _ true _ (.push 7) _ _ rfl (.pushes rfl)⟩
  exact ⟨_, rfl, linearizable acted⟩

end Reachable

end Stgs.Concurrent
