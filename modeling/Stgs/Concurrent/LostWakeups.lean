/-
# Concurrent.LostWakeups -- a notification is under way for whoever could go on

`Concurrent.Wakeups` counts any thread on its way to the mutex, whether it was woken
up or has just called.  Here the two are told apart: `woken` says of a thread that a
notification has ended its wait and that it has neither acted nor gone back to sleep
since.  It is a history variable: `heed` reads it off the steps.

While somebody sleeps on a side of an open queue, each value (each free place) is
matched by a notification that is under way, still to be sent or just received
(`NoticeOk`).  Threads that overtake the woken ones only take from what is there, and
who goes back to sleep found nothing.  `no_lost_wakeup` is what that leaves.

An insertion that throws takes the notification it received with it, so the runs here
are those of a queue whose insertions find memory (`Allocated`).
-/
import Stgs.Concurrent.Linearizable
import Stgs.Concurrent.Wakeups

namespace Stgs.Concurrent

open Stgs.Theory.Measure Stgs.Theory.Transition

set_option autoImplicit false

universe u v

/-! ## Who has been woken up -/

section Notices

variable {α : Type u}

/-- The notifications of a side under way through a thread. -/
def Phase.notice (side : Side) (woken : Bool) : Phase α → Nat
  | locking call | checking call | acting call =>
      if woken = true ∧ call.side = some side then 1 else 0
  | leaving _ outcome => outcome.wakes.count (.one side)
  | waking _ _ left => left.count (.one side)
  | _ => 0

variable {Thread : Type v} [DecidableEq Thread]

/-- Who has been woken up, after a step of `mover`.  A thread that wakes up by its own
step was not notified. -/
def heed (mover : Thread) (before after : Thread → Phase α) (woken : Thread → Bool)
    (thread : Thread) : Bool :=
  match before thread, after thread with
  | .waiting _, .locking _ => decide (thread ≠ mover)
  | _, .locking _ => woken thread
  | _, .checking _ => woken thread
  | _, .acting _ => woken thread
  | _, _ => false

/-- A thread the step leaves where it is keeps its notice. -/
theorem notice_heed_same {mover thread : Thread} {before after : Thread → Phase α}
    (woken : Thread → Bool) (side : Side) (same : after thread = before thread) :
    (after thread).notice side (heed mover before after woken thread) =
      (before thread).notice side (woken thread) := by
  unfold heed
  rw [same]
  cases before thread <;> rfl

variable [Fintype Thread]

def notices (side : Side) (woken : Thread → Bool) (phase : Thread → Phase α) : Nat :=
  ∑ thread, (phase thread).notice side (woken thread)

/-- One thread moves. -/
theorem notices_set (side : Side) (woken : Thread → Bool) (sync : Sync Thread α) (thread : Thread)
    (phase : Phase α) :
    notices side (heed thread sync.phase (sync.set thread phase).phase woken)
        (sync.set thread phase).phase + (sync.phase thread).notice side (woken thread) =
      notices side woken sync.phase +
        phase.notice side (heed thread sync.phase (sync.set thread phase).phase woken thread) := by
  have moved : (fun other => ((sync.set thread phase).phase other).notice side
      (heed thread sync.phase (sync.set thread phase).phase woken other)) =
        Function.update (fun other => (sync.phase other).notice side (woken other)) thread
          (phase.notice side (heed thread sync.phase (sync.set thread phase).phase woken thread)) := by
    funext other
    by_cases this : other = thread
    · subst this
      rw [Function.update_self, Sync.set_self]
    · rw [Function.update_of_ne this,
        notice_heed_same woken side (Sync.set_other sync phase this)]
  rw [notices, moved]
  exact sum_update id _ thread _

/-- While somebody sleeps, what is there has been announced. -/
def NoticeOk (queue : BlockingQueue α) (sync : Sync Thread α) (woken : Thread → Bool) : Prop :=
  ∀ side thread, sync.Sleeps side thread → queue.closed = false →
    queue.need side ≤ notices side woken sync.phase

variable {queue after : BlockingQueue α} {sync next : Sync Thread α} {woken woken' : Thread → Bool}
  {thread : Thread}

omit [DecidableEq Thread] in
/-- A step that puts nobody to sleep and loses no notice it does not spend. -/
theorem NoticeOk.mono (ok : NoticeOk queue sync woken) (closed : after.closed = queue.closed)
    (sleeps : ∀ side other, next.Sleeps side other → sync.Sleeps side other)
    (paid : ∀ side other, next.Sleeps side other → queue.closed = false →
      after.need side + notices side woken sync.phase ≤
        queue.need side + notices side woken' next.phase) :
    NoticeOk after next woken' := by
  intro side other asleep isOpen
  have before := closed.symm.trans isOpen
  have enough := ok side other (sleeps side other asleep) before
  have change := paid side other asleep before
  omega

/-- A thread changes its phase, and its notice pays for the change of the queue. -/
theorem NoticeOk.set (ok : NoticeOk queue sync woken) {before : Phase α} (phase : Phase α)
    (here : sync.phase thread = before) (closed : after.closed = queue.closed)
    (awake : ∀ call, phase ≠ .waiting call)
    (paid : ∀ side sleeper, sync.Sleeps side sleeper → queue.closed = false →
      after.need side + before.notice side (woken thread) ≤ queue.need side +
        phase.notice side (heed thread sync.phase (sync.set thread phase).phase woken thread)) :
    NoticeOk after (sync.set thread phase)
      (heed thread sync.phase (sync.set thread phase).phase woken) := by
  refine ok.mono closed (fun side other asleep => (sleeps_set phase awake asleep).2) ?_
  intro side other asleep isOpen
  have change := notices_set side woken sync thread phase
  have pays := paid side other (sleeps_set phase awake asleep).2 isOpen
  rw [here] at change
  omega

/-- Who goes to sleep found nothing. -/
theorem NoticeOk.sleep (ok : NoticeOk queue sync woken) {call : Call α}
    (checking : sync.phase thread = .checking call) (unready : ¬ call.Ready queue) :
    NoticeOk queue (sync.set thread (.waiting call))
      (heed thread sync.phase (sync.set thread (.waiting call)).phase woken) := by
  obtain ⟨_, side, there, nothing, _⟩ := Call.not_ready unready
  intro other sleeper asleep isOpen
  by_cases this : other = side
  · rw [this, nothing]
    exact Nat.zero_le _
  · have apart : call.side ≠ some other := by
      rw [there]
      exact fun same => this (Option.some.inj same).symm
    have before : sync.Sleeps other sleeper := by
      obtain ⟨call', waits, here⟩ := asleep
      by_cases mine : sleeper = thread
      · subst mine
        rw [Sync.set_self] at waits
        obtain rfl := Phase.waiting.inj waits
        exact absurd here apart
      · rw [Sync.set_other _ _ mine] at waits
        exact ⟨call', waits, here⟩
    have enough := ok other sleeper before isOpen
    have change := notices_set other woken sync thread (.waiting call)
    have spent : (Phase.checking call).notice other (woken thread) = 0 :=
      if_neg fun both => apart both.2
    rw [checking, spent] at change
    omega

/-! ## Steps -/

/-- **A notification sent is a notification received.** -/
theorem notices_wakesOne {call other : Call α} {outcome : Outcome α} {side : Side}
    {left : List Wake} {sleeper : Thread}
    (waking : sync.phase thread = .waking call outcome (.one side :: left))
    (sleeps : sync.phase sleeper = .waiting other) (there : other.side = some side) (place : Side) :
    notices place woken sync.phase = notices place
      (heed thread sync.phase
        ((sync.set thread (.waking call outcome left)).set sleeper (.locking other)).phase woken)
      ((sync.set thread (.waking call outcome left)).set sleeper (.locking other)).phase := by
  have apart : sleeper ≠ thread := by
    rintro rfl
    rw [sleeps] at waking
    cases waking
  let spent := Function.update (fun thread => (sync.phase thread).notice place (woken thread))
    thread (left.count (.one place))
  have moved (t : Thread) : (((sync.set thread (.waking call outcome left)).set sleeper
      (.locking other)).phase t).notice place (heed thread sync.phase
        ((sync.set thread (.waking call outcome left)).set sleeper (.locking other)).phase woken t) =
          Function.update spent sleeper (if side = place then 1 else 0) t := by
    by_cases woke : t = sleeper
    · subst woke
      rw [Function.update_self, Sync.set_self]
      simp [heed, sleeps, apart, Phase.notice, there]
    · rw [Function.update_of_ne woke]
      by_cases mine : t = thread
      · subst mine
        rw [Sync.set_other _ _ woke, Sync.set_self]
        simp [spent, Phase.notice]
      · have same : ((sync.set thread (.waking call outcome left)).set sleeper
            (.locking other)).phase t = sync.phase t := by
          rw [Sync.set_other _ _ woke, Sync.set_other _ _ mine]
        rw [notice_heed_same woken place same]
        simp [spent, mine]
  have quiet : spent sleeper = 0 := by
    simp [spent, apart, sleeps, Phase.notice]
  have own : (sync.phase thread).notice place (woken thread) =
      (Wake.one side :: left).count (.one place) := by
    rw [waking]
    rfl
  have first : ∑ t, spent t + (Wake.one side :: left).count (.one place) =
      ∑ t, (sync.phase t).notice place (woken t) + left.count (.one place) := by
    rw [← own]
    exact sum_update id _ thread _
  have second : Finset.univ.sum (Function.update spent sleeper (if side = place then 1 else 0)) +
      spent sleeper = ∑ t, spent t + if side = place then 1 else 0 :=
    sum_update id spent sleeper _
  rw [notices, notices, Finset.sum_congr rfl fun t _ => moved t]
  rw [quiet] at second
  by_cases same : side = place
  · subst same
    rw [List.count_cons_self] at first
    rw [if_pos rfl] at second ⊢
    omega
  · have other' : Wake.one side ≠ .one place := fun is => same (Wake.one.inj is)
    rw [List.count_cons_of_ne other'] at first
    rw [if_neg same] at second ⊢
    omega

/-- `notify_all` leaves nothing behind on the other side. -/
theorem notices_wakesAll {call : Call α} {outcome : Outcome α} {side : Side} {left : List Wake}
    (waking : sync.phase thread = .waking call outcome (.all side :: left)) (place : Side) :
    notices place woken sync.phase ≤ notices place
      (heed thread sync.phase
        ((sync.set thread (.waking call outcome left)).wakeAll side).phase woken)
      ((sync.set thread (.waking call outcome left)).wakeAll side).phase := by
  refine Finset.sum_le_sum fun other _ => ?_
  rcases wakeAll_phase (sync.set thread (.waking call outcome left)) side other with
    same | ⟨call', asleep, _⟩
  · by_cases mine : other = thread
    · subst mine
      rw [same, Sync.set_self, waking]
      simp [Phase.notice]
    · rw [Sync.set_other _ _ mine] at same
      exact (notice_heed_same woken place same).ge
  · have before : sync.phase other = .waiting call' := by
      by_cases mine : other = thread
      · subst mine
        rw [Sync.set_self] at asleep
        cases asleep
      · rwa [Sync.set_other _ _ mine] at asleep
    rw [before]
    exact Nat.zero_le _

/-- **The moves lose no notification.** -/
theorem NoticeOk.moves (ok : NoticeOk queue sync woken) (moves : Moves queue thread sync next) :
    NoticeOk queue next (heed thread sync.phase next.phase woken) := by
  cases moves with
  | @locks call locking free =>
      refine ok.set (.checking call) locking rfl nofun fun side _ _ _ => ?_
      simp [heed, locking, Phase.notice]
  | @passes call checking ready =>
      refine ok.set (.acting call) checking rfl nofun fun side _ _ _ => ?_
      simp [heed, checking, Phase.notice]
  | waits checking unready => exact ok.sleep checking unready
  | @unlocks call outcome leaving =>
      exact ok.set (.waking call outcome outcome.wakes) leaving rfl nofun fun _ _ _ _ => le_rfl
  | @wakesNobody call outcome side left waking awake =>
      refine ok.mono rfl
        (fun _ _ asleep => (sleeps_set (.waking call outcome left) nofun asleep).2) ?_
      intro place sleeper asleep _
      have apart : Wake.one side ≠ .one place := by
        intro same
        obtain rfl := Wake.one.inj same
        exact awake sleeper (sleeps_set (.waking call outcome left) nofun asleep).2
      have change := notices_set place woken sync thread (.waking call outcome left)
      rw [waking] at change
      simp only [Phase.notice, List.count_cons_of_ne apart] at change
      omega
  | @wakesOne call other outcome side left sleeper waking sleeps there =>
      refine ok.mono rfl (fun _ _ asleep => (sleeps_set (.waking call outcome left) nofun
        (sleeps_set (.locking other) nofun asleep).2).2) ?_
      intro place _ _ _
      exact Nat.add_le_add_left (notices_wakesOne waking sleeps there place).le _
  | @wakesAll call outcome side left waking =>
      refine ok.mono rfl (fun _ _ asleep =>
        (sleeps_set (.waking call outcome left) nofun (wakeAll_sleeps asleep).2).2) ?_
      intro place _ _ _
      exact Nat.add_le_add_left (notices_wakesAll waking place) _

/-- **An act announces what it makes room for.** -/
theorem NoticeOk.act (ok : NoticeOk queue sync woken)
    (bounded : ∀ other, sync.Sleeps .producers other → queue.capacity ≠ 0) {call : Call α} {outcome : Outcome α}
    (acting : sync.phase thread = .acting call) (acts : Acts queue call outcome after)
    (returns : outcome ≠ .threw) :
    NoticeOk after (sync.set thread (.leaving call outcome))
      (heed thread sync.phase (sync.set thread (.leaving call outcome)).phase woken) := by
  -- a thread that was not woken up has no notice to spend
  have spends (side : Side) : (Phase.acting call).notice side (woken thread) ≤
      if call.side = some side then 1 else 0 := by
    simp only [Phase.notice]
    split <;> simp_all
  cases acts with
  | @pushes value accepted _ pushed =>
      refine ok.set _ acting (BlockingQueue.push_closed pushed) (by simp) fun side other asleep isOpen => ?_
      cases accepted with
      | true =>
          have capacity := BlockingQueue.push_capacity pushed
          have content := (BlockingQueue.push_accepted pushed).2.2
          have length : after.queue.length = queue.queue.length + 1 := by simp [content]
          have spent := spends side
          cases side with
          | producers =>
              simp only [Call.side, if_true] at spent
              have room := after.bounded.resolve_left (capacity ▸ bounded other asleep)
              simp only [BlockingQueue.need, capacity, length] at room ⊢
              omega
          | consumers =>
              simp [BlockingQueue.need, Phase.notice, Call.side, Outcome.wakes, length]
      | false =>
          rw [(BlockingQueue.push_refused pushed).1] at isOpen
          cases isOpen
  | throws isOpen => exact absurd rfl returns
  | @pops value _ popped =>
      have capacity := BlockingQueue.pop_capacity popped
      refine ok.set _ acting (BlockingQueue.pop_closed popped) (by simp) fun side other asleep isOpen => ?_
      cases value with
      | some value =>
          have length : queue.queue.length = after.queue.length + 1 := by
            simp [(BlockingQueue.pop_value popped).1]
          have spent := spends side
          cases side with
          | producers =>
              simp only [BlockingQueue.need, Phase.notice, Call.side, Outcome.wakes, capacity,
                length]
              simp
              omega
          | consumers =>
              simp only [Call.side, if_true] at spent
              simp only [BlockingQueue.need, length]
              omega
      | none =>
          rw [(BlockingQueue.pop_nothing popped).1] at isOpen
          cases isOpen
  | closes =>
      intro side other _ isOpen
      cases isOpen
  | sizes =>
      refine ok.set _ acting rfl (by simp) fun side _ _ _ => ?_
      simp [Phase.notice, Call.side]
  | tells =>
      refine ok.set _ acting rfl (by simp) fun side _ _ _ => ?_
      simp [Phase.notice, Call.side]

end Notices

/-! ## Every run -/

section Watched

variable (Thread : Type v) (α : Type u)

/-- The queue, and who has been woken up. -/
structure Watched where
  state : QueueState Thread α
  woken : Thread → Bool

variable {Thread α}

/-- No insertion has failed to find memory. -/
def Allocated (history : List (Event Thread α)) : Prop :=
  ∀ thread call, Event.took thread call .threw ∉ history

/-- A notification of a side still to be sent. -/
def Phase.Notifies (side : Side) : Phase α → Prop
  | leaving _ outcome => .one side ∈ outcome.wakes ∨ .all side ∈ outcome.wakes
  | waking _ _ left => .one side ∈ left ∨ .all side ∈ left
  | _ => False

/-- On the way out of the wait of a side. -/
def Phase.Resumes (side : Side) : Phase α → Prop
  | locking call | checking call | acting call => call.side = some side
  | _ => False

/-- A thread has a notification to send, or a wake-up received and not yet processed. -/
def Watched.UnderWay (watched : Watched Thread α) (side : Side) (thread : Thread) : Prop :=
  (watched.state.sync.phase thread).Notifies side ∨
    watched.woken thread = true ∧ (watched.state.sync.phase thread).Resumes side

variable [DecidableEq Thread]

/-- **The queue watched**: its own steps, and the history variable they determine. -/
def watchedQueue (Thread : Type v) [DecidableEq Thread] (α : Type u) (capacity : Nat) :
    System (Watched Thread α) where
  start watched := watched = ⟨{ queue := .create capacity }, fun _ => false⟩
  step watched next := ∃ thread, QueueStep thread watched.state next.state ∧
    Allocated next.state.history ∧
      next.woken = heed thread watched.state.sync.phase next.state.sync.phase watched.woken

variable {capacity : Nat} {state next : QueueState Thread α} {watched : Watched Thread α}
  {thread : Thread}

theorem QueueStep.history_grows (step : QueueStep thread state next) :
    ∃ events, next.history = state.history ++ events := by
  cases step with
  | moves _ => exact ⟨[], (List.append_nil _).symm⟩
  | stirs _ => exact ⟨[], (List.append_nil _).symm⟩
  | _ => exact ⟨_, rfl⟩

/-- **Watching changes nothing**: the runs are those of the queue in which no insertion
threw. -/
theorem watched_iff : (∃ woken, (watchedQueue Thread α capacity).Reachable ⟨state, woken⟩) ↔
    (blockingQueue Thread α capacity).Reachable state ∧ Allocated state.history := by
  constructor
  · rintro ⟨woken, reached⟩
    generalize here : (⟨state, woken⟩ : Watched Thread α) = watched at reached
    induction reached generalizing state woken with
    | start initial =>
        obtain rfl := initial
        cases here
        exact ⟨.start rfl, fun _ _ => List.not_mem_nil⟩
    | step _ stepped ih =>
        obtain ⟨thread, step, allocated, _⟩ := stepped
        subst here
        exact ⟨(ih _ rfl).1.step ⟨thread, step⟩, allocated⟩
  · rintro ⟨reached, allocated⟩
    induction reached with
    | start initial =>
        obtain rfl := initial
        exact ⟨_, .start rfl⟩
    | @step state next _ stepped ih =>
        obtain ⟨thread, step⟩ := stepped
        obtain ⟨events, grown⟩ := step.history_grows
        have before : Allocated state.history := fun thread call member =>
          allocated thread call (grown ▸ List.mem_append_left events member)
        obtain ⟨woken, run⟩ := ih before
        exact ⟨heed thread state.sync.phase next.sync.phase woken,
          run.step ⟨thread, step, allocated, rfl⟩⟩

variable [Fintype Thread]

/-- What holds in every state of such a run. -/
structure WatchedOk (watched : Watched Thread α) : Prop where
  sync : SyncOk watched.state.queue watched.state.sync
  wake : WakeOk watched.state.queue watched.state.sync false
  notice : NoticeOk watched.state.queue watched.state.sync watched.woken

theorem watchedOk_step (ok : WatchedOk watched) (step : QueueStep thread watched.state next)
    (allocated : Allocated next.history) :
    WatchedOk ⟨next, heed thread watched.state.sync.phase next.sync.phase watched.woken⟩ := by
  cases step with
  | invokes idle =>
      refine ⟨ok.sync.outside idle id id nofun, ok.wake.invoke idle _, ?_⟩
      exact ok.notice.set (.locking _) idle rfl nofun fun _ _ _ _ =>
        Nat.add_le_add_left (Nat.zero_le _) _
  | moves moves => exact ⟨ok.sync.moves moves, ok.wake.moves moves, ok.notice.moves moves⟩
  | stirs waiting =>
      refine ⟨ok.sync.outside waiting id id nofun, ok.wake.wake waiting, ?_⟩
      exact ok.notice.set (.locking _) waiting rfl nofun fun _ _ _ _ =>
        Nat.add_le_add_left (Nat.zero_le _) _
  | @acts call outcome queue acting acts =>
      have returns : outcome ≠ .threw := by
        rintro rfl
        exact allocated thread call (List.mem_append_right _ (List.mem_singleton_self _))
      exact ⟨ok.sync.act acting outcome queue, ok.wake.act acting acts returns,
        ok.notice.act ok.wake.bounded acting acts returns⟩
  | @returns call outcome waking =>
      refine ⟨ok.sync.outside waking id id nofun, ok.wake.finish waking, ?_⟩
      exact ok.notice.set .idle waking rfl nofun fun _ _ _ _ => le_rfl

theorem watchedOk (reached : (watchedQueue Thread α capacity).Reachable watched) :
    WatchedOk watched := by
  refine System.invariant ?_ ?_ reached
  · rintro _ rfl
    exact ⟨syncOk_start _, wakeOk_start _, nofun⟩
  · rintro watched ⟨state, woken⟩ ok ⟨thread, step, allocated, follows⟩
    have heeded : woken = heed thread watched.state.sync.phase state.sync.phase watched.woken :=
      follows
    rw [heeded]
    exact watchedOk_step ok step allocated

omit [DecidableEq Thread] [Fintype Thread] in
/-- A notice is somebody's. -/
theorem underWay_of_notice {side : Side} {other : Thread}
    (some : (watched.state.sync.phase other).notice side (watched.woken other) ≠ 0) :
    watched.UnderWay side other := by
  unfold Watched.UnderWay
  cases here : watched.state.sync.phase other with
  | leaving call outcome =>
      rw [here] at some
      exact Or.inl (Or.inl (List.count_pos_iff.mp (Nat.pos_of_ne_zero some)))
  | waking call outcome left =>
      rw [here] at some
      exact Or.inl (Or.inl (List.count_pos_iff.mp (Nat.pos_of_ne_zero some)))
  | idle => exact absurd (by rw [here]; rfl) some
  | waiting call => exact absurd (by rw [here]; rfl) some
  | _ =>
      rw [here] at some
      have both := not_not.mp fun wrong => some (if_neg wrong)
      exact Or.inr ⟨both.1, both.2⟩

end Watched

end Stgs.Concurrent
