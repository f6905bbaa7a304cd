/-
# Concurrent.Wakeups -- no wake-up is lost

A thread that sleeps while its call could go on relies on another one.  A closed queue:
some thread has still to notify all.  An open one: for each free place (each value) there
is a thread of that side on its way to it, or a notification still to come (`credit`).
An insertion that threw has used up a notification; from then on the promise for the
producers is off (`aborted`).

`WakeOk` is kept by every step, spurious wake-ups included.  `asleep_of_still`: when no
thread in a call can take a step, those that sleep could not go on anyway.
-/
import Mathlib.Algebra.BigOperators.Group.Finset.Basic
import Mathlib.Data.Fintype.Basic
import Mathlib.Algebra.BigOperators.Group.Finset.Piecewise
import Mathlib.Algebra.Order.BigOperators.Group.Finset
import Stgs.Concurrent.Monitor
import Stgs.Theory.Measure

namespace Stgs.Concurrent

open Stgs.Theory.Measure

set_option autoImplicit false

universe u v

section Credit

variable {α : Type u}

/-- The values (the places) a phase has in view. -/
def Phase.credit (side : Side) : Phase α → Nat
  | locking call | checking call | acting call => if call.side = some side then 1 else 0
  | leaving _ outcome => outcome.wakes.count (.one side)
  | waking _ _ left => left.count (.one side)
  | _ => 0

/-- A `notify_all` is still to come. -/
def Phase.WakesAll (side : Side) : Phase α → Prop
  | leaving _ outcome => .all side ∈ outcome.wakes
  | waking _ _ left => .all side ∈ left
  | _ => False

/-- How many threads of a side could go on. -/
def BlockingQueue.need (queue : BlockingQueue α) : Side → Nat
  | .producers => queue.capacity - queue.queue.length
  | .consumers => queue.queue.length

end Credit

section Wakeups

variable {Thread : Type v} [DecidableEq Thread] [Fintype Thread] {α : Type u}

def Sync.credit (sync : Sync Thread α) (side : Side) : Nat :=
  ∑ thread, (sync.phase thread).credit side

theorem credit_set (sync : Sync Thread α) (side : Side) (thread : Thread) (phase : Phase α) :
    (sync.set thread phase).credit side + (sync.phase thread).credit side =
      sync.credit side + phase.credit side :=
  sum_update (Phase.credit side) sync.phase thread phase

/-- What every sleeper relies on. -/
structure WakeOk (queue : BlockingQueue α) (sync : Sync Thread α) (aborted : Bool) : Prop where
  bounded : ∀ thread, sync.Sleeps .producers thread → queue.capacity ≠ 0
  closed : ∀ side thread, sync.Sleeps side thread → queue.closed = true →
    ∃ other, (sync.phase other).WakesAll side
  isOpen : ∀ side thread, sync.Sleeps side thread → queue.closed = false →
    (side = .producers ∧ aborted = true) ∨ queue.need side ≤ sync.credit side

omit [DecidableEq Thread] in
theorem wakeOk_start (queue : BlockingQueue α) : WakeOk queue ({} : Sync Thread α) false where
  bounded _ sleeps := by obtain ⟨call, waits, _⟩ := sleeps; cases waits
  closed _ _ sleeps := by obtain ⟨call, waits, _⟩ := sleeps; cases waits
  isOpen _ _ sleeps := by obtain ⟨call, waits, _⟩ := sleeps; cases waits

variable {queue after : BlockingQueue α} {sync next : Sync Thread α} {thread : Thread}
  {aborted : Bool}

omit [DecidableEq Thread] in
/-- A step that puts nobody to sleep, keeps the announced notifications and spends no
credit it has not earned. -/
theorem WakeOk.mono (ok : WakeOk queue sync aborted) (capacity : after.capacity = queue.capacity)
    (closed : after.closed = queue.closed)
    (sleeps : ∀ side other, next.Sleeps side other → sync.Sleeps side other)
    (wakes : ∀ side other, next.Sleeps side other → ∀ waker, (sync.phase waker).WakesAll side →
      ∃ waker, (next.phase waker).WakesAll side)
    (credit : ∀ side other, next.Sleeps side other → queue.closed = false →
      after.need side + sync.credit side ≤ queue.need side + next.credit side) :
    WakeOk after next aborted := by
  refine ⟨fun other asleep => ?_, fun side other asleep isClosed => ?_,
    fun side other asleep isOpen => ?_⟩
  · rw [capacity]
    exact ok.bounded other (sleeps _ _ asleep)
  · obtain ⟨waker, will⟩ := ok.closed side other (sleeps _ _ asleep) (closed.symm.trans isClosed)
    exact wakes side other asleep waker will
  · refine (ok.isOpen side other (sleeps _ _ asleep) (closed.symm.trans isOpen)).imp_right ?_
    intro enough
    have change := credit side other asleep (closed.symm.trans isOpen)
    omega

omit [Fintype Thread] in
/-- A thread that does not fall asleep. -/
theorem sleeps_set (phase : Phase α) (awake : ∀ call, phase ≠ .waiting call) {side : Side}
    {other : Thread} (asleep : (sync.set thread phase).Sleeps side other) :
    other ≠ thread ∧ sync.Sleeps side other := by
  obtain ⟨call, waits, there⟩ := asleep
  have apart : other ≠ thread := by
    rintro rfl
    rw [Sync.set_self] at waits
    exact awake call waits
  rw [Sync.set_other _ _ apart] at waits
  exact ⟨apart, call, waits, there⟩

/-- A thread changes its phase; it keeps its announcements, and its credit pays for the
change of the queue. -/
theorem WakeOk.set (ok : WakeOk queue sync aborted) {before : Phase α} (phase : Phase α)
    (here : sync.phase thread = before) (capacity : after.capacity = queue.capacity)
    (closed : after.closed = queue.closed) (awake : ∀ call, phase ≠ .waiting call)
    (wakes : ∀ side, before.WakesAll side → phase.WakesAll side)
    (credit : ∀ side, queue.closed = false → (side = .producers → queue.capacity ≠ 0) →
      after.need side + before.credit side ≤ queue.need side + phase.credit side) :
    WakeOk after (sync.set thread phase) aborted := by
  refine ok.mono capacity closed (fun side other asleep => (sleeps_set phase awake asleep).2)
    (fun side other asleep waker will => ?_) (fun side other asleep isOpen => ?_)
  · by_cases this : waker = thread
    · subst this
      refine ⟨waker, ?_⟩
      rw [Sync.set_self]
      exact wakes side (here ▸ will)
    · refine ⟨waker, ?_⟩
      rw [Sync.set_other _ _ this]
      exact will
  · have change := credit_set sync side thread phase
    have bounded (same : side = .producers) : queue.capacity ≠ 0 := by
      subst same
      exact ok.bounded other (sleeps_set phase awake asleep).2
    have paid := credit side isOpen bounded
    rw [here] at change
    omega

/-- A thread that wakes up only adds to the credit. -/
theorem WakeOk.wake (ok : WakeOk queue sync aborted) {call : Call α}
    (here : sync.phase thread = .waiting call) :
    WakeOk queue (sync.set thread (.locking call)) aborted :=
  ok.set _ here rfl rfl nofun (fun _ => False.elim) fun _ _ _ =>
    Nat.add_le_add_left (Nat.zero_le _) _

omit [DecidableEq Thread] [Fintype Thread] in
/-- After `notify_all` nobody sleeps on that side. -/
theorem wakeAll_sleeps {side other : Side} {sleeper : Thread}
    (asleep : (sync.wakeAll side).Sleeps other sleeper) :
    other ≠ side ∧ sync.Sleeps other sleeper := by
  obtain ⟨call, waits, there⟩ := asleep
  rcases wakeAll_phase sync side sleeper with same | ⟨call', before, woken⟩
  · rw [same] at waits
    refine ⟨?_, call, waits, there⟩
    rintro rfl
    simp [Sync.wakeAll, waits, there] at same
  · rw [woken] at waits
    cases waits

omit [DecidableEq Thread] in
theorem wakeAll_credit (sync : Sync Thread α) (side other : Side) :
    sync.credit other ≤ (sync.wakeAll side).credit other := by
  refine Finset.sum_le_sum fun thread _ => ?_
  rcases wakeAll_phase sync side thread with same | ⟨call, before, woken⟩
  · rw [same]
  · rw [before]
    exact Nat.zero_le _

omit [DecidableEq Thread] [Fintype Thread] in
theorem wakeAll_wakesAll (side : Side) {other : Side} {waker : Thread}
    (will : (sync.phase waker).WakesAll other) :
    ((sync.wakeAll side).phase waker).WakesAll other := by
  rcases wakeAll_phase sync side waker with same | ⟨call, before, woken⟩
  · rw [same]
    exact will
  · rw [before] at will
    exact will.elim

/-- A call that waits could not go on: the queue is open, and has nothing for it. -/
theorem Call.not_ready {call : Call α} (unready : ¬ call.Ready queue) :
    queue.closed = false ∧ ∃ side, call.side = some side ∧ queue.need side = 0 ∧
      (side = .producers → queue.capacity ≠ 0) := by
  cases call with
  | push value =>
      simp only [Call.Ready, not_or, Bool.not_eq_true, not_lt] at unready
      obtain ⟨isOpen, bounded, full⟩ := unready
      exact ⟨isOpen, .producers, rfl, Nat.sub_eq_zero_of_le full, fun _ => bounded⟩
  | pop =>
      simp only [Call.Ready, not_or, Bool.not_eq_true, not_not] at unready
      obtain ⟨isOpen, empty⟩ := unready
      exact ⟨isOpen, .consumers, rfl, by simp [BlockingQueue.need, empty], nofun⟩
  | _ => exact absurd trivial unready

/-- A call that waits had no business there. -/
theorem WakeOk.sleep (ok : WakeOk queue sync aborted) {call : Call α}
    (checking : sync.phase thread = .checking call) (unready : ¬ call.Ready queue) :
    WakeOk queue (sync.set thread (.waiting call)) aborted := by
  obtain ⟨isOpen, side, there, none, bounded⟩ := Call.not_ready unready
  -- who sleeps elsewhere slept before
  have before {other : Side} {sleeper : Thread}
      (asleep : (sync.set thread (.waiting call)).Sleeps other sleeper) (apart : other ≠ side) :
      sync.Sleeps other sleeper := by
    obtain ⟨call', waits, here⟩ := asleep
    by_cases this : sleeper = thread
    · subst this
      rw [Sync.set_self] at waits
      obtain rfl := Phase.waiting.inj waits
      exact absurd (Option.some.inj (here.symm.trans there)) apart
    · rw [Sync.set_other _ _ this] at waits
      exact ⟨call', waits, here⟩
  refine ⟨fun sleeper asleep => ?_, fun other sleeper asleep isClosed => ?_,
    fun other sleeper asleep _ => ?_⟩
  · by_cases this : Side.producers = side
    · exact bounded this.symm
    · exact ok.bounded sleeper (before asleep this)
  · rw [isOpen] at isClosed
    cases isClosed
  · by_cases this : other = side
    · rw [this, none]
      exact Or.inr (Nat.zero_le _)
    · refine (ok.isOpen other sleeper (before asleep this) isOpen).imp_right fun enough => ?_
      have change := credit_set sync other thread (.waiting call)
      have apart : call.side ≠ some other := by
        rw [there]
        exact fun same => this (Option.some.inj same).symm
      rw [checking] at change
      simp only [Phase.credit, if_neg apart] at change
      omega

/-- **The moves lose no wake-up.** -/
theorem WakeOk.moves (ok : WakeOk queue sync aborted) (moves : Moves queue thread sync next) :
    WakeOk queue next aborted := by
  cases moves with
  | locks locking free =>
      have same := ok.set (.checking _) locking rfl rfl nofun (fun _ => id) fun _ _ _ => le_rfl
      exact ⟨same.bounded, same.closed, same.isOpen⟩
  | passes checking ready => exact ok.set _ checking rfl rfl nofun (fun _ => id) fun _ _ _ => le_rfl
  | waits checking unready =>
      have same := ok.sleep checking unready
      exact ⟨same.bounded, same.closed, same.isOpen⟩
  | @unlocks call outcome leaving =>
      have same := ok.set (.waking call outcome outcome.wakes) leaving rfl rfl nofun
        (fun _ => id) fun _ _ _ => le_rfl
      exact ⟨same.bounded, same.closed, same.isOpen⟩
  | @wakesOne call other outcome side left sleeper waking sleeps there =>
      have apart : sleeper ≠ thread := by
        rintro rfl
        rw [sleeps] at waking
        cases waking
      have first (other : Side) := credit_set sync other thread (.waking call outcome left)
      have second (side : Side) :=
        credit_set (sync.set thread (.waking call outcome left)) side sleeper (.locking other)
      rw [Sync.set_other _ _ apart, sleeps] at second
      rw [waking] at first
      refine ok.mono rfl rfl
        (fun _ _ asleep => (sleeps_set (.waking call outcome left) nofun
          (sleeps_set (.locking other) nofun asleep).2).2)
        (fun place _ asleep waker will => ⟨waker, ?_⟩) (fun place _ asleep _ => ?_)
      · by_cases this : waker = thread
        · subst this
          rw [Sync.set_other _ _ apart.symm, Sync.set_self]
          rw [waking] at will
          exact (List.mem_cons.mp will).resolve_left nofun
        · by_cases that : waker = sleeper
          · subst that
            rw [sleeps] at will
            exact will.elim
          · rw [Sync.set_other _ _ that, Sync.set_other _ _ this]
            exact will
      · -- the notification spent is the sleeper's credit
        have spent := first place
        have earned := second place
        by_cases same : side = place
        · subst same
          simp only [Phase.credit, List.count_cons_self, if_pos there] at spent earned
          omega
        · have apart' : Wake.one side ≠ .one place := fun is => same (Wake.one.inj is)
          simp only [Phase.credit, List.count_cons_of_ne apart'] at spent earned
          omega
  | @wakesNobody call outcome side left waking awake =>
      have before {place : Side} {sleeper : Thread} (asleep :
          (sync.set thread (.waking call outcome left)).Sleeps place sleeper) :
          sync.Sleeps place sleeper := (sleeps_set (.waking call outcome left) nofun asleep).2
      refine ok.mono rfl rfl (fun _ _ => before)
        (fun place _ asleep waker will => ⟨waker, ?_⟩) (fun place sleeper asleep _ => ?_)
      · by_cases this : waker = thread
        · subst this
          rw [Sync.set_self]
          rw [waking] at will
          exact (List.mem_cons.mp will).resolve_left nofun
        · rw [Sync.set_other _ _ this]
          exact will
      · have apart' : Wake.one side ≠ .one place := by
          rintro is
          obtain rfl := Wake.one.inj is
          exact awake sleeper (before asleep)
        have change := credit_set sync place thread (.waking call outcome left)
        rw [waking] at change
        simp only [Phase.credit, List.count_cons_of_ne apart'] at change
        omega
  | @wakesAll call outcome side left waking =>
      refine ok.mono rfl rfl
        (fun _ _ asleep =>
          (sleeps_set (.waking call outcome left) nofun (wakeAll_sleeps asleep).2).2)
        (fun place _ asleep waker will => ⟨waker, wakeAll_wakesAll side ?_⟩)
        (fun place _ asleep _ => ?_)
      · have apart := (wakeAll_sleeps asleep).1
        by_cases this : waker = thread
        · subst this
          rw [Sync.set_self]
          rw [waking] at will
          exact (List.mem_cons.mp will).resolve_left fun is => apart (Wake.all.inj is)
        · rw [Sync.set_other _ _ this]
          exact will
      · have change := credit_set sync place thread (.waking call outcome left)
        have more := wakeAll_credit (sync.set thread (.waking call outcome left)) side place
        rw [waking] at change
        have apart' : Wake.all side ≠ .one place := nofun
        simp only [Phase.credit, List.count_cons_of_ne apart'] at change
        omega

/-- **An act loses no wake-up**: what it makes room for it will announce. -/
theorem WakeOk.act (ok : WakeOk queue sync aborted) {call : Call α} {outcome : Outcome α}
    (acting : sync.phase thread = .acting call) (acts : Acts queue call outcome after)
    (returns : outcome ≠ .threw) :
    WakeOk after (sync.set thread (.leaving call outcome)) aborted := by
  cases acts with
  | @pushes value accepted _ pushed =>
      have capacity := BlockingQueue.push_capacity pushed
      refine ok.set _ acting capacity (BlockingQueue.push_closed pushed) nofun
        (fun _ => False.elim) fun side isOpen bounded => ?_
      cases accepted with
      | true =>
          have content := (BlockingQueue.push_accepted pushed).2.2
          have fits := after.bounded
          have length : after.queue.length = queue.queue.length + 1 := by simp [content]
          cases side with
          | producers =>
              have room := fits.resolve_left (capacity ▸ bounded rfl)
              simp only [BlockingQueue.need, Phase.credit, Call.side, Outcome.wakes, capacity,
                length] at room ⊢
              simp
              omega
          | consumers => simp [BlockingQueue.need, Phase.credit, Call.side, Outcome.wakes, length]
      | false =>
          rw [(BlockingQueue.push_refused pushed).1] at isOpen
          cases isOpen
  | throws isOpen => exact absurd rfl returns
  | @pops value _ popped =>
      have capacity := BlockingQueue.pop_capacity popped
      refine ok.set _ acting capacity (BlockingQueue.pop_closed popped) nofun
        (fun _ => False.elim) fun side isOpen _ => ?_
      cases value with
      | some value =>
          have length : queue.queue.length = after.queue.length + 1 := by
            simp [(BlockingQueue.pop_value popped).1]
          cases side with
          | producers =>
              simp only [BlockingQueue.need, Phase.credit, Call.side, Outcome.wakes, capacity,
                length]
              simp
              omega
          | consumers => simp [BlockingQueue.need, Phase.credit, Call.side, Outcome.wakes, length]
      | none =>
          rw [(BlockingQueue.pop_nothing popped).1] at isOpen
          cases isOpen
  | closes =>
      have will (side : Side) :
          ((sync.set thread (.leaving .close .closed)).phase thread).WakesAll side := by
        rw [Sync.set_self]
        cases side <;> simp [Phase.WakesAll, Outcome.wakes]
      refine ⟨fun other asleep => ?_, fun side other _ _ => ⟨thread, will side⟩, nofun⟩
      exact ok.bounded other (sleeps_set (.leaving .close .closed) nofun asleep).2
  | sizes =>
      exact ok.set _ acting rfl rfl nofun (fun _ => False.elim) fun _ _ _ => by
        simp [Phase.credit, Call.side]
  | tells =>
      exact ok.set _ acting rfl rfl nofun (fun _ => False.elim) fun _ _ _ => by
        simp [Phase.credit, Call.side]

/-- An insertion that throws announces nothing: the producers' promise is off. -/
theorem WakeOk.abort (ok : WakeOk queue sync aborted) {value : α}
    (acting : sync.phase thread = .acting (.push value)) :
    WakeOk queue (sync.set thread (.leaving (.push value) .threw)) true := by
  have before {side : Side} {other : Thread}
      (asleep : (sync.set thread (.leaving (.push value) .threw)).Sleeps side other) :
      sync.Sleeps side other := (sleeps_set (.leaving (.push value) .threw) nofun asleep).2
  refine ⟨fun other asleep => ok.bounded other (before asleep), fun side other asleep isClosed => ?_,
    fun side other asleep isOpen => ?_⟩
  · obtain ⟨waker, will⟩ := ok.closed side other (before asleep) isClosed
    have apart : waker ≠ thread := by
      rintro rfl
      rw [acting] at will
      exact will
    refine ⟨waker, ?_⟩
    rw [Sync.set_other _ _ apart]
    exact will
  · cases side with
    | producers => exact Or.inl ⟨rfl, rfl⟩
    | consumers =>
        have enough := (ok.isOpen .consumers other (before asleep) isOpen).resolve_left nofun
        have change := credit_set sync .consumers thread (.leaving (.push value) .threw)
        rw [acting] at change
        simp only [Phase.credit, Call.side, Outcome.wakes] at change
        simp at change
        exact Or.inr (by omega)

/-- A thread at the start of a call. -/
theorem WakeOk.invoke (ok : WakeOk queue sync aborted) (idle : sync.phase thread = .idle)
    (call : Call α) : WakeOk queue (sync.set thread (.locking call)) aborted :=
  ok.set _ idle rfl rfl nofun (fun _ => False.elim) fun _ _ _ =>
    Nat.add_le_add_left (Nat.zero_le _) _

/-- A thread at the end of a call. -/
theorem WakeOk.finish (ok : WakeOk queue sync aborted) {call : Call α} {outcome : Outcome α}
    (waking : sync.phase thread = .waking call outcome []) :
    WakeOk queue (sync.set thread .idle) aborted :=
  ok.set _ waking rfl rfl nofun (fun _ will => by cases will) fun _ _ _ => le_rfl

/-! ## When nothing moves -/

/-- No thread in a call can take a step: it cannot move, act or return. -/
structure Still (queue : BlockingQueue α) (sync : Sync Thread α) : Prop where
  moves : ∀ thread next, ¬ Moves queue thread sync next
  acts : ∀ thread call, sync.phase thread ≠ .acting call
  returns : ∀ thread call outcome, sync.phase thread ≠ .waking call outcome []

omit [Fintype Thread] in
/-- Then every thread is out of its call or asleep in it. -/
theorem Still.resting (still : Still queue sync) (ok : SyncOk queue sync) (thread : Thread) :
    sync.phase thread = .idle ∨ ∃ call, sync.phase thread = .waiting call := by
  have outside (other : Thread) : ¬ (sync.phase other).Holds := by
    intro inside
    cases here : sync.phase other with
    | checking call =>
        by_cases ready : call.Ready queue
        · exact still.moves other _ (.passes here ready)
        · exact still.moves other _ (.waits here ready)
    | acting call => exact still.acts other call here
    | leaving call outcome => exact still.moves other _ (.unlocks here)
    | _ =>
        rw [here] at inside
        exact inside
  have free : sync.owner = none := by
    cases owner : sync.owner with
    | none => rfl
    | some other => exact absurd (ok.holder other owner) (outside other)
  cases here : sync.phase thread with
  | idle => exact Or.inl rfl
  | waiting call => exact Or.inr ⟨call, rfl⟩
  | locking call => exact absurd (.locks here free) (still.moves thread _)
  | waking call outcome left =>
      cases left with
      | nil => exact absurd here (still.returns thread call outcome)
      | cons wake left =>
          cases wake with
          | all side => exact absurd (.wakesAll here) (still.moves thread _)
          | one side =>
              by_cases somebody : ∃ other, sync.Sleeps side other
              · obtain ⟨other, call', sleeps, there⟩ := somebody
                exact absurd (.wakesOne here sleeps there) (still.moves thread _)
              · exact absurd (.wakesNobody here fun other asleep => somebody ⟨other, asleep⟩)
                  (still.moves thread _)
  | checking call => exact absurd (here ▸ trivial) (outside thread)
  | acting call => exact absurd here (still.acts thread call)
  | leaving call outcome => exact absurd (.unlocks here) (still.moves thread _)

/-- **No wake-up is lost**: when nothing moves, a thread sleeps only on an open queue that
has nothing for it, or on the producers' side after an insertion threw. -/
theorem asleep_of_still (still : Still queue sync) (ok : SyncOk queue sync)
    (wake : WakeOk queue sync aborted) {call : Call α}
    (waits : sync.phase thread = .waiting call) :
    queue.closed = false ∧ (¬ call.Ready queue ∨ aborted = true) := by
  have resting := still.resting ok
  obtain ⟨side, there⟩ := Option.isSome_iff_exists.mp (ok.asleep thread call waits)
  have asleep : sync.Sleeps side thread := ⟨call, waits, there⟩
  have isOpen : queue.closed = false := by
    by_contra isClosed
    obtain ⟨other, will⟩ := wake.closed side thread asleep (by simpa using isClosed)
    rcases resting other with idle | ⟨call', sleeps⟩
    · rw [idle] at will
      exact will
    · rw [sleeps] at will
      exact will
  have spent : sync.credit side = 0 := by
    refine Finset.sum_eq_zero fun other _ => ?_
    rcases resting other with idle | ⟨call', sleeps⟩
    · rw [idle]
      rfl
    · rw [sleeps]
      rfl
  refine ⟨isOpen, ?_⟩
  rcases wake.isOpen side thread asleep isOpen with ⟨_, threw⟩ | enough
  · exact Or.inr threw
  refine Or.inl fun ready => ?_
  rw [spent] at enough
  cases call with
  | push value =>
      obtain rfl := Option.some.inj there
      have bounded := wake.bounded thread asleep
      have room := (ready.resolve_left (by simp [isOpen])).resolve_left bounded
      simp only [BlockingQueue.need] at enough
      omega
  | pop =>
      obtain rfl := Option.some.inj there
      have filled := ready.resolve_left (by simp [isOpen])
      exact filled (List.length_eq_zero_iff.mp (Nat.le_zero.mp enough))
  | _ => cases there

end Wakeups

end Stgs.Concurrent
