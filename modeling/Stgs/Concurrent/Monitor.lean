/-
# Concurrent.Monitor -- the mutex and the condition variables of a queue

`push`, `pop`, `close`, `size` and `closed` lock the queue's mutex.  A push waits for
room and a pop for a value: `wait` evaluates its predicate under the mutex, and while
it is false releases the mutex and sleeps, until a notification or nothing at all
wakes it up.  What a call does to the queue it does under the mutex (`Acts`); then it
unlocks and notifies (`Outcome.wakes`).

`Sync` is where each thread is in its call, and who holds the mutex.  `Moves` are the
steps that leave the queue as it is.  `SyncOk` is mutual exclusion: only the thread
that holds the mutex is inside, so what it has checked stays true until it acts.
-/
import Mathlib.Logic.Function.Basic
import Stgs.Concurrent.BlockingQueue

namespace Stgs.Concurrent

set_option autoImplicit false

universe u v

/-! ## Calls -/

inductive Call (α : Type u) where
  | push (value : α)
  | pop
  | close
  | size
  | isClosed

/-- What a call returns; `threw` is a push whose insertion could not allocate. -/
inductive Outcome (α : Type u) where
  | pushed (accepted : Bool)
  | popped (value : Option α)
  | closed
  | sized (count : Nat)
  | told (closed : Bool)
  | threw

/-- `producerCv_` and `consumerCv_`. -/
inductive Side where
  | producers
  | consumers
deriving DecidableEq

/-- `notify_one` and `notify_all`. -/
inductive Wake where
  | one (side : Side)
  | all (side : Side)
deriving DecidableEq

section Calls

variable {α : Type u}

/-- The notifications after a call, in order. -/
def Outcome.wakes : Outcome α → List Wake
  | pushed true => [.one .consumers]
  | popped (some _) => [.one .producers]
  | closed => [.all .consumers, .all .producers]
  | _ => []

/-- Where a call waits. -/
def Call.side : Call α → Option Side
  | push _ => some .producers
  | pop => some .consumers
  | _ => none

/-- The predicate of `wait`. -/
def Call.Ready (queue : BlockingQueue α) : Call α → Prop
  | push _ => queue.closed = true ∨ queue.capacity = 0 ∨ queue.queue.length < queue.capacity
  | pop => queue.closed = true ∨ queue.queue ≠ []
  | _ => True

/-- What a call does under the mutex. -/
inductive Acts (queue : BlockingQueue α) : Call α → Outcome α → BlockingQueue α → Prop where
  | pushes {value : α} {accepted : Bool} {after : BlockingQueue α}
      (pushed : queue.push value = some (accepted, after)) :
      Acts queue (.push value) (.pushed accepted) after
  | throws {value : α} (isOpen : queue.closed = false) : Acts queue (.push value) .threw queue
  | pops {value : Option α} {after : BlockingQueue α} (popped : queue.pop = some (value, after)) :
      Acts queue .pop (.popped value) after
  | closes : Acts queue .close .closed queue.close
  | sizes : Acts queue .size (.sized queue.queue.length) queue
  | tells : Acts queue .isClosed (.told queue.closed) queue

/-- **A call that has checked its predicate can act**, and need not throw. -/
theorem Call.Ready.acts {queue : BlockingQueue α} {call : Call α} (ready : call.Ready queue) :
    ∃ outcome after, outcome ≠ .threw ∧ Acts queue call outcome after := by
  cases call with
  | push value =>
      obtain ⟨accepted, after, pushed⟩ := BlockingQueue.push_enabled value ready
      exact ⟨.pushed accepted, after, nofun, .pushes pushed⟩
  | pop =>
      obtain ⟨value, after, popped⟩ := BlockingQueue.pop_enabled ready
      exact ⟨.popped value, after, nofun, .pops popped⟩
  | close => exact ⟨.closed, queue.close, nofun, .closes⟩
  | size => exact ⟨.sized queue.queue.length, queue, nofun, .sizes⟩
  | isClosed => exact ⟨.told queue.closed, queue, nofun, .tells⟩

end Calls

/-! ## Threads -/

/-- Where a thread is in its call.  `locking` wants the mutex, at the start or woken up;
`leaving` has acted and still holds it. -/
inductive Phase (α : Type u) where
  | idle
  | locking (call : Call α)
  | checking (call : Call α)
  | waiting (call : Call α)
  | acting (call : Call α)
  | leaving (call : Call α) (outcome : Outcome α)
  | waking (call : Call α) (outcome : Outcome α) (left : List Wake)

/-- Inside the mutex. -/
def Phase.Holds {α : Type u} : Phase α → Prop
  | checking _ | acting _ | leaving _ _ => True
  | _ => False

/-- In a call that has not acted yet. -/
def Phase.Seeks {α : Type u} (call : Call α) : Phase α → Prop
  | locking own | checking own | waiting own | acting own => own = call
  | _ => False

structure Sync (Thread : Type v) (α : Type u) where
  owner : Option Thread := none
  phase : Thread → Phase α := fun _ => .idle

namespace Sync

variable {Thread : Type v} [DecidableEq Thread] {α : Type u}

def set (sync : Sync Thread α) (thread : Thread) (phase : Phase α) : Sync Thread α :=
  { sync with phase := Function.update sync.phase thread phase }

@[simp] theorem set_self (sync : Sync Thread α) (thread : Thread) (phase : Phase α) :
    (sync.set thread phase).phase thread = phase := Function.update_self ..

theorem set_other (sync : Sync Thread α) {thread other : Thread} (phase : Phase α)
    (apart : other ≠ thread) : (sync.set thread phase).phase other = sync.phase other :=
  Function.update_of_ne apart ..

def release (sync : Sync Thread α) : Sync Thread α := { sync with owner := none }

/-- Asleep on one side. -/
def Sleeps (sync : Sync Thread α) (side : Side) (thread : Thread) : Prop :=
  ∃ call, sync.phase thread = .waiting call ∧ call.side = some side

/-- `notify_all`. -/
def wakeAll (sync : Sync Thread α) (side : Side) : Sync Thread α :=
  { sync with
    phase := fun thread =>
      match sync.phase thread with
      | .waiting call => if call.side = some side then .locking call else .waiting call
      | phase => phase }

end Sync

section Moves

variable {Thread : Type v} [DecidableEq Thread] {α : Type u}

/-- The steps of a thread inside its call that leave the queue. -/
inductive Moves (queue : BlockingQueue α) (thread : Thread) (sync : Sync Thread α) :
    Sync Thread α → Prop where
  | locks {call : Call α} (locking : sync.phase thread = .locking call)
      (free : sync.owner = none) :
      Moves queue thread sync { sync.set thread (.checking call) with owner := some thread }
  | passes {call : Call α} (checking : sync.phase thread = .checking call)
      (ready : call.Ready queue) : Moves queue thread sync (sync.set thread (.acting call))
  | waits {call : Call α} (checking : sync.phase thread = .checking call)
      (unready : ¬ call.Ready queue) :
      Moves queue thread sync (sync.set thread (.waiting call)).release
  | unlocks {call : Call α} {outcome : Outcome α}
      (leaving : sync.phase thread = .leaving call outcome) :
      Moves queue thread sync (sync.set thread (.waking call outcome outcome.wakes)).release
  | wakesOne {call other : Call α} {outcome : Outcome α} {side : Side} {left : List Wake}
      {sleeper : Thread} (waking : sync.phase thread = .waking call outcome (.one side :: left))
      (sleeps : sync.phase sleeper = .waiting other) (there : other.side = some side) :
      Moves queue thread sync
        ((sync.set thread (.waking call outcome left)).set sleeper (.locking other))
  | wakesNobody {call : Call α} {outcome : Outcome α} {side : Side} {left : List Wake}
      (waking : sync.phase thread = .waking call outcome (.one side :: left))
      (awake : ∀ other, ¬ sync.Sleeps side other) :
      Moves queue thread sync (sync.set thread (.waking call outcome left))
  | wakesAll {call : Call α} {outcome : Outcome α} {side : Side} {left : List Wake}
      (waking : sync.phase thread = .waking call outcome (.all side :: left)) :
      Moves queue thread sync ((sync.set thread (.waking call outcome left)).wakeAll side)

/-! ## Mutual exclusion -/

/-- Who is inside holds the mutex, and what it checked is true. -/
structure SyncOk (queue : BlockingQueue α) (sync : Sync Thread α) : Prop where
  owned : ∀ thread, (sync.phase thread).Holds → sync.owner = some thread
  holder : ∀ thread, sync.owner = some thread → (sync.phase thread).Holds
  acting : ∀ thread call, sync.phase thread = .acting call → call.Ready queue
  asleep : ∀ thread call, sync.phase thread = .waiting call → call.side.isSome = true

omit [DecidableEq Thread] in
theorem syncOk_start (queue : BlockingQueue α) : SyncOk queue ({} : Sync Thread α) where
  owned _ holds := holds.elim
  holder _ held := by cases held
  acting _ _ acts := by cases acts
  asleep _ _ waits := by cases waits

variable {queue : BlockingQueue α} {sync next : Sync Thread α} {thread : Thread}

omit [DecidableEq Thread] in
/-- One thread is inside. -/
theorem SyncOk.alone (ok : SyncOk queue sync) (inside : (sync.phase thread).Holds) {other : Thread}
    (also : (sync.phase other).Holds) : other = thread :=
  Option.some.inj ((ok.owned other also).symm.trans (ok.owned thread inside))

/-- A thread changes its phase and keeps the mutex as it is: inside it stays inside,
outside it stays outside. -/
theorem SyncOk.set (ok : SyncOk queue sync) {phase : Phase α}
    (same : phase.Holds ↔ (sync.phase thread).Holds)
    (acting : ∀ call, phase = .acting call → call.Ready queue)
    (asleep : ∀ call, phase = .waiting call → call.side.isSome = true) :
    SyncOk queue (sync.set thread phase) := by
  refine ⟨fun other holds => ?_, fun other held => ?_, fun other call acts => ?_,
    fun other call waits => ?_⟩
  · by_cases this : other = thread
    · subst this
      rw [Sync.set_self] at holds
      exact ok.owned other (same.mp holds)
    · rw [Sync.set_other _ _ this] at holds
      exact ok.owned other holds
  · by_cases this : other = thread
    · subst this
      simp only [Sync.set, Function.update_self]
      exact same.mpr (ok.holder other held)
    · simp only [Sync.set, Function.update_of_ne this]
      exact ok.holder other held
  · by_cases this : other = thread
    · subst this
      simp only [Sync.set, Function.update_self] at acts
      exact acting call acts
    · simp only [Sync.set, Function.update_of_ne this] at acts
      exact ok.acting other call acts
  · by_cases this : other = thread
    · subst this
      simp only [Sync.set, Function.update_self] at waits
      exact asleep call waits
    · simp only [Sync.set, Function.update_of_ne this] at waits
      exact ok.asleep other call waits

/-- A thread outside stays outside, and does not fall asleep. -/
theorem SyncOk.outside (ok : SyncOk queue sync) {before after : Phase α}
    (here : sync.phase thread = before) (outside : ¬ before.Holds) (still : ¬ after.Holds)
    (awake : ∀ call, after ≠ .waiting call) : SyncOk queue (sync.set thread after) := by
  refine ok.set ?_ (fun call acts => ?_) fun call waits => absurd waits (awake call)
  · rw [here]
    exact iff_of_false still outside
  · rw [acts] at still
    exact absurd trivial still

/-- A thread gets the free mutex. -/
theorem SyncOk.enter (ok : SyncOk queue sync) (free : sync.owner = none) (call : Call α) :
    SyncOk queue { sync.set thread (.checking call) with owner := some thread } := by
  have outside (other : Thread) : ¬ (sync.phase other).Holds := by
    intro holds
    have owned := ok.owned other holds
    rw [free] at owned
    cases owned
  refine ⟨fun other holds => ?_, fun other held => ?_, fun other call acts => ?_,
    fun other call waits => ?_⟩
  · by_cases this : other = thread
    · rw [this]
    · rw [Sync.set_other _ _ this] at holds
      exact absurd holds (outside other)
  · obtain rfl : thread = other := Option.some.inj held
    simp only [Sync.set, Function.update_self]
    trivial
  · by_cases this : other = thread
    · simp [Sync.set, this] at acts
    · simp only [Sync.set, Function.update_of_ne this] at acts
      exact ok.acting other call acts
  · by_cases this : other = thread
    · simp [Sync.set, this] at waits
    · simp only [Sync.set, Function.update_of_ne this] at waits
      exact ok.asleep other call waits

/-- The thread inside leaves the mutex. -/
theorem SyncOk.exit (ok : SyncOk queue sync) (inside : (sync.phase thread).Holds)
    {phase : Phase α} (out : ¬ phase.Holds)
    (asleep : ∀ call, phase = .waiting call → call.side.isSome = true) :
    SyncOk queue (sync.set thread phase).release := by
  refine ⟨fun other holds => ?_, fun other held => ?_, fun other call acts => ?_,
    fun other call waits => ?_⟩
  · by_cases this : other = thread
    · simp only [Sync.set, Sync.release, this, Function.update_self] at holds
      exact absurd holds out
    · simp only [Sync.set, Sync.release, Function.update_of_ne this] at holds
      exact absurd (ok.alone inside holds) this
  · cases held
  · by_cases this : other = thread
    · simp only [Sync.set, Sync.release, this, Function.update_self] at acts
      rw [acts] at out
      exact absurd trivial out
    · simp only [Sync.set, Sync.release, Function.update_of_ne this] at acts
      exact ok.acting other call acts
  · by_cases this : other = thread
    · simp only [Sync.set, Sync.release, this, Function.update_self] at waits
      exact asleep call waits
    · simp only [Sync.set, Sync.release, Function.update_of_ne this] at waits
      exact ok.asleep other call waits

/-- The thread inside acts; no other has checked anything. -/
theorem SyncOk.act (ok : SyncOk queue sync) {call : Call α}
    (acting : sync.phase thread = .acting call) (outcome : Outcome α) (after : BlockingQueue α) :
    SyncOk after (sync.set thread (.leaving call outcome)) := by
  have inside : (sync.phase thread).Holds := by
    rw [acting]
    trivial
  have quiet : SyncOk queue (sync.set thread (.leaving call outcome)) :=
    ok.set (by simp [acting, Phase.Holds]) nofun nofun
  refine ⟨quiet.owned, quiet.holder, fun other call acts => ?_, quiet.asleep⟩
  by_cases this : other = thread
  · simp [Sync.set, this] at acts
  · simp only [Sync.set, Function.update_of_ne this] at acts
    have also : (sync.phase other).Holds := by
      rw [acts]
      trivial
    exact absurd (ok.alone inside also) this

omit [DecidableEq Thread] in
/-- Nobody inside is woken up. -/
theorem wakeAll_phase (sync : Sync Thread α) (side : Side) (thread : Thread) :
    (sync.wakeAll side).phase thread = sync.phase thread ∨
      ∃ call, sync.phase thread = .waiting call ∧
        (sync.wakeAll side).phase thread = .locking call := by
  cases here : sync.phase thread with
  | waiting call =>
      by_cases there : call.side = some side
      · exact Or.inr ⟨call, rfl, by simp [Sync.wakeAll, here, there]⟩
      · exact Or.inl (by simp [Sync.wakeAll, here, there])
  | _ => exact Or.inl (by simp [Sync.wakeAll, here])

omit [DecidableEq Thread] in
theorem SyncOk.wakeAll (ok : SyncOk queue sync) (side : Side) :
    SyncOk queue (sync.wakeAll side) := by
  refine ⟨fun other holds => ?_, fun other held => ?_, fun other call acts => ?_,
    fun other call waits => ?_⟩
  · rcases wakeAll_phase sync side other with same | ⟨call, _, woken⟩
    · exact ok.owned other (same ▸ holds)
    · exact absurd holds (by simp [woken, Phase.Holds])
  · rcases wakeAll_phase sync side other with same | ⟨call, asleep, woken⟩
    · rw [same]
      exact ok.holder other held
    · exact absurd (ok.holder other held) (by simp [asleep, Phase.Holds])
  · rcases wakeAll_phase sync side other with same | ⟨call, _, woken⟩
    · exact ok.acting other _ (same.symm.trans acts)
    · rw [woken] at acts
      cases acts
  · rcases wakeAll_phase sync side other with same | ⟨call, _, woken⟩
    · exact ok.asleep other _ (same.symm.trans waits)
    · rw [woken] at waits
      cases waits

/-- **Mutual exclusion stays.** -/
theorem SyncOk.moves (ok : SyncOk queue sync) (moves : Moves queue thread sync next) :
    SyncOk queue next := by
  cases moves with
  | locks locking free => exact ok.enter free _
  | passes checking ready =>
      refine ok.set (by simp [checking, Phase.Holds]) (fun call acts => ?_) nofun
      obtain rfl := Phase.acting.inj acts
      exact ready
  | @waits call checking unready =>
      refine ok.exit (by simp [checking, Phase.Holds]) (by simp [Phase.Holds]) fun other waits => ?_
      obtain rfl := Phase.waiting.inj waits
      cases call with
      | push value => rfl
      | pop => rfl
      | _ => exact absurd trivial unready
  | unlocks leaving =>
      exact ok.exit (by simp [leaving, Phase.Holds]) (by simp [Phase.Holds]) nofun
  | @wakesOne call other outcome side left sleeper waking sleeps there =>
      have first : SyncOk queue (sync.set thread (.waking call outcome left)) :=
        ok.outside waking id id nofun
      have apart : sleeper ≠ thread := by
        rintro rfl
        rw [sleeps] at waking
        cases waking
      have still : (sync.set thread (.waking call outcome left)).phase sleeper =
          .waiting other := by
        simp only [Sync.set, Function.update_of_ne apart, sleeps]
      exact first.outside still id id nofun
  | wakesNobody waking awake => exact ok.outside waking id id nofun
  | @wakesAll call outcome side left waking =>
      have first : SyncOk queue (sync.set thread (.waking call outcome left)) :=
        ok.outside waking id id nofun
      exact first.wakeAll side

/-- **A move neither starts nor ends a call**, nor answers it. -/
theorem Moves.call (moves : Moves queue thread sync next) (other : Thread) :
    (next.phase other = .idle ↔ sync.phase other = .idle) ∧
      ∀ call, (next.phase other).Seeks call → (sync.phase other).Seeks call := by
  have set {before : Phase α} (after : Phase α) (here : sync.phase thread = before)
      (busy : before ≠ .idle) (still : after ≠ .idle)
      (same : ∀ call, after.Seeks call → before.Seeks call) :
      ((sync.set thread after).phase other = .idle ↔ sync.phase other = .idle) ∧
        ∀ call, ((sync.set thread after).phase other).Seeks call →
          (sync.phase other).Seeks call := by
    by_cases this : other = thread
    · subst this
      rw [Sync.set_self, here]
      exact ⟨iff_of_false still busy, same⟩
    · rw [Sync.set_other _ _ this]
      exact ⟨Iff.rfl, fun _ => id⟩
  cases moves with
  | locks locking free => exact set _ locking nofun nofun fun _ => id
  | passes checking ready => exact set _ checking nofun nofun fun _ => id
  | waits checking unready => exact set _ checking nofun nofun fun _ => id
  | unlocks leaving => exact set _ leaving nofun nofun fun _ => id
  | @wakesOne call other' outcome side left sleeper waking sleeps there =>
      by_cases this : other = sleeper
      · subst this
        rw [Sync.set_self, sleeps]
        exact ⟨iff_of_false nofun nofun, fun _ => id⟩
      · rw [Sync.set_other _ _ this]
        exact set _ waking nofun nofun fun _ => id
  | wakesNobody waking awake => exact set _ waking nofun nofun fun _ => id
  | @wakesAll call outcome side left waking =>
      have first := set (.waking call outcome left) waking nofun nofun fun _ => id
      rcases wakeAll_phase (sync.set thread (.waking call outcome left)) side other with
        same | ⟨call', asleep, woken⟩
      · rw [same]
        exact first
      · rw [asleep] at first
        rw [woken]
        exact ⟨iff_of_false nofun fun idle => absurd (first.1.mpr idle) nofun, first.2⟩

end Moves

end Stgs.Concurrent
