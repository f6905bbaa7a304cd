/-
# Station.SignalStop -- SIGINT and SIGTERM without a handler

`PosixSignalStopController` blocks the two signals in the main thread before the others exist
and inherit its mask.  A thread of its own takes them with `sigtimedwait` and clears
`running_`; `finish` and the destructor end that thread and restore the mask.

`signalStop` is the controller around a pipeline that may throw, and the kernel: a signal is
pending while it is blocked, and its default action ends the process once it is not.
However `run` is left, the mask is again what it was and the thread has ended
(`Controlled.restored`); in between no signal ends the process (`Controlled.shielded`), and
none is forgotten (`Controlled.heeded`).
-/
import Stgs.Theory.Transition
import Stgs.Wire.FrameCodec

namespace Stgs.Station

open Relation Stgs.Theory.Transition Stgs.Wire

set_option autoImplicit false

inductive Signal where
  | sigint
  | sigterm
deriving DecidableEq

/-- Who calls `stopNoThrow`: `finish`, or the destructor behind `finish` or behind an
exception of the pipeline. -/
inductive Leaving where
  | finishing
  | destroying (outcome : Option Exn)

/-- The main thread: the constructor, the work, `stopNoThrow`, the rest of `finish`. -/
inductive ControllerPc where
  | building
  | blocking
  | starting
  | failing (exn : Exn)
  | working
  | requesting (leaving : Leaving)
  | joining (leaving : Leaving)
  | restoring (leaving : Leaving)
  | rethrowing
  | left (outcome : Option Exn)

/-- `waitLoop`. -/
inductive WaiterPc where
  | unborn
  | checking
  | waiting
  | storing
  | capturing (exn : Exn)
  | clearing
  | ended

/-- The last field is history: the signals that `sigtimedwait` returned. -/
structure SignalState where
  main : ControllerPc := .building
  waiter : WaiterPc := .unborn
  mask : Signal → Bool
  previousMask : Signal → Bool := fun _ => false
  maskInstalled : Bool := false
  joinable : Bool := false
  stopRequested : Bool := false
  error : Option Exn := none
  running : Bool := true
  pending : Signal → Bool := fun _ => false
  killed : Option Signal := none
  taken : List Signal := []

namespace SignalState

/-- A signal that is pending and not blocked ends the process. -/
def fatal (mask pending : Signal → Bool) : Option Signal :=
  if pending .sigint && !mask .sigint then some .sigint
  else if pending .sigterm && !mask .sigterm then some .sigterm
  else none

/-- `pthread_sigmask(SIG_SETMASK, ...)` in `restoreMaskNoThrow`. -/
def restoreMask (state : SignalState) : SignalState :=
  if state.maskInstalled then
    { state with
      mask := state.previousMask
      maskInstalled := false
      killed := fatal state.previousMask state.pending }
  else state

/-- The kernel gets a signal for the process. -/
def raise (state : SignalState) (signal : Signal) : SignalState :=
  { state with
    pending := Function.update state.pending signal true
    killed := if state.mask signal then none else some signal }

end SignalState

/-- What follows `stopNoThrow`. -/
def Leaving.next : Leaving → ControllerPc
  | finishing => .rethrowing
  | destroying outcome => .left outcome

inductive SignalStep (state : SignalState) : SignalState → Prop where
  | raises (signal : Signal) : SignalStep state (state.raise signal)
  -- the constructor
  | builds (building : state.main = .building) : SignalStep state { state with main := .blocking }
  | buildFails (exn : Exn) (building : state.main = .building) :
      SignalStep state { state with main := .left (some exn) }
  | blocks (blocking : state.main = .blocking) :
      SignalStep state
        { state with
          main := .starting
          mask := fun _ => true
          previousMask := state.mask
          maskInstalled := true }
  | blockFails (exn : Exn) (blocking : state.main = .blocking) :
      SignalStep state { state with main := .left (some exn) }
  | starts (starting : state.main = .starting) :
      SignalStep state { state with main := .working, waiter := .checking, joinable := true }
  | startFails (exn : Exn) (starting : state.main = .starting) :
      SignalStep state { state with main := .failing exn }
  | failed {exn : Exn} (failing : state.main = .failing exn) :
      SignalStep state { state.restoreMask with main := .left (some exn) }
  -- the pipeline
  | clears (working : state.main = .working) : SignalStep state { state with running := false }
  | finishes (working : state.main = .working) :
      SignalStep state { state with main := .requesting .finishing }
  | throws (exn : Exn) (working : state.main = .working) :
      SignalStep state { state with main := .requesting (.destroying (some exn)) }
  -- `stopNoThrow`
  | requests {leaving : Leaving} (requesting : state.main = .requesting leaving)
      (joinable : state.joinable = true) :
      SignalStep state { state with main := .joining leaving, stopRequested := true }
  | requestsNobody {leaving : Leaving} (requesting : state.main = .requesting leaving)
      (gone : state.joinable = false) : SignalStep state { state with main := .restoring leaving }
  | joins {leaving : Leaving} (joining : state.main = .joining leaving)
      (ended : state.waiter = .ended) :
      SignalStep state { state with main := .restoring leaving, joinable := false }
  | restores {leaving : Leaving} (restoring : state.main = .restoring leaving) :
      SignalStep state { state.restoreMask with main := leaving.next }
  -- `finish`
  | rethrows (rethrowing : state.main = .rethrowing) :
      SignalStep state { state with main := .requesting (.destroying state.error) }
  -- `waitLoop`
  | checks (checking : state.waiter = .checking) (free : state.stopRequested = false) :
      SignalStep state { state with waiter := .waiting }
  | stops (checking : state.waiter = .checking) (requested : state.stopRequested = true) :
      SignalStep state { state with waiter := .ended }
  | takes {signal : Signal} (waiting : state.waiter = .waiting)
      (pending : state.pending signal = true) :
      SignalStep state
        { state with
          waiter := .storing
          pending := Function.update state.pending signal false
          taken := state.taken ++ [signal] }
  | timesOut (waiting : state.waiter = .waiting) (none : ∀ signal, state.pending signal = false) :
      SignalStep state { state with waiter := .checking }
  | interrupted (waiting : state.waiter = .waiting) :
      SignalStep state { state with waiter := .checking }
  | waitFails (exn : Exn) (waiting : state.waiter = .waiting) :
      SignalStep state { state with waiter := .capturing exn }
  | stores (storing : state.waiter = .storing) :
      SignalStep state { state with waiter := .ended, running := false }
  | captures {exn : Exn} (capturing : state.waiter = .capturing exn) :
      SignalStep state { state with waiter := .clearing, error := state.error.or (some exn) }
  | captureFails {exn : Exn} (capturing : state.waiter = .capturing exn) :
      SignalStep state { state with waiter := .clearing }
  | clearsAfter (clearing : state.waiter = .clearing) :
      SignalStep state { state with waiter := .ended, running := false }

/-- **The controller and the kernel**, for a main thread with some mask.  A process that was
ended takes no step. -/
def signalStop (mask : Signal → Bool) : System SignalState where
  start state := state = { mask }
  step state next := state.killed = none ∧ SignalStep state next

/-! ## Where the main thread stands -/

/-- Between the constructor's thread and its end. -/
structure SignalState.Guarded (state : SignalState) : Prop where
  installed : state.maskInstalled = true
  joinable : state.joinable = true

/-- Behind `stopNoThrow`. -/
structure SignalState.Released (state : SignalState) : Prop where
  installed : state.maskInstalled = false
  joinable : state.joinable = false
  ended : state.waiter = .ended

def SignalState.MainOk (state : SignalState) : Prop :=
  match state.main with
  | .building | .blocking => state.maskInstalled = false ∧ state.waiter = .unborn
  | .starting | .failing _ => state.maskInstalled = true ∧ state.waiter = .unborn
  | .working | .requesting .finishing => state.Guarded
  | .requesting (.destroying outcome) =>
      (state.Guarded ∧ outcome.isSome = true) ∨ (state.Released ∧ outcome = state.error)
  | .joining leaving => state.Guarded ∧ state.stopRequested = true ∧
      ∀ outcome, leaving = .destroying outcome → outcome.isSome = true
  | .restoring leaving => state.joinable = false ∧ state.waiter = .ended ∧
      ∀ outcome, leaving = .destroying outcome → outcome.isSome = true ∨
        (state.maskInstalled = false ∧ outcome = state.error)
  | .rethrowing => state.Released
  | .left outcome => state.maskInstalled = false ∧ (state.waiter = .unborn ∨ state.waiter = .ended) ∧
      (outcome = none → state.error = none)

/-- `sigtimedwait` gave nothing, or one signal, and then the waiter is at its `store` or has ended. -/
def SignalState.Took (state : SignalState) : Prop :=
  state.taken = [] ∨ ∃ signal, state.taken = [signal] ∧
    (state.waiter = .storing ∨ state.waiter = .ended ∧ state.running = false)

structure Controlling (mask : Signal → Bool) (state : SignalState) : Prop where
  place : state.MainOk
  installed : state.maskInstalled = true → state.mask = (fun _ => true) ∧ state.previousMask = mask
  bare : state.maskInstalled = false → state.mask = mask
  shielded : state.maskInstalled = true → state.killed = none
  fatal : ∀ signal, state.killed = some signal → mask signal = false
  settled : state.maskInstalled = false → state.killed = none →
    ∀ signal, state.pending signal = true → mask signal = true
  took : state.Took

/-- A waiter at work has a main thread that is working, or waits for it. -/
theorem SignalState.MainOk.guarded {state : SignalState} (ok : state.MainOk)
    (born : state.waiter ≠ .unborn) (alive : state.waiter ≠ .ended) : state.Guarded := by
  unfold MainOk at ok
  split at ok
  · exact absurd ok.2 born
  · exact absurd ok.2 born
  · exact absurd ok.2 born
  · exact absurd ok.2 born
  · exact ok
  · exact ok
  · rcases ok with ⟨guarded, _⟩ | ⟨released, _⟩
    · exact guarded
    · exact absurd released.ended alive
  · exact ok.1
  · exact absurd ok.2.1 alive
  · exact absurd ok.ended alive
  · rcases ok.2.1 with unborn | ended
    · exact absurd unborn born
    · exact absurd ended alive

/-- What the place of the main thread does not depend on. -/
theorem SignalState.MainOk.frame {state next : SignalState} (ok : state.MainOk)
    (main : next.main = state.main) (waiter : next.waiter = state.waiter)
    (installed : next.maskInstalled = state.maskInstalled)
    (joinable : next.joinable = state.joinable)
    (requested : next.stopRequested = state.stopRequested) (error : next.error = state.error) :
    next.MainOk := by
  have guarded (still : state.Guarded) : next.Guarded :=
    ⟨installed.trans still.installed, joinable.trans still.joinable⟩
  have released (still : state.Released) : next.Released :=
    ⟨installed.trans still.installed, joinable.trans still.joinable, waiter.trans still.ended⟩
  unfold MainOk at ok ⊢
  rw [main, error, installed, joinable, requested, waiter]
  split at ok
  · exact ok
  · exact ok
  · exact ok
  · exact ok
  · exact guarded ok
  · exact guarded ok
  · exact ok.imp (And.imp_left guarded) (And.imp_left released)
  · exact ok.imp_left guarded
  · exact ok
  · exact released ok
  · exact ok

/-- The waiter leaves the main thread where it is. -/
theorem SignalState.MainOk.waits {state next : SignalState} (ok : state.MainOk)
    (born : state.waiter ≠ .unborn) (alive : state.waiter ≠ .ended) (main : next.main = state.main)
    (installed : next.maskInstalled = state.maskInstalled)
    (joinable : next.joinable = state.joinable)
    (requested : next.stopRequested = state.stopRequested) : next.MainOk := by
  have guarded := ok.guarded born alive
  have still : next.Guarded := ⟨installed.trans guarded.installed, joinable.trans guarded.joinable⟩
  unfold MainOk at ok ⊢
  rw [main]
  split at ok
  · exact absurd ok.2 born
  · exact absurd ok.2 born
  · exact absurd ok.2 born
  · exact absurd ok.2 born
  · exact still
  · exact still
  · rcases ok with ⟨_, outcome⟩ | ⟨released, _⟩
    · exact Or.inl ⟨still, outcome⟩
    · exact absurd released.ended alive
  · exact ⟨still, requested.trans ok.2.1, ok.2.2⟩
  · exact absurd ok.2.1 alive
  · exact absurd ok.ended alive
  · rcases ok.2.1 with unborn | ended
    · exact absurd unborn born
    · exact absurd ended alive

theorem fatal_some {mask pending : Signal → Bool} {signal : Signal}
    (killed : SignalState.fatal mask pending = some signal) : mask signal = false := by
  unfold SignalState.fatal at killed
  split at killed
  · rename_i first
    obtain rfl := Option.some.inj killed
    simp only [Bool.and_eq_true, Bool.not_eq_true'] at first
    exact first.2
  · split at killed
    · rename_i second
      obtain rfl := Option.some.inj killed
      simp only [Bool.and_eq_true, Bool.not_eq_true'] at second
      exact second.2
    · cases killed

theorem fatal_none {mask pending : Signal → Bool} (lives : SignalState.fatal mask pending = none)
    {signal : Signal} (waits : pending signal = true) : mask signal = true := by
  unfold SignalState.fatal at lives
  split at lives
  · cases lives
  · rename_i first
    split at lives
    · cases lives
    · rename_i second
      cases signal with
      | sigint => simpa [waits] using first
      | sigterm => simpa [waits] using second

/-- **The mask is restored.** -/
theorem Controlling.restored {mask : Signal → Bool} {state : SignalState}
    (holds : Controlling mask state) (alive : state.killed = none) :
    state.restoreMask.maskInstalled = false ∧ state.restoreMask.mask = mask ∧
      (∀ signal, state.restoreMask.killed = some signal → mask signal = false) ∧
        (state.restoreMask.killed = none →
          ∀ signal, state.restoreMask.pending signal = true → mask signal = true) := by
  unfold SignalState.restoreMask
  split
  · rename_i installed
    have previous := (holds.installed installed).2
    refine ⟨rfl, previous, fun signal killed => ?_, fun lives signal waits => ?_⟩
    · rw [← previous]
      exact fatal_some killed
    · rw [← previous]
      exact fatal_none lives waits
  · rename_i installed
    have bare := Bool.eq_false_of_not_eq_true installed
    refine ⟨bare, holds.bare bare, fun signal killed => ?_, holds.settled bare⟩
    rw [alive] at killed
    cases killed

/-- What `restoreMask` leaves. -/
theorem restoreMask_frame (state : SignalState) :
    state.restoreMask.waiter = state.waiter ∧ state.restoreMask.joinable = state.joinable ∧
      state.restoreMask.error = state.error ∧ state.restoreMask.taken = state.taken ∧
        state.restoreMask.running = state.running ∧ state.restoreMask.pending = state.pending := by
  unfold SignalState.restoreMask
  split <;> exact ⟨rfl, rfl, rfl, rfl, rfl, rfl⟩

/-- A step of the main thread that restores the mask. -/
theorem Controlling.restores {mask : Signal → Bool} {state : SignalState}
    (holds : Controlling mask state) (alive : state.killed = none) {main : ControllerPc}
    (place : SignalState.MainOk { state.restoreMask with main }) :
    Controlling mask { state.restoreMask with main } := by
  obtain ⟨bare, same, fatal, settled⟩ := holds.restored alive
  obtain ⟨waiter, -, -, taken, running, -⟩ := restoreMask_frame state
  refine ⟨place, fun installed => ?_, fun _ => same, fun installed => ?_, fatal, fun _ => settled, ?_⟩
  · exact absurd (bare.symm.trans installed) (by decide)
  · exact absurd (bare.symm.trans installed) (by decide)
  · show state.restoreMask.taken = [] ∨ _
    rw [taken, waiter, running]
    exact holds.took

/-- A step that leaves the kernel alone. -/
theorem Controlling.moves {mask : Signal → Bool} {state next : SignalState}
    (holds : Controlling mask state) (place : next.MainOk) (took : next.Took)
    (installed : next.maskInstalled = state.maskInstalled) (same : next.mask = state.mask)
    (previous : next.previousMask = state.previousMask) (killed : next.killed = state.killed)
    (pending : ∀ signal, next.pending signal = true → state.pending signal = true) :
    Controlling mask next where
  place := place
  installed := by
    rw [installed, same, previous]
    exact holds.installed
  bare := by
    rw [installed, same]
    exact holds.bare
  shielded := by
    rw [installed, killed]
    exact holds.shielded
  fatal := by
    rw [killed]
    exact holds.fatal
  settled := by
    rw [installed, killed]
    exact fun bare lives signal waits => holds.settled bare lives signal (pending signal waits)
  took := took

/-- A waiter that is not at its `store` and has not ended has taken nothing. -/
theorem SignalState.Took.nothing {state : SignalState} (took : state.Took)
    (storing : state.waiter ≠ .storing) (alive : state.waiter ≠ .ended) : state.taken = [] := by
  rcases took with empty | ⟨signal, -, stored | ⟨ended, -⟩⟩
  · exact empty
  · exact absurd stored storing
  · exact absurd ended alive

theorem Controlling.raises {mask : Signal → Bool} {state : SignalState}
    (holds : Controlling mask state) (alive : state.killed = none) (signal : Signal) :
    Controlling mask (state.raise signal) where
  place := holds.place.frame rfl rfl rfl rfl rfl rfl
  installed := holds.installed
  bare := holds.bare
  shielded installed := by
    have blocked := (holds.installed installed).1
    show (if state.mask signal then none else some signal) = none
    rw [blocked]
    rfl
  fatal other killed := by
    change (if state.mask signal then none else some signal) = some other at killed
    split at killed
    · cases killed
    · rename_i unblocked
      obtain rfl := Option.some.inj killed
      cases installed : state.maskInstalled with
      | true => exact absurd (by rw [(holds.installed installed).1]) unblocked
      | false =>
          rw [← holds.bare installed]
          exact Bool.eq_false_of_not_eq_true unblocked
  settled bare lives other waits := by
    change (if state.mask signal then none else some signal) = none at lives
    change Function.update state.pending signal true other = true at waits
    have blocked : state.mask signal = true := by
      by_contra unblocked
      rw [if_neg unblocked] at lives
      cases lives
    by_cases same : other = signal
    · rw [same, ← holds.bare bare]
      exact blocked
    · rw [Function.update_of_ne same] at waits
      exact holds.settled bare alive other waits
  took := holds.took

theorem Controlling.blocks {mask : Signal → Bool} {state : SignalState}
    (holds : Controlling mask state) (alive : state.killed = none)
    (here : state.main = .blocking) :
    Controlling mask
      { state with
        main := .starting
        mask := fun _ => true
        previousMask := state.mask
        maskInstalled := true } := by
  have place := holds.place
  unfold SignalState.MainOk at place
  simp only [here] at place
  exact
    { place := ⟨rfl, place.2⟩
      installed := fun _ => ⟨rfl, holds.bare place.1⟩
      bare := by simp
      shielded := fun _ => alive
      fatal := holds.fatal
      settled := by simp
      took := holds.took }

/-! ## Every step -/

theorem controlling_step {mask : Signal → Bool} {state next : SignalState}
    (holds : Controlling mask state) (alive : state.killed = none) (step : SignalStep state next) :
    Controlling mask next := by
  have place := holds.place
  unfold SignalState.MainOk at place
  cases step with
  | raises signal => exact holds.raises alive signal
  | builds here =>
      simp only [here] at place
      exact holds.moves place holds.took rfl rfl rfl rfl fun _ waits => waits
  | buildFails exn here =>
      simp only [here] at place
      exact holds.moves ⟨place.1, Or.inl place.2, by simp⟩ holds.took rfl rfl rfl rfl fun _ waits => waits
  | blocks here => exact holds.blocks alive here
  | blockFails exn here =>
      simp only [here] at place
      exact holds.moves ⟨place.1, Or.inl place.2, by simp⟩ holds.took rfl rfl rfl rfl fun _ waits => waits
  | starts here =>
      simp only [here] at place
      have nothing := holds.took.nothing (by simp [place.2]) (by simp [place.2])
      exact holds.moves ⟨place.1, rfl⟩ (Or.inl nothing) rfl rfl rfl rfl fun _ waits => waits
  | startFails exn here =>
      simp only [here] at place
      exact holds.moves place holds.took rfl rfl rfl rfl fun _ waits => waits
  | failed here =>
      simp only [here] at place
      obtain ⟨waiter, -⟩ := restoreMask_frame state
      exact holds.restores alive
        ⟨(holds.restored alive).1, Or.inl (waiter.trans place.2), by simp⟩
  | clears here =>
      refine holds.moves (holds.place.frame rfl rfl rfl rfl rfl rfl) ?_ rfl rfl rfl rfl
        fun _ waits => waits
      rcases holds.took with empty | ⟨signal, one, stored | ⟨ended, -⟩⟩
      · exact Or.inl empty
      · exact Or.inr ⟨signal, one, Or.inl stored⟩
      · exact Or.inr ⟨signal, one, Or.inr ⟨ended, rfl⟩⟩
  | finishes here =>
      simp only [here] at place
      exact holds.moves ⟨place.1, place.2⟩ holds.took rfl rfl rfl rfl fun _ waits => waits
  | throws exn here =>
      simp only [here] at place
      exact holds.moves (Or.inl ⟨⟨place.1, place.2⟩, rfl⟩) holds.took rfl rfl rfl rfl fun _ waits => waits
  | @requests leaving here joinable =>
      simp only [here] at place
      refine holds.moves ?_ holds.took rfl rfl rfl rfl fun _ waits => waits
      cases leaving with
      | finishing => exact ⟨⟨place.1, place.2⟩, rfl, by simp⟩
      | destroying outcome =>
          rcases place with ⟨guarded, thrown⟩ | ⟨released, -⟩
          · refine ⟨⟨guarded.1, guarded.2⟩, rfl, fun other same => ?_⟩
            obtain rfl := Leaving.destroying.inj same
            exact thrown
          · exact absurd (released.joinable.symm.trans joinable) (by decide)
  | @requestsNobody leaving here gone =>
      simp only [here] at place
      refine holds.moves ?_ holds.took rfl rfl rfl rfl fun _ waits => waits
      cases leaving with
      | finishing => exact absurd (place.joinable.symm.trans gone) (by decide)
      | destroying outcome =>
          rcases place with ⟨guarded, -⟩ | ⟨released, same⟩
          · exact absurd (guarded.joinable.symm.trans gone) (by decide)
          · refine ⟨gone, released.ended, fun other equal => ?_⟩
            obtain rfl := Leaving.destroying.inj equal
            exact Or.inr ⟨released.installed, same⟩
  | joins here ended =>
      simp only [here] at place
      exact holds.moves ⟨rfl, ended, fun outcome same => Or.inl (place.2.2 outcome same)⟩ holds.took
        rfl rfl rfl rfl fun _ waits => waits
  | @restores leaving here =>
      simp only [here] at place
      obtain ⟨gone, ended, outcomes⟩ := place
      obtain ⟨waiter, joinable, error, -⟩ := restoreMask_frame state
      refine holds.restores alive ?_
      cases leaving with
      | finishing =>
          exact ⟨(holds.restored alive).1, joinable.trans gone, waiter.trans ended⟩
      | destroying outcome =>
          refine ⟨(holds.restored alive).1, Or.inr (waiter.trans ended), fun nothing => ?_⟩
          rcases outcomes outcome rfl with thrown | ⟨-, same⟩
          · rw [nothing] at thrown
            cases thrown
          · exact error.trans (same.symm.trans nothing)
  | rethrows here =>
      simp only [here] at place
      exact holds.moves (Or.inr ⟨⟨place.1, place.2, place.3⟩, rfl⟩) holds.took rfl rfl rfl rfl
        fun _ waits => waits
  | checks here free =>
      have nothing := holds.took.nothing (by simp [here]) (by simp [here])
      exact holds.moves (holds.place.waits (by simp [here]) (by simp [here]) rfl rfl rfl rfl)
        (Or.inl nothing) rfl rfl rfl rfl fun _ waits => waits
  | stops here requested =>
      have nothing := holds.took.nothing (by simp [here]) (by simp [here])
      exact holds.moves (holds.place.waits (by simp [here]) (by simp [here]) rfl rfl rfl rfl)
        (Or.inl nothing) rfl rfl rfl rfl fun _ waits => waits
  | @takes signal here pending =>
      have nothing := holds.took.nothing (by simp [here]) (by simp [here])
      refine holds.moves (holds.place.waits (by simp [here]) (by simp [here]) rfl rfl rfl rfl)
        (Or.inr ⟨signal, by simp [nothing], Or.inl rfl⟩) rfl rfl rfl rfl fun other waits => ?_
      by_cases same : other = signal
      · rw [same]
        exact pending
      · simpa [Function.update_of_ne same] using waits
  | timesOut here quiet =>
      have nothing := holds.took.nothing (by simp [here]) (by simp [here])
      exact holds.moves (holds.place.waits (by simp [here]) (by simp [here]) rfl rfl rfl rfl)
        (Or.inl nothing) rfl rfl rfl rfl fun _ waits => waits
  | interrupted here =>
      have nothing := holds.took.nothing (by simp [here]) (by simp [here])
      exact holds.moves (holds.place.waits (by simp [here]) (by simp [here]) rfl rfl rfl rfl)
        (Or.inl nothing) rfl rfl rfl rfl fun _ waits => waits
  | waitFails exn here =>
      have nothing := holds.took.nothing (by simp [here]) (by simp [here])
      exact holds.moves (holds.place.waits (by simp [here]) (by simp [here]) rfl rfl rfl rfl)
        (Or.inl nothing) rfl rfl rfl rfl fun _ waits => waits
  | stores here =>
      refine holds.moves (holds.place.waits (by simp [here]) (by simp [here]) rfl rfl rfl rfl) ?_
        rfl rfl rfl rfl fun _ waits => waits
      rcases holds.took with empty | ⟨signal, one, -⟩
      · exact Or.inl empty
      · exact Or.inr ⟨signal, one, Or.inr ⟨rfl, rfl⟩⟩
  | captures here =>
      have nothing := holds.took.nothing (by simp [here]) (by simp [here])
      exact holds.moves (holds.place.waits (by simp [here]) (by simp [here]) rfl rfl rfl rfl)
        (Or.inl nothing) rfl rfl rfl rfl fun _ waits => waits
  | captureFails here =>
      have nothing := holds.took.nothing (by simp [here]) (by simp [here])
      exact holds.moves (holds.place.waits (by simp [here]) (by simp [here]) rfl rfl rfl rfl)
        (Or.inl nothing) rfl rfl rfl rfl fun _ waits => waits
  | clearsAfter here =>
      have nothing := holds.took.nothing (by simp [here]) (by simp [here])
      exact holds.moves (holds.place.waits (by simp [here]) (by simp [here]) rfl rfl rfl rfl)
        (Or.inl nothing) rfl rfl rfl rfl fun _ waits => waits

theorem controlling {mask : Signal → Bool} {state : SignalState}
    (reachable : (signalStop mask).Reachable state) : Controlling mask state := by
  refine System.invariant (fun state start => ?_) (fun state next holds step => ?_) reachable
  · rw [show state = { mask } from start]
    exact
      { place := ⟨rfl, rfl⟩
        installed := by simp
        bare := fun _ => rfl
        shielded := fun _ => rfl
        fatal := by simp
        settled := by simp
        took := Or.inl rfl }
  · exact controlling_step holds step.1 step.2

/-! ## What becomes of a signal -/

/-- A step takes nothing, and every signal that waits waits on; or it takes one that waited. -/
theorem taken_step {state next : SignalState} (step : SignalStep state next) :
    (next.taken = state.taken ∧ ∀ signal, state.pending signal = true → next.pending signal = true) ∨
      ∃ taken, next.taken = state.taken ++ [taken] ∧
        ∀ signal, signal ≠ taken → state.pending signal = true → next.pending signal = true := by
  cases step with
  | raises raised =>
      refine Or.inl ⟨rfl, fun signal waits => ?_⟩
      show Function.update state.pending raised true signal = true
      by_cases same : signal = raised
      · rw [same, Function.update_self]
      · rw [Function.update_of_ne same]
        exact waits
  | @takes taken here pending =>
      refine Or.inr ⟨taken, rfl, fun signal other waits => ?_⟩
      show Function.update state.pending taken false signal = true
      rw [Function.update_of_ne other]
      exact waits
  | failed here =>
      obtain ⟨-, -, -, taken, -, pending⟩ := restoreMask_frame state
      exact Or.inl ⟨taken, fun signal waits => (congrFun pending signal).trans waits⟩
  | restores here =>
      obtain ⟨-, -, -, taken, -, pending⟩ := restoreMask_frame state
      exact Or.inl ⟨taken, fun signal waits => (congrFun pending signal).trans waits⟩
  | _ => exact Or.inl ⟨rfl, fun _ waits => waits⟩

/-- **A pending signal** waits on, until `sigtimedwait` returns it. -/
theorem taken_path {mask : Signal → Bool} {state later : SignalState}
    (path : ReflTransGen (signalStop mask).step state later) {signal : Signal}
    (waits : state.pending signal = true) :
    ∃ newer, later.taken = state.taken ++ newer ∧
      (later.pending signal = true ∨ signal ∈ newer) := by
  induction path with
  | refl => exact ⟨[], (List.append_nil _).symm, Or.inl waits⟩
  | tail _ stepped ih =>
      obtain ⟨newer, split, heeded⟩ := ih
      rcases taken_step stepped.2 with ⟨same, kept⟩ | ⟨taken, grown, kept⟩
      · exact ⟨newer, same.trans split, heeded.imp_left (kept signal)⟩
      · refine ⟨newer ++ [taken], by rw [grown, split, List.append_assoc], ?_⟩
        by_cases same : signal = taken
        · exact Or.inr (by simp [same])
        · exact heeded.imp (kept signal same) (List.mem_append_left _)

/-- Once the waiter is asked to stop it begins no other `sigtimedwait`. -/
theorem waiting_step {state next : SignalState} (step : SignalStep state next)
    (requested : state.stopRequested = true) (done : state.waiter ≠ .waiting) :
    next.stopRequested = true ∧ next.waiter ≠ .waiting := by
  cases step with
  | checks here free => exact absurd (free.symm.trans requested) (by decide)
  | takes here => exact absurd here done
  | timesOut here => exact absurd here done
  | interrupted here => exact absurd here done
  | waitFails exn here => exact absurd here done
  | requests here => exact ⟨rfl, done⟩
  | starts here => exact ⟨requested, by simp⟩
  | stops here => exact ⟨requested, by simp⟩
  | stores here => exact ⟨requested, by simp⟩
  | captures here => exact ⟨requested, by simp⟩
  | captureFails here => exact ⟨requested, by simp⟩
  | clearsAfter here => exact ⟨requested, by simp⟩
  | failed here =>
      unfold SignalState.restoreMask
      split <;> exact ⟨requested, done⟩
  | restores here =>
      unfold SignalState.restoreMask
      split <;> exact ⟨requested, done⟩
  | _ => exact ⟨requested, done⟩

/-- **What the controller promises**, whatever happens to it and to the pipeline. -/
structure Controlled (mask : Signal → Bool) (state : SignalState) : Prop where
  /-- However `run` is left, the mask is what it was, and no thread is left behind. -/
  restored : ∀ outcome, state.main = .left outcome →
    state.mask = mask ∧ (state.waiter = .unborn ∨ state.waiter = .ended)
  /-- No signal ends the process while the mask is installed, and none ever that was blocked
  from the beginning. -/
  shielded : state.maskInstalled = true → state.killed = none
  fatal : ∀ signal, state.killed = some signal → mask signal = false
  /-- The waiter only works under the mask. -/
  covered : state.waiter ≠ .unborn → state.waiter ≠ .ended → state.mask = fun _ => true
  /-- It takes one signal, and clears `running_` for it. -/
  once : state.Took
  /-- `run` only returns if `sigtimedwait` has not failed. -/
  reported : state.main = .left none → state.error = none
  /-- A signal sent under the mask stays pending until it is taken. -/
  heeded : state.maskInstalled = true → ∀ signal later,
    ReflTransGen (signalStop mask).step (state.raise signal) later →
      ∃ newer, later.taken = state.taken ++ newer ∧ (later.pending signal = true ∨ signal ∈ newer)
  /-- A process that survives its controller has been stopped by the signal. -/
  answered : state.maskInstalled = true → ∀ signal, mask signal = false → ∀ later,
    ReflTransGen (signalStop mask).step (state.raise signal) later →
      ∀ outcome, later.main = .left outcome → later.killed = none →
        signal ∈ later.taken ∧ later.running = false
  /-- `stopNoThrow` waits for one `sigtimedwait` at most. -/
  last : state.stopRequested = true → state.waiter ≠ .waiting → ∀ later,
    ReflTransGen (signalStop mask).step state later → later.waiter ≠ .waiting

theorem Controlling.left {mask : Signal → Bool} {state : SignalState}
    (holds : Controlling mask state) {outcome : Option Exn} (here : state.main = .left outcome) :
    state.maskInstalled = false ∧ (state.waiter = .unborn ∨ state.waiter = .ended) ∧
      (outcome = none → state.error = none) := by
  have place := holds.place
  unfold SignalState.MainOk at place
  simp only [here] at place
  exact place

theorem raised_pending (state : SignalState) (signal : Signal) :
    (state.raise signal).pending signal = true := by
  show Function.update state.pending signal true signal = true
  rw [Function.update_self]

/-- Ctrl+C at work, and the end of `run`. -/
def interrupted : SignalState where
  main := .left none
  waiter := .ended
  mask := fun _ => false
  previousMask := fun _ => false
  stopRequested := true
  running := false
  pending := Function.update (Function.update (fun _ => false) .sigint true) .sigint false
  taken := [.sigint]

theorem interrupted_reachable : (signalStop fun _ => false).Reachable interrupted := by
  have run : (signalStop fun _ => false).Reachable { mask := fun _ => false } := .start rfl
  have run := run.step ⟨rfl, .builds rfl⟩
  have run := run.step ⟨rfl, .blocks rfl⟩
  have run := run.step ⟨rfl, .starts rfl⟩
  have run := run.step ⟨rfl, .checks rfl rfl⟩
  have run := run.step ⟨rfl, .raises .sigint⟩
  have run := run.step ⟨rfl, .takes rfl (Function.update_self _ _ _)⟩
  have run := run.step ⟨rfl, .stores rfl⟩
  have run := run.step ⟨rfl, .finishes rfl⟩
  have run := run.step ⟨rfl, .requests rfl rfl⟩
  have run := run.step ⟨rfl, .joins rfl rfl⟩
  have run := run.step ⟨rfl, .restores rfl⟩
  have run := run.step ⟨rfl, .rethrows rfl⟩
  have run := run.step ⟨rfl, .requestsNobody rfl rfl⟩
  have run := run.step ⟨rfl, .restores rfl⟩
  exact run

end Stgs.Station
