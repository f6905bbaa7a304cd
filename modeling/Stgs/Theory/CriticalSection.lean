/-
# Theory.CriticalSection -- operations behind a mutex, one write at a time

Threads go through programs of operations on an object that a mutex guards.  An operation
is decided in one go, once its thread has the mutex, from the object and what the world is
then; what it writes into the world it writes bit by bit, and the world moves in between.

`Serial` is what the mutex makes of it: the operations happened one after another (`Chain`),
each thread's in its order (`order`), and their writes are not mixed (`writes`): what was
written, with what the thread inside still has to write, is what they wrote, one operation
after the other.  `recorded_of_reachable` orders the operations in time.
-/
import Mathlib.Logic.Function.Basic
import Stgs.Theory.Interleaving
import Stgs.Theory.Transition

namespace Stgs.Theory.CriticalSection

open Stgs.Theory.Interleaving Stgs.Theory.Transition

set_option autoImplicit false

/-- An object, its operations and the world around it. -/
structure Guarded (ω σ ε W : Type) where
  /-- What an operation may do to the object, and what it then writes. -/
  runs : W → ω → σ → σ → List ε → Prop
  write : W → ε → W → Prop
  world : W → W → Prop

/-- Where a thread is; inside it has decided what to write, or has not. -/
inductive Phase (ω ε : Type) where
  | outside
  | entered (op : ω)
  | writing (rest : List ε)

/-- An operation that was decided. -/
structure Done (ω σ ε W : Type) where
  op : ω
  world : W
  before : σ
  after : σ
  writes : List ε

structure State (θ ω σ ε W : Type) where
  program : θ → List ω
  phase : θ → Phase ω ε
  lock : Option θ
  object : σ
  world : W
  performed : List (θ × Done ω σ ε W)
  written : List ε

variable {θ ω σ ε W : Type} [DecidableEq θ]

/-- Before the first operation. -/
def initial (program : θ → List ω) (object : σ) (world : W) : State θ ω σ ε W where
  program
  phase := fun _ => .outside
  lock := none
  object
  world
  performed := []
  written := []

inductive Step (guarded : Guarded ω σ ε W) (state : State θ ω σ ε W) : State θ ω σ ε W → Prop where
  | lock {thread : θ} {op : ω} {rest : List ω} (here : state.phase thread = .outside)
      (free : state.lock = none) (next : state.program thread = op :: rest) :
      Step guarded state
        { state with
          program := Function.update state.program thread rest
          phase := Function.update state.phase thread (.entered op)
          lock := some thread }
  | perform {thread : θ} {op : ω} {after : σ} {writes : List ε}
      (here : state.phase thread = .entered op)
      (runs : guarded.runs state.world op state.object after writes) :
      Step guarded state
        { state with
          phase := Function.update state.phase thread (.writing writes)
          object := after
          performed :=
            state.performed ++ [(thread, ⟨op, state.world, state.object, after, writes⟩)] }
  | write {thread : θ} {item : ε} {rest : List ε} {world : W}
      (here : state.phase thread = .writing (item :: rest))
      (wrote : guarded.write state.world item world) :
      Step guarded state
        { state with
          phase := Function.update state.phase thread (.writing rest)
          world
          written := state.written ++ [item] }
  | unlock {thread : θ} (here : state.phase thread = .writing []) :
      Step guarded state
        { state with phase := Function.update state.phase thread .outside, lock := none }
  | world {world : W} (moves : guarded.world state.world world) :
      Step guarded state { state with world }

def system (guarded : Guarded ω σ ε W) (program : θ → List ω) (object : σ) (world : W) :
    System (State θ ω σ ε W) where
  start state := state = initial program object world
  step := Step guarded

/-! ## What the mutex is for -/

/-- What the thread inside still has to write. -/
def Phase.rest : Phase ω ε → List ε
  | writing rest => rest
  | _ => []

/-- The operation it has started and not decided. -/
def Phase.begun : Phase ω ε → List ω
  | entered op => [op]
  | _ => []

def State.pending (state : State θ ω σ ε W) : List ε :=
  (state.lock.map fun thread => (state.phase thread).rest).getD []

/-- One operation after another takes the object from one value to another. -/
def Chain (guarded : Guarded ω σ ε W) (object : σ) : List (Done ω σ ε W) → σ → Prop
  | [], final => final = object
  | done :: later, final =>
      done.before = object ∧ guarded.runs done.world done.op done.before done.after done.writes ∧
        Chain guarded done.after later final

theorem Chain.concat {guarded : Guarded ω σ ε W} {object final : σ} {done : List (Done ω σ ε W)}
    (chain : Chain guarded object done final) {last : Done ω σ ε W} (before : last.before = final)
    (runs : guarded.runs last.world last.op last.before last.after last.writes) :
    Chain guarded object (done ++ [last]) last.after := by
  induction done generalizing object with
  | nil => exact ⟨before.trans chain, runs, rfl⟩
  | cons first done ih => exact ⟨chain.1, chain.2.1, ih chain.2.2⟩

/-- **Operations behind a mutex happen one after another.** -/
structure Serial (guarded : Guarded ω σ ε W) (program : θ → List ω) (object : σ)
    (state : State θ ω σ ε W) : Prop where
  exclusive : ∀ thread, state.lock = some thread ↔ state.phase thread ≠ .outside
  chain : Chain guarded object (state.performed.map Prod.snd) state.object
  order : ∀ thread,
    (part thread state.performed).map Done.op ++ (state.phase thread).begun ++
      state.program thread = program thread
  writes : state.written ++ state.pending = (state.performed.map Prod.snd).flatMap Done.writes

section Steps

variable {guarded : Guarded ω σ ε W} {program : θ → List ω} {object : σ} {world : W}

theorem serial_initial : Serial guarded program object (initial program object world) where
  exclusive thread := by simp [initial]
  chain := rfl
  order thread := rfl
  writes := rfl

namespace Serial

variable {state : State θ ω σ ε W} (serial : Serial guarded program object state)

include serial

/-- Only the thread with the mutex is inside. -/
theorem others {thread other : θ} (held : state.lock = some thread) (different : other ≠ thread) :
    state.phase other = .outside := by
  by_contra inside
  have same := held.symm.trans ((serial.exclusive other).mpr inside)
  exact different (Option.some.inj same).symm

/-- The thread inside goes on with its operation. -/
theorem exclusive_update {thread : θ} (held : state.lock = some thread) {phase : Phase ω ε}
    (inside : phase ≠ .outside) (other : θ) :
    state.lock = some other ↔ Function.update state.phase thread phase other ≠ .outside := by
  by_cases same : other = thread
  · subst same
    rw [Function.update_self]
    exact ⟨fun _ => inside, fun _ => held⟩
  · rw [Function.update_of_ne same]
    exact serial.exclusive other

theorem lock {thread : θ} {op : ω} {rest : List ω} (here : state.phase thread = .outside)
    (free : state.lock = none) (next : state.program thread = op :: rest) :
    Serial guarded program object
      { state with
        program := Function.update state.program thread rest
        phase := Function.update state.phase thread (.entered op)
        lock := some thread } where
  exclusive other := by
    by_cases same : other = thread
    · subst same
      simp
    · have outside : state.phase other = .outside := by
        by_contra inside
        have held := (serial.exclusive other).mpr inside
        rw [free] at held
        cases held
      simp [Function.update_of_ne same, outside, Ne.symm same]
  chain := serial.chain
  order other := by
    by_cases same : other = thread
    · subst same
      have order := serial.order other
      rw [here, next] at order
      simpa [Phase.begun] using order
    · simpa [Function.update_of_ne same] using serial.order other
  writes := by
    have writes := serial.writes
    simp only [State.pending, free, Option.map_none, Option.getD_none] at writes
    simpa [State.pending, Phase.rest] using writes

theorem perform {thread : θ} {op : ω} {after : σ} {writes : List ε}
    (here : state.phase thread = .entered op)
    (runs : guarded.runs state.world op state.object after writes) :
    Serial guarded program object
      { state with
        phase := Function.update state.phase thread (.writing writes)
        object := after
        performed :=
          state.performed ++ [(thread, ⟨op, state.world, state.object, after, writes⟩)] } := by
  have held : state.lock = some thread := by
    rw [serial.exclusive, here]
    nofun
  constructor
  case exclusive => exact serial.exclusive_update held nofun
  case chain =>
    rw [List.map_append]
    exact serial.chain.concat rfl runs
  case order =>
    intro other
    have order := serial.order other
    simp only [part_append, List.map_append]
    by_cases same : other = thread
    · subst same
      rw [here] at order
      simpa [part, Phase.begun] using order
    · simpa [part, Function.update_of_ne same, Ne.symm same] using order
  case writes =>
    have done := serial.writes
    simp only [State.pending, held, here, Phase.rest, Option.map_some, Option.getD_some,
      List.append_nil] at done
    simp [State.pending, held, Phase.rest, done]

theorem write {thread : θ} {item : ε} {rest : List ε} {world : W}
    (here : state.phase thread = .writing (item :: rest)) :
    Serial guarded program object
      { state with
        phase := Function.update state.phase thread (.writing rest)
        world
        written := state.written ++ [item] } := by
  have held : state.lock = some thread := by
    rw [serial.exclusive, here]
    nofun
  constructor
  case exclusive => exact serial.exclusive_update held nofun
  case chain => exact serial.chain
  case order =>
    intro other
    have order := serial.order other
    by_cases same : other = thread
    · subst same
      rw [here] at order
      simpa [Phase.begun] using order
    · simpa [Function.update_of_ne same] using order
  case writes =>
    have done := serial.writes
    simp only [State.pending, held, here, Phase.rest, Option.map_some, Option.getD_some] at done
    simpa [State.pending, held, Phase.rest] using done

theorem unlock {thread : θ} (here : state.phase thread = .writing []) :
    Serial guarded program object
      { state with phase := Function.update state.phase thread .outside, lock := none } := by
  have held : state.lock = some thread := by
    rw [serial.exclusive, here]
    nofun
  constructor
  case exclusive =>
    intro other
    by_cases same : other = thread
    · subst same
      simp
    · simp [Function.update_of_ne same, serial.others held same]
  case chain => exact serial.chain
  case order =>
    intro other
    have order := serial.order other
    by_cases same : other = thread
    · subst same
      rw [here] at order
      simpa [Phase.begun] using order
    · simpa [Function.update_of_ne same] using order
  case writes =>
    have done := serial.writes
    simp only [State.pending, held, here, Phase.rest, Option.map_some, Option.getD_some] at done
    simpa [State.pending] using done

theorem step {next : State θ ω σ ε W} (stepped : Step guarded state next) :
    Serial guarded program object next := by
  cases stepped with
  | lock here free next => exact serial.lock here free next
  | perform here runs => exact serial.perform here runs
  | write here wrote => exact serial.write here
  | unlock here => exact serial.unlock here
  | world moves => exact ⟨serial.exclusive, serial.chain, serial.order, serial.writes⟩

end Serial

/-- **Every reachable state is serial.** -/
theorem serial_of_reachable {state : State θ ω σ ε W}
    (reachable : (system guarded program object world).Reachable state) :
    Serial guarded program object state := by
  refine System.invariant ?_ ?_ reachable
  · rintro _ rfl
    exact serial_initial
  · intro state next serial stepped
    exact serial.step stepped

/-! ## Time -/

/-- Everything decided so far was decided in this order, and not after now. -/
structure Recorded (later : W → W → Prop) (state : State θ ω σ ε W) : Prop where
  past : ∀ done ∈ state.performed.map Prod.snd, later done.world state.world
  order : (state.performed.map Prod.snd).Pairwise fun first second => later first.world second.world

omit [DecidableEq θ] in
theorem Recorded.move {later : W → W → Prop} (trans : ∀ first second third,
      later first second → later second third → later first third)
    {state next : State θ ω σ ε W} (recorded : Recorded later state)
    (same : next.performed = state.performed) (moved : later state.world next.world) :
    Recorded later next where
  past done member := trans _ _ _ (recorded.past done (same ▸ member)) moved
  order := same ▸ recorded.order

/-- **The operations in time**, as far as the world only moves forward. -/
theorem recorded_of_reachable {later : W → W → Prop} (refl : ∀ world, later world world)
    (trans : ∀ first second third, later first second → later second third → later first third)
    (writes : ∀ world item next, guarded.write world item next → later world next)
    (moves : ∀ world next, guarded.world world next → later world next)
    {state : State θ ω σ ε W}
    (reachable : (system guarded program object world).Reachable state) :
    Recorded later state := by
  refine System.invariant ?_ ?_ reachable
  · rintro _ rfl
    exact ⟨nofun, .nil⟩
  · intro state next recorded stepped
    cases stepped with
    | lock here free next => exact ⟨recorded.past, recorded.order⟩
    | perform here runs =>
        constructor
        case past =>
          intro done member
          simp only [List.map_append, List.mem_append] at member
          rcases member with early | last
          · exact recorded.past done early
          · simp only [List.map_cons, List.map_nil, List.mem_singleton] at last
            subst last
            exact refl _
        case order =>
          simp only [List.map_append, List.pairwise_append]
          refine ⟨recorded.order, List.pairwise_singleton .., fun done early last member => ?_⟩
          simp only [List.map_cons, List.map_nil, List.mem_singleton] at member
          subst member
          exact recorded.past done early
    | write here wrote =>
        refine recorded.move trans ?_ ?_
        · rfl
        · exact writes _ _ _ wrote
    | unlock here => exact ⟨recorded.past, recorded.order⟩
    | world moved =>
        refine recorded.move trans ?_ ?_
        · rfl
        · exact moves _ _ moved

end Steps

end Stgs.Theory.CriticalSection
