/-
# Theory.Transition -- systems that take steps

A system is its initial states and its steps.  An invariant is proved once for the
start and once for a step (`invariant`), if need be with what is already known of
every reachable state (`invariant_of`).  `restrict` keeps the steps that satisfy a
condition: its reachable states are those of the runs whose steps all do.  `After`
is about the other runs: those in which some step is an event.
-/
import Mathlib.Logic.Relation

namespace Stgs.Theory.Transition

set_option autoImplicit false

universe u

structure System (σ : Type u) where
  start : σ → Prop
  step : σ → σ → Prop

namespace System

variable {σ : Type u} (system : System σ)

inductive Reachable : σ → Prop where
  | start {state : σ} : system.start state → Reachable state
  | step {state next : σ} : Reachable state → system.step state next → Reachable next

/-- The runs whose steps all satisfy a condition. -/
def restrict (allowed : σ → σ → Prop) : System σ where
  start := system.start
  step state next := system.step state next ∧ allowed state next

variable {system}

/-- **Invariants.** -/
theorem invariant {inv : σ → Prop} (start : ∀ state, system.start state → inv state)
    (step : ∀ state next, inv state → system.step state next → inv next) {state : σ}
    (reachable : system.Reachable state) : inv state := by
  induction reachable with
  | start initial => exact start _ initial
  | step _ stepped ih => exact step _ _ ih stepped

/-- Invariants that rest on what is known of every reachable state. -/
theorem invariant_of {known inv : σ → Prop} (holds : ∀ state, system.Reachable state → known state)
    (start : ∀ state, system.start state → inv state)
    (step : ∀ state next, known state → inv state → system.step state next → inv next) {state : σ}
    (reachable : system.Reachable state) : inv state := by
  induction reachable with
  | start initial => exact start _ initial
  | step before stepped ih => exact step _ _ (holds _ before) ih stepped

/-- What the system goes on to from a reachable state is reachable. -/
theorem Reachable.path {state later : σ} (reachable : system.Reachable state)
    (path : Relation.ReflTransGen system.step state later) : system.Reachable later := by
  induction path with
  | refl => exact reachable
  | tail _ stepped ih => exact .step ih stepped

theorem Reachable.of_restrict {allowed : σ → σ → Prop} {state : σ}
    (reachable : (system.restrict allowed).Reachable state) : system.Reachable state := by
  induction reachable with
  | start initial => exact .start initial
  | step _ stepped ih => exact .step ih stepped.1

/-- The states reached by a run in which some step is the event. -/
inductive After (event : σ → σ → Prop) : σ → Prop where
  | event {state next : σ} :
      system.Reachable state → system.step state next → event state next → After event next
  | step {state next : σ} : After event state → system.step state next → After event next

theorem After.reachable {event : σ → σ → Prop} {state : σ} (after : system.After event state) :
    system.Reachable state := by
  induction after with
  | event before stepped _ => exact .step before stepped
  | step _ stepped ih => exact .step ih stepped

/-- What an event brings about, and every step keeps. -/
theorem After.invariant {event : σ → σ → Prop} {inv : σ → Prop}
    (start : ∀ state next, system.Reachable state → system.step state next → event state next →
      inv next)
    (step : ∀ state next, system.Reachable state → inv state → system.step state next → inv next)
    {state : σ} (after : system.After event state) : inv state := by
  induction after with
  | event before stepped happened => exact start _ _ before stepped happened
  | step before stepped ih => exact step _ _ before.reachable ih stepped

end System

end Stgs.Theory.Transition
