/-
# Theory.Measure -- runs that come to an end

If in every state that is not final some step makes a measure smaller, a final state can
be reached from anywhere (`reaches`).  The measures of a system of threads are sums over
its threads; `sum_update` is such a sum when one thread moves.
-/
import Mathlib.Algebra.BigOperators.Group.Finset.Basic
import Mathlib.Algebra.BigOperators.Group.Finset.Piecewise
import Mathlib.Data.Fintype.Basic
import Mathlib.Logic.Relation
import Mathlib.Order.WellFounded

namespace Stgs.Theory.Measure

set_option autoImplicit false

universe u v w

section Reaches

variable {σ : Type u} {α : Type v} [LT α] [WellFoundedLT α]

/-- **A measure that can always be made smaller ends in a final state.** -/
theorem reaches {step : σ → σ → Prop} {inv final : σ → Prop} (measure : σ → α)
    (smaller : ∀ state, inv state → ¬ final state →
      ∃ next, step state next ∧ inv next ∧ measure next < measure state)
    {state : σ} (start : inv state) :
    ∃ last, Relation.ReflTransGen step state last ∧ inv last ∧ final last := by
  generalize size : measure state = bound
  induction bound using WellFoundedLT.induction generalizing state with
  | ind bound ih =>
      by_cases ended : final state
      · exact ⟨state, .refl, start, ended⟩
      · obtain ⟨next, stepped, kept, less⟩ := smaller state start ended
        obtain ⟨last, run, holds, ended⟩ := ih (measure next) (size ▸ less) kept rfl
        exact ⟨last, .head stepped run, holds, ended⟩

end Reaches

section Sum

variable {Thread : Type u} [DecidableEq Thread] [Fintype Thread] {β : Type v}

/-- One thread moves. -/
theorem sum_update (weight : β → Nat) (place : Thread → β) (thread : Thread) (after : β) :
    ∑ other, weight (Function.update place thread after other) + weight (place thread) =
      ∑ other, weight (place other) + weight after := by
  have others : ∑ other ∈ Finset.univ.erase thread, weight (Function.update place thread after other) =
      ∑ other ∈ Finset.univ.erase thread, weight (place other) := by
    refine Finset.sum_congr rfl fun other member => ?_
    rw [Function.update_of_ne (Finset.ne_of_mem_erase member)]
  have moved := Finset.add_sum_erase Finset.univ
    (fun other => weight (Function.update place thread after other)) (Finset.mem_univ thread)
  have before := Finset.add_sum_erase Finset.univ (fun other => weight (place other))
    (Finset.mem_univ thread)
  simp only [Function.update_self] at moved
  omega

end Sum

end Stgs.Theory.Measure
