/-
# Theory.Traced -- computations with the operations they perform

A `Traced` computation is its value and the operations it performed, in order.
`Keeps allowed computation value` says that it returns this value and that all of its
operations are allowed; the rules follow the way a program is built, so that a proof
about a program goes along its text.
-/
import Mathlib.Data.List.Basic

namespace Stgs.Theory

set_option autoImplicit false

universe u

structure Traced (Op : Type) (α : Type u) where
  value : α
  trace : List Op

namespace Traced

variable {Op : Type} {α β : Type}

instance : Monad (Traced Op) where
  pure value := ⟨value, []⟩
  bind first next := ⟨(next first.value).value, first.trace ++ (next first.value).trace⟩

/-- Perform one operation. -/
def perform (op : Op) : Traced Op Unit := ⟨(), [op]⟩

/-- It returns this value, by allowed operations only. -/
structure Keeps (allowed : Op → Prop) (computation : Traced Op α) (value : α) : Prop where
  value : computation.value = value
  safe : ∀ op ∈ computation.trace, allowed op

variable {allowed : Op → Prop}

theorem keeps_pure (value : α) : Keeps allowed (pure value : Traced Op α) value :=
  ⟨rfl, fun _ member => absurd member List.not_mem_nil⟩

theorem keeps_pure_of {value result : α} (same : value = result) :
    Keeps allowed (pure value : Traced Op α) result :=
  same ▸ keeps_pure value

theorem keeps_perform {op : Op} (allow : allowed op) : Keeps allowed (perform op) () :=
  ⟨rfl, fun _ member => List.mem_singleton.mp member ▸ allow⟩

theorem Keeps.bind {first : Traced Op α} {next : α → Traced Op β} {value : α} {result : β}
    (before : Keeps allowed first value) (after : Keeps allowed (next value) result) :
    Keeps allowed (first >>= next) result := by
  obtain ⟨rfl, safe⟩ := before
  refine ⟨after.value, fun op member => ?_⟩
  rcases List.mem_append.mp member with early | late
  · exact safe op early
  · exact after.safe op late

/-- An operation before the rest of the program. -/
theorem Keeps.perform {op : Op} {next : Unit → Traced Op β} {result : β} (allow : allowed op)
    (after : Keeps allowed (next ()) result) :
    Keeps allowed (Traced.perform op >>= next) result :=
  (keeps_perform allow).bind after

theorem Keeps.ite {condition : Prop} [Decidable condition] {first second : Traced Op α}
    {yes no : α} (positive : condition → Keeps allowed first yes)
    (negative : ¬ condition → Keeps allowed second no) :
    Keeps allowed (if condition then first else second) (if condition then yes else no) := by
  by_cases holds : condition
  · rw [if_pos holds, if_pos holds]
    exact positive holds
  · rw [if_neg holds, if_neg holds]
    exact negative holds

/-- A loop with an invariant. -/
theorem Keeps.foldlM_of {γ : Type} {step : β → γ → Traced Op β} {plain : β → γ → β}
    {items : List γ} (invariant : β → Prop)
    (each : ∀ state, invariant state → ∀ item ∈ items,
      Keeps allowed (step state item) (plain state item) ∧ invariant (plain state item))
    (state : β) (start : invariant state) :
    Keeps allowed (items.foldlM step state) (items.foldl plain state) := by
  induction items generalizing state with
  | nil => exact keeps_pure state
  | cons item items ih =>
      obtain ⟨first, kept⟩ := each state start item (List.mem_cons_self ..)
      refine first.bind (ih ?_ _ kept)
      intro state holds item member
      exact each state holds item (List.mem_cons_of_mem _ member)

theorem Keeps.foldlM {γ : Type} {step : β → γ → Traced Op β} {plain : β → γ → β} {items : List γ}
    (each : ∀ state, ∀ item ∈ items, Keeps allowed (step state item) (plain state item))
    (state : β) : Keeps allowed (items.foldlM step state) (items.foldl plain state) :=
  Keeps.foldlM_of (fun _ => True)
    (fun state _ item member => ⟨each state item member, trivial⟩) state trivial

end Traced

end Stgs.Theory
