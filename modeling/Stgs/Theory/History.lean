/-
# Theory.History -- what holds of every event when it happens

A history is the list of events so far, the latest last.  `Always P` says that `P`
holds of each event and the history before it.  It is kept by adding an event of
which `P` holds (`always_concat`).
-/
import Mathlib.Data.List.Basic

namespace Stgs.Theory.History

set_option autoImplicit false

universe u

variable {ε : Type u} {P Q : List ε → ε → Prop} {history : List ε}

/-- Every event satisfies `P` of the history before it. -/
def Always (P : List ε → ε → Prop) (history : List ε) : Prop :=
  ∀ past event later, history = past ++ event :: later → P past event

theorem always_nil : Always P [] := fun past event later empty => by simp at empty

/-- **A history grows by one event.** -/
theorem always_concat {event : ε} :
    Always P (history ++ [event]) ↔ Always P history ∧ P history event := by
  constructor
  · intro holds
    refine ⟨fun past earlier later split => ?_, holds history event [] rfl⟩
    refine holds past earlier (later ++ [event]) ?_
    rw [split, List.append_assoc, List.cons_append]
  · rintro ⟨before, now⟩ past earlier later split
    rcases List.eq_nil_or_concat later with rfl | ⟨middle, last, rfl⟩
    · obtain ⟨rfl, same⟩ := List.append_inj' split rfl
      obtain rfl := (List.cons.inj same).1
      exact now
    · have regroup : history ++ [event] = (past ++ earlier :: middle) ++ [last] := by
        rw [split]
        simp
      obtain ⟨rfl, _⟩ := List.append_inj' regroup rfl
      exact before past earlier middle rfl

theorem Always.imp (holds : Always P history)
    (weaker : ∀ past event, P past event → Q past event) : Always Q history :=
  fun past event later split => weaker past event (holds past event later split)

end Stgs.Theory.History
