/-
# Theory.Spacing -- events that keep their distance

A run says of each of its moments whether something happens.  If two events with nothing
between them are always `gap` moments apart, there are no more of them than fit
(`count_mul_le`).
-/
import Mathlib.Data.List.Basic
import Mathlib.Tactic.Linarith

namespace Stgs.Theory.Spacing

set_option autoImplicit false

/-- Successive events are `gap` moments apart, or more. -/
def Spaced (gap : Nat) (run : List Bool) : Prop :=
  ∀ before quiet later, run = before ++ true :: (List.replicate quiet false ++ true :: later) →
    gap ≤ quiet + 1

theorem Spaced.tail {gap : Nat} {moment : Bool} {run : List Bool}
    (spaced : Spaced gap (moment :: run)) : Spaced gap run := by
  intro before quiet later split
  refine spaced (moment :: before) quiet later ?_
  rw [split, List.cons_append]

/-- The events that follow one that was some moments ago. -/
theorem count_mul_le_since {gap : Nat} {run : List Bool} {quiet : Nat}
    (spaced : Spaced gap (true :: (List.replicate quiet false ++ run))) :
    run.count true * gap ≤ quiet + run.length := by
  induction run generalizing quiet with
  | nil => simp
  | cons moment rest ih =>
      cases moment with
      | false =>
          have longer : List.replicate quiet false ++ false :: rest =
              List.replicate (quiet + 1) false ++ rest := by
            rw [List.replicate_succ', List.append_assoc, List.singleton_append]
          rw [longer] at spaced
          have later := ih spaced
          rw [List.count_cons_of_ne (by decide), List.length_cons]
          omega
      | true =>
          have apart : gap ≤ quiet + 1 := spaced [] quiet rest rfl
          have suffix : ∀ past : List Bool, Spaced gap (past ++ true :: rest) →
              Spaced gap (true :: rest) := by
            intro past
            induction past with
            | nil => exact id
            | cons _ past shorter => exact fun whole => shorter whole.tail
          have later := @ih 0 (suffix (true :: List.replicate quiet false) spaced)
          rw [List.count_cons_self, List.length_cons, Nat.add_mul, Nat.one_mul]
          omega

/-- **How many events fit into a run.** -/
theorem count_mul_le {gap : Nat} {run : List Bool} (spaced : Spaced gap run) :
    (run.count true - 1) * gap ≤ run.length := by
  induction run with
  | nil => simp
  | cons moment rest ih =>
      cases moment with
      | false =>
          have later := ih spaced.tail
          rw [List.count_cons_of_ne (by decide), List.length_cons]
          omega
      | true =>
          have later := @count_mul_le_since gap rest 0 spaced
          rw [List.count_cons_self, List.length_cons, Nat.add_sub_cancel]
          omega

end Stgs.Theory.Spacing
