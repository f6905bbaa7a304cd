/-
# Theory.Postcondition -- what a computation returns, if it returns

`Ensures post run`: every value that `run` returns satisfies `post`.  A computation
that stops with an error promises nothing, so a check before a value costs nothing
in the proof.  One rule for each way to build a computation: a value, an error, a
choice, two in a row.
-/
import Mathlib.Init

namespace Stgs.Theory

set_option autoImplicit false

universe u v

variable {ε α β : Type u}

def Ensures (post : α → Prop) (run : Except ε α) : Prop :=
  ∀ result, run = .ok result → post result

namespace Ensures

variable {post : α → Prop} {run : Except ε α}

theorem error (stop : ε) : Ensures post (.error stop) := by
  intro result returned
  cases returned

theorem ok {result : α} (holds : post result) : Ensures post (.ok result : Except ε α) := by
  intro other returned
  rw [← Except.ok.inj returned]
  exact holds

theorem mono {weaker : α → Prop} (ensured : Ensures post run)
    (implies : ∀ result, post result → weaker result) : Ensures weaker run := by
  intro result returned
  exact implies result (ensured result returned)

/-- A check in front of a computation. -/
theorem ite {condition : Prop} [Decidable condition] {other : Except ε α}
    (first : condition → Ensures post run) (second : ¬ condition → Ensures post other) :
    Ensures post (if condition then run else other) := by
  split
  · rename_i holds
    exact first holds
  · rename_i fails
    exact second fails

/-- Two computations in a row: the second may rely on what the first ensures. -/
theorem bind {between : β → Prop} {first : Except ε β} {next : β → Except ε α}
    (ensured : Ensures between first) (continues : ∀ value, between value → Ensures post (next value)) :
    Ensures post (first >>= next) := by
  intro result returned
  cases runs : first with
  | error stop =>
      rw [runs] at returned
      cases returned
  | ok value =>
      rw [runs] at returned
      exact continues value (ensured value runs) result returned

/-- Two computations in a row, of which the first matters only by returning. -/
theorem after {first : Except ε β} {next : β → Except ε α}
    (continues : ∀ value, Ensures post (next value)) : Ensures post (first >>= next) := by
  have returns : Ensures (fun _ => True) first := fun _ _ => trivial
  exact returns.bind fun value _ => continues value

end Ensures

end Stgs.Theory
