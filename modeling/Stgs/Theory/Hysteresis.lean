/-
# Theory.Hysteresis -- a switch with two rules

A switch is low or high.  One rule raises it, another lowers it; both look at an
observation only, and the rule of the other level is not looked at.  The level
after a history is a recursion over its observations, newest first.

A switch flaps on an observation that satisfies both rules, and on no other
(`next_next_iff`): whatever the level, the same observation twice changes it at
most once exactly when the rules exclude each other there.
-/
import Mathlib.Init

namespace Stgs.Theory.Hysteresis

set_option autoImplicit false

universe u

inductive Level where
  | low
  | high
deriving DecidableEq, Repr

/-- The other one. -/
def Level.flip : Level → Level
  | low => high
  | high => low

@[simp] theorem Level.flip_flip (level : Level) : level.flip.flip = level := by
  cases level <;> rfl

@[simp] theorem Level.flip_ne (level : Level) : level.flip ≠ level := by
  cases level <;> exact nofun

section Switch

variable {α : Type u} (rise fall : α → Prop) [DecidablePred rise] [DecidablePred fall]

/-- One observation. -/
def next (level : Level) (seen : α) : Level :=
  match level with
  | .low => if rise seen then .high else .low
  | .high => if fall seen then .low else .high

/-- The level after a history, newest observation first. -/
def levelAfter : List α → Level
  | [] => .low
  | seen :: past => next rise fall (levelAfter past) seen

variable {rise fall} {level : Level} {seen : α}

theorem next_low_ne : next rise fall .low seen ≠ .low ↔ rise seen := by
  by_cases rises : rise seen
  · simp [next, rises]
  · simp [next, rises]

theorem next_high_ne : next rise fall .high seen ≠ .high ↔ fall seen := by
  by_cases falls : fall seen
  · simp [next, falls]
  · simp [next, falls]

/-- A change is a flip. -/
theorem next_of_ne (changed : next rise fall level seen ≠ level) :
    next rise fall level seen = level.flip := by
  cases level with
  | low => rw [next, if_pos (next_low_ne.mp changed), Level.flip]
  | high => rw [next, if_pos (next_high_ne.mp changed), Level.flip]

/-- **When a switch flaps.** -/
theorem next_next_iff : (∀ level, next rise fall (next rise fall level seen) seen =
    next rise fall level seen) ↔ ¬ (rise seen ∧ fall seen) := by
  constructor
  · rintro settled ⟨rises, falls⟩
    have back := settled .low
    simp [next, rises, falls] at back
  · intro apart level
    cases level with
    | low =>
        by_cases rises : rise seen
        · have stays : ¬ fall seen := fun falls => apart ⟨rises, falls⟩
          simp [next, rises, stays]
        · simp [next, rises]
    | high =>
        by_cases falls : fall seen
        · have stays : ¬ rise seen := fun rises => apart ⟨rises, falls⟩
          simp [next, falls, stays]
        · simp [next, falls]

/-- Where neither rule holds nothing happens. -/
theorem levelAfter_low {history : List α} (never : ∀ seen ∈ history, ¬ rise seen) :
    levelAfter rise fall history = .low := by
  induction history with
  | nil => rfl
  | cons seen past ih =>
      have quiet : ¬ rise seen := never seen List.mem_cons_self
      rw [levelAfter, ih fun earlier member => never earlier (List.mem_cons_of_mem _ member), next,
        if_neg quiet]

end Switch

end Stgs.Theory.Hysteresis
