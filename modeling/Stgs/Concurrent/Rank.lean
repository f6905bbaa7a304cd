/-
# Concurrent.Rank -- a call that does not wait comes to its end

Every step of a thread in its call, from the lock to the last notification, makes the
rank of the monitor smaller: a notification wakes up threads, and has paid for them.
What brings the rank up again is what a call does to the queue, and spurious wake-ups.
-/
import Mathlib
import Stgs.Concurrent.Monitor
import Stgs.Theory.Measure

namespace Stgs.Concurrent

open Stgs.Theory.Measure

set_option autoImplicit false

universe u v

variable {Thread : Type v} [DecidableEq Thread] [Fintype Thread] {α : Type u}

/-- A notification pays for whom it wakes up. -/
def Wake.rank (threads : Nat) : Wake → Nat
  | .one _ => 4
  | .all _ => 3 * threads + 1

def Phase.rank (threads : Nat) : Phase α → Nat
  | .leaving _ outcome => 6 + (outcome.wakes.map (Wake.rank threads)).sum
  | .waking _ _ left => 5 + (left.map (Wake.rank threads)).sum
  | .idle => 4
  | .locking _ => 3
  | .checking _ => 2
  | .acting _ => 1
  | .waiting _ => 0

/-- What is left of the calls. -/
def Sync.rank (sync : Sync Thread α) : Nat :=
  ∑ thread, Phase.rank (Fintype.card Thread) (sync.phase thread)

variable {queue : BlockingQueue α} {sync next : Sync Thread α} {thread : Thread}

theorem rank_set (sync : Sync Thread α) (thread : Thread) (after : Phase α) :
    Sync.rank (sync.set thread after) + (sync.phase thread).rank (Fintype.card Thread) =
      Sync.rank sync + after.rank (Fintype.card Thread) :=
  sum_update (Phase.rank (Fintype.card Thread)) sync.phase thread after

/-- A thread goes on in its call. -/
theorem rank_less {before after : Phase α} (here : sync.phase thread = before)
    (less : after.rank (Fintype.card Thread) < before.rank (Fintype.card Thread)) :
    Sync.rank (sync.set thread after) < Sync.rank sync := by
  have sum := rank_set sync thread after
  rw [here] at sum
  omega

theorem rank_wakes (threads : Nat) (call : Call α) (outcome : Outcome α) (wake : Wake)
    (left : List Wake) :
    (Phase.waking call outcome (wake :: left)).rank threads =
      wake.rank threads + (Phase.waking call outcome left).rank threads := by
  simp only [Phase.rank, List.map_cons, List.sum_cons]
  omega

omit [DecidableEq Thread] in
/-- `notify_all` wakes up every thread at most. -/
theorem rank_wakeAll (sync : Sync Thread α) (side : Side) :
    Sync.rank (sync.wakeAll side) ≤ Sync.rank sync + 3 * Fintype.card Thread := by
  have woken (other : Thread) : ((sync.wakeAll side).phase other).rank (Fintype.card Thread) ≤
      (sync.phase other).rank (Fintype.card Thread) + 3 := by
    rcases wakeAll_phase sync side other with same | ⟨call, waits, locks⟩
    · rw [same]
      exact Nat.le_add_right ..
    · rw [waits, locks]
      exact Nat.le_refl 3
  calc Sync.rank (sync.wakeAll side)
      ≤ ∑ other, ((sync.phase other).rank (Fintype.card Thread) + 3) :=
        Finset.sum_le_sum fun other _ => woken other
    _ = Sync.rank sync + 3 * Fintype.card Thread := by
        rw [Finset.sum_add_distrib, Finset.sum_const, Finset.card_univ, Nat.mul_comm]
        rfl

/-- **Every move brings the calls on.** -/
theorem moves_rank (moves : Moves queue thread sync next) : Sync.rank next < Sync.rank sync := by
  cases moves with
  | locks locking free => exact rank_less locking (Nat.lt_succ_self 2)
  | passes checking ready => exact rank_less checking (Nat.lt_succ_self 1)
  | waits checking unready => exact rank_less checking Nat.two_pos
  | unlocks leaving => exact rank_less leaving (Nat.add_lt_add_right (Nat.lt_succ_self 5) _)
  | @wakesOne call other outcome side left sleeper waking sleeps there =>
      have apart : sleeper ≠ thread := by
        rintro rfl
        rw [sleeps] at waking
        cases waking
      have first := rank_set sync thread (.waking call outcome left)
      have second := rank_set (sync.set thread (.waking call outcome left)) sleeper (.locking other)
      rw [waking, rank_wakes] at first
      rw [Sync.set_other _ _ apart, sleeps] at second
      have three : (Phase.locking other).rank (Fintype.card Thread) = 3 := rfl
      have none : (Phase.waiting other).rank (Fintype.card Thread) = 0 := rfl
      have four : (Wake.one side).rank (Fintype.card Thread) = 4 := rfl
      omega
  | @wakesNobody call outcome side left waking awake =>
      refine rank_less waking ?_
      rw [rank_wakes]
      exact Nat.lt_add_of_pos_left (Nat.succ_pos 3)
  | @wakesAll call outcome side left waking =>
      have all := rank_wakeAll (sync.set thread (.waking call outcome left)) side
      have sum := rank_set sync thread (.waking call outcome left)
      rw [waking, rank_wakes] at sum
      have paid : (Wake.all side).rank (Fintype.card Thread) = 3 * Fintype.card Thread + 1 := rfl
      omega

end Stgs.Concurrent
