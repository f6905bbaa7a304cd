/-
# Concurrent.BlockingQueue -- the bounded queue between two stages

`push` and `pop` run under the queue's mutex, so each is one step of the system;
`none` stands for a call that waits.  A capacity of zero is unbounded.  A queue
carries the bound on its size.
-/
import Mathlib.Init

namespace Stgs.Concurrent

set_option autoImplicit false

universe u

structure BlockingQueue (α : Type u) where
  queue : List α := []
  capacity : Nat := 0
  closed : Bool := false
  bounded : capacity = 0 ∨ queue.length ≤ capacity

namespace BlockingQueue

variable {α : Type u}

/-- The constructor. -/
def create (capacity : Nat) : BlockingQueue α where
  capacity
  bounded := Or.inr (Nat.zero_le _)

/-- What `push` returns, and the queue after it. -/
def push (self : BlockingQueue α) (value : α) : Option (Bool × BlockingQueue α) :=
  if self.closed then some (false, self)
  else if room : self.capacity = 0 ∨ self.queue.length < self.capacity then
    some (true,
      { self with
        queue := self.queue ++ [value]
        bounded := room.imp_right fun less => by rw [List.length_append]; exact less })
  else none

/-- What `pop` returns, and the queue after it. -/
def pop (self : BlockingQueue α) : Option (Option α × BlockingQueue α) :=
  match front : self.queue with
  | [] => if self.closed then some (none, self) else none
  | value :: rest =>
      some (some value,
        { self with
          queue := rest
          bounded := self.bounded.imp_right fun fits => by
            rw [front] at fits
            exact Nat.le_of_succ_le fits })

def close (self : BlockingQueue α) : BlockingQueue α := { self with closed := true }

@[simp] theorem close_queue (self : BlockingQueue α) : self.close.queue = self.queue := rfl
@[simp] theorem close_closed (self : BlockingQueue α) : self.close.closed = true := rfl
@[simp] theorem create_queue (capacity : Nat) : (create capacity : BlockingQueue α).queue = [] := rfl
@[simp] theorem create_closed (capacity : Nat) :
    (create capacity : BlockingQueue α).closed = false := rfl

/-- A push that returns true found the queue open and appended the value. -/
theorem push_accepted {self after : BlockingQueue α} {value : α}
    (pushed : self.push value = some (true, after)) :
    self.closed = false ∧ after.closed = false ∧ after.queue = self.queue ++ [value] := by
  unfold push at pushed
  split at pushed
  · cases pushed
  · rename_i isOpen
    split at pushed
    · obtain rfl := (Prod.mk.inj (Option.some.inj pushed)).2
      exact ⟨Bool.eq_false_iff.mpr isOpen, Bool.eq_false_iff.mpr isOpen, rfl⟩
    · cases pushed

/-- A push that returns false found the queue closed and left it. -/
theorem push_refused {self after : BlockingQueue α} {value : α}
    (pushed : self.push value = some (false, after)) : self.closed = true ∧ after = self := by
  unfold push at pushed
  split at pushed
  · rename_i isClosed
    exact ⟨isClosed, (Prod.mk.inj (Option.some.inj pushed)).2.symm⟩
  · split at pushed <;> cases pushed

/-- A pop that returns a value took the oldest. -/
theorem pop_value {self after : BlockingQueue α} {value : α}
    (popped : self.pop = some (some value, after)) :
    self.queue = value :: after.queue ∧ after.closed = self.closed := by
  unfold pop at popped
  split at popped
  · split at popped <;> cases popped
  · rename_i front
    obtain ⟨same, rest⟩ := Prod.mk.inj (Option.some.inj popped)
    obtain rfl := Option.some.inj same
    obtain rfl := rest
    exact ⟨front, rfl⟩

/-- A pop that returns nothing found the queue closed and drained. -/
theorem pop_nothing {self after : BlockingQueue α} (popped : self.pop = some (none, after)) :
    self.closed = true ∧ self.queue = [] ∧ after = self := by
  unfold pop at popped
  split at popped
  · rename_i empty
    split at popped
    · rename_i isClosed
      exact ⟨isClosed, empty, (Prod.mk.inj (Option.some.inj popped)).2.symm⟩
    · cases popped
  · cases popped

/-- When a push does not wait. -/
theorem push_enabled {self : BlockingQueue α} (value : α)
    (ready : self.closed = true ∨ self.capacity = 0 ∨ self.queue.length < self.capacity) :
    ∃ accepted after, self.push value = some (accepted, after) := by
  unfold push
  split
  · exact ⟨false, self, rfl⟩
  · rename_i isOpen
    split
    · exact ⟨true, _, rfl⟩
    · rename_i full
      exact absurd (ready.resolve_left isOpen) full

/-- When a pop does not wait. -/
theorem pop_enabled {self : BlockingQueue α} (ready : self.closed = true ∨ self.queue ≠ []) :
    ∃ value after, self.pop = some (value, after) := by
  unfold pop
  split
  · rename_i empty
    have isClosed := ready.resolve_right (not_not_intro empty)
    exact ⟨none, self, if_pos isClosed⟩
  · exact ⟨_, _, rfl⟩

/-! ## What stays -/

theorem push_capacity {self after : BlockingQueue α} {value : α} {accepted : Bool}
    (pushed : self.push value = some (accepted, after)) : after.capacity = self.capacity := by
  unfold push at pushed
  split at pushed
  · obtain rfl := (Prod.mk.inj (Option.some.inj pushed)).2
    rfl
  · split at pushed
    · obtain rfl := (Prod.mk.inj (Option.some.inj pushed)).2
      rfl
    · cases pushed

theorem pop_capacity {self after : BlockingQueue α} {value : Option α}
    (popped : self.pop = some (value, after)) : after.capacity = self.capacity := by
  unfold pop at popped
  split at popped
  · split at popped
    · obtain rfl := (Prod.mk.inj (Option.some.inj popped)).2
      rfl
    · cases popped
  · obtain rfl := (Prod.mk.inj (Option.some.inj popped)).2
    rfl

/-- Closed and empty: nothing will come out of it. -/
def Drained (self : BlockingQueue α) : Prop := self.closed = true ∧ self.queue = []

/-- No call opens a queue, or fills one that is drained. -/
structure Ahead (before after : BlockingQueue α) : Prop where
  closed : before.closed = true → after.closed = true
  drained : before.Drained → after.Drained

theorem Ahead.refl (self : BlockingQueue α) : self.Ahead self := ⟨id, id⟩

theorem push_ahead {self after : BlockingQueue α} {value : α} {accepted : Bool}
    (pushed : self.push value = some (accepted, after)) : self.Ahead after := by
  cases accepted with
  | true =>
      have isOpen := (push_accepted pushed).1
      exact ⟨fun closed => by simp [isOpen] at closed, fun drained => by simp [Drained, isOpen] at drained⟩
  | false =>
      obtain ⟨_, rfl⟩ := push_refused pushed
      exact .refl _

theorem pop_ahead {self after : BlockingQueue α} {value : Option α}
    (popped : self.pop = some (value, after)) : self.Ahead after := by
  cases value with
  | some value =>
      obtain ⟨front, same⟩ := pop_value popped
      exact ⟨fun closed => same.trans closed, fun drained => by simp [Drained, front] at drained⟩
  | none =>
      obtain ⟨_, _, rfl⟩ := pop_nothing popped
      exact .refl _

theorem close_ahead (self : BlockingQueue α) : self.Ahead self.close :=
  ⟨fun _ => rfl, fun drained => ⟨rfl, drained.2⟩⟩

theorem pop_closed {self after : BlockingQueue α} {value : Option α}
    (popped : self.pop = some (value, after)) : after.closed = self.closed := by
  cases value with
  | some value => exact (pop_value popped).2
  | none => rw [(pop_nothing popped).2.2]

theorem push_closed {self after : BlockingQueue α} {value : α} {accepted : Bool}
    (pushed : self.push value = some (accepted, after)) : after.closed = self.closed := by
  cases accepted with
  | true =>
      obtain ⟨before, later, _⟩ := push_accepted pushed
      rw [before, later]
  | false => rw [(push_refused pushed).2]

end BlockingQueue

end Stgs.Concurrent
