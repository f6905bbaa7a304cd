/-
# Theory.SizeArithmetic -- loops with the arithmetic they do on sizes

Unsigned words below `limit` wrap around, an index may be outside of its list, a
divisor may be zero.  A `SizeOp` is one step of a program that could go wrong so;
`SizeOp.Sound` says that it does not.  The functions of `Sized` compute what the
machine computes, wrapped where it wraps, and record the step.  Each has a rule: if
the step is sound, the result is the plain one.
-/
import Mathlib
import Stgs.Theory.Traced

namespace Stgs.Theory

set_option autoImplicit false

inductive SizeOp where
  | add (x y : Nat)
  | subtract (x y : Nat)
  | multiply (x y : Nat)
  | divide (divisor : ℚ)
  /-- `items[offset]`, of a list of this size -/
  | index (offset size : Nat)
deriving DecidableEq

def SizeOp.Sound (limit : Nat) : SizeOp → Prop
  | .add x y => x + y < limit
  | .subtract x y => y ≤ x
  | .multiply x y => x * y < limit
  | .divide divisor => divisor ≠ 0
  | .index offset size => offset < size

namespace Sized

open Traced

variable (limit : Nat) {α β : Type}

/-- It returns this value, and every step is sound. -/
abbrev Soundly (computation : Traced SizeOp α) (value : α) : Prop :=
  computation.Keeps (SizeOp.Sound limit) value

def add (x y : Nat) : Traced SizeOp Nat := do
  perform (.add x y)
  return (x + y) % limit

def subtract (x y : Nat) : Traced SizeOp Nat := do
  perform (.subtract x y)
  return (x + (limit - y)) % limit

def multiply (x y : Nat) : Traced SizeOp Nat := do
  perform (.multiply x y)
  return x * y % limit

def divide (x y : Nat) : Traced SizeOp Nat := do
  perform (.divide y)
  return x / y

/-- A division of exact numbers. -/
def quotient (x y : ℚ) : Traced SizeOp ℚ := do
  perform (.divide y)
  return x / y

def load (items : List α) (offset : Nat) (default : α) : Traced SizeOp α := do
  perform (.index offset items.length)
  return items.getD offset default

def store (items : List α) (offset : Nat) (item : α) : Traced SizeOp (List α) := do
  perform (.index offset items.length)
  return items.set offset item

/-- `for (i = first; i < last; ++i)`. -/
def forLoop (first last : Nat) (body : β → Nat → Traced SizeOp β) (state : β) :
    Traced SizeOp β :=
  (List.range' first (last - first)).foldlM (fun state i => do
    let state ← body state i
    let _ ← add limit i 1
    return state) state

/-! ## Rules -/

variable {limit}

theorem sound_add {x y : Nat} (fits : x + y < limit) : Soundly limit (add limit x y) (x + y) :=
  .perform fits (keeps_pure_of (Nat.mod_eq_of_lt fits))

theorem sound_subtract {x y : Nat} (order : y ≤ x) (word : x < limit) :
    Soundly limit (subtract limit x y) (x - y) := by
  have wrapped : x + (limit - y) = x - y + limit := by omega
  refine .perform order (keeps_pure_of ?_)
  rw [wrapped, Nat.add_mod_right, Nat.mod_eq_of_lt (by omega)]

theorem sound_multiply {x y : Nat} (fits : x * y < limit) :
    Soundly limit (multiply limit x y) (x * y) :=
  .perform fits (keeps_pure_of (Nat.mod_eq_of_lt fits))

theorem sound_divide {x y : Nat} (positive : 0 < y) : Soundly limit (divide x y) (x / y) := by
  refine .perform ?_ (keeps_pure _)
  show (y : ℚ) ≠ 0
  exact Nat.cast_ne_zero.mpr positive.ne'

theorem sound_quotient {x y : ℚ} (nonzero : y ≠ 0) : Soundly limit (quotient x y) (x / y) :=
  .perform nonzero (keeps_pure _)

theorem sound_load {items : List α} {offset : Nat} (inside : offset < items.length) (default : α) :
    Soundly limit (load items offset default) (items.getD offset default) :=
  .perform inside (keeps_pure _)

theorem sound_store {items : List α} {offset : Nat} (inside : offset < items.length) (item : α) :
    Soundly limit (store items offset item) (items.set offset item) :=
  .perform inside (keeps_pure _)

/-- **A loop whose body is sound is sound**, increments included; its body may rely
on an invariant. -/
theorem sound_forLoop {first last : Nat} {body : β → Nat → Traced SizeOp β} {plain : β → Nat → β}
    (fits : last < limit) (invariant : β → Prop)
    (each : ∀ state, invariant state → ∀ i, first ≤ i → i < last →
      Soundly limit (body state i) (plain state i) ∧ invariant (plain state i))
    (state : β) (start : invariant state) :
    Soundly limit (forLoop limit first last body state)
      ((List.range' first (last - first)).foldl plain state) := by
  refine Keeps.foldlM_of invariant ?_ state start
  intro state holds i member
  have inside := List.mem_range'_1.mp member
  obtain ⟨sound, kept⟩ := each state holds i inside.1 (by omega)
  refine ⟨sound.bind ?_, kept⟩
  exact (sound_add (by omega)).bind (keeps_pure _)

/-- A loop that writes every place up to `count`. -/
theorem foldl_set (values : Nat → α) (items : List α) {count : Nat} (room : count ≤ items.length) :
    (List.range' 0 count).foldl (fun items i => items.set i (values i)) items =
      (List.range count).map values ++ items.drop count := by
  induction count with
  | zero => simp
  | succ count ih =>
      rw [List.range'_concat, List.foldl_append, ih (by omega)]
      simp only [List.foldl_cons, List.foldl_nil, Nat.zero_add, Nat.one_mul]
      rw [List.set_append_right _ _ (by simp), List.length_map, List.length_range, Nat.sub_self,
        List.drop_eq_getElem_cons (by omega), List.set_cons_zero, List.range_succ, List.map_append,
        List.append_assoc]
      rfl

end Sized

end Stgs.Theory
