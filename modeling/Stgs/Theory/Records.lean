/-
# Theory.Records -- strings made of self-delimiting items

An encoding is delimited when nobody can mistake where an item ends: two strings
that start with an item each and are equal start with the same item and go on
alike (`Delimited`).  A string then has one longest run of items at its start, and
it is where the rest is `Stuck`, no item starting there (`prefix_of_stuck`).

Cutting a string of items leaves a run of its own items and a stuck rest, which is
empty exactly when the cut is between two items (`cut_items`).
-/
import Mathlib.Data.List.Basic

namespace Stgs.Theory.Records

set_option autoImplicit false

universe u v

variable {α : Type u} {β : Type v} {write : α → List β} {Valid : α → Prop}

/-- An item ends where it says. -/
structure Delimited (write : α → List β) (Valid : α → Prop) : Prop where
  nonempty : ∀ item, Valid item → write item ≠ []
  cancel : ∀ item other rest rest', Valid item → Valid other →
    write item ++ rest = write other ++ rest' → item = other ∧ rest = rest'

/-- No item starts here. -/
def Stuck (write : α → List β) (Valid : α → Prop) (rest : List β) : Prop :=
  ∀ item tail, Valid item → rest ≠ write item ++ tail

/-- Text ends at the first stop. -/
theorem cancel_stop {stop : β} {text other rest rest' : List β} (free : stop ∉ text)
    (free' : stop ∉ other) (same : text ++ stop :: rest = other ++ stop :: rest') :
    text = other ∧ rest = rest' := by
  induction text generalizing other with
  | nil =>
      cases other with
      | nil => exact ⟨rfl, (List.cons.inj same).2⟩
      | cons first other =>
          obtain rfl := (List.cons.inj same).1
          exact absurd (List.mem_cons_self ..) free'
  | cons first text ih =>
      cases other with
      | nil =>
          obtain rfl := (List.cons.inj same).1
          exact absurd (List.mem_cons_self ..) free
      | cons first' other =>
          obtain ⟨rfl, behind⟩ := List.cons.inj same
          obtain ⟨rfl, rest⟩ := ih (fun member => free (List.mem_cons_of_mem _ member))
            (fun member => free' (List.mem_cons_of_mem _ member)) behind
          exact ⟨rfl, rest⟩

theorem stuck_nil (delimited : Delimited write Valid) : Stuck write Valid [] := by
  intro item tail valid starts
  exact delimited.nonempty item valid (List.append_eq_nil_iff.mp starts.symm).1

/-- **The longest run of items**: whatever items a string starts with, they are among
those read until the rest is stuck. -/
theorem prefix_of_stuck (delimited : Delimited write Valid) {items others : List α}
    {rest rest' : List β} (stuck : Stuck write Valid rest) (valid : ∀ item ∈ items, Valid item)
    (valid' : ∀ item ∈ others, Valid item)
    (same : (items.map write).flatten ++ rest = (others.map write).flatten ++ rest') :
    others <+: items := by
  induction others generalizing items with
  | nil => exact List.nil_prefix
  | cons other others ih =>
      rw [List.map_cons, List.flatten_cons, List.append_assoc] at same
      have first := valid' other (List.mem_cons_self ..)
      cases items with
      | nil => exact absurd same (stuck other _ first)
      | cons item items =>
          rw [List.map_cons, List.flatten_cons, List.append_assoc] at same
          obtain ⟨rfl, rest⟩ :=
            delimited.cancel item other _ _ (valid item (List.mem_cons_self ..)) first same
          have longer := ih (fun item member => valid item (List.mem_cons_of_mem _ member))
            (fun item member => valid' item (List.mem_cons_of_mem _ member)) rest
          exact List.cons_prefix_cons.mpr ⟨rfl, longer⟩

/-- Items read up to a stuck rest are all there are. -/
theorem stuck_unique (delimited : Delimited write Valid) {items others : List α}
    {rest rest' : List β} (stuck : Stuck write Valid rest) (stuck' : Stuck write Valid rest')
    (valid : ∀ item ∈ items, Valid item) (valid' : ∀ item ∈ others, Valid item)
    (same : (items.map write).flatten ++ rest = (others.map write).flatten ++ rest') :
    others = items ∧ rest' = rest := by
  have shorter := prefix_of_stuck delimited stuck valid valid' same
  have longer := prefix_of_stuck delimited stuck' valid' valid same.symm
  obtain rfl : others = items := shorter.eq_of_length_le longer.length_le
  exact ⟨rfl, (List.append_cancel_left same).symm⟩

/-- **What a cut leaves.** -/
theorem cut_items (delimited : Delimited write Valid) {items others : List α} {rest : List β}
    (stuck : Stuck write Valid rest) (valid : ∀ item ∈ items, Valid item)
    (valid' : ∀ item ∈ others, Valid item)
    (cut : (others.map write).flatten ++ rest <+: (items.map write).flatten) :
    others <+: items ∧
      (rest = [] ↔ ∃ k, (others.map write).flatten ++ rest = ((items.take k).map write).flatten) := by
  obtain ⟨tail, whole⟩ := cut
  have same : (items.map write).flatten ++ [] = (others.map write).flatten ++ (rest ++ tail) := by
    rw [List.append_nil, ← whole, List.append_assoc]
  have shorter := prefix_of_stuck delimited (stuck_nil delimited) valid valid' same
  refine ⟨shorter, fun ended => ⟨others.length, ?_⟩, fun ⟨k, between⟩ => ?_⟩
  · rw [ended, List.append_nil, ← List.prefix_iff_eq_take.mp shorter]
  · have taken : ((items.take k).map write).flatten ++ [] = (others.map write).flatten ++ rest := by
      rw [List.append_nil]
      exact between.symm
    exact (stuck_unique delimited (stuck_nil delimited) stuck
      (fun item member => valid item (List.mem_of_mem_take member)) valid' taken).2

end Stgs.Theory.Records
