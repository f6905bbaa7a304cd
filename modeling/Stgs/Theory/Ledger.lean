/-
# Theory.Ledger -- where the numbered items of a list are

The items of a list, each with its index, are on the move between places.  A
ledger says that the places together hold them all, each once.  What follows for
one place: an entry is the item its number says (`mem_enumerate`), its number is
in no other place (`number_notMem`).
-/
import Mathlib.Algebra.BigOperators.Fin
import Mathlib.Algebra.Order.Group.Multiset

namespace Stgs.Theory.Ledger

set_option autoImplicit false

universe u

variable {α : Type u}

/-- The items of a list with their numbers. -/
def enumerate (items : List α) : Multiset (Nat × α) :=
  ↑(items.mapIdx fun number item => (number, item))

@[simp] theorem enumerate_nil : enumerate ([] : List α) = 0 := rfl

@[simp] theorem enumerate_concat (items : List α) (item : α) :
    enumerate (items ++ [item]) = enumerate items + {(items.length, item)} := by
  rw [enumerate, List.mapIdx_concat, ← Multiset.coe_add]
  rfl

@[simp] theorem card_enumerate (items : List α) : (enumerate items).card = items.length := by
  simp [enumerate]

/-- **An entry is the item its number says.** -/
theorem mem_enumerate {items : List α} {entry : Nat × α} :
    entry ∈ enumerate items ↔ items[entry.1]? = some entry.2 := by
  rw [enumerate, Multiset.mem_coe, List.mem_mapIdx]
  constructor
  · rintro ⟨number, below, rfl⟩
    exact List.getElem?_eq_getElem below
  · intro found
    obtain ⟨below, item⟩ := List.getElem?_eq_some_iff.mp found
    exact ⟨entry.1, below, by rw [item]⟩

theorem nodup_numbers (items : List α) : ((enumerate items).map Prod.fst).Nodup := by
  have numbers : (enumerate items).map Prod.fst = ↑(List.range items.length) := by
    rw [enumerate, Multiset.map_coe]
    congr 1
    refine List.ext_getElem (by simp) fun i _ _ => ?_
    simp
  rw [numbers]
  exact Multiset.coe_nodup.mpr List.nodup_range

/-- **A number is in one place only.** -/
theorem number_notMem {items : List α} {entry : Nat × α} {rest : Multiset (Nat × α)}
    (part : {entry} + rest ≤ enumerate items) {other : Nat × α} (elsewhere : other ∈ rest) :
    other.1 ≠ entry.1 := by
  intro same
  have nodup := Multiset.nodup_of_le (Multiset.map_le_map part) (nodup_numbers items)
  rw [Multiset.map_add, Multiset.map_singleton, Multiset.singleton_add,
    Multiset.nodup_cons] at nodup
  exact nodup.1 (same ▸ Multiset.mem_map_of_mem Prod.fst elsewhere)

/-- Numbers are below the length. -/
theorem lt_length_of_mem {items : List α} {entry : Nat × α} (member : entry ∈ enumerate items) :
    entry.1 < items.length :=
  (List.getElem?_eq_some_iff.mp (mem_enumerate.mp member)).1

/-! ## A place in order -/

/-- **A place that holds the first numbers holds the first items.** -/
theorem prefix_of_le {front items : List α} (part : enumerate front ≤ enumerate items) :
    front <+: items := by
  refine List.prefix_iff_getElem?.mpr fun i below => ?_
  have here : (i, front[i]) ∈ enumerate front :=
    mem_enumerate.mpr (List.getElem?_eq_getElem below)
  exact mem_enumerate.mp (Multiset.mem_of_le part here)

theorem enumerate_injective {items others : List α} (same : enumerate items = enumerate others) :
    items = others := by
  refine (prefix_of_le same.le).eq_of_length ?_
  rw [← card_enumerate items, same, card_enumerate]

/-- **What is not in order holds the next number.** -/
theorem next_mem {front items : List α} {rest : Multiset (Nat × α)}
    (whole : rest + enumerate front = enumerate items) (some : rest ≠ 0) :
    ∃ entry ∈ rest, entry.1 = front.length := by
  have lengths : rest.card + front.length = items.length := by
    rw [← card_enumerate front, ← Multiset.card_add, whole, card_enumerate]
  have positive := Multiset.card_pos.mpr some
  have below : front.length < items.length := by omega
  have member : (front.length, items[front.length]) ∈ rest + enumerate front := by
    rw [whole]
    exact mem_enumerate.mpr (List.getElem?_eq_getElem below)
  rcases Multiset.mem_add.mp member with elsewhere | ordered
  · exact ⟨_, elsewhere, rfl⟩
  · exact absurd (lt_length_of_mem ordered) (Nat.lt_irrefl _)

/-- One place among finitely many changes what it holds. -/
theorem sum_update {n : Nat} {P : Type} (held : P → Multiset (Nat × α)) (places : Fin n → P)
    (i : Fin n) (after : P) :
    ∑ j, held (Function.update places i after j) + held (places i) =
      ∑ j, held (places j) + held after := by
  rw [← Finset.sum_erase_add _ _ (Finset.mem_univ i),
    ← Finset.sum_erase_add _ (fun j => held (places j)) (Finset.mem_univ i)]
  have others : ∑ j ∈ Finset.univ.erase i, held (Function.update places i after j) =
      ∑ j ∈ Finset.univ.erase i, held (places j) := by
    refine Finset.sum_congr rfl fun j member => ?_
    rw [Function.update_of_ne (Finset.ne_of_mem_erase member)]
  rw [others, Function.update_self, add_right_comm]

end Stgs.Theory.Ledger
