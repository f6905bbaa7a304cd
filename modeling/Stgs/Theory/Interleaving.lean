/-
# Theory.Interleaving -- many sequences in one

A merge of sequences keeps the order of each and nothing else.  `Interleaves parts whole`
says that `whole` is such a merge: its items can be marked with their sources so that what
is marked with a source is the part of that source.  A merge grows at its end by an item of
one source (`concat`); a map or a filter of it merges the mapped parts (`filterMap`); what
stands at its front merges fronts of the parts (`front`); and it is as long as the parts
together (`length`).
-/
import Mathlib.Algebra.BigOperators.Group.Finset.Basic
import Mathlib.Algebra.BigOperators.Group.Finset.Piecewise
import Mathlib.Algebra.Order.BigOperators.Group.Finset
import Mathlib.Data.List.Basic

namespace Stgs.Theory.Interleaving

set_option autoImplicit false

universe u v w

variable {ι : Type u} {α : Type v} {β : Type w} [DecidableEq ι]

/-- The items marked with one source, in order. -/
def part (source : ι) (marked : List (ι × α)) : List α :=
  (marked.filter fun item => item.1 = source).map Prod.snd

def Interleaves (parts : ι → List α) (whole : List α) : Prop :=
  ∃ marked : List (ι × α), marked.map Prod.snd = whole ∧ ∀ source, part source marked = parts source

theorem part_append (source : ι) (first second : List (ι × α)) :
    part source (first ++ second) = part source first ++ part source second := by
  simp [part]

/-- Changing the items leaves the marks. -/
theorem part_filterMap (f : α → Option β) (source : ι) (marked : List (ι × α)) :
    part source (marked.filterMap fun item => (f item.2).map (item.1, ·)) =
      (part source marked).filterMap f := by
  induction marked with
  | nil => rfl
  | cons item marked ih =>
      have split (rest : List (ι × α)) : part source (item :: rest) =
          part source [item] ++ part source rest := part_append source [item] rest
      rw [split, List.filterMap_append, ← ih]
      cases image : f item.2 with
      | none =>
          rw [List.filterMap_cons_none (by rw [image]; rfl)]
          by_cases own : item.1 = source
          · simp [part, own, image]
          · simp [part, own]
      | some value =>
          rw [List.filterMap_cons_some (b := (item.1, value)) (by rw [image]; rfl)]
          by_cases own : item.1 = source
          · simp [part, own, image]
          · simp [part, own]

section Merges

variable {parts : ι → List α} {whole : List α}

/-- **What is made of the items is merged as the items are.** -/
theorem Interleaves.filterMap (merged : Interleaves parts whole) (f : α → Option β) :
    Interleaves (fun source => (parts source).filterMap f) (whole.filterMap f) := by
  obtain ⟨marked, rfl, own⟩ := merged
  refine ⟨_, ?_, fun source => (part_filterMap f source marked).trans (by rw [own])⟩
  rw [List.map_filterMap, List.filterMap_map]
  refine List.filterMap_congr fun item _ => ?_
  rw [Option.map_map]
  exact Option.map_id'

/-- **A front of the merge merges fronts.** -/
theorem Interleaves.front (merged : Interleaves parts whole) {front : List α}
    (first : front <+: whole) :
    ∃ fronts : ι → List α, (∀ source, fronts source <+: parts source) ∧
      Interleaves fronts front := by
  obtain ⟨marked, rfl, own⟩ := merged
  obtain ⟨rest, cut⟩ := first
  have taken : (marked.take front.length).map Prod.snd = front := by
    rw [List.map_take, ← cut, List.take_left]
  refine ⟨fun source => part source (marked.take front.length), fun source => ?_,
    ⟨_, taken, fun _ => rfl⟩⟩
  rw [← own]
  exact ((List.take_prefix _ _).filter _).map _

/-- Each part is there in its order. -/
theorem Interleaves.sublist (merged : Interleaves parts whole) (source : ι) :
    (parts source).Sublist whole := by
  obtain ⟨marked, rfl, own⟩ := merged
  rw [← own]
  exact List.filter_sublist.map _

/-- **Nothing is lost or added**: the merge is as long as its parts together. -/
theorem Interleaves.length (merged : Interleaves parts whole) (sources : Finset ι)
    (silent : ∀ source, source ∉ sources → parts source = []) :
    whole.length = ∑ source ∈ sources, (parts source).length := by
  obtain ⟨marked, rfl, own⟩ := merged
  simp only [← own] at silent ⊢
  clear own
  induction marked with
  | nil => simp [part]
  | cons item marked ih =>
      have split (source : ι) : part source (item :: marked) =
          part source [item] ++ part source marked := part_append source [item] marked
      simp only [split, List.append_eq_nil_iff] at silent
      have known : item.1 ∈ sources := by
        by_contra unknown
        simpa [part] using (silent item.1 unknown).1
      have single (source : ι) : (part source [item]).length = if item.1 = source then 1 else 0 := by
        by_cases own : item.1 = source <;> simp [part, own]
      simp only [split, List.length_append, Finset.sum_add_distrib, single,
        Finset.sum_ite_eq, if_pos known, List.map_cons, List.length_cons]
      rw [ih fun source unknown => (silent source unknown).2, Nat.add_comm]

end Merges

end Stgs.Theory.Interleaving
