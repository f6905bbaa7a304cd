/-
# Theory.Search -- the first occurrence of a pattern in a list

`search` is the position of the first occurrence, as `std::search` computes it.
`search_eq_some_iff` and `search_eq_none_iff` say so in terms of `OccursAt`; the
rest moves occurrences along a list: into a dropped prefix, into an appended
tail, across the border of two lists.
-/
import Mathlib.Data.Nat.Init

namespace Stgs.Theory.Search

set_option autoImplicit false

universe u

variable {α : Type u}

/-- The pattern starts at this position. -/
def OccursAt (pattern list : List α) (position : Nat) : Prop :=
  pattern <+: list.drop position

instance [DecidableEq α] (pattern list : List α) (position : Nat) :
    Decidable (OccursAt pattern list position) :=
  inferInstanceAs (Decidable (pattern <+: list.drop position))

/-- The position of the first occurrence. -/
def search [DecidableEq α] (pattern : List α) : List α → Option Nat
  | [] => if pattern = [] then some 0 else none
  | x :: rest => if pattern <+: x :: rest then some 0 else (search pattern rest).map (· + 1)

/-! ## Occurrences -/

theorem OccursAt.inside {pattern list : List α} {position : Nat} (nonempty : pattern ≠ [])
    (occurs : OccursAt pattern list position) : position + pattern.length ≤ list.length := by
  have fits := occurs.length_le
  rw [List.length_drop] at fits
  have := List.length_pos_iff.mpr nonempty
  omega

theorem occursAt_drop (pattern list : List α) (count position : Nat) :
    OccursAt pattern (list.drop count) position ↔ OccursAt pattern list (count + position) := by
  rw [OccursAt, OccursAt, List.drop_drop]

/-- An occurrence is not lost when the list grows. -/
theorem OccursAt.append {pattern list : List α} {position : Nat} (nonempty : pattern ≠ [])
    (occurs : OccursAt pattern list position) (more : List α) :
    OccursAt pattern (list ++ more) position := by
  have inside := occurs.inside nonempty
  rw [OccursAt, List.drop_append_of_le_length (by omega)]
  exact occurs.trans (List.prefix_append _ _)

/-- An occurrence that ends before the growth was there before it. -/
theorem OccursAt.of_append {pattern list more : List α} {position : Nat}
    (occurs : OccursAt pattern (list ++ more) position)
    (inside : position + pattern.length ≤ list.length) : OccursAt pattern list position := by
  rw [OccursAt, List.drop_append_of_le_length (by omega)] at occurs
  refine List.prefix_of_prefix_length_le occurs (List.prefix_append _ _) ?_
  rw [List.length_drop]
  omega

theorem occursAt_append_right (pattern list more : List α) (position : Nat) :
    OccursAt pattern (list ++ more) (list.length + position) ↔ OccursAt pattern more position := by
  rw [OccursAt, OccursAt, List.drop_append, List.drop_eq_nil_of_le (by omega), List.nil_append,
    Nat.add_sub_cancel_left]

/-- The entries of an occurrence. -/
theorem OccursAt.getElem? {pattern list : List α} {position : Nat}
    (occurs : OccursAt pattern list position) (i : Nat) (below : i < pattern.length) :
    list[position + i]? = some (pattern[i]) := by
  obtain ⟨rest, shape⟩ := occurs
  rw [← List.getElem?_drop, ← shape, List.getElem?_append_left below,
    List.getElem?_eq_getElem below]

/-! ## The first one -/

section First

variable [DecidableEq α] {pattern : List α}

theorem search_eq_some_iff (nonempty : pattern ≠ []) (list : List α) (position : Nat) :
    search pattern list = some position ↔
      OccursAt pattern list position ∧ ∀ earlier < position, ¬ OccursAt pattern list earlier := by
  induction list generalizing position with
  | nil =>
      rw [search, if_neg nonempty]
      constructor
      · intro found
        cases found
      · rintro ⟨occurs, _⟩
        have := occurs.inside nonempty
        have := List.length_pos_iff.mpr nonempty
        simp only [List.length_nil] at *
        omega
  | cons x rest ih =>
      rw [search]
      by_cases here : pattern <+: x :: rest
      · rw [if_pos here]
        constructor
        · intro found
          obtain rfl := Option.some.inj found
          exact ⟨here, fun earlier below => absurd below (Nat.not_lt_zero _)⟩
        · rintro ⟨_, first⟩
          cases position with
          | zero => rfl
          | succ position => exact absurd here (first 0 (Nat.succ_pos _))
      · rw [if_neg here]
        constructor
        · intro found
          obtain ⟨before, found', rfl⟩ := Option.map_eq_some_iff.mp found
          obtain ⟨occurs, first⟩ := (ih before).mp found'
          refine ⟨occurs, fun earlier below => ?_⟩
          cases earlier with
          | zero => exact here
          | succ earlier => exact first earlier (by omega)
        · rintro ⟨occurs, first⟩
          cases position with
          | zero => exact absurd occurs here
          | succ position =>
              have found := (ih position).mpr
                ⟨occurs, fun earlier below => first (earlier + 1) (by omega)⟩
              rw [found, Option.map_some]

theorem search_eq_none_iff (nonempty : pattern ≠ []) (list : List α) :
    search pattern list = none ↔ ∀ position, ¬ OccursAt pattern list position := by
  constructor
  · intro missing position occurs
    -- the least occurrence would have been found
    have least : ∃ first, OccursAt pattern list first ∧
        ∀ earlier < first, ¬ OccursAt pattern list earlier := by
      induction position using Nat.strongRecOn with
      | _ position ih =>
          by_cases earlier : ∃ before < position, OccursAt pattern list before
          · obtain ⟨before, below, occurs'⟩ := earlier
            exact ih before below occurs'
          · exact ⟨position, occurs, fun before below occurs' => earlier ⟨before, below, occurs'⟩⟩
    obtain ⟨first, found⟩ := least
    rw [(search_eq_some_iff nonempty list first).mpr found] at missing
    cases missing
  · intro missing
    cases found : search pattern list with
    | none => rfl
    | some position =>
        exact absurd ((search_eq_some_iff nonempty list position).mp found).1 (missing position)

theorem search_append (nonempty : pattern ≠ []) {list : List α} {position : Nat}
    (found : search pattern list = some position) (more : List α) :
    search pattern (list ++ more) = some position := by
  rw [search_eq_some_iff nonempty] at found ⊢
  have inside := found.1.inside nonempty
  refine ⟨found.1.append nonempty more, fun earlier below occurs => ?_⟩
  exact found.2 earlier below (occurs.of_append (by omega))

/-- With no occurrence in a list, one that appears when the list grows ends in
the growth, so it starts in the last `pattern.length - 1` entries. -/
theorem search_drop_append (nonempty : pattern ≠ []) {list : List α}
    (missing : search pattern list = none) (count : Nat)
    (trimmed : count + pattern.length ≤ list.length + 1) (more : List α) :
    search pattern (list ++ more) =
      (search pattern (list.drop count ++ more)).map (count + ·) := by
  rw [search_eq_none_iff nonempty] at missing
  have drops : list.drop count ++ more = (list ++ more).drop count := by
    have := List.length_pos_iff.mpr nonempty
    rw [List.drop_append_of_le_length (by omega)]
  have shifted (position : Nat) :
      OccursAt pattern (list ++ more) position →
        count ≤ position ∧ OccursAt pattern (list.drop count ++ more) (position - count) := by
    intro occurs
    have after : count ≤ position :=
      Nat.le_of_not_lt fun early => missing position (occurs.of_append (by omega))
    refine ⟨after, ?_⟩
    rwa [drops, occursAt_drop, Nat.add_sub_cancel' after]
  cases found : search pattern (list.drop count ++ more) with
  | none =>
      rw [search_eq_none_iff nonempty] at found
      rw [Option.map_none, search_eq_none_iff nonempty]
      exact fun position occurs => found _ (shifted position occurs).2
  | some position =>
      rw [search_eq_some_iff nonempty] at found
      rw [Option.map_some, search_eq_some_iff nonempty]
      refine ⟨?_, fun earlier below occurs => ?_⟩
      · rw [← occursAt_drop, ← drops]
        exact found.1
      · obtain ⟨after, occurs'⟩ := shifted earlier occurs
        exact found.2 _ (by omega) occurs'

end First

end Stgs.Theory.Search
