/-
# Theory.Ownership -- handles that a program opens and closes

A table says who has a handle open: nobody, the program (`self`) or someone else (`other`).
To close a handle that the program does not have is wrong, and recorded: it is a second
close, or it hits someone else's.

`Owns table held` says that nothing went wrong so far and that the program has open what
`held` lists, each handle once.  A program keeps it if it writes down what it opens
(`Owns.take`) and closes what it has written down (`Owns.close`, `Owns.closeAll`); then it
does not touch what others have (`Owns.closeAll_other`).  What others do keeps it as well
(`Owns.others`).
-/
import Mathlib.Algebra.Order.Group.Multiset

namespace Stgs.Theory.Ownership

set_option autoImplicit false

universe u

inductive Holder where
  | nobody
  | self
  | other
deriving DecidableEq

structure Table (ρ : Type u) where
  holder : ρ → Holder := fun _ => .nobody
  wrong : List ρ := []

variable {ρ : Type u} [DecidableEq ρ]

namespace Table

def take (table : Table ρ) (handle : ρ) : Table ρ :=
  { table with holder := Function.update table.holder handle .self }

def close (table : Table ρ) (handle : ρ) : Table ρ where
  holder := Function.update table.holder handle .nobody
  wrong := if table.holder handle = .self then table.wrong else table.wrong ++ [handle]

def closeAll (table : Table ρ) (handles : List ρ) : Table ρ := handles.foldl close table

/-- What others open and close. -/
structure Others (table next : Table ρ) : Prop where
  wrong : next.wrong = table.wrong
  own : ∀ handle, next.holder handle = .self ↔ table.holder handle = .self

end Table

/-- **The program has open what `held` lists.** -/
structure Owns (table : Table ρ) (held : Multiset ρ) : Prop where
  right : table.wrong = []
  distinct : held.Nodup
  exact : ∀ handle, table.holder handle = .self ↔ handle ∈ held

namespace Owns

variable {table : Table ρ} {held : Multiset ρ}

/-- **A handle that is free is opened.** -/
theorem take (owns : Owns table held) {handle : ρ} (free : table.holder handle = .nobody) :
    Owns (table.take handle) (handle ::ₘ held) where
  right := owns.right
  distinct := by
    refine Multiset.nodup_cons.mpr ⟨fun member => ?_, owns.distinct⟩
    have mine := (owns.exact handle).mpr member
    rw [free] at mine
    cases mine
  exact other := by
    show Function.update table.holder handle .self other = .self ↔ _
    by_cases same : other = handle
    · rw [same, Function.update_self]
      exact iff_of_true rfl (Multiset.mem_cons_self _ _)
    · rw [Function.update_of_ne same, owns.exact, Multiset.mem_cons, or_iff_right same]

/-- **A handle that is held is closed.** -/
theorem close {handle : ρ} (owns : Owns table (handle ::ₘ held)) :
    Owns (table.close handle) held where
  right := by
    show (if table.holder handle = .self then table.wrong else table.wrong ++ [handle]) = []
    rw [if_pos ((owns.exact handle).mpr (Multiset.mem_cons_self _ _))]
    exact owns.right
  distinct := (Multiset.nodup_cons.mp owns.distinct).2
  exact other := by
    show Function.update table.holder handle .nobody other = .self ↔ _
    by_cases same : other = handle
    · rw [same, Function.update_self]
      exact iff_of_false (by simp) (Multiset.nodup_cons.mp owns.distinct).1
    · rw [Function.update_of_ne same, owns.exact, Multiset.mem_cons, or_iff_right same]

theorem closeAll {handles : List ρ} (owns : Owns table (↑handles + held)) :
    Owns (table.closeAll handles) held := by
  induction handles generalizing table with
  | nil =>
      rw [Multiset.coe_nil, zero_add] at owns
      exact owns
  | cons handle rest ih =>
      have first : Owns table (handle ::ₘ (↑rest + held)) := by
        rw [← Multiset.cons_add, Multiset.cons_coe]
        exact owns
      exact ih first.close

omit [DecidableEq ρ] in
theorem others {next : Table ρ} (owns : Owns table held) (others : table.Others next) :
    Owns next held where
  right := others.wrong.trans owns.right
  distinct := owns.distinct
  exact handle := (others.own handle).trans (owns.exact handle)

omit [DecidableEq ρ] in
theorem not_other {handle : ρ} (owns : Owns table held) (member : handle ∈ held) :
    table.holder handle ≠ .other := by
  rw [(owns.exact handle).mpr member]
  decide

/-- What is closed is nobody's, all else is whose it was. -/
theorem closeAll_holder (table : Table ρ) (handles : List ρ) (handle : ρ) :
    (table.closeAll handles).holder handle =
      if handle ∈ handles then .nobody else table.holder handle := by
  induction handles generalizing table with
  | nil => simp [Table.closeAll]
  | cons first rest ih =>
      show ((table.close first).closeAll rest).holder handle = _
      rw [ih]
      by_cases later : handle ∈ rest
      · rw [if_pos later, if_pos (List.mem_cons_of_mem _ later)]
      · rw [if_neg later]
        show Function.update table.holder first .nobody handle = _
        by_cases same : handle = first
        · rw [same, Function.update_self, if_pos List.mem_cons_self]
        · rw [Function.update_of_ne same, if_neg]
          rintro (_ | ⟨_, member⟩)
          · exact same rfl
          · exact later member

/-- **What others have open stays open.** -/
theorem closeAll_other {handles : List ρ} (owns : Owns table (↑handles + held)) {handle : ρ}
    (theirs : table.holder handle = .other) : (table.closeAll handles).holder handle = .other := by
  rw [closeAll_holder, if_neg, theirs]
  intro member
  exact owns.not_other (Multiset.mem_add.mpr (Or.inl member)) theirs

theorem take_other {handle fresh : ρ} (free : table.holder fresh = .nobody)
    (theirs : table.holder handle = .other) : (table.take fresh).holder handle = .other := by
  have apart : handle ≠ fresh := by
    rintro rfl
    rw [free] at theirs
    cases theirs
  show Function.update table.holder fresh .self handle = .other
  rw [Function.update_of_ne apart]
  exact theirs

end Owns

end Stgs.Theory.Ownership
