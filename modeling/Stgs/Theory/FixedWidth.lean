/-
# Theory.FixedWidth -- numerals of one width, and the order of texts

A numeral filled up with zeros has the place in the alphabet that its value has among the
numbers (`filled_lt`), as long as the width is enough.  A record prints its fields one
after the other, each in its width and with what separates it from the next (`render`).

Records of one layout sort as their fields do (`render_lt`).  So they are equal only when
their fields are (`render_inj`); and all of them have one length (`length_render`).
-/
import Mathlib.Data.List.Lex
import Mathlib.Tactic.Ring
import Stgs.Theory.Numerals

namespace Stgs.Theory.FixedWidth

open Stgs.Theory.Numerals

set_option autoImplicit false

/-! ## Numerals -/

/-- The numeral of a value, filled up with zeros on the left. -/
def filled (width value : Nat) : List Char :=
  let digits := decimal value
  List.replicate (width - digits.length) '0' ++ digits

/-- Texts of one length are in order as soon as they begin in order. -/
theorem append_lt {α : Type} [LT α] {first second : List α} (less : first < second)
    (same : first.length = second.length) (rest rest' : List α) :
    first ++ rest < second ++ rest' := by
  induction less with
  | nil => cases same
  | rel less => exact .rel less
  | cons less ih => exact .cons (ih (Nat.succ.inj same))

theorem digitChar_lt {digit other : Nat} (less : digit < other) (bound : other < 10) :
    digit.digitChar < other.digitChar := by
  have each : ∀ other < 10, ∀ digit < other, digit.digitChar < other.digitChar := by decide
  exact each other bound digit less

theorem filled_one {value : Nat} (bound : value < 10) : filled 1 value = [value.digitChar] := by
  rw [filled, decimal, Nat.toDigits_of_lt_base bound]
  rfl

/-- A wider numeral has one more digit. -/
theorem filled_succ (width value : Nat) :
    filled (width + 2) value = filled (width + 1) (value / 10) ++ [(value % 10).digitChar] := by
  unfold filled decimal
  rcases Nat.lt_or_ge value 10 with small | large
  · rw [Nat.toDigits_of_lt_base small, Nat.div_eq_of_lt small, Nat.mod_eq_of_lt small]
    show List.replicate (width + 1) '0' ++ _ = List.replicate width '0' ++ ['0'] ++ _
    rw [← List.replicate_succ']
  · rw [Nat.toDigits_of_base_le (by decide) large]
    simp

theorem length_filled (width : Nat) {value : Nat} (fits : value < 10 ^ (width + 1)) :
    (filled (width + 1) value).length = width + 1 := by
  induction width generalizing value with
  | zero =>
      rw [filled_one fits]
      rfl
  | succ width ih =>
      have shorter : value / 10 < 10 ^ (width + 1) := by
        rw [Nat.div_lt_iff_lt_mul (by decide)]
        rwa [Nat.pow_succ] at fits
      rw [filled_succ, List.length_append, ih shorter]
      rfl

/-- **Numerals of one width are in the order of their values.** -/
theorem filled_lt (width : Nat) {value other : Nat} (less : value < other)
    (fits : other < 10 ^ (width + 1)) : filled (width + 1) value < filled (width + 1) other := by
  induction width generalizing value other with
  | zero =>
      have bound : other < 10 := fits
      rw [filled_one bound, filled_one (less.trans bound)]
      exact .rel (digitChar_lt less bound)
  | succ width ih =>
      have shorter : other / 10 < 10 ^ (width + 1) := by
        rw [Nat.div_lt_iff_lt_mul (by decide)]
        rwa [Nat.pow_succ] at fits
      rw [filled_succ, filled_succ]
      rcases (Nat.div_le_div_right (c := 10) less.le).lt_or_eq with front | same
      · refine append_lt (ih front shorter) ?_ _ _
        rw [length_filled width shorter, length_filled width (front.trans shorter)]
      · rw [same]
        have last : value % 10 < other % 10 := by omega
        exact List.append_left_lt (.rel (digitChar_lt last (Nat.mod_lt _ (by decide))))

/-! ## Records -/

/-- The width of each field, and what comes behind it. -/
abbrev Layout := List (Nat × List Char)

def render : Layout → List Nat → List Char
  | (width, separator) :: layout, value :: values =>
      filled width value ++ (separator ++ render layout values)
  | _, _ => []

/-- Every value fits into its field. -/
def Fits (layout : Layout) (values : List Nat) : Prop :=
  List.Forall₂ (fun field value => 0 < field.1 ∧ value < 10 ^ field.1) layout values

variable {layout : Layout} {values others : List Nat}

theorem length_render (fits : Fits layout values) :
    (render layout values).length = (layout.map fun field => field.1 + field.2.length).sum := by
  induction fits with
  | nil => rfl
  | @cons field value layout values fit fits ih =>
      obtain ⟨width, separator⟩ := field
      obtain ⟨width, rfl⟩ := Nat.exists_eq_succ_of_ne_zero fit.1.ne'
      simp only [render, List.length_append, List.map_cons, List.sum_cons, ih]
      rw [length_filled width fit.2]
      omega

/-- **Records sort as their fields.** -/
theorem render_lt (fits : Fits layout values) (fits' : Fits layout others)
    (less : values < others) : render layout values < render layout others := by
  induction fits generalizing others with
  | nil =>
      cases fits'
      exact absurd less (List.not_lt_nil _)
  | @cons field value layout values fit fits ih =>
      cases fits' with
      | @cons _ other _ others fit' fits' =>
          obtain ⟨width, separator⟩ := field
          obtain ⟨width, rfl⟩ := Nat.exists_eq_succ_of_ne_zero fit.1.ne'
          simp only [render]
          rcases List.cons_lt_cons_iff.mp less with front | ⟨rfl, rest⟩
          · refine append_lt (filled_lt width front fit'.2) ?_ _ _
            rw [length_filled width fit.2, length_filled width fit'.2]
          · exact List.append_left_lt (List.append_left_lt (ih fits' rest))

/-- Different fields give different records. -/
theorem render_inj (fits : Fits layout values) (fits' : Fits layout others) :
    render layout values = render layout others ↔ values = others := by
  constructor
  · intro same
    rcases lt_trichotomy values others with less | equal | more
    · exact absurd (same ▸ render_lt fits fits' less) (List.lt_irrefl _)
    · exact equal
    · exact absurd (same ▸ render_lt fits' fits more) (List.lt_irrefl _)
  · rintro rfl
    rfl

end Stgs.Theory.FixedWidth
