/-
# Theory.Numerals -- numerals and their values

Decimal numerals without a leading zero, and hexadecimal numerals of a least width,
as characters.  Each has its reader, and the reader of what was written is the value:
`readDecimal_decimal` for every natural number, `readHex_paddedHex` for a byte.
-/
import Mathlib.Data.List.Basic

namespace Stgs.Theory.Numerals

set_option autoImplicit false

/-! ## Decimal -/

def decimal (value : Nat) : List Char := Nat.toDigits 10 value

/-- One digit at least, and nothing else. -/
def areDigits (text : List Char) : Bool := !text.isEmpty && text.all Char.isDigit

def readDecimal (text : List Char) : Option Nat :=
  if areDigits text then some (Nat.ofDigitChars 10 text 0) else none

theorem areDigits_mem {text : List Char} (digits : areDigits text = true) {c : Char}
    (member : c ∈ text) : c.isDigit = true := by
  rw [areDigits, Bool.and_eq_true, List.all_eq_true] at digits
  exact digits.2 c member

theorem areDigits_decimal (value : Nat) : areDigits (decimal value) = true := by
  have digit : ∀ c ∈ decimal value, c.isDigit = true := fun _ member =>
    Nat.isDigit_of_mem_toDigits (by decide) (by decide) member
  have filled : decimal value ≠ [] := Nat.toDigits_ne_nil
  rw [areDigits, Bool.and_eq_true, List.all_eq_true]
  exact ⟨by simpa using filled, digit⟩

/-- **A decimal numeral is read as its value.** -/
theorem readDecimal_decimal (value : Nat) : readDecimal (decimal value) = some value := by
  rw [readDecimal, if_pos (areDigits_decimal value), decimal, Nat.ofDigitChars_ten_toDigits]

theorem decimal_injective : Function.Injective decimal := by
  intro value other same
  have read := readDecimal_decimal value
  rw [same, readDecimal_decimal] at read
  exact (Option.some.inj read).symm

/-- The numeral of a positive number starts with another digit than zero. -/
theorem head_decimal (value : Nat) : value = 0 ∨ (decimal value).head? ≠ some '0' := by
  induction value using Nat.strongRecOn with
  | ind value ih =>
      rcases Nat.eq_zero_or_pos value with zero | positive
      · exact Or.inl zero
      · refine Or.inr ?_
        rw [decimal, Nat.toDigits_eq_if (by decide)]
        split
        · simp only [List.head?_cons, ne_eq, Option.some.injEq, Nat.digitChar_eq_zero]
          omega
        · have shorter := (ih (value / 10) (by omega)).resolve_left (by omega)
          rw [List.head?_append_of_ne_nil _ Nat.toDigits_ne_nil]
          exact shorter

/-! ## Hexadecimal -/

def hexDigit (c : Char) : Option Nat :=
  if '0' ≤ c ∧ c ≤ '9' then some (c.toNat - '0'.toNat)
  else if 'a' ≤ c ∧ c ≤ 'f' then some (c.toNat - 'a'.toNat + 10)
  else if 'A' ≤ c ∧ c ≤ 'F' then some (c.toNat - 'A'.toNat + 10)
  else none

def readHex : List Char → Option Nat :=
  List.foldl (fun total c => do return 16 * (← total) + (← hexDigit c)) (some 0)

/-- The numeral of a value, filled up with zeros on the left. -/
def paddedHex (width value : Nat) : List Char :=
  let digits := Nat.toDigits 16 value
  List.replicate (width - digits.length) '0' ++ digits

theorem hexDigit_digitChar {digit : Nat} (small : digit < 16) :
    hexDigit digit.digitChar = some digit := by
  have each : ∀ digit < 16, hexDigit digit.digitChar = some digit := by decide
  exact each digit small

/-- A byte has two digits, behind the zeros of a wider numeral. -/
theorem paddedHex_byte (zeros : Nat) {value : Nat} (byte : value < 256) :
    paddedHex (zeros + 2) value =
      List.replicate zeros '0' ++ [(value / 16).digitChar, (value % 16).digitChar] := by
  unfold paddedHex
  rcases Nat.lt_or_ge value 16 with small | large
  · rw [Nat.toDigits_of_lt_base small, Nat.div_eq_of_lt small, Nat.mod_eq_of_lt small]
    show List.replicate (zeros + 1) '0' ++ _ = _
    rw [List.replicate_succ', List.append_assoc]
    rfl
  · rw [Nat.toDigits_of_base_le (by decide) large, Nat.toDigits_of_lt_base (by omega)]
    rfl

theorem readHex_zeros (zeros : Nat) (text : List Char) :
    readHex (List.replicate zeros '0' ++ text) = readHex text := by
  induction zeros with
  | zero => rfl
  | succ zeros ih => exact ih

/-- **The numeral of a byte is read as the byte.** -/
theorem readHex_paddedHex (zeros : Nat) {value : Nat} (byte : value < 256) :
    readHex (paddedHex (zeros + 2) value) = some value := by
  have high := @hexDigit_digitChar (value / 16) (by omega)
  have low := @hexDigit_digitChar (value % 16) (by omega)
  have whole : 16 * (value / 16) + value % 16 = value := Nat.div_add_mod value 16
  rw [paddedHex_byte zeros byte, readHex_zeros]
  simp [readHex, high, low, whole]

end Stgs.Theory.Numerals
