/-
# Theory.SerialRegister -- cyclic redundancy checks as they are published

A published CRC is a left-shifting register fed one message bit at a time,
together with five parameters: the polynomial, the initial value, whether each
input byte and the final register are reflected, and a final mask.  Nothing here
knows a table or a byte step.

* `feed`, `feedAll` -- the register, one bit and a bit string at a time.
* `Parameters`, `Parameters.checksum` -- the published form.
* `shift_reverse` -- the register read backwards shifts right: the two bit
  orders simulate each other through `BitVec.reverse`.
* `absorb_reverse` -- a byte absorbed low bit first, eight steps at once, is the
  reflected byte fed bit by bit.
* `checksum_reflected` -- a check that reflects input and output is the
  right-shifting register of `Theory.ShiftRegister` with the reversed polynomial.
-/
import Stgs.Theory.ShiftRegister

namespace Stgs.Theory.SerialRegister

open Stgs.Theory.ShiftRegister

set_option autoImplicit false

variable {w : Nat}

/-! ## The published form -/

section Register

variable (poly : BitVec w)

/-- One message bit meets the top bit; their sum feeds the polynomial back. -/
def feed (c : BitVec w) (bit : Bool) : BitVec w :=
  if c.msb ^^ bit then (c <<< 1) ^^^ poly else c <<< 1

def feedAll (c : BitVec w) (bits : List Bool) : BitVec w :=
  bits.foldl (feed poly) c

theorem feedAll_append (c : BitVec w) (first second : List Bool) :
    feedAll poly c (first ++ second) = feedAll poly (feedAll poly c first) second :=
  List.foldl_append

end Register

/-- The bits of a word, most significant first. -/
def bitsFromTop {n : Nat} (x : BitVec n) : List Bool :=
  (List.range n).map x.getMsbD

structure Parameters (w : Nat) where
  poly : BitVec w
  init : BitVec w
  reflectInput : Bool
  reflectOutput : Bool
  finalXor : BitVec w

namespace Parameters

variable (parameters : Parameters w)

/-- The message bits of one byte. -/
def byteBits (byte : BitVec 8) : List Bool :=
  bitsFromTop (if parameters.reflectInput then byte.reverse else byte)

def checksum (bytes : List (BitVec 8)) : BitVec w :=
  let final := feedAll parameters.poly parameters.init (bytes.flatMap parameters.byteBits)
  (if parameters.reflectOutput then final.reverse else final) ^^^ parameters.finalXor

end Parameters

/-! ## The two bit orders -/

theorem reverse_xor (x y : BitVec w) : (x ^^^ y).reverse = x.reverse ^^^ y.reverse := by
  refine BitVec.eq_of_getLsbD_eq fun i _ => ?_
  simp only [BitVec.getLsbD_reverse, BitVec.getLsbD_xor, BitVec.getMsbD_xor]

theorem reverse_ushiftRight_one (x : BitVec w) : (x >>> 1).reverse = x.reverse <<< 1 := by
  refine BitVec.eq_of_getLsbD_eq fun i below => ?_
  rw [BitVec.getLsbD_reverse, BitVec.getMsbD_eq_getLsbD, BitVec.getLsbD_ushiftRight,
    BitVec.getLsbD_shiftLeft]
  cases i with
  | zero =>
      have past : x.getLsbD (1 + (w - 1 - 0)) = false := BitVec.getLsbD_of_ge x _ (by omega)
      rw [past]
      simp
  | succ i =>
      have place : 1 + (w - 1 - (i + 1)) = w - 1 - i := by omega
      have inside : i < w := by omega
      rw [place, Nat.add_sub_cancel, BitVec.getLsbD_reverse, BitVec.getMsbD_eq_getLsbD]
      simp only [below, inside, decide_true, Bool.true_and]
      simp

/-- A single bit in the lowest place. -/
def lowBit (bit : Bool) : BitVec w := if bit then BitVec.twoPow w 0 else 0#w

theorem lowBit_getLsbD (bit : Bool) (i : Nat) :
    (lowBit bit : BitVec w).getLsbD i = (decide (i = 0 ∧ 0 < w) && bit) := by
  unfold lowBit
  cases bit with
  | false => simp
  | true =>
      simp only [if_true, BitVec.getLsbD_twoPow, Bool.and_true]
      by_cases low : i = 0
      · subst low
        simp
      · simp [low, Ne.symm low]

theorem lowBit_ushiftRight (bit : Bool) : (lowBit bit : BitVec w) >>> 1 = 0#w := by
  refine BitVec.eq_of_getLsbD_eq fun i _ => ?_
  simp [lowBit_getLsbD]

section Simulation

variable (poly : BitVec w)

/-- **One bit, both ways round.**  Shifting right with the reversed polynomial
is feeding the reversed register. -/
theorem shift_reverse (wide : 0 < w) (c : BitVec w) (bit : Bool) :
    (shift poly.reverse (c ^^^ lowBit bit)).reverse = feed poly c.reverse bit := by
  have down : (c ^^^ lowBit bit) >>> 1 = c >>> 1 := by
    rw [BitVec.ushiftRight_xor_distrib, lowBit_ushiftRight, BitVec.xor_zero]
  have out : (c ^^^ lowBit bit).getLsbD 0 = (c.reverse.msb ^^ bit) := by
    rw [BitVec.getLsbD_xor, lowBit_getLsbD, BitVec.msb_reverse]
    simp [wide]
  unfold shift feed
  rw [out, down]
  by_cases fed : (c.reverse.msb ^^ bit) = true
  · rw [if_pos fed, if_pos fed, reverse_xor, reverse_ushiftRight_one, BitVec.reverse_reverse_eq]
  · rw [if_neg fed, if_neg fed, reverse_ushiftRight_one]

/-- The low bits of a word, lowest first. -/
def lowBits (x : BitVec w) (n : Nat) : List Bool := (List.range n).map x.getLsbD

theorem lowBits_succ (x : BitVec w) (n : Nat) :
    lowBits x (n + 1) = x.getLsbD 0 :: lowBits (x >>> 1) n := by
  unfold lowBits
  rw [List.range_succ_eq_map, List.map_cons, List.map_map]
  refine congrArg _ (List.map_congr_left fun i _ => ?_)
  simp [Nat.add_comm]

/-- By induction on the number of steps: the bit that leaves first is fed first,
the others move down with the register. -/
theorem shifts_reverse (wide : 0 < w) (n : Nat) (c x : BitVec w)
    (clear : ∀ i, n ≤ i → x.getLsbD i = false) :
    (shifts poly.reverse n (c ^^^ x)).reverse = feedAll poly c.reverse (lowBits x n) := by
  induction n generalizing c x with
  | zero =>
      have zero : x = 0#w := BitVec.eq_of_getLsbD_eq fun i _ => by
        simpa using clear i (Nat.zero_le i)
      simp [zero, shifts, lowBits, feedAll]
  | succ n ih =>
      have split : x = lowBit (x.getLsbD 0) ^^^ (x >>> 1 <<< 1) := by
        refine BitVec.eq_of_getLsbD_eq fun i below => ?_
        rw [BitVec.getLsbD_xor, lowBit_getLsbD, BitVec.getLsbD_shiftLeft,
          BitVec.getLsbD_ushiftRight]
        cases i with
        | zero => simp only [wide, and_self, decide_true, Bool.true_and]; simp
        | succ i =>
            rw [Nat.add_sub_cancel, Nat.add_comm 1 i]
            simp only [below, decide_true, Bool.true_and]
            simp
      have high : shift poly.reverse (x >>> 1 <<< 1) = x >>> 1 := by
        refine shifts_shiftLeft poly.reverse 1 (x >>> 1) fun i above => ?_
        rw [BitVec.getLsbD_ushiftRight]
        exact BitVec.getLsbD_of_ge x _ (by omega)
      have step : shift poly.reverse (c ^^^ x) =
          shift poly.reverse (c ^^^ lowBit (x.getLsbD 0)) ^^^ (x >>> 1) := by
        conv_lhs => rw [split, ← BitVec.xor_assoc, shift_linear, high]
      have above : ∀ i, n ≤ i → (x >>> 1).getLsbD i = false := fun i above => by
        simpa using clear (1 + i) (by omega)
      rw [shifts, step, ih _ _ above, shift_reverse poly wide, lowBits_succ]
      rfl

/-- The bits of a reflected word, top first, are its own from the bottom. -/
theorem bitsFromTop_reverse (byte : BitVec 8) (fits : 8 ≤ w) :
    bitsFromTop byte.reverse = lowBits (byte.setWidth w) 8 := by
  refine List.map_congr_left fun i inside => ?_
  have below : i < 8 := List.mem_range.mp inside
  rw [BitVec.getMsbD_reverse, BitVec.getLsbD_setWidth]
  simp [show i < w by omega]

/-- **A byte absorbed at once is its reflection fed bit by bit.** -/
theorem absorb_reverse (fits : 8 ≤ w) (c : BitVec w) (byte : BitVec 8) :
    (absorb poly.reverse c byte).reverse =
      feedAll poly c.reverse (bitsFromTop byte.reverse) := by
  rw [absorb, shifts_reverse poly (by omega), bitsFromTop_reverse byte fits]
  intro i above
  rw [BitVec.getLsbD_setWidth, BitVec.getLsbD_of_ge byte i above, Bool.and_false]

theorem absorbAll_reverse (fits : 8 ≤ w) (c : BitVec w) (bytes : List (BitVec 8)) :
    (absorbAll poly.reverse c bytes).reverse =
      feedAll poly c.reverse (bytes.flatMap fun byte => bitsFromTop byte.reverse) := by
  induction bytes generalizing c with
  | nil => rfl
  | cons byte rest ih =>
      rw [absorbAll_cons, ih, List.flatMap_cons, feedAll_append, absorb_reverse poly fits]

end Simulation

/-- **A reflected check is the right-shifting register**, run with the reversed
polynomial from the reversed initial value. -/
theorem checksum_reflected (parameters : Parameters w) (fits : 8 ≤ w)
    (input : parameters.reflectInput = true) (output : parameters.reflectOutput = true)
    (bytes : List (BitVec 8)) :
    parameters.checksum bytes =
      absorbAll parameters.poly.reverse parameters.init.reverse bytes ^^^ parameters.finalXor := by
  have bits : parameters.byteBits = fun byte => bitsFromTop byte.reverse := by
    funext byte
    simp [Parameters.byteBits, input]
  have back := absorbAll_reverse parameters.poly fits parameters.init.reverse bytes
  rw [BitVec.reverse_reverse_eq] at back
  simp only [Parameters.checksum, output, if_true, bits, ← back, BitVec.reverse_reverse_eq]

end Stgs.Theory.SerialRegister
