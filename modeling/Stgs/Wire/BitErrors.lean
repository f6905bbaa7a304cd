/-
# Wire.BitErrors -- flipped bits of a frame

The syndrome of a string is what its checksum is off by, as a register: linear, and
zero on what passes.  A flipped bit adds one power of the register to it
(`syndrome_flipBit`), and different bits of a frame add different powers: the covered
bytes from `x ^ 32` up, the checksum field, stored high byte first, the powers below.
So at most three flipped bits pass only if as many powers cancel.

That they do not is a computation on the output of the register over the length of the
longest frame (`noRepeat_feedback`), and the only fact about this polynomial here besides
its terms.  Which field a flipped bit is in does not matter: a frame that is
decoded has a good checksum.
-/
import Mathlib.Tactic.IntervalCases
import Stgs.Theory.OutputSequence
import Stgs.Wire.BurstDetection

namespace Stgs.Wire

open Stgs.Theory.ShiftRegister

set_option autoImplicit false

/-! ## Flipped bits -/

/-- Bit `position % 8` of byte `position / 8` flipped. -/
def flipBit (bytes : ByteVector) (position : Nat) : ByteVector :=
  bytes.set (position / 8) (byteAt bytes (position / 8) ^^^ 1 <<< UInt8.ofNat (position % 8))

def flipBits (bytes : ByteVector) (positions : List Nat) : ByteVector :=
  positions.foldl flipBit bytes

@[simp] theorem length_flipBit (bytes : ByteVector) (position : Nat) :
    (flipBit bytes position).length = bytes.length :=
  List.length_set ..

@[simp] theorem length_flipBits (bytes : ByteVector) (positions : List Nat) :
    (flipBits bytes positions).length = bytes.length := by
  induction positions generalizing bytes with
  | nil => rfl
  | cons position rest ih => exact (ih _).trans (length_flipBit bytes position)

/-- The difference a flipped bit makes. -/
def bitMask (length position : Nat) : List (BitVec 8) :=
  (List.replicate length 0#8).set (position / 8) (BitVec.twoPow 8 (position % 8))

theorem flipBit_toBitVec (bytes : ByteVector) (position : Nat) :
    (flipBit bytes position).map UInt8.toBitVec =
      List.zipWith (· ^^^ ·) (bytes.map UInt8.toBitVec) (bitMask bytes.length position) := by
  have bit : ∀ t < 8, ((1 : UInt8) <<< UInt8.ofNat t).toBitVec = BitVec.twoPow 8 t := by decide
  refine List.ext_getElem (by simp [bitMask]) fun i left right => ?_
  have below : i < bytes.length := by simpa using left
  simp only [List.getElem_map, List.getElem_zipWith, flipBit, bitMask, List.getElem_set,
    List.getElem_replicate]
  split
  · rename_i here
    subst here
    rw [UInt8.toBitVec_xor, bit _ (Nat.mod_lt _ (by decide))]
    simp [byteAt, below]
  · rw [BitVec.xor_zero]

/-! ## The syndrome -/

/-- What the checksum of a string is off by. -/
def syndrome (bytes : List (BitVec 8)) : BitVec 32 :=
  absorbAll feedback 0#32 (bytes.take (bytes.length - 4)) ^^^
    word (bytes.drop (bytes.length - 4)).reverse

theorem undetected_iff_syndrome (difference : List (BitVec 8)) :
    Undetected difference ↔ syndrome difference = 0#32 :=
  BitVec.xor_eq_zero_iff.symm

theorem syndrome_xor {a b : List (BitVec 8)} (same : a.length = b.length) :
    syndrome (List.zipWith (· ^^^ ·) a b) = syndrome a ^^^ syndrome b := by
  have zeros : 0#32 = 0#32 ^^^ 0#32 := rfl
  have lengths : (List.zipWith (· ^^^ ·) a b).length = a.length := by simp [same]
  rw [syndrome, lengths, List.take_zipWith, List.drop_zipWith,
    List.reverse_zipWith (by simp [same]), word_xor (by simp [same]), zeros,
    absorbAll_xor feedback _ _ (by simp [same]), syndrome, syndrome, ← same]
  ac_rfl

/-- The power a flipped bit adds. -/
def exponent (length position : Nat) : Nat :=
  if position / 8 < length - 4 then 8 * (length - 4 - position / 8) + (31 - position % 8)
  else 31 - (8 * (length - 1 - position / 8) + position % 8)

theorem exponent_lt {length position : Nat} (long : 4 ≤ length) (inside : position < 8 * length) :
    exponent length position < 8 * length := by
  unfold exponent
  split <;> omega

theorem exponent_injective {length p q : Nat} (insideP : p < 8 * length) (insideQ : q < 8 * length)
    (same : exponent length p = exponent length q) : p = q := by
  unfold exponent at same
  split at same <;> split at same <;> omega

/-- A single bit of a register is a power below its width. -/
theorem power_low {i : Nat} (inside : i < 32) : power feedback (31 - i) = BitVec.twoPow 32 i := by
  rw [power, shifts_of_low_clear feedback (31 - i) (unit 32)]
  · refine BitVec.eq_of_getLsbD_eq fun j below => ?_
    have place : 31 = 31 - i + j ↔ j = i := by omega
    simp [unit, BitVec.getLsbD_twoPow, below, place, eq_comm]
  · intro j below
    simp [unit, BitVec.getLsbD_twoPow, show 31 ≠ j by omega]

theorem setWidth_twoPow {t : Nat} (bit : t < 8) :
    (BitVec.twoPow 8 t).setWidth 32 = BitVec.twoPow 32 t := by
  refine BitVec.eq_of_getLsbD_eq fun j below => ?_
  rw [BitVec.getLsbD_setWidth, BitVec.getLsbD_twoPow, BitVec.getLsbD_twoPow, Bool.eq_iff_iff]
  simp only [Bool.and_eq_true, decide_eq_true_eq]
  omega

/-- A single bit among zeros spells a single bit. -/
theorem word_single (before after t : Nat) (bit : t < 8) :
    (word (List.replicate before 0#8 ++ BitVec.twoPow 8 t :: List.replicate after 0#8) :
      BitVec 32) = BitVec.twoPow 32 (8 * before + t) := by
  induction before with
  | zero =>
      rw [List.replicate_zero, List.nil_append, word, word_replicate_zero, setWidth_twoPow bit,
        BitVec.zero_shiftLeft, BitVec.xor_zero, Nat.mul_zero, Nat.zero_add]
  | succ before ih =>
      have place : 8 * (before + 1) + t = 8 * before + t + 8 := by omega
      rw [List.replicate_succ, List.cons_append, word, ih, place, BitVec.twoPow_eq,
        BitVec.twoPow_eq, BitVec.shiftLeft_add (1#32) (8 * before + t) 8, BitVec.setWidth_zero,
        BitVec.zero_xor]

/-- A covered bit, and the zeros after it. -/
theorem absorbAll_single (before after t : Nat) (bit : t < 8) :
    absorbAll feedback 0#32
        (List.replicate before 0#8 ++ BitVec.twoPow 8 t :: List.replicate after 0#8) =
      power feedback (8 * (after + 1) + (31 - t)) := by
  have count : 31 - t + 8 + 8 * after = 8 * (after + 1) + (31 - t) := by omega
  rw [absorbAll_append, absorbAll_zeros, (shifts_linear feedback _).map_zero, absorbAll_cons,
    absorbAll_zeros, absorb, BitVec.zero_xor, setWidth_twoPow bit, ← power_low (by omega),
    shifts_power, shifts_power, count]

theorem syndrome_append (covered : List (BitVec 8)) {stored : List (BitVec 8)}
    (four : stored.length = 4) : syndrome (covered ++ stored) =
      absorbAll feedback 0#32 covered ^^^ word stored.reverse := by
  have cut : (covered ++ stored).length - 4 = covered.length := by
    rw [List.length_append, four, Nat.add_sub_cancel]
  rw [syndrome, cut, List.take_left, List.drop_left]

theorem bitMask_eq {length position : Nat} (inside : position < 8 * length) :
    bitMask length position = List.replicate (position / 8) 0#8 ++
      BitVec.twoPow 8 (position % 8) :: List.replicate (length - (position / 8 + 1)) 0#8 := by
  have place : position / 8 < length := by omega
  rw [bitMask, List.set_eq_take_append_cons_drop, List.length_replicate, if_pos place,
    List.take_replicate, List.drop_replicate, Nat.min_eq_left place.le]

/-- **A flipped bit adds one power.** -/
theorem syndrome_bitMask {length position : Nat} (long : 4 ≤ length)
    (inside : position < 8 * length) :
    syndrome (bitMask length position) = power feedback (exponent length position) := by
  have bit : position % 8 < 8 := Nat.mod_lt _ (by decide)
  rw [bitMask_eq inside, exponent]
  by_cases covered : position / 8 < length - 4
  · have parts : length - (position / 8 + 1) = length - 5 - position / 8 + 4 := by omega
    have count : length - 5 - position / 8 + 1 = length - 4 - position / 8 := by omega
    rw [if_pos covered, parts, List.replicate_add, ← List.cons_append, ← List.append_assoc,
      syndrome_append _ List.length_replicate, absorbAll_single _ _ _ bit, List.reverse_replicate,
      word_replicate_zero, BitVec.xor_zero, count]
  · have parts : position / 8 = (length - 4) + (position / 8 - (length - 4)) := by omega
    have after : length - (position / 8 + 1) = length - 1 - position / 8 := by omega
    have low : 8 * (length - 1 - position / 8) + position % 8 < 32 := by omega
    rw [if_neg covered, power_low low, after]
    nth_rewrite 1 [parts]
    rw [List.replicate_add, List.append_assoc,
      syndrome_append _ (by simp only [List.length_append, List.length_cons, List.length_replicate]; omega),
      absorbAll_zeros, (shifts_linear feedback _).map_zero, BitVec.zero_xor, List.reverse_append,
      List.reverse_cons, List.reverse_replicate, List.reverse_replicate, List.append_assoc,
      List.singleton_append, word_single _ _ _ bit]

/-- The syndrome after some flips. -/
theorem syndrome_flipBits {bytes : ByteVector} {positions : List Nat} (long : 4 ≤ bytes.length)
    (inside : ∀ position ∈ positions, position < 8 * bytes.length) :
    syndrome ((flipBits bytes positions).map UInt8.toBitVec) =
      syndrome (bytes.map UInt8.toBitVec) ^^^
        xorAll ((positions.map (exponent bytes.length)).map (power feedback)) := by
  induction positions generalizing bytes with
  | nil => exact (BitVec.xor_zero).symm
  | cons position rest ih =>
      have width := length_flipBit bytes position
      have first : syndrome ((flipBit bytes position).map UInt8.toBitVec) =
          syndrome (bytes.map UInt8.toBitVec) ^^^
            power feedback (exponent bytes.length position) := by
        rw [flipBit_toBitVec, syndrome_xor (by simp [bitMask]),
          syndrome_bitMask long (inside position (by simp))]
      have others : ∀ p ∈ rest, p < 8 * (flipBit bytes position).length := by
        intro p member
        rw [width]
        exact inside p (List.mem_cons_of_mem _ member)
      have step := ih (width.symm ▸ long) others
      rw [width, first, BitVec.xor_assoc] at step
      exact step

/-! ## At most three flipped bits -/

/-- How much of the output is compared: the windows of the longest frame. -/
def comparedBits : Nat := 8 * maxFrameSize + 31

/-- The exponents of the polynomial below its constant term, counted from the top. -/
def feedbackExponents : List Nat := [6, 9, 10, 16, 20, 21, 22, 24, 25, 27, 28, 30, 31, 32]

/-- The output of the register. -/
def feedbackSeries : Nat := series (0 :: feedbackExponents) comparedBits 16 (2 ^ 31)

theorem testBit_feedbackSeries {i : Nat} (inside : i < comparedBits) :
    feedbackSeries.testBit i = output feedback (unit 32) i := by
  have low : ∀ e ∈ feedbackExponents, 0 < e ∧ e ≤ 32 := by decide
  have zero : xorAll ((0 :: feedbackExponents).map fun e => power feedback (32 - e)) = 0#32 := by
    decide +kernel
  have inverse : times feedbackSeries (0 :: feedbackExponents) 1 % 2 ^ comparedBits =
      2 ^ (32 - 1) := by
    decide +kernel
  exact testBit_series feedback (by decide) low zero inverse inside

/-- **The computation**: the output compared with itself at every distance up to the
longest frame, 62 of them at once. -/
theorem noRepeat_feedback : ∀ chunk < 7,
    noRepeat feedbackSeries comparedBits 62 [1, 2, 4, 8, 15] (76 * chunk) 76 = true := by
  intro chunk inside
  interval_cases chunk <;> decide +kernel

/-- Over the length of the longest frame no 31 bits of the output repeat. -/
theorem windowsDiffer_feedback : WindowsDiffer feedback (8 * maxFrameSize) :=
  windowsDiffer_of_noRepeat feedback (fun _ inside => testBit_feedbackSeries inside) (by decide)
    (by decide) (by decide) noRepeat_feedback

/-- The difference of a string and its flipped copy. -/
theorem syndrome_difference {bytes : ByteVector} {positions : List Nat} (long : 4 ≤ bytes.length)
    (inside : ∀ position ∈ positions, position < 8 * bytes.length) :
    syndrome (difference bytes (flipBits bytes positions)) =
      xorAll ((positions.map (exponent bytes.length)).map (power feedback)) := by
  rw [difference, syndrome_xor (by simp), syndrome_flipBits long inside, ← BitVec.xor_assoc,
    BitVec.xor_self, BitVec.zero_xor]

/-- **Up to three flipped bits are rejected**, wherever they are in a frame of whatever
length. -/
theorem bit_errors_rejected {frame : TelemetryFrame} {bytes : ByteVector}
    (encoded : encodeFrame frame = .ok bytes) {positions : List Nat} (distinct : positions.Nodup)
    (some : 1 ≤ positions.length) (few : positions.length ≤ 3)
    (inside : ∀ position ∈ positions, position < 8 * bytes.length) :
    ∃ error, decodeFrame (flipBits bytes positions) = .error error := by
  obtain ⟨encodable, wired⟩ := (encodeFrame_eq_ok_iff frame bytes).mp encoded
  obtain rfl := wired.symm
  have width := length_wire frame
  have sizes : headerSize = 23 ∧ crcSize = 4 ∧ maxFrameSize = 4123 ∧ maxPayloadSize = 4096 :=
    ⟨rfl, rfl, rfl, rfl⟩
  have payload := encodable.payload
  have long : 4 ≤ (wire frame).length := by omega
  have short : (wire frame).length ≤ maxFrameSize := by omega
  cases decoded : decodeFrame (flipBits (wire frame) positions) with
  | error error => exact ⟨error, rfl⟩
  | ok frame' =>
      exfalso
      have formed := ((decodeFrame_eq_ok_iff _ frame').mp decoded).1
      have undetected := (checksum_difference (length_flipBits _ _).symm long
        (wellFormed_wire encodable).crc).mp formed.crc
      rw [undetected_iff_syndrome, syndrome_difference long inside] at undetected
      refine few_powers_ne_zero feedback_msb (by decide) windowsDiffer_feedback ?_ ?_ ?_ ?_
        undetected
      · refine (List.nodup_map_iff_inj_on distinct).mpr ?_
        intro p member q member' same
        exact exponent_injective (inside p member) (inside q member') same
      · rw [List.length_map]
        exact some
      · rw [List.length_map]
        exact few
      · intro e member
        obtain ⟨p, member, same⟩ := List.mem_map.mp member
        have below := exponent_lt long (inside p member)
        omega

/-- Three bits of the default frame with two bytes of payload: one of the magic, one of
the payload, one of the checksum. -/
theorem three_flips_rejected :
    ∃ error, decodeFrame (flipBits (wire twoByteFrame) [3, 190, 222]) = .error error := by
  refine bit_errors_rejected encodeFrame_twoByteFrame (by decide) (by decide) (by decide) ?_
  rw [wire_twoByteFrame]
  decide

end Stgs.Wire
