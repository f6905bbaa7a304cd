/-
# Wire.BurstDetection -- which four-byte bursts the frame checksum sees

Two strings that both pass the checksum differ by a string that passes it with
initial value zero (`checksum_difference`).  For a difference confined to four
consecutive bytes there are three places:

* inside the covered bytes, or inside the checksum field: the register loses no
  difference, so the burst is seen;
* across the boundary with one or three covered bytes: the part of the register
  that must vanish is an invertible function of them (`straddle_one`,
  `straddle_three`), so the burst is seen;
* across the boundary with two covered bytes: that function has one nonzero
  kernel word (`straddle_two`).  The checksum is computed low bit first and
  stored high byte first, so a burst across the boundary is not a burst of the
  code, and exactly one of them is a codeword: `blindError`.

`burst_rejected_iff` states this for `decodeFrame`.
-/
import Stgs.Wire.CodecBijection

namespace Stgs.Wire

open Stgs.Theory.BigEndian Stgs.Theory.ShiftRegister

set_option autoImplicit false

/-! ## Bursts across the boundary -/

/-- What `k` covered bytes leave in the low `8 * k` bits of the register. -/
def straddle (k : Nat) (x : BitVec (8 * k)) : BitVec (8 * k) :=
  (shifts feedback (8 * k) (x.setWidth 32)).setWidth (8 * k)

theorem straddle_linear (k : Nat) : XorLinear (straddle k) :=
  (XorLinear.setWidth (8 * k)).comp
    ((shifts_linear feedback (8 * k)).comp (XorLinear.setWidth 32))

/-- A linear solver for `straddle`, checked on the powers of two, bounds its
kernel: `solve` inverts it up to the `defect` one bit switches on. -/
theorem straddle_kernel (k : Nat) (solve : List (BitVec (8 * k))) (bit : Nat)
    (defect : BitVec (8 * k))
    (basis : ∀ i < 8 * k, xorColumns solve (straddle k (BitVec.twoPow _ i)) =
      BitVec.twoPow _ i ^^^ (if (BitVec.twoPow (8 * k) i).getLsbD bit then defect else 0#_))
    {x : BitVec (8 * k)} (zero : straddle k x = 0#_) : x = 0#_ ∨ x = defect := by
  have inverse := XorLinear.ext_basis ((xorColumns_linear solve).comp (straddle_linear k))
    (XorLinear.id.xor (XorLinear.ifBit bit defect)) basis x
  rw [Function.comp_apply, zero, (xorColumns_linear solve).map_zero] at inverse
  split at inverse
  · right
    calc x = x ^^^ defect ^^^ defect := by rw [BitVec.xor_assoc, BitVec.xor_self, BitVec.xor_zero]
      _ = defect := by rw [← inverse, BitVec.zero_xor]
  · left
    simpa using inverse.symm

theorem straddle_one {x : BitVec 8} (zero : straddle 1 x = 0#8) : x = 0#8 := by
  have := straddle_kernel 1 [0x4f, 0xfa, 0xbb, 0x39, 0x72, 0x80, 0x2b, 0x32] 0 0 (by decide) zero
  simpa using this

theorem straddle_two {x : BitVec 16} (zero : straddle 2 x = 0#16) : x = 0#16 ∨ x = 0xd861#16 :=
  straddle_kernel 2 [0x0, 0x4013, 0x5847, 0x4c, 0x408b, 0x31d4, 0x4b18, 0xe42, 0x1c84, 0x3908,
    0x1ab3, 0x7575, 0x328b, 0x6516, 0x124d, 0x4c39] 15 0xd861 (by decide +kernel) zero

theorem straddle_three {x : BitVec 24} (zero : straddle 3 x = 0#24) : x = 0#24 := by
  have := straddle_kernel 3 [0x53ad05, 0x9d10ee, 0x698cd9, 0xd319b2, 0xf59e61, 0xb891c7, 0x228e8b,
    0x7f57f2, 0xc4e500, 0xe02de1, 0x93f6c7, 0x4e0a6f, 0x9c14de, 0x6b84b9, 0xd70972, 0xc7f505,
    0xdc470f, 0xeb231b, 0xbfa1d7, 0x2ceeab, 0x59dd56, 0xb3baac, 0xe92b9, 0x1d2572] 0 0
    (by decide +kernel) zero
  simpa using this

/-- Covered bytes whose effect lands in the first bytes of the checksum field
alone leave nothing in the register's low end. -/
theorem straddle_of_absorbed {covered stored : List (BitVec 8)}
    (four : covered.length + stored.length = 4)
    (absorbed : absorbAll feedback 0#32 covered =
      word (List.replicate covered.length 0#8 ++ stored)) :
    straddle covered.length (word covered) = 0#_ := by
  have fits : 8 * covered.length ≤ 32 := by omega
  rw [absorbAll_eq_shifts feedback _ _ fits, BitVec.zero_xor] at absorbed
  rw [straddle, word_setWidth covered _ le_rfl fits, absorbed]
  refine BitVec.eq_of_getLsbD_eq fun i below => ?_
  have low : i / 8 < covered.length := by omega
  rw [BitVec.getLsbD_setWidth, word_bit _ (by simp; omega), List.getD_eq_getElem?_getD,
    List.getElem?_append_left (by simpa using low), List.getElem?_replicate, if_pos low]
  simp

/-- The one burst that passes: two covered bytes, then two checksum bytes. -/
def blindError : List UInt8 := [0x61, 0xd8, 0xf4, 0xee]

/-- A difference string passes the checksum: the register its covered bytes
leave is the word its last four spell, high byte first. -/
def Undetected (difference : List (BitVec 8)) : Prop :=
  absorbAll feedback 0#32 (difference.take (difference.length - 4)) =
    word (difference.drop (difference.length - 4)).reverse

/-- Zeros in front of a difference do not matter. -/
theorem undetected_zeros_append (zeros : Nat) {difference : List (BitVec 8)}
    (long : 4 ≤ difference.length) :
    Undetected (List.replicate zeros 0#8 ++ difference) ↔ Undetected difference := by
  have cut : (List.replicate zeros 0#8 ++ difference).length - 4 =
      (List.replicate zeros 0#8).length + (difference.length - 4) := by
    simp only [List.length_append, List.length_replicate]
    omega
  unfold Undetected
  rw [cut, List.take_length_add_append, List.drop_length_add_append, absorbAll_append,
    absorbAll_zeros, (shifts_linear feedback _).map_zero]

/-- A burst whose covered bytes vanish and that passes vanishes altogether. -/
theorem stored_zero (k : Nat) (stored : List (BitVec 8)) (four : k + stored.length = 4)
    (absorbed : absorbAll feedback 0#32 (List.replicate k 0#8) =
      word (List.replicate k 0#8 ++ stored)) : ∀ byte ∈ stored, byte = 0#8 := by
  rw [absorbAll_zeros, (shifts_linear feedback _).map_zero] at absorbed
  intro byte member
  exact word_eq_zero (by simp; omega) absorbed.symm byte (List.mem_append_right _ member)

/-- With two bytes covered one burst passes that is not empty: the covered bytes decide
the stored ones. -/
theorem burst_two {a b c d : BitVec 8}
    (absorbed : absorbAll feedback 0#32 [a, b] = word ([0#8, 0#8] ++ [d, c])) :
    [a, b, c, d] = [0#8, 0#8, 0#8, 0#8] ∨ [a, b, c, d] = blindError.map UInt8.toBitVec := by
  rcases straddle_two (straddle_of_absorbed rfl absorbed) with none | blind
  · have covered : ∀ byte ∈ [a, b], byte = 0#8 := word_eq_zero (by simp) none
    obtain rfl := covered a (by simp)
    obtain rfl := covered b (by simp)
    have zero := stored_zero 2 [d, c] rfl absorbed
    left
    simp [zero c, zero d]
  · have spelled : word [0x61#8, 0xd8#8] = 0xd861#16 := by decide
    have covered : [a, b] = [0x61#8, 0xd8#8] :=
      word_injective rfl (by simp) (blind.trans spelled.symm)
    rw [covered] at absorbed
    have register : absorbAll feedback 0#32 [0x61#8, 0xd8#8] =
        word [0#8, 0#8, 0xee#8, 0xf4#8] := by decide +kernel
    have stored : [0#8, 0#8, d, c] = [0#8, 0#8, 0xee#8, 0xf4#8] :=
      word_injective rfl (by simp) (absorbed.symm.trans register)
    simp only [List.cons.injEq, and_true, true_and] at covered stored
    obtain ⟨rfl, rfl⟩ := covered
    obtain ⟨rfl, rfl⟩ := stored
    exact Or.inr rfl

/-- **The bursts of four bytes that pass the checksum**: none but the empty one,
and `blindError` with two of its bytes covered. -/
theorem undetected_burst_iff (before after : Nat) (a b c d : BitVec 8) :
    Undetected (List.replicate before 0#8 ++ ([a, b, c, d] ++ List.replicate after 0#8)) ↔
      [a, b, c, d] = [0#8, 0#8, 0#8, 0#8] ∨
        (after = 2 ∧ [a, b, c, d] = blindError.map UInt8.toBitVec) := by
  rw [undetected_zeros_append _ (by simp)]
  constructor
  · intro passes
    match after with
    | 0 =>
        have zero := stored_zero 0 [d, c, b, a] rfl passes
        left
        simp [zero a, zero b, zero c, zero d]
    | 1 =>
        have absorbed : absorbAll feedback 0#32 [a] = word ([0#8] ++ [d, c, b]) := passes
        have covered : ∀ byte ∈ [a], byte = 0#8 :=
          word_eq_zero (by simp) (straddle_one (straddle_of_absorbed rfl absorbed))
        obtain rfl := covered a (by simp)
        have zero := stored_zero 1 [d, c, b] rfl absorbed
        left
        simp [zero b, zero c, zero d]
    | 2 =>
        exact (burst_two passes).imp_right fun blind => ⟨rfl, blind⟩
    | 3 =>
        have absorbed : absorbAll feedback 0#32 [a, b, c] = word ([0#8, 0#8, 0#8] ++ [d]) := passes
        have covered : ∀ byte ∈ [a, b, c], byte = 0#8 :=
          word_eq_zero (by simp) (straddle_three (straddle_of_absorbed rfl absorbed))
        obtain rfl := covered a (by simp)
        obtain rfl := covered b (by simp)
        obtain rfl := covered c (by simp)
        have zero := stored_zero 3 [d] rfl absorbed
        left
        simp [zero d]
    | after + 4 =>
        have cut : ([a, b, c, d] ++ List.replicate (after + 4) 0#8).length - 4 = after + 4 := by
          simp
        have front : ([a, b, c, d] ++ List.replicate (after + 4) 0#8).take (after + 4) =
            [a, b, c, d] ++ List.replicate after 0#8 := by
          simp
        have rear : ([a, b, c, d] ++ List.replicate (after + 4) 0#8).drop (after + 4) =
            List.replicate 4 0#8 := by
          simp
        rw [Undetected, cut, front, rear, absorbAll_append, absorbAll_zeros] at passes
        have quiet : (word (List.replicate 4 0#8).reverse : BitVec 32) = 0#32 := by decide
        have burst := shifts_eq_zero feedback feedback_msb (passes.trans quiet)
        rw [absorbAll_eq_shifts feedback _ _ (by simp), BitVec.zero_xor] at burst
        have zero := word_eq_zero (by simp) (shifts_eq_zero feedback feedback_msb burst)
        left
        simp [zero a, zero b, zero c, zero d]
  · rintro (zero | ⟨rfl, blind⟩)
    · simp only [List.cons.injEq, and_true] at zero
      obtain ⟨rfl, rfl, rfl, rfl⟩ := zero
      have quiet : [0#8, 0#8, 0#8, 0#8] ++ List.replicate after 0#8 =
          List.replicate (after + 4) 0#8 := by
        rw [Nat.add_comm, List.replicate_add]
        rfl
      rw [quiet, Undetected, List.length_replicate, Nat.add_sub_cancel, List.take_replicate,
        List.drop_replicate, List.reverse_replicate, absorbAll_zeros,
        (shifts_linear feedback _).map_zero, word_replicate_zero]
    · rw [blind]
      unfold Undetected
      decide +kernel

/-! ## Two strings with one checksum -/

/-- The checksum field of a string is the checksum of what precedes it. -/
def ChecksumOk (bytes : ByteVector) : Prop :=
  readU32BE bytes (bytes.length - crcSize) = crc32 (bytes.take (bytes.length - crcSize))

/-- A big-endian read spells its four bytes backwards. -/
theorem readU32BE_toBitVec {bytes : ByteVector} {offset : Nat}
    (inside : offset + 4 ≤ bytes.length) :
    (readU32BE bytes offset).toBitVec =
      word ((slice bytes offset 4).map UInt8.toBitVec).reverse := by
  rw [slice_eq_map inside, readU32BE]
  simp only [List.range_succ, List.range_zero, List.nil_append, List.map_cons, List.map_nil,
    List.cons_append, Nat.add_zero, List.reverse_cons, List.reverse_nil]
  generalize byteAt bytes offset = a
  generalize byteAt bytes (offset + 1) = b
  generalize byteAt bytes (offset + 2) = c
  generalize byteAt bytes (offset + 3) = d
  refine BitVec.eq_of_getLsbD_eq fun i below => ?_
  have eight : (UInt32.toBitVec 8 % 32).toNat = 8 := rfl
  have sixteen : (UInt32.toBitVec 16 % 32).toNat = 16 := rfl
  have twentyFour : (UInt32.toBitVec 24 % 32).toNat = 24 := rfl
  have high (byte : UInt8) {j : Nat} (out : 8 ≤ j) : byte.toBitVec.getLsbD j = false :=
    BitVec.getLsbD_of_ge _ _ out
  have range : i / 8 = 0 ∧ i < 8 ∨ i / 8 = 1 ∧ 8 ≤ i ∧ i < 16 ∨ i / 8 = 2 ∧ 16 ≤ i ∧ i < 24 ∨
      i / 8 = 3 ∧ 24 ≤ i ∧ i < 32 := by omega
  rw [word_bit _ (by simp)]
  simp only [UInt32.toBitVec_or, UInt32.toBitVec_shiftLeft, BitVec.getLsbD_or,
    BitVec.shiftLeft_eq', UInt8.toBitVec_toUInt32, BitVec.getLsbD_shiftLeft,
    BitVec.getLsbD_setWidth, eight, sixteen, twentyFour]
  -- one case per byte: the bytes shifted further up are clear here, those below are spent
  rcases range with ⟨byte, low⟩ | ⟨byte, low, up⟩ | ⟨byte, low, up⟩ | ⟨byte, low, _⟩ <;> rw [byte]
  · simp [low, below, Nat.mod_eq_of_lt low, show i < 16 by omega, show i < 24 by omega]
  · have rest : i % 8 = i - 8 := by omega
    simp [rest, high d (show 8 ≤ i by omega), Nat.not_lt.mpr low, below, up,
      show i < 24 by omega, show i - 8 < 32 by omega]
  · have rest : i % 8 = i - 16 := by omega
    simp [rest, high d (show 8 ≤ i by omega), high c (show 8 ≤ i - 8 by omega),
      Nat.not_lt.mpr low, below, up, show ¬ i < 8 by omega, show i - 16 < 32 by omega]
  · have rest : i % 8 = i - 24 := by omega
    simp [rest, high d (show 8 ≤ i by omega), high c (show 8 ≤ i - 8 by omega),
      high b (show 8 ≤ i - 16 by omega), Nat.not_lt.mpr low, below, show ¬ i < 8 by omega,
      show ¬ i < 16 by omega, show i - 24 < 32 by omega]

@[simp] theorem length_difference (a b : ByteVector) :
    (difference a b).length = min a.length b.length := by
  simp [difference]

theorem take_difference (a b : ByteVector) (count : Nat) :
    (difference a b).take count = difference (a.take count) (b.take count) := by
  rw [difference, difference, List.take_zipWith, List.map_take, List.map_take]

theorem drop_difference (a b : ByteVector) (count : Nat) :
    (difference a b).drop count = difference (a.drop count) (b.drop count) := by
  rw [difference, difference, List.drop_zipWith, List.map_drop, List.map_drop]

/-- The last four bytes of a difference, read as a register. -/
theorem word_difference_tail {a b : ByteVector} (same : a.length = b.length)
    (long : 4 ≤ a.length) :
    word ((difference a b).drop (a.length - 4)).reverse =
      (readU32BE a (a.length - 4)).toBitVec ^^^ (readU32BE b (b.length - 4)).toBitVec := by
  have tail {bytes : ByteVector} (enough : 4 ≤ bytes.length) :
      slice bytes (bytes.length - 4) 4 = bytes.drop (bytes.length - 4) :=
    List.take_of_length_le (by rw [List.length_drop]; omega)
  have lengths : ((a.drop (a.length - 4)).map UInt8.toBitVec).length =
      ((b.drop (b.length - 4)).map UInt8.toBitVec).length := by
    simp [same]
  rw [readU32BE_toBitVec (by omega), readU32BE_toBitVec (by omega), tail long,
    tail (same ▸ long), ← word_xor (by simpa using lengths), ← List.reverse_zipWith lengths,
    drop_difference, difference, same]

/-- **Two strings of one length, the first with a good checksum**: the second has
one exactly when their difference goes undetected. -/
theorem checksum_difference {a b : ByteVector} (same : a.length = b.length)
    (long : 4 ≤ a.length) (good : ChecksumOk a) :
    ChecksumOk b ↔ Undetected (difference a b) := by
  have size : crcSize = 4 := rfl
  have covered : absorbAll feedback 0#32 ((difference a b).take (a.length - 4)) =
      (crc32 (a.take (a.length - 4))).toBitVec ^^^ (crc32 (b.take (b.length - 4))).toBitVec := by
    rw [take_difference, ← crc32_xor (by simp [same]), UInt32.toBitVec_xor, same]
  have width : (difference a b).length = a.length := by simp [same]
  rw [ChecksumOk, size] at good
  rw [Undetected, width, covered, word_difference_tail same long, good, ChecksumOk, size]
  constructor
  · intro second
    rw [second]
  · intro undetected
    have cancel (x y z : BitVec 32) (e : x ^^^ y = x ^^^ z) : y = z := by
      have := congrArg (x ^^^ ·) e
      simpa [← BitVec.xor_assoc] using this
    exact UInt32.toBitVec_inj.mp (cancel _ _ _ undetected).symm

/-! ## Bursts on an encoded frame -/

/-- A byte string xored with a mask, byte by byte. -/
def corrupt (bytes mask : ByteVector) : ByteVector :=
  List.zipWith (· ^^^ ·) bytes mask

/-- A string with `blindError` on the four bytes around its checksum boundary. -/
def blindTwin (bytes : ByteVector) : ByteVector :=
  corrupt bytes (List.replicate (bytes.length - 6) 0 ++ (blindError ++ [0, 0]))

/-- All differences of two strings lie in four consecutive bytes. -/
def DifferInBurst (a b : ByteVector) : Prop :=
  ∃ start, ∀ i, byteAt a i ≠ byteAt b i → start ≤ i ∧ i < start + 4

theorem byteAt_corrupt {bytes mask : ByteVector} (i : Nat) (insideBytes : i < bytes.length)
    (insideMask : i < mask.length) :
    byteAt (corrupt bytes mask) i = byteAt bytes i ^^^ byteAt mask i := by
  have inside : i < (corrupt bytes mask).length := by
    rw [corrupt, List.length_zipWith]
    omega
  simp only [byteAt, List.getD_eq_getElem?_getD, List.getElem?_eq_getElem inside,
    List.getElem?_eq_getElem insideBytes, List.getElem?_eq_getElem insideMask, Option.getD_some]
  exact List.getElem_zipWith

theorem length_blindTwin {bytes : ByteVector} (long : 6 ≤ bytes.length) :
    (blindTwin bytes).length = bytes.length := by
  simp [blindTwin, corrupt, blindError]
  omega

theorem byteAt_ext {a b : ByteVector} (same : a.length = b.length)
    (agree : ∀ i < a.length, byteAt a i = byteAt b i) : a = b := by
  refine List.ext_getElem same fun i insideA insideB => ?_
  have := agree i insideA
  simpa [byteAt, List.getD_eq_getElem?_getD, insideA, insideB] using this

theorem getElem_difference {a b : ByteVector} (i : Nat) (inside : i < (difference a b).length) :
    (difference a b)[i] = (byteAt a i ^^^ byteAt b i).toBitVec := by
  have insideA : i < a.length := by
    rw [length_difference] at inside
    omega
  have insideB : i < b.length := by
    rw [length_difference] at inside
    omega
  simp [difference, byteAt, List.getD_eq_getElem?_getD, insideA, insideB]

/-- The mask that leads from a string to another is their difference. -/
theorem eq_corrupt_of_difference {a b mask : ByteVector} (same : a.length = b.length)
    (masks : difference a b = mask.map UInt8.toBitVec) : b = corrupt a mask := by
  have width : mask.length = a.length := by
    have := congrArg List.length masks
    simpa [same] using this.symm
  refine byteAt_ext (by simp [corrupt, width, same]) fun i inside => ?_
  rw [← same] at inside
  have entry : (byteAt a i ^^^ byteAt b i).toBitVec = (byteAt mask i).toBitVec := by
    rw [← getElem_difference i (by simpa [← same] using inside)]
    simp [masks, byteAt, List.getD_eq_getElem?_getD, width, inside]
  rw [byteAt_corrupt i inside (width.symm ▸ inside), ← UInt8.toBitVec_inj.mp entry,
    ← UInt8.xor_assoc, UInt8.xor_self, UInt8.zero_xor]

theorem difference_corrupt {bytes mask : ByteVector} (width : mask.length = bytes.length) :
    difference bytes (corrupt bytes mask) = mask.map UInt8.toBitVec := by
  have lengths : (corrupt bytes mask).length = bytes.length := by
    simp [corrupt, width]
  refine List.ext_getElem (by simp [lengths, width]) fun i inside _ => ?_
  have below : i < bytes.length := by simpa [lengths] using inside
  rw [getElem_difference, byteAt_corrupt i below (width.symm ▸ below), ← UInt8.xor_assoc,
    UInt8.xor_self, UInt8.zero_xor]
  simp [byteAt, List.getD_eq_getElem?_getD, width, below]

/-- A burst is four bytes of difference between zeros. -/
theorem difference_of_burst {a b : ByteVector} (same : a.length = b.length)
    (long : 4 ≤ a.length) (burst : DifferInBurst a b) :
    ∃ before after x y z t, before + 4 + after = a.length ∧
      difference a b =
        List.replicate before 0#8 ++ ([x, y, z, t] ++ List.replicate after 0#8) := by
  obtain ⟨start, within⟩ := burst
  let before := min start (a.length - 4)
  refine ⟨before, a.length - 4 - before, (byteAt a before ^^^ byteAt b before).toBitVec,
    (byteAt a (before + 1) ^^^ byteAt b (before + 1)).toBitVec,
    (byteAt a (before + 2) ^^^ byteAt b (before + 2)).toBitVec,
    (byteAt a (before + 3) ^^^ byteAt b (before + 3)).toBitVec, by omega, ?_⟩
  refine List.ext_getElem (by simp [same]; omega) fun i insideD _ => ?_
  rw [getElem_difference]
  have inside : i < a.length := by
    rw [length_difference] at insideD
    omega
  rcases Nat.lt_or_ge i before with front | rest
  · have agree : byteAt a i = byteAt b i := by
      by_contra differ
      have := within i differ
      omega
    rw [List.getElem_append_left (by simpa using front)]
    simp [agree]
  · rw [List.getElem_append_right (by simpa using rest)]
    simp only [List.length_replicate]
    rcases Nat.lt_or_ge i (before + 4) with middle | rear
    · have place : i = before ∨ i = before + 1 ∨ i = before + 2 ∨ i = before + 3 := by omega
      rcases place with rfl | rfl | rfl | rfl <;> simp
    · have agree : byteAt a i = byteAt b i := by
        by_contra differ
        have := within i differ
        omega
      rw [List.getElem_append_right (by simp; omega)]
      simp [agree]

theorem checksumOk_blindTwin {bytes : ByteVector} (long : 6 ≤ bytes.length)
    (good : ChecksumOk bytes) : ChecksumOk (blindTwin bytes) := by
  have twin : difference bytes (blindTwin bytes) = List.replicate (bytes.length - 6) 0#8 ++
      ([0x61#8, 0xd8#8, 0xf4#8, 0xee#8] ++ List.replicate 2 0#8) := by
    rw [blindTwin, difference_corrupt (by simp [blindError]; omega)]
    simp [blindError, List.replicate_succ]
  rw [checksum_difference (length_blindTwin long).symm (by omega) good, twin,
    undetected_burst_iff]
  exact Or.inr ⟨rfl, rfl⟩

/-- **Bursts that keep the checksum good**: none, or the one of `blindTwin`. -/
theorem checksum_burst_iff {a b : ByteVector} (same : a.length = b.length)
    (long : 6 ≤ a.length) (good : ChecksumOk a) (burst : DifferInBurst a b) :
    ChecksumOk b ↔ b = a ∨ b = blindTwin a := by
  constructor
  · intro second
    have undetected := (checksum_difference same (by omega) good).mp second
    obtain ⟨before, after, x, y, z, t, whole, shape⟩ :=
      difference_of_burst same (by omega) burst
    rw [shape, undetected_burst_iff] at undetected
    rcases undetected with zero | ⟨two, blind⟩
    · left
      have zeros : difference a b = (List.replicate a.length 0).map UInt8.toBitVec := by
        rw [shape, zero, ← whole, List.map_replicate, List.replicate_add, List.replicate_add]
        simp [List.replicate_succ]
      have masked := eq_corrupt_of_difference same zeros
      refine byteAt_ext same.symm fun i inside => ?_
      have below : i < a.length := same ▸ inside
      rw [masked, byteAt_corrupt i below (by simpa using below)]
      simp [byteAt, List.getD_eq_getElem?_getD, below]
    · right
      refine eq_corrupt_of_difference same ?_
      have place : a.length - 6 = before := by omega
      rw [shape, blind, two, place]
      simp [List.replicate_succ]
  · rintro (rfl | rfl)
    · exact good
    · exact checksumOk_blindTwin long good

/-- Two strings that agree on the header are read into the same header fields. -/
theorem wellFormed_of_header {a b : ByteVector} (formed : WellFormed a)
    (same : a.length = b.length) (agree : ∀ i < headerSize, byteAt b i = byteAt a i)
    (checksum : ChecksumOk b) : WellFormed b := by
  have header (i : Nat) (low : i < 23) : byteAt b i = byteAt a i := agree i low
  have u16 (offset : Nat) (inside : offset + 2 ≤ 23) : readU16BE b offset = readU16BE a offset := by
    rw [readU16BE, readU16BE, header offset (by omega), header (offset + 1) (by omega)]
  have u32 (offset : Nat) (inside : offset + 4 ≤ 23) : readU32BE b offset = readU32BE a offset := by
    rw [readU32BE, readU32BE, header offset (by omega), header (offset + 1) (by omega),
      header (offset + 2) (by omega), header (offset + 3) (by omega)]
  have announced : announcedLength b = announcedLength a := by
    rw [announcedLength, announcedLength, u16 payloadLengthOffset (by decide)]
  exact {
    magic := (u32 magicOffset (by decide)).trans formed.magic
    version := (header versionOffset (by decide)).trans formed.version
    bounded := announced ▸ formed.bounded
    exact := by rw [announced, ← same, formed.exact]
    crc := checksum
    temperature := by rw [readFloatBE, u32 temperatureOffset (by decide)]; exact formed.temperature
    battery := by rw [header batteryOffset (by decide)]; exact formed.battery
    status := by rw [header statusOffset (by decide)]; exact formed.status }

/-- The blind twin of a frame is accepted exactly when both covered bytes of the
burst are payload: closer to the header they change the announced length. -/
theorem wellFormed_blindTwin_iff {frame : TelemetryFrame} (encodable : Encodable frame) :
    WellFormed (blindTwin (wire frame)) ↔ 2 ≤ frame.payload.length := by
  have width := length_wire frame
  have sizes : headerSize = 23 ∧ crcSize = 4 := ⟨rfl, rfl⟩
  have long : 6 ≤ (wire frame).length := by omega
  have lengths := length_blindTwin long
  have maskLength : (List.replicate ((wire frame).length - 6) 0 ++
      (blindError ++ [0, 0]) : ByteVector).length = (wire frame).length := by
    simp [blindError]
    omega
  constructor
  · intro formed
    by_contra short
    have announced : announcedLength (blindTwin (wire frame)) = announcedLength (wire frame) := by
      have first := formed.exact
      have second := (wellFormed_wire encodable).exact
      omega
    have lowByte : byteAt (blindTwin (wire frame)) 22 = byteAt (wire frame) 22 := by
      have words : readU16BE (blindTwin (wire frame)) 21 = readU16BE (wire frame) 21 :=
        UInt16.toNat_inj.mp announced
      rw [← readU16BE_low _ 21, words, readU16BE_low]
    rw [blindTwin, byteAt_corrupt 22 (by omega) (by omega)] at lowByte
    have none : byteAt (List.replicate ((wire frame).length - 6) 0 ++ (blindError ++ [0, 0])) 22 =
        0 := by
      have := congrArg (byteAt (wire frame) 22 ^^^ ·) lowByte
      simpa [← UInt8.xor_assoc] using this
    have small : frame.payload.length = 0 ∨ frame.payload.length = 1 := by omega
    rcases small with empty | one
    · rw [width, empty] at none
      exact absurd none (by decide)
    · rw [width, one] at none
      exact absurd none (by decide)
  · intro enough
    refine wellFormed_of_header (wellFormed_wire encodable) lengths.symm (fun i low => ?_) ?_
    · rw [blindTwin, byteAt_corrupt i (by omega) (by omega)]
      have zero : byteAt (List.replicate ((wire frame).length - 6) 0 ++ (blindError ++ [0, 0])) i =
          0 := by
        rw [byteAt, List.getD_eq_getElem?_getD, List.getElem?_append_left (by simp; omega),
          List.getElem?_replicate]
        split <;> rfl
      rw [zero, UInt8.xor_zero]
    · exact checksumOk_blindTwin long (wellFormed_wire encodable).crc

/-- **Which bursts on an encoded frame the decoder rejects**: all of them, but
for the one blind error across the payload and checksum boundary. -/
theorem burst_rejected_iff {frame : TelemetryFrame} {bytes received : ByteVector}
    (encoded : encodeFrame frame = .ok bytes) (same : received.length = bytes.length)
    (differ : received ≠ bytes) (burst : DifferInBurst bytes received) :
    (∃ error, decodeFrame received = .error error) ↔
      ¬ (2 ≤ frame.payload.length ∧ received = blindTwin bytes) := by
  obtain ⟨encodable, wired⟩ := (encodeFrame_eq_ok_iff frame bytes).mp encoded
  obtain rfl := wired.symm
  have long : 6 ≤ (wire frame).length := by
    have := length_wire frame
    have : headerSize + crcSize = 27 := rfl
    omega
  have rejected : (∃ error, decodeFrame received = .error error) ↔ ¬ WellFormed received := by
    constructor
    · rintro ⟨error, refused⟩ formed
      rw [(decodeFrame_eq_ok_iff received _).mpr ⟨formed, rfl⟩] at refused
      cases refused
    · intro malformed
      cases decoded : decodeFrame received with
      | error error => exact ⟨error, rfl⟩
      | ok frame' => exact absurd ((decodeFrame_eq_ok_iff received frame').mp decoded).1 malformed
  rw [rejected, not_iff_not]
  constructor
  · intro formed
    have kept : received = wire frame ∨ received = blindTwin (wire frame) :=
      (checksum_burst_iff same.symm long (wellFormed_wire encodable).crc burst).mp formed.crc
    have twin := kept.resolve_left differ
    rw [twin] at formed
    exact ⟨(wellFormed_blindTwin_iff encodable).mp formed, twin⟩
  · rintro ⟨enough, twin⟩
    rw [twin]
    exact (wellFormed_blindTwin_iff encodable).mpr enough

/-- The default frame with two zero bytes of payload. -/
def twoByteFrame : TelemetryFrame where
  payload := [0, 0]

theorem twoByteFrame_encodable : Encodable twoByteFrame :=
  { encodable_default with payload := by decide }

theorem encodeFrame_twoByteFrame : encodeFrame twoByteFrame = .ok (wire twoByteFrame) :=
  (encodeFrame_eq_ok_iff _ _).mpr ⟨twoByteFrame_encodable, rfl⟩

theorem wire_twoByteFrame :
    wire twoByteFrame = [83, 84, 71, 83, 1, 0, 0, 0, 0, 0, 0, 0, 0, 0, 0, 0, 0, 0, 0, 0, 0, 0, 2,
      0, 0, 186, 69, 13, 52] := by
  rw [wire, crc32_bitwise]
  decide +kernel

/-- Past both ends two strings of one length read alike, so a burst is checked
below their length. -/
theorem differInBurst_of_below {a b : ByteVector} (same : a.length = b.length) (start : Nat)
    (within : ∀ i < a.length, byteAt a i ≠ byteAt b i → start ≤ i ∧ i < start + 4) :
    DifferInBurst a b := by
  refine ⟨start, fun i differ => ?_⟩
  rcases Nat.lt_or_ge i a.length with below | past
  · exact within i below differ
  · have agree : byteAt a i = byteAt b i := by
      rw [byteAt, byteAt, List.getD_eq_getElem?_getD, List.getD_eq_getElem?_getD,
        List.getElem?_eq_none past, List.getElem?_eq_none (same ▸ past)]
    exact absurd agree differ

/-- One byte of the version field is a burst the decoder sees. -/
theorem burst_rejected_version :
    ∃ error, decodeFrame ((wire twoByteFrame).set 4 0) = .error error := by
  have differ : (wire twoByteFrame).set 4 0 ≠ wire twoByteFrame := by
    rw [wire_twoByteFrame]
    decide
  have within : ∀ i < (wire twoByteFrame).length,
      byteAt (wire twoByteFrame) i ≠ byteAt ((wire twoByteFrame).set 4 0) i → 4 ≤ i ∧ i < 4 + 4 := by
    rw [wire_twoByteFrame]
    decide
  refine (burst_rejected_iff encodeFrame_twoByteFrame (List.length_set ..) differ
    (differInBurst_of_below (List.length_set ..).symm 4 within)).mpr ?_
  rintro ⟨_, twin⟩
  rw [wire_twoByteFrame] at twin
  revert twin
  decide

/-- **The blind error is accepted**: bytes `61 D8` on the payload and `F4 EE` on
the checksum field. -/
theorem burst_undetected :
    ¬ ∀ (frame : TelemetryFrame) (bytes received : ByteVector),
      encodeFrame frame = .ok bytes → received.length = bytes.length → received ≠ bytes →
        DifferInBurst bytes received → ∃ error, decodeFrame received = .error error := by
  intro detected
  have lengths : (blindTwin (wire twoByteFrame)).length = (wire twoByteFrame).length :=
    length_blindTwin (by decide)
  have within : ∀ i < (wire twoByteFrame).length,
      byteAt (wire twoByteFrame) i ≠ byteAt (blindTwin (wire twoByteFrame)) i →
        23 ≤ i ∧ i < 23 + 4 := by
    rw [wire_twoByteFrame]
    decide
  have differ : blindTwin (wire twoByteFrame) ≠ wire twoByteFrame := by
    rw [wire_twoByteFrame]
    decide
  obtain ⟨error, refused⟩ := detected twoByteFrame (wire twoByteFrame)
    (blindTwin (wire twoByteFrame)) encodeFrame_twoByteFrame lengths differ
    (differInBurst_of_below lengths.symm 23 within)
  have accepted : decodeFrame (blindTwin (wire twoByteFrame)) =
      .ok (frameOf (blindTwin (wire twoByteFrame))) :=
    (decodeFrame_eq_ok_iff _ _).mpr
      ⟨(wellFormed_blindTwin_iff twoByteFrame_encodable).mpr (by decide), rfl⟩
  rw [accepted] at refused
  cases refused

end Stgs.Wire
