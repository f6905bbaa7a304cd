/-
# Wire.ByteUtils -- the big-endian read and append helpers

The lowest layer of the STGS frame and the STGF container: `append*BE` push a
word on an output vector, `read*BE` reassemble one at an offset.  The readers
check nothing: an index past the end is outside their contract, and here reads
as zero (`byteAt`).  Every appender is `beBytes` (`appendU32BE_eq`) and every
reader inside the vector is `beNat` of the slice it covers (`readU32BE_toNat`),
so the codecs above never look at a shift.

A `float` is its 32-bit pattern (`Binary32`): the wire moves patterns, and
`std::bit_cast` is the projection.
-/
import Stgs.Theory.BigEndian

namespace Stgs.Wire

open Stgs.Theory.BigEndian

set_option autoImplicit false

/-- `std::vector<std::uint8_t>`. -/
abbrev ByteVector := List UInt8

/-- A C++ `float`, as the IEEE-754 binary32 pattern it is stored as. -/
structure Binary32 where
  bits : UInt32
deriving DecidableEq, Repr

/-- The eight exponent bits of a pattern. -/
def Binary32.exponentField (value : Binary32) : UInt32 :=
  (value.bits >>> 23) &&& 0xFF

/-- `std::isfinite`: the exponent field is not all ones. -/
def Binary32.isFinite (value : Binary32) : Bool :=
  value.exponentField != 0xFF

def byteMask : UInt64 := 0xFF

/-- `bytes[index]` on an unchecked span. -/
def byteAt (bytes : ByteVector) (index : Nat) : UInt8 :=
  bytes.getD index 0

/-! ## Appending -/

def appendU8 (out : ByteVector) (value : UInt8) : ByteVector :=
  out ++ [value]

def appendU16BE (out : ByteVector) (value : UInt16) : ByteVector :=
  out ++ [((value >>> 8).toUInt64 &&& byteMask).toUInt8, (value.toUInt64 &&& byteMask).toUInt8]

def appendU32BE (out : ByteVector) (value : UInt32) : ByteVector :=
  out ++ [((value >>> 24).toUInt64 &&& byteMask).toUInt8,
    ((value >>> 16).toUInt64 &&& byteMask).toUInt8,
    ((value >>> 8).toUInt64 &&& byteMask).toUInt8,
    (value.toUInt64 &&& byteMask).toUInt8]

/-- The shifts `56, 48, ..., 0` of the 64-bit loop. -/
def u64Shifts : List UInt64 := [56, 48, 40, 32, 24, 16, 8, 0]

def appendU64BE (out : ByteVector) (value : UInt64) : ByteVector :=
  u64Shifts.foldl (fun out shift => out ++ [((value >>> shift) &&& byteMask).toUInt8]) out

def appendFloatBE (out : ByteVector) (value : Binary32) : ByteVector :=
  appendU32BE out value.bits

/-! ## Reading -/

def readU16BE (bytes : ByteVector) (offset : Nat) : UInt16 :=
  ((byteAt bytes offset).toUInt16 <<< 8) ||| (byteAt bytes (offset + 1)).toUInt16

def readU32BE (bytes : ByteVector) (offset : Nat) : UInt32 :=
  ((byteAt bytes offset).toUInt32 <<< 24) ||| ((byteAt bytes (offset + 1)).toUInt32 <<< 16) |||
    ((byteAt bytes (offset + 2)).toUInt32 <<< 8) ||| (byteAt bytes (offset + 3)).toUInt32

def readU64BE (bytes : ByteVector) (offset : Nat) : UInt64 :=
  (List.range 8).foldl
    (fun value i => (value <<< 8) ||| (byteAt bytes (offset + i)).toUInt64) 0

def readFloatBE (bytes : ByteVector) (offset : Nat) : Binary32 :=
  ⟨readU32BE bytes offset⟩

/-! ## Both sides in the vocabulary of `BigEndian` -/

@[simp] theorem appendU8_eq (out : ByteVector) (value : UInt8) :
    appendU8 out value = out ++ beBytes 1 value.toNat := by
  simp [appendU8, beBytes]

theorem maskedByte_eq (value : UInt64) : (value &&& byteMask).toUInt8 = value.toUInt8 := by
  apply UInt8.toNat_inj.mp
  have mask : byteMask.toNat = 2 ^ 8 - 1 := rfl
  simp only [UInt64.toNat_toUInt8, UInt64.toNat_and, mask, Nat.and_two_pow_sub_one_eq_mod,
    Nat.mod_mod]

theorem appendU16BE_eq (out : ByteVector) (value : UInt16) :
    appendU16BE out value = out ++ beBytes 2 value.toNat := by
  simp only [appendU16BE, maskedByte_eq, beBytes]
  congr 2
  · apply UInt8.toNat_inj.mp
    simp [Nat.shiftRight_eq_div_pow]
  · congr 1
    apply UInt8.toNat_inj.mp
    simp

theorem appendU32BE_eq (out : ByteVector) (value : UInt32) :
    appendU32BE out value = out ++ beBytes 4 value.toNat := by
  simp only [appendU32BE, maskedByte_eq, beBytes]
  refine congrArg (out ++ ·) ?_
  simp only [List.cons.injEq, and_true]
  refine ⟨?_, ?_, ?_, ?_⟩ <;>
    (apply UInt8.toNat_inj.mp; simp [Nat.shiftRight_eq_div_pow])

theorem appendU64BE_eq (out : ByteVector) (value : UInt64) :
    appendU64BE out value = out ++ beBytes 8 value.toNat := by
  simp only [appendU64BE, u64Shifts, List.foldl_cons, List.foldl_nil, maskedByte_eq, beBytes,
    List.append_assoc, List.cons_append, List.nil_append]
  refine congrArg (out ++ ·) ?_
  simp only [List.cons.injEq, and_true]
  refine ⟨?_, ?_, ?_, ?_, ?_, ?_, ?_, ?_⟩ <;>
    (apply UInt8.toNat_inj.mp; simp [Nat.shiftRight_eq_div_pow])

theorem appendFloatBE_eq (out : ByteVector) (value : Binary32) :
    appendFloatBE out value = out ++ beBytes 4 value.bits.toNat :=
  appendU32BE_eq out value.bits

/-- A slice inside the vector, byte by byte. -/
theorem slice_eq_map {bytes : ByteVector} {offset width : Nat}
    (inside : offset + width ≤ bytes.length) :
    slice bytes offset width = (List.range width).map fun i => byteAt bytes (offset + i) := by
  apply List.ext_getElem
  · simp [length_slice inside]
  · intro i left right
    have bound : offset + i < bytes.length := by
      rw [length_slice inside] at left
      omega
    simp [slice, byteAt, List.getElem?_eq_getElem bound]

/-- One step of a reassembly: a shift by eight and an `or` with a byte. -/
theorem shiftLeft_or_byte (value : Nat) (byte : UInt8) :
    value <<< 8 ||| byte.toNat = value * 256 + byte.toNat := by
  rw [← Nat.shiftLeft_add_eq_or_of_lt byte.toNat_lt, Nat.shiftLeft_eq]

/-- A byte shifted inside the word loses nothing. -/
theorem shiftLeft_byte_mod (byte : UInt8) {shift width : Nat} (fits : shift + 8 ≤ width) :
    byte.toNat <<< shift % 2 ^ width = byte.toNat <<< shift := by
  apply Nat.mod_eq_of_lt
  calc byte.toNat <<< shift = byte.toNat * 2 ^ shift := Nat.shiftLeft_eq ..
    _ < 2 ^ 8 * 2 ^ shift := Nat.mul_lt_mul_of_pos_right byte.toNat_lt (Nat.two_pow_pos _)
    _ = 2 ^ (shift + 8) := by rw [← pow_add, Nat.add_comm]
    _ ≤ 2 ^ width := Nat.pow_le_pow_right (by decide) fits

theorem readU16BE_toNat {bytes : ByteVector} {offset : Nat}
    (inside : offset + 2 ≤ bytes.length) :
    (readU16BE bytes offset).toNat = beNat (slice bytes offset 2) := by
  rw [slice_eq_map inside, readU16BE]
  have word (high low : UInt8) : beNat [high, low] = high.toNat <<< 8 ||| low.toNat := by
    rw [shiftLeft_or_byte]
    simp [beNat]
  simp only [List.range_succ, List.range_zero, List.nil_append, List.map_cons, List.map_nil,
    List.cons_append, Nat.add_zero, word, UInt16.toNat_or, UInt16.toNat_shiftLeft,
    UInt8.toNat_toUInt16]
  exact congrArg (· ||| _) (shiftLeft_byte_mod _ (by decide))

theorem readU32BE_toNat {bytes : ByteVector} {offset : Nat}
    (inside : offset + 4 ≤ bytes.length) :
    (readU32BE bytes offset).toNat = beNat (slice bytes offset 4) := by
  rw [slice_eq_map inside, readU32BE]
  have word (a b c d : UInt8) : beNat [a, b, c, d] =
      a.toNat <<< 24 ||| b.toNat <<< 16 ||| c.toNat <<< 8 ||| d.toNat := by
    have nested : a.toNat <<< 24 ||| b.toNat <<< 16 ||| c.toNat <<< 8 ||| d.toNat =
        ((a.toNat <<< 8 ||| b.toNat) <<< 8 ||| c.toNat) <<< 8 ||| d.toNat := by
      simp only [Nat.shiftLeft_or_distrib, ← Nat.shiftLeft_add]
    rw [nested]
    simp only [shiftLeft_or_byte]
    simp [beNat]
  simp only [List.range_succ, List.range_zero, List.nil_append, List.map_cons, List.map_nil,
    List.cons_append, Nat.add_zero, word, UInt32.toNat_or, UInt32.toNat_shiftLeft,
    UInt8.toNat_toUInt32]
  refine congrArg (· ||| _) (congrArg₂ (· ||| ·) (congrArg₂ (· ||| ·) ?_ ?_) ?_)
  all_goals exact shiftLeft_byte_mod _ (by decide)

theorem readFloatBE_toNat {bytes : ByteVector} {offset : Nat}
    (inside : offset + 4 ≤ bytes.length) :
    (readFloatBE bytes offset).bits.toNat = beNat (slice bytes offset 4) :=
  readU32BE_toNat inside

/-- The 64-bit loop, from any running value that leaves room for the bytes to come. -/
theorem foldl_shift_toNat (bytes : List UInt8) (value : UInt64)
    (room : (value.toNat + 1) * 256 ^ bytes.length ≤ 2 ^ 64) :
    (bytes.foldl (fun (value : UInt64) byte => (value <<< 8) ||| byte.toUInt64) value).toNat =
      value.toNat * 256 ^ bytes.length + beNat bytes := by
  induction bytes generalizing value with
  | nil => simp
  | cons byte rest ih =>
      have small := byte.toNat_lt
      have pos : 0 < 256 ^ rest.length := Nat.pow_pos (by decide)
      rw [List.length_cons, pow_succ, Nat.mul_comm (256 ^ rest.length), ← Nat.mul_assoc] at room
      have fits : (value.toNat + 1) * 256 ≤ 2 ^ 64 :=
        le_trans (Nat.le_mul_of_pos_right _ pos) room
      have shifted : value.toNat * 256 < 2 ^ 64 := by omega
      have step : ((value <<< 8) ||| byte.toUInt64).toNat = value.toNat * 256 + byte.toNat := by
        rw [← shiftLeft_or_byte, UInt64.toNat_or, UInt64.toNat_shiftLeft]
        refine congrArg₂ (· ||| ·) (Nat.mod_eq_of_lt ?_) (by simp)
        simpa [Nat.shiftLeft_eq] using shifted
      have next : (value.toNat * 256 + byte.toNat + 1) * 256 ^ rest.length ≤ 2 ^ 64 :=
        le_trans (Nat.mul_le_mul_right _ (by omega)) room
      rw [List.foldl_cons, ih _ (by rw [step]; exact next), step, beNat_cons, List.length_cons,
        pow_succ]
      ring

theorem readU64BE_toNat {bytes : ByteVector} {offset : Nat}
    (inside : offset + 8 ≤ bytes.length) :
    (readU64BE bytes offset).toNat = beNat (slice bytes offset 8) := by
  have fold := foldl_shift_toNat ((List.range 8).map fun i => byteAt bytes (offset + i)) 0
    (by simp)
  rw [List.foldl_map] at fold
  rw [slice_eq_map inside, readU64BE, fold]
  simp

/-- The last byte read is the low one. -/
theorem readU16BE_low (bytes : ByteVector) (offset : Nat) :
    (readU16BE bytes offset).toUInt8 = byteAt bytes (offset + 1) := by
  rw [readU16BE]
  apply UInt8.toBitVec_inj.mp
  refine BitVec.eq_of_getLsbD_eq fun i below => ?_
  simp [below]

theorem readU32BE_low (bytes : ByteVector) (offset : Nat) :
    (readU32BE bytes offset).toUInt8 = byteAt bytes (offset + 3) := by
  rw [readU32BE]
  apply UInt8.toBitVec_inj.mp
  refine BitVec.eq_of_getLsbD_eq fun i below => ?_
  simp [below]

theorem byteAt_append_right (first second : ByteVector) (index : Nat) :
    byteAt (first ++ second) (first.length + index) = byteAt second index := by
  rw [byteAt, byteAt, List.getD_eq_getElem?_getD, List.getD_eq_getElem?_getD,
    List.getElem?_append_right (Nat.le_add_right _ _), Nat.add_sub_cancel_left]

theorem byteAt_take {index count : Nat} (below : index < count) (bytes : ByteVector) :
    byteAt (bytes.take count) index = byteAt bytes index := by
  rw [byteAt, byteAt, List.getD_eq_getElem?_getD, List.getD_eq_getElem?_getD,
    List.getElem?_take_of_lt below]

theorem byteAt_append_left {first : ByteVector} {index : Nat} (inside : index < first.length)
    (second : ByteVector) : byteAt (first ++ second) index = byteAt first index := by
  rw [byteAt, byteAt, List.getD_eq_getElem?_getD, List.getD_eq_getElem?_getD,
    List.getElem?_append_left inside]

theorem byteAt_toNat {bytes : ByteVector} {offset : Nat} (inside : offset + 1 ≤ bytes.length) :
    (byteAt bytes offset).toNat = beNat (slice bytes offset 1) := by
  rw [slice_eq_map inside]
  simp [beNat]

/-! ## Reading back a written field -/

section Written

variable {bytes : ByteVector} {offset : Nat}

theorem byteAt_of_slice {value : UInt8} (inside : offset + 1 ≤ bytes.length)
    (field : slice bytes offset 1 = beBytes 1 value.toNat) : byteAt bytes offset = value := by
  apply UInt8.toNat_inj.mp
  rw [byteAt_toNat inside, field, beNat_beBytes]
  exact Nat.mod_eq_of_lt value.toNat_lt

theorem readU16BE_of_slice {value : UInt16} (inside : offset + 2 ≤ bytes.length)
    (field : slice bytes offset 2 = beBytes 2 value.toNat) : readU16BE bytes offset = value := by
  apply UInt16.toNat_inj.mp
  rw [readU16BE_toNat inside, field, beNat_beBytes]
  exact Nat.mod_eq_of_lt value.toNat_lt

theorem readU32BE_of_slice {value : UInt32} (inside : offset + 4 ≤ bytes.length)
    (field : slice bytes offset 4 = beBytes 4 value.toNat) : readU32BE bytes offset = value := by
  apply UInt32.toNat_inj.mp
  rw [readU32BE_toNat inside, field, beNat_beBytes]
  exact Nat.mod_eq_of_lt value.toNat_lt

theorem readU64BE_of_slice {value : UInt64} (inside : offset + 8 ≤ bytes.length)
    (field : slice bytes offset 8 = beBytes 8 value.toNat) : readU64BE bytes offset = value := by
  apply UInt64.toNat_inj.mp
  rw [readU64BE_toNat inside, field, beNat_beBytes]
  exact Nat.mod_eq_of_lt value.toNat_lt

theorem readFloatBE_of_slice {value : Binary32} (inside : offset + 4 ≤ bytes.length)
    (field : slice bytes offset 4 = beBytes 4 value.bits.toNat) :
    readFloatBE bytes offset = value := by
  rw [readFloatBE, readU32BE_of_slice inside field]

end Written

end Stgs.Wire
