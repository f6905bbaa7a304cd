/-
# Wire.Crc32 -- the CRC-32 of an STGS frame

`crc32` is the source's table-driven loop: a table of 256 entries built with the
reflected polynomial, one lookup per byte.  `crc32_register` reads that loop as
a shift register absorbing bytes low bit first (`Theory.ShiftRegister`), which
is where its algebra lives: `crc32_xor` says what the checksums of two equally
long strings differ by, and `crc32_eq_isoHdlc` that the loop computes the
published CRC-32/ISO-HDLC.
-/
import Stgs.Theory.SerialRegister
import Stgs.Wire.ByteUtils

namespace Stgs.Wire

open Stgs.Theory Stgs.Theory.ShiftRegister

set_option autoImplicit false

def crc32ReflectedPolynomial : UInt32 := 0xEDB88320
def crc32InitialValue : UInt32 := 0xFFFFFFFF
def crc32FinalXor : UInt32 := 0xFFFFFFFF

def crcTableEntryCount : Nat := 256
def bitsPerByte : Nat := 8
def leastSignificantBitMask : UInt32 := 1
def lowByteMask : UInt32 := 0xFF

/-- One turn of the bit loop of `makeTable`. -/
def tableBit (crc : UInt32) : UInt32 :=
  if crc &&& leastSignificantBitMask ≠ 0 then (crc >>> 1) ^^^ crc32ReflectedPolynomial
  else crc >>> 1

/-- The bit loop: `count` turns. -/
def tableBits : Nat → UInt32 → UInt32
  | 0, crc => crc
  | count + 1, crc => tableBits count (tableBit crc)

def makeTable : Vector UInt32 crcTableEntryCount :=
  Vector.ofFn fun i => tableBits bitsPerByte (UInt32.ofNat i)

def crcTable : Vector UInt32 crcTableEntryCount := makeTable

/-- The table index of a step, `static_cast<std::uint8_t>((crc ^ byte) & LowByteMask)`. -/
def crcIndex (crc : UInt32) (byte : UInt8) : UInt8 :=
  ((crc ^^^ byte.toUInt32) &&& lowByteMask).toUInt8

def crcStep (crc : UInt32) (byte : UInt8) : UInt32 :=
  (crc >>> 8) ^^^ crcTable.get ⟨(crcIndex crc byte).toNat, (crcIndex crc byte).toNat_lt⟩

def crc32 (bytes : ByteVector) : UInt32 :=
  bytes.foldl crcStep crc32InitialValue ^^^ crc32FinalXor

/-! ## The loop is a shift register -/

/-- The feedback word of the register. -/
abbrev feedback : BitVec 32 := crc32ReflectedPolynomial.toBitVec

theorem feedback_msb : feedback.msb = true := by decide

theorem lowBit_ne_zero (crc : UInt32) :
    crc &&& leastSignificantBitMask ≠ 0 ↔ crc.toBitVec.getLsbD 0 = true := by
  have mask : (crc &&& leastSignificantBitMask).toBitVec =
      (BitVec.ofBool (crc.toBitVec.getLsbD 0)).setWidth 32 :=
    BitVec.and_one_eq_setWidth_ofBool_getLsbD
  rw [Ne, ← UInt32.toBitVec_inj, mask]
  cases crc.toBitVec.getLsbD 0 <;> decide

theorem tableBit_toBitVec (crc : UInt32) :
    (tableBit crc).toBitVec = shift feedback crc.toBitVec := by
  unfold tableBit shift
  by_cases odd : crc.toBitVec.getLsbD 0 = true
  · rw [if_pos ((lowBit_ne_zero crc).mpr odd), if_pos odd]
    simp
  · rw [if_neg (fun ne => odd ((lowBit_ne_zero crc).mp ne)), if_neg odd]
    simp

theorem tableBits_toBitVec (count : Nat) (crc : UInt32) :
    (tableBits count crc).toBitVec = shifts feedback count crc.toBitVec := by
  induction count generalizing crc with
  | zero => rfl
  | succ count ih => rw [tableBits, ih, tableBit_toBitVec, shifts]

/-- The table entry at an index is eight steps from that index. -/
theorem crcTable_get (index : UInt8) :
    (crcTable.get ⟨index.toNat, index.toNat_lt⟩).toBitVec =
      shifts feedback 8 (index.toBitVec.setWidth 32) := by
  have entry : crcTable.get ⟨index.toNat, index.toNat_lt⟩ =
      tableBits bitsPerByte index.toUInt32 := by
    have inside : index.toNat < crcTableEntryCount := index.toNat_lt
    have lookup : crcTable.get ⟨index.toNat, index.toNat_lt⟩ = crcTable[index.toNat] := rfl
    rw [lookup]
    simp [crcTable, makeTable]
  rw [entry, tableBits_toBitVec]
  rfl

theorem crcIndex_toBitVec (crc : UInt32) (byte : UInt8) :
    (crcIndex crc byte).toBitVec = (crc.toBitVec ^^^ byte.toBitVec.setWidth 32).setWidth 8 := by
  apply BitVec.eq_of_toNat_eq
  have mask : lowByteMask.toNat = 2 ^ 8 - 1 := rfl
  simp only [crcIndex, UInt8.toNat_toBitVec, UInt32.toNat_toUInt8, UInt32.toNat_and, mask,
    Nat.and_two_pow_sub_one_eq_mod, BitVec.toNat_setWidth, Nat.mod_mod]
  rfl

/-- **A table lookup absorbs one byte.** -/
theorem crcStep_toBitVec (crc : UInt32) (byte : UInt8) :
    (crcStep crc byte).toBitVec = absorb feedback crc.toBitVec byte.toBitVec := by
  have high : (byte.toBitVec.setWidth 32) >>> 8 = 0#32 := by
    apply BitVec.eq_of_toNat_eq
    simp only [BitVec.toNat_ushiftRight, BitVec.toNat_setWidth, UInt8.toNat_toBitVec]
    have := byte.toNat_lt
    simp only [Nat.shiftRight_eq_div_pow, BitVec.toNat_ofNat]
    omega
  rw [absorb, shifts_eight, BitVec.ushiftRight_xor_distrib, high, BitVec.xor_zero,
    ← crcIndex_toBitVec, ← crcTable_get, crcStep]
  simp

/-- The same step without the table: evaluation of fixed inputs goes this way. -/
theorem crcStep_bitwise (crc : UInt32) (byte : UInt8) :
    crcStep crc byte = tableBits bitsPerByte (crc ^^^ byte.toUInt32) := by
  apply UInt32.toBitVec_inj.mp
  rw [crcStep_toBitVec, tableBits_toBitVec, absorb]
  rfl

/-- `crc32` without the table. -/
theorem crc32_bitwise (bytes : ByteVector) :
    crc32 bytes =
      bytes.foldl (fun crc byte => tableBits bitsPerByte (crc ^^^ byte.toUInt32))
        crc32InitialValue ^^^ crc32FinalXor := by
  have same : crcStep = fun crc byte => tableBits bitsPerByte (crc ^^^ byte.toUInt32) := by
    funext crc byte
    exact crcStep_bitwise crc byte
  rw [crc32, same]

/-- The register after a byte string. -/
def register (bytes : ByteVector) : BitVec 32 :=
  absorbAll feedback crc32InitialValue.toBitVec (bytes.map UInt8.toBitVec)

theorem foldl_crcStep (bytes : ByteVector) (crc : UInt32) :
    (bytes.foldl crcStep crc).toBitVec =
      absorbAll feedback crc.toBitVec (bytes.map UInt8.toBitVec) := by
  induction bytes generalizing crc with
  | nil => rfl
  | cons byte rest ih => rw [List.foldl_cons, ih, crcStep_toBitVec, List.map_cons, absorbAll_cons]

theorem crc32_register (bytes : ByteVector) :
    (crc32 bytes).toBitVec = register bytes ^^^ crc32FinalXor.toBitVec := by
  rw [crc32, UInt32.toBitVec_xor, foldl_crcStep, register]

/-! ## The published algorithm -/

/-- CRC-32/ISO-HDLC, most significant bit first. -/
def isoHdlc : SerialRegister.Parameters 32 where
  poly := 0x04C11DB7#32
  init := 0xFFFFFFFF#32
  reflectInput := true
  reflectOutput := true
  finalXor := 0xFFFFFFFF#32

theorem isoHdlc_poly_reverse : isoHdlc.poly.reverse = feedback := by decide +kernel

theorem isoHdlc_init_reverse : isoHdlc.init.reverse = crc32InitialValue.toBitVec := by
  decide +kernel

/-- **The table-driven loop computes CRC-32/ISO-HDLC.** -/
theorem crc32_eq_isoHdlc (bytes : ByteVector) :
    (crc32 bytes).toBitVec = isoHdlc.checksum (bytes.map UInt8.toBitVec) := by
  rw [SerialRegister.checksum_reflected isoHdlc (by decide) rfl rfl, isoHdlc_poly_reverse,
    isoHdlc_init_reverse, crc32_register, register]
  rfl

/-- The nine digits of the published check value. -/
example : crc32 [0x31, 0x32, 0x33, 0x34, 0x35, 0x36, 0x37, 0x38, 0x39] = 0xCBF43926 := by
  rw [crc32_bitwise]
  decide +kernel

/-- The bytes two strings differ by. -/
def difference (a b : ByteVector) : List (BitVec 8) :=
  List.zipWith (· ^^^ ·) (a.map UInt8.toBitVec) (b.map UInt8.toBitVec)

/-- **What two checksums differ by** depends on the difference of the strings
alone: initial value and final mask cancel. -/
theorem crc32_xor {a b : ByteVector} (same : a.length = b.length) :
    (crc32 a ^^^ crc32 b).toBitVec = absorbAll feedback 0#32 (difference a b) := by
  have starts : crc32InitialValue.toBitVec ^^^ crc32InitialValue.toBitVec = 0#32 :=
    BitVec.xor_self
  have masks (x y m : BitVec 32) : x ^^^ m ^^^ (y ^^^ m) = x ^^^ y := by
    rw [BitVec.xor_assoc, BitVec.xor_comm y m, ← BitVec.xor_assoc m m y, BitVec.xor_self,
      BitVec.zero_xor]
  rw [UInt32.toBitVec_xor, crc32_register, crc32_register, masks, difference, ← starts,
    absorbAll_xor feedback _ _ (by simpa using same)]
  rfl

end Stgs.Wire
