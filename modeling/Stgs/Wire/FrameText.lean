/-
# Wire.FrameText -- a frame's status and payload as text

`statusToString` and `payloadToHex` of the frame codec, and what reads them back: the
name of a valid status is that of no other, and the hexadecimal rendering of a payload
shown whole is read as the payload.
-/
import Stgs.Theory.Numerals
import Stgs.Wire.FrameCodec

namespace Stgs.Wire

open Stgs.Theory.Numerals

set_option autoImplicit false

def statusToString (status : Status) : List Char :=
  if status = Status.nominal then "NOMINAL".toList
  else if status = Status.warning then "WARNING".toList
  else if status = Status.critical then "CRITICAL".toList
  else if status = Status.safeMode then "SAFE_MODE".toList
  else "UNKNOWN".toList

/-- The bytes in hexadecimal, a blank between them, and how many there are when not all
are shown. -/
def payloadToHex (payload : ByteVector) (maxBytes : Nat) : List Char :=
  let displayed := min payload.length maxBytes
  let shown := (List.range displayed).flatMap fun i =>
    (if i > 0 then [' '] else []) ++ paddedHex 2 (byteAt payload i).toNat
  if payload.length > displayed then
    shown ++ " ...(".toList ++ decimal payload.length ++ " bytes)".toList
  else shown

example : payloadToHex [0, 255, 10] 3 = "00 ff 0a".toList := by decide

example : payloadToHex [0, 255, 10] 2 = "00 ff ...(3 bytes)".toList := by decide

/-! ## Reading back -/

/-- The valid status of a name. -/
def readStatus (text : List Char) : Option Status :=
  [Status.nominal, .warning, .critical, .safeMode].find? fun status => statusToString status = text

/-- Bytes in hexadecimal, a blank before each. -/
def readSpaced : List Char → Option ByteVector
  | [] => some []
  | blank :: high :: low :: rest =>
      if blank = ' ' then do
        let byte ← readHex [high, low]
        let bytes ← readSpaced rest
        return UInt8.ofNat byte :: bytes
      else none
  | _ => none

def readPayload (text : List Char) : Option ByteVector :=
  if text = [] then some [] else readSpaced (' ' :: text)

theorem valid_status {status : Status} (valid : status.raw ≤ Status.safeMode.raw) :
    status = Status.nominal ∨ status = Status.warning ∨ status = Status.critical ∨
      status = Status.safeMode := by
  obtain ⟨raw⟩ := status
  have bound : raw.toNat ≤ 3 := UInt8.le_iff_toNat_le.mp valid
  have each : ∀ value ≤ 3, UInt8.ofNat value = 0 ∨ UInt8.ofNat value = 1 ∨
      UInt8.ofNat value = 2 ∨ UInt8.ofNat value = 3 := by decide
  simpa [Status.nominal, Status.warning, Status.critical, Status.safeMode] using
    each raw.toNat bound

/-- **A status is read back from its name.** -/
theorem readStatus_statusToString {status : Status} (valid : status.raw ≤ Status.safeMode.raw) :
    readStatus (statusToString status) = some status := by
  rcases valid_status valid with rfl | rfl | rfl | rfl <;> decide

/-- The bytes of a payload, a blank before each. -/
def spaced (payload : ByteVector) : List Char :=
  payload.flatMap fun byte => ' ' :: paddedHex 2 byte.toNat

theorem readSpaced_spaced (payload : ByteVector) : readSpaced (spaced payload) = some payload := by
  induction payload with
  | nil => rfl
  | cons byte payload ih =>
      have digits := paddedHex_byte 0 byte.toNat_lt
      have read := readHex_paddedHex 0 byte.toNat_lt
      rw [digits] at read
      have split : spaced (byte :: payload) = ' ' :: (byte.toNat / 16).digitChar ::
          (byte.toNat % 16).digitChar :: spaced payload := by
        rw [spaced, List.flatMap_cons, digits]
        rfl
      simp only [List.replicate_zero, List.nil_append] at read
      simp [split, readSpaced, read, ih]

/-- What the loop has written after its first rounds. -/
theorem shown_eq (payload : ByteVector) {count : Nat} (bound : count ≤ payload.length) :
    ((List.range count).flatMap fun i =>
        (if i > 0 then [' '] else []) ++ paddedHex 2 (byteAt payload i).toNat) =
      (spaced (payload.take count)).drop 1 := by
  induction count with
  | zero => rfl
  | succ count ih =>
      have here : count < payload.length := bound
      have byte : byteAt payload count = payload[count] := by simp [byteAt, here]
      rw [List.range_succ, List.flatMap_append, ih (Nat.le_of_succ_le bound),
        List.take_succ_eq_append_getElem here, spaced, spaced, List.flatMap_append,
        List.flatMap_singleton, List.flatMap_singleton, byte]
      cases count with
      | zero => rfl
      | succ count =>
          -- a blank is dropped from the first byte only
          cases payload with
          | nil => cases here
          | cons first payload => rfl

theorem payloadToHex_whole (payload : ByteVector) :
    payloadToHex payload payload.length = (spaced payload).drop 1 := by
  rw [payloadToHex, Nat.min_self, if_neg (Nat.lt_irrefl _), shown_eq payload (Nat.le_refl _),
    List.take_length]

/-- **A payload is read back from its rendering**, whatever its length. -/
theorem readPayload_payloadToHex (payload : ByteVector) :
    readPayload (payloadToHex payload payload.length) = some payload := by
  rw [payloadToHex_whole]
  cases payload with
  | nil => rfl
  | cons byte payload =>
      have read := readSpaced_spaced (byte :: payload)
      have split : spaced (byte :: payload) = ' ' :: (spaced (byte :: payload)).drop 1 := rfl
      have filled : (spaced (byte :: payload)).drop 1 ≠ [] := by
        have digits := paddedHex_byte 0 byte.toNat_lt
        simp [spaced, digits]
      rw [split] at read
      rw [readPayload, if_neg filled, read]

/-- A payload is rendered on one line. -/
theorem payloadToHex_line (payload : ByteVector) :
    '\n' ∉ payloadToHex payload payload.length := by
  rw [payloadToHex_whole]
  intro member
  obtain ⟨byte, -, here⟩ := List.mem_flatMap.mp (List.mem_of_mem_drop member)
  have digit {value : Nat} (small : value < 16) : value.digitChar ≠ '\n' := by
    intro line
    have read := hexDigit_digitChar small
    rw [line] at read
    cases read
  have bound : byte.toNat < 256 := byte.toNat_lt
  have high : (byte.toNat / 16).digitChar ≠ '\n' := digit (by omega)
  have low : (byte.toNat % 16).digitChar ≠ '\n' := digit (by omega)
  rw [paddedHex_byte 0 bound] at here
  simp [high.symm, low.symm] at here

end Stgs.Wire
