/-
# Wire.CodecBijection -- the codec is an exact bijection

`encodeFrame` and `decodeFrame` are inverse relations (`encode_iff_decode`): a
frame encodes to a byte string exactly when that string decodes to the frame.
Both round trips, the identification of the accepted strings with the image of
the encoder, and injectivity follow.

The proof reads the wire as a list of ten fields (`frameFields`).  One way, each
read of `wire frame` finds its field; the other way, the fields of an accepted
string glue back to it.
-/
import Stgs.Wire.FrameCodec

namespace Stgs.Wire

open Stgs.Theory.BigEndian

set_option autoImplicit false

/-! ## The wire as ten fields -/

/-- The header fields, in wire order. -/
def headerFields (frame : TelemetryFrame) : List ByteVector :=
  [beBytes 4 frameMagic.toNat, beBytes 1 frame.version.toNat, beBytes 2 frame.satelliteId.toNat,
    beBytes 8 frame.timestampMs.toNat, beBytes 4 frame.temperatureC.bits.toNat,
    beBytes 1 frame.batteryPercent.toNat, beBytes 1 frame.status.raw.toNat,
    beBytes 2 (UInt16.ofNat frame.payload.length).toNat]

/-- All ten fields of a frame. -/
def frameFields (frame : TelemetryFrame) : List ByteVector :=
  headerFields frame ++ [frame.payload, beBytes 4 (crc32 (frameBody frame)).toNat]

theorem frameBody_eq (frame : TelemetryFrame) :
    frameBody frame = (headerFields frame).flatten ++ frame.payload := by
  simp only [frameBody, headerFields, appendU8_eq, appendU16BE_eq, appendU32BE_eq, appendU64BE_eq,
    appendFloatBE_eq, List.flatten_cons, List.flatten_nil, List.nil_append, List.append_nil,
    List.append_assoc]

theorem wire_eq (frame : TelemetryFrame) :
    wire frame = frameBody frame ++ beBytes 4 (crc32 (frameBody frame)).toNat :=
  appendU32BE_eq _ _

theorem wire_eq_flatten (frame : TelemetryFrame) : wire frame = (frameFields frame).flatten := by
  rw [wire_eq, frameFields, List.flatten_append, frameBody_eq]
  simp

theorem length_headerFields (frame : TelemetryFrame) :
    (headerFields frame).flatten.length = headerSize := by
  simp [headerFields, headerSize, payloadLengthOffset, statusOffset, batteryOffset,
    temperatureOffset, timestampOffset, satelliteIdOffset, versionOffset, magicOffset, u8WireSize,
    u16WireSize, u32WireSize, u64WireSize, float32WireSize]

theorem length_frameBody (frame : TelemetryFrame) :
    (frameBody frame).length = headerSize + frame.payload.length := by
  rw [frameBody_eq, List.length_append, length_headerFields]

theorem length_wire (frame : TelemetryFrame) :
    (wire frame).length = headerSize + frame.payload.length + crcSize := by
  rw [wire_eq, List.length_append, length_frameBody, length_beBytes]
  rfl

/-- Field `i` of the wire, at the offset where the fields before it end. -/
theorem slice_wire (frame : TelemetryFrame) (i : Nat) (bound : i < 10) :
    slice (wire frame) (((frameFields frame).take i).map List.length).sum
      ((frameFields frame).get ⟨i, bound⟩).length = (frameFields frame).get ⟨i, bound⟩ := by
  rw [wire_eq_flatten]
  exact slice_flatten (frameFields frame) i bound

section Reads

variable (frame : TelemetryFrame)

theorem wire_inside {offset width : Nat} (inside : offset + width ≤ 27) :
    offset + width ≤ (wire frame).length := by
  rw [length_wire]
  have : headerSize + crcSize = 27 := rfl
  omega

theorem wire_magic : readU32BE (wire frame) magicOffset = frameMagic :=
  readU32BE_of_slice (wire_inside frame (by decide)) (slice_wire frame 0 (by decide))

theorem wire_version : byteAt (wire frame) versionOffset = frame.version :=
  byteAt_of_slice (wire_inside frame (by decide)) (slice_wire frame 1 (by decide))

theorem wire_satelliteId : readU16BE (wire frame) satelliteIdOffset = frame.satelliteId :=
  readU16BE_of_slice (wire_inside frame (by decide)) (slice_wire frame 2 (by decide))

theorem wire_timestampMs : readU64BE (wire frame) timestampOffset = frame.timestampMs :=
  readU64BE_of_slice (wire_inside frame (by decide)) (slice_wire frame 3 (by decide))

theorem wire_temperatureC : readFloatBE (wire frame) temperatureOffset = frame.temperatureC :=
  readFloatBE_of_slice (wire_inside frame (by decide)) (slice_wire frame 4 (by decide))

theorem wire_batteryPercent : byteAt (wire frame) batteryOffset = frame.batteryPercent :=
  byteAt_of_slice (wire_inside frame (by decide)) (slice_wire frame 5 (by decide))

theorem wire_status : byteAt (wire frame) statusOffset = frame.status.raw :=
  byteAt_of_slice (wire_inside frame (by decide)) (slice_wire frame 6 (by decide))

theorem wire_announcedLength (fits : frame.payload.length ≤ maxPayloadSize) :
    announcedLength (wire frame) = frame.payload.length := by
  have read : readU16BE (wire frame) payloadLengthOffset = UInt16.ofNat frame.payload.length :=
    readU16BE_of_slice (wire_inside frame (by decide)) (slice_wire frame 7 (by decide))
  have small : frame.payload.length < UInt16.size := lt_of_le_of_lt fits (by decide)
  rw [announcedLength, read, UInt16.toNat_ofNat', Nat.mod_eq_of_lt small]

end Reads

/-! ## Encoding, then decoding -/

theorem slice_wire_payload (frame : TelemetryFrame) :
    slice (wire frame) headerSize frame.payload.length = frame.payload :=
  slice_wire frame 8 (by decide)

theorem take_wire (frame : TelemetryFrame) :
    (wire frame).take ((wire frame).length - crcSize) = frameBody frame := by
  have body : (wire frame).length - crcSize = (frameBody frame).length := by
    rw [length_wire, length_frameBody, Nat.add_sub_cancel]
  rw [body, wire_eq, List.take_left]

theorem wire_crc (frame : TelemetryFrame) :
    readU32BE (wire frame) ((wire frame).length - crcSize) = crc32 (frameBody frame) := by
  have body : (wire frame).length - crcSize = (frameBody frame).length := by
    rw [length_wire, length_frameBody, Nat.add_sub_cancel]
  refine readU32BE_of_slice ?_ ?_
  · rw [body, wire_eq, List.length_append, length_beBytes]
  · have field := slice_append_right (frameBody frame)
      (beBytes 4 (crc32 (frameBody frame)).toNat) 0 4
    rw [Nat.add_zero, ← wire_eq, ← body] at field
    rw [field]
    exact slice_append_left (beBytes 4 _) [] |> (by simpa using ·)

theorem wellFormed_wire {frame : TelemetryFrame} (encodable : Encodable frame) :
    WellFormed (wire frame) where
  magic := wire_magic frame
  version := by rw [wire_version, encodable.version]
  bounded := by rw [wire_announcedLength frame encodable.payload]; exact encodable.payload
  exact := by rw [wire_announcedLength frame encodable.payload, length_wire]
  crc := by rw [wire_crc, take_wire]
  temperature := by rw [wire_temperatureC, encodable.temperature]
  battery := by rw [wire_batteryPercent]; exact encodable.battery
  status := by rw [wire_status]; exact encodable.status

theorem frameOf_wire {frame : TelemetryFrame} (encodable : Encodable frame) :
    frameOf (wire frame) = frame := by
  simp only [frameOf, wire_version, wire_satelliteId, wire_timestampMs, wire_temperatureC,
    wire_batteryPercent, wire_status, wire_announcedLength frame encodable.payload,
    slice_wire_payload]

/-! ## Decoding, then encoding -/

section Accepted

variable {bytes : ByteVector} (formed : WellFormed bytes)

include formed

theorem encodable_frameOf : Encodable (frameOf bytes) where
  payload := by
    have width : (slice bytes headerSize (announcedLength bytes)).length = announcedLength bytes :=
      length_slice (by rw [formed.exact]; omega)
    exact width ▸ formed.bounded
  version := formed.version
  temperature := formed.temperature
  battery := formed.battery
  status := formed.status

theorem length_payload_frameOf : (frameOf bytes).payload.length = announcedLength bytes :=
  length_slice (by rw [formed.exact]; omega)

/-- The fields an accepted string is read into are its own slices. -/
theorem headerFields_frameOf :
    headerFields (frameOf bytes) =
      [slice bytes 0 4, slice bytes 4 1, slice bytes 5 2, slice bytes 7 8, slice bytes 15 4,
        slice bytes 19 1, slice bytes 20 1, slice bytes 21 2] := by
  have inside {offset width : Nat} (low : offset + width ≤ 23) :
      offset + width ≤ bytes.length := by
    have := formed.long
    have : minFrameSize = 27 := rfl
    omega
  have magic : frameMagic.toNat = beNat (slice bytes 0 4) := by
    rw [← formed.magic]
    exact readU32BE_toNat (inside (by decide))
  have length : (UInt16.ofNat (frameOf bytes).payload.length).toNat = beNat (slice bytes 21 2) := by
    rw [length_payload_frameOf formed, UInt16.toNat_ofNat',
      Nat.mod_eq_of_lt (lt_of_le_of_lt formed.bounded (by decide))]
    exact readU16BE_toNat (inside (by decide))
  have version : (frameOf bytes).version.toNat = beNat (slice bytes 4 1) :=
    byteAt_toNat (inside (by decide))
  have satelliteId : (frameOf bytes).satelliteId.toNat = beNat (slice bytes 5 2) :=
    readU16BE_toNat (inside (by decide))
  have timestampMs : (frameOf bytes).timestampMs.toNat = beNat (slice bytes 7 8) :=
    readU64BE_toNat (inside (by decide))
  have temperatureC : (frameOf bytes).temperatureC.bits.toNat = beNat (slice bytes 15 4) :=
    readFloatBE_toNat (inside (by decide))
  have batteryPercent : (frameOf bytes).batteryPercent.toNat = beNat (slice bytes 19 1) :=
    byteAt_toNat (inside (by decide))
  have status : (frameOf bytes).status.raw.toNat = beNat (slice bytes 20 1) :=
    byteAt_toNat (inside (by decide))
  rw [headerFields, beBytes_of_slice (inside (by decide)) magic,
    beBytes_of_slice (inside (by decide)) version,
    beBytes_of_slice (inside (by decide)) satelliteId,
    beBytes_of_slice (inside (by decide)) timestampMs,
    beBytes_of_slice (inside (by decide)) temperatureC,
    beBytes_of_slice (inside (by decide)) batteryPercent,
    beBytes_of_slice (inside (by decide)) status,
    beBytes_of_slice (inside (by decide)) length]

theorem frameBody_frameOf :
    frameBody (frameOf bytes) = bytes.take (bytes.length - crcSize) := by
  have cut : bytes.length - crcSize = 23 + announcedLength bytes := by
    rw [formed.exact, Nat.add_sub_cancel]
    rfl
  have glue : bytes.take (23 + announcedLength bytes) =
      slice bytes 0 4 ++ slice bytes 4 1 ++ slice bytes 5 2 ++ slice bytes 7 8 ++
        slice bytes 15 4 ++ slice bytes 19 1 ++ slice bytes 20 1 ++ slice bytes 21 2 ++
        slice bytes 23 (announcedLength bytes) := by
    simp only [slice_append_slice bytes 0, Nat.reduceAdd]
    rfl
  rw [frameBody_eq, headerFields_frameOf formed, cut, glue]
  simp only [List.flatten_cons, List.flatten_nil, List.append_nil, List.append_assoc]
  rfl

theorem wire_frameOf : wire (frameOf bytes) = bytes := by
  have inside : bytes.length - crcSize + 4 = bytes.length := by
    have := formed.long
    have : minFrameSize = 23 + crcSize := rfl
    have : crcSize = 4 := rfl
    omega
  have checksum : beBytes 4 (crc32 (bytes.take (bytes.length - crcSize))).toNat =
      bytes.drop (bytes.length - crcSize) := by
    rw [← formed.crc, beBytes_of_slice inside.le (readU32BE_toNat inside.le), slice]
    exact List.take_of_length_le (by rw [List.length_drop]; omega)
  rw [wire_eq, frameBody_frameOf formed, checksum, List.take_append_drop]

end Accepted

/-! ## The bijection -/

/-- A frame encodes to a byte string exactly when the string decodes to it. -/
theorem encode_iff_decode (frame : TelemetryFrame) (bytes : ByteVector) :
    encodeFrame frame = .ok bytes ↔ decodeFrame bytes = .ok frame := by
  rw [encodeFrame_eq_ok_iff, decodeFrame_eq_ok_iff]
  constructor
  · rintro ⟨encodable, rfl⟩
    exact ⟨wellFormed_wire encodable, (frameOf_wire encodable).symm⟩
  · rintro ⟨formed, rfl⟩
    exact ⟨encodable_frameOf formed, (wire_frameOf formed).symm⟩

/-- **The codec is an exact bijection between valid frames and accepted byte
strings**: both round trips hold, the decoder accepts exactly the image of the
encoder, and no two byte strings decode to one frame. -/
theorem codec_bijection :
    (∀ frame bytes, encodeFrame frame = .ok bytes → decodeFrame bytes = .ok frame) ∧
      (∀ bytes frame, decodeFrame bytes = .ok frame → encodeFrame frame = .ok bytes) ∧
      {bytes | ∃ frame, decodeFrame bytes = .ok frame} =
        {bytes | ∃ frame, encodeFrame frame = .ok bytes} ∧
      (∀ a b frame, decodeFrame a = .ok frame → decodeFrame b = .ok frame → a = b) := by
  refine ⟨fun frame bytes => (encode_iff_decode frame bytes).mp,
    fun bytes frame => (encode_iff_decode frame bytes).mpr, ?_, ?_⟩
  · ext bytes
    exact exists_congr fun frame => (encode_iff_decode frame bytes).symm
  · intro a b frame first second
    have encodedA := (encode_iff_decode frame a).mpr first
    have encodedB := (encode_iff_decode frame b).mpr second
    exact Except.ok.inj (encodedA.symm.trans encodedB)

end Stgs.Wire
