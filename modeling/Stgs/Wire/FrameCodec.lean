/-
# Wire.FrameCodec -- the STGS v1 frame: layout, encoder, strict decoder

The frame is `MAGIC:u32 | VERSION:u8 | SATELLITE_ID:u16 | TIMESTAMP_MS:u64 |
TEMPERATURE_C:f32 | BATTERY_PERCENT:u8 | STATUS:u8 | PAYLOAD_LEN:u16 |
PAYLOAD:bytes | CRC32:u32`, integers big-endian.  Offsets are derived from field
widths, as in the source.

`encodeFrame` refuses five kinds of frame by exception, in its order of checks;
`decodeFrame` answers each malformed input with a coded error, in its order of
checks.  The two spec lemmas say what survives those checks and hide their order
from everything above: `encodeFrame_eq_ok_iff` (`Encodable`) and
`decodeFrame_eq_ok_iff` (`WellFormed`).
-/
import Stgs.Wire.Crc32

namespace Stgs.Wire

open Stgs.Theory.BigEndian

set_option autoImplicit false

/-! ## Exceptions and layout -/

/-- The standard exceptions the program throws, with their `what()`. -/
inductive Exn where
  | invalidArgument (what : String)
  | runtimeError (what : String)
deriving DecidableEq, Repr

def frameMagic : UInt32 := 0x53544753
def protocolVersion : UInt8 := 1

def u8WireSize : Nat := 1
def u16WireSize : Nat := 2
def u32WireSize : Nat := 4
def u64WireSize : Nat := 8
def float32WireSize : Nat := 4

def magicSize : Nat := u32WireSize
def magicOffset : Nat := 0
def versionOffset : Nat := magicOffset + u32WireSize
def satelliteIdOffset : Nat := versionOffset + u8WireSize
def timestampOffset : Nat := satelliteIdOffset + u16WireSize
def temperatureOffset : Nat := timestampOffset + u64WireSize
def batteryOffset : Nat := temperatureOffset + float32WireSize
def statusOffset : Nat := batteryOffset + u8WireSize
def payloadLengthOffset : Nat := statusOffset + u8WireSize
def headerSize : Nat := payloadLengthOffset + u16WireSize
def crcSize : Nat := u32WireSize

example : headerSize = 23 := rfl

def minFrameSize : Nat := headerSize + crcSize
def maxPayloadSize : Nat := 4096
def maxFrameSize : Nat := headerSize + maxPayloadSize + crcSize
def maxBatteryPercent : UInt8 := 100

/-- `enum class Status : std::uint8_t`.  The enumeration has a fixed underlying
type, so a value is any byte; only the four named ones are valid on the wire. -/
structure Status where
  raw : UInt8
deriving DecidableEq, Repr

namespace Status

def nominal : Status := ⟨0⟩
def warning : Status := ⟨1⟩
def critical : Status := ⟨2⟩
def safeMode : Status := ⟨3⟩

end Status

structure TelemetryFrame where
  version : UInt8 := protocolVersion
  satelliteId : UInt16 := 0
  timestampMs : UInt64 := 0
  temperatureC : Binary32 := ⟨0⟩
  batteryPercent : UInt8 := 0
  status : Status := Status.nominal
  payload : ByteVector := []
deriving DecidableEq, Repr

inductive FrameErrorCode where
  | tooShort
  | badMagic
  | unsupportedVersion
  | payloadTooLarge
  | lengthMismatch
  | badCrc
  | invalidTemperature
  | invalidBattery
  | invalidStatus
deriving DecidableEq, Repr

structure FrameError where
  code : FrameErrorCode
  message : String
deriving DecidableEq, Repr

/-- `std::variant<TelemetryFrame, FrameError>`. -/
abbrev FrameParseResult := Except FrameError TelemetryFrame

def makeError (code : FrameErrorCode) (message : String) : FrameParseResult :=
  .error ⟨code, message⟩

/-! ## Encoder -/

/-- The bytes of a frame before its checksum. -/
def frameBody (frame : TelemetryFrame) : ByteVector :=
  let bytes := appendU32BE [] frameMagic
  let bytes := appendU8 bytes frame.version
  let bytes := appendU16BE bytes frame.satelliteId
  let bytes := appendU64BE bytes frame.timestampMs
  let bytes := appendFloatBE bytes frame.temperatureC
  let bytes := appendU8 bytes frame.batteryPercent
  let bytes := appendU8 bytes frame.status.raw
  let bytes := appendU16BE bytes (UInt16.ofNat frame.payload.length)
  bytes ++ frame.payload

def encodeFrame (frame : TelemetryFrame) : Except Exn ByteVector :=
  if frame.payload.length > maxPayloadSize then
    .error (.invalidArgument "payload exceeds MaxPayloadSize")
  else if frame.version ≠ protocolVersion then
    .error (.invalidArgument "unsupported protocol version")
  else if frame.temperatureC.isFinite = false then
    .error (.invalidArgument "temperature must be finite")
  else if frame.batteryPercent > maxBatteryPercent then
    .error (.invalidArgument "battery percent must be between 0 and 100")
  else if frame.status.raw > Status.safeMode.raw then
    .error (.invalidArgument "invalid status value")
  else
    let bytes := frameBody frame
    .ok (appendU32BE bytes (crc32 bytes))

/-! ## Decoder -/

/-- `std::hex << std::setw(8) << std::setfill('0')`. -/
def hexCrc32 (value : UInt32) : String :=
  let digits := Nat.toDigits 16 value.toNat
  String.ofList (List.replicate (8 - digits.length) '0' ++ digits)

/-- The payload length a header announces. -/
def announcedLength (bytes : ByteVector) : Nat :=
  (readU16BE bytes payloadLengthOffset).toNat

/-- The frame the decoder builds once every check has passed. -/
def frameOf (bytes : ByteVector) : TelemetryFrame where
  version := byteAt bytes versionOffset
  satelliteId := readU16BE bytes satelliteIdOffset
  timestampMs := readU64BE bytes timestampOffset
  temperatureC := readFloatBE bytes temperatureOffset
  batteryPercent := byteAt bytes batteryOffset
  status := ⟨byteAt bytes statusOffset⟩
  payload := slice bytes headerSize (announcedLength bytes)

def decodeFrame (bytes : ByteVector) : FrameParseResult :=
  if bytes.length < minFrameSize then
    makeError .tooShort "frame is shorter than the minimum header + CRC size"
  else if readU32BE bytes magicOffset ≠ frameMagic then
    makeError .badMagic "invalid frame magic; expected ASCII STGS"
  else if byteAt bytes versionOffset ≠ protocolVersion then
    makeError .unsupportedVersion "unsupported protocol version"
  else
    let payloadLength := announcedLength bytes
    if payloadLength > maxPayloadSize then
      makeError .payloadTooLarge "payload length exceeds configured maximum"
    else
      let expectedSize := headerSize + payloadLength + crcSize
      if bytes.length ≠ expectedSize then
        makeError .lengthMismatch ("frame length mismatch: expected " ++ toString expectedSize ++
          " bytes, got " ++ toString bytes.length)
      else
        let expectedCrc := readU32BE bytes (bytes.length - crcSize)
        let calculatedCrc := crc32 (bytes.take (bytes.length - crcSize))
        if expectedCrc ≠ calculatedCrc then
          makeError .badCrc ("CRC mismatch: expected 0x" ++ hexCrc32 expectedCrc ++
            ", calculated 0x" ++ hexCrc32 calculatedCrc)
        else if (readFloatBE bytes temperatureOffset).isFinite = false then
          makeError .invalidTemperature "temperature field must be finite"
        else if byteAt bytes batteryOffset > maxBatteryPercent then
          makeError .invalidBattery "battery percent is outside the 0..100 range"
        else if byteAt bytes statusOffset > Status.safeMode.raw then
          makeError .invalidStatus "status field contains an unknown value"
        else
          .ok (frameOf bytes)

/-! ## What the checks leave -/

/-- The frames `encodeFrame` accepts. -/
structure Encodable (frame : TelemetryFrame) : Prop where
  payload : frame.payload.length ≤ maxPayloadSize
  version : frame.version = protocolVersion
  temperature : frame.temperatureC.isFinite = true
  battery : frame.batteryPercent ≤ maxBatteryPercent
  status : frame.status.raw ≤ Status.safeMode.raw

/-- The defaults of a frame pass its own checks. -/
theorem encodable_default : Encodable {} where
  payload := by decide
  version := rfl
  temperature := by decide
  battery := by decide
  status := by decide

/-- The wire bytes of a frame. -/
def wire (frame : TelemetryFrame) : ByteVector :=
  appendU32BE (frameBody frame) (crc32 (frameBody frame))

theorem encodeFrame_eq_ok_iff (frame : TelemetryFrame) (bytes : ByteVector) :
    encodeFrame frame = .ok bytes ↔ Encodable frame ∧ bytes = wire frame := by
  unfold encodeFrame
  constructor
  · intro encoded
    split at encoded <;> [cases encoded; skip]
    rename_i payload
    split at encoded <;> [cases encoded; skip]
    rename_i version
    split at encoded <;> [cases encoded; skip]
    rename_i temperature
    split at encoded <;> [cases encoded; skip]
    rename_i battery
    split at encoded <;> [cases encoded; skip]
    rename_i status
    refine ⟨⟨?_, ?_, ?_, ?_, ?_⟩, (Except.ok.inj encoded).symm⟩
    · exact Nat.le_of_not_lt payload
    · exact not_not.mp version
    · simpa using temperature
    · exact UInt8.not_lt.mp battery
    · exact UInt8.not_lt.mp status
  · rintro ⟨encodable, rfl⟩
    rw [if_neg (Nat.not_lt.mpr encodable.payload), if_neg (not_not.mpr encodable.version),
      if_neg (by simp [encodable.temperature]), if_neg (UInt8.not_lt.mpr encodable.battery),
      if_neg (UInt8.not_lt.mpr encodable.status)]
    rfl

/-- The byte strings `decodeFrame` accepts. -/
structure WellFormed (bytes : ByteVector) : Prop where
  magic : readU32BE bytes magicOffset = frameMagic
  version : byteAt bytes versionOffset = protocolVersion
  bounded : announcedLength bytes ≤ maxPayloadSize
  exact : bytes.length = headerSize + announcedLength bytes + crcSize
  crc : readU32BE bytes (bytes.length - crcSize) = crc32 (bytes.take (bytes.length - crcSize))
  temperature : (readFloatBE bytes temperatureOffset).isFinite = true
  battery : byteAt bytes batteryOffset ≤ maxBatteryPercent
  status : byteAt bytes statusOffset ≤ Status.safeMode.raw

theorem WellFormed.long {bytes : ByteVector} (formed : WellFormed bytes) :
    minFrameSize ≤ bytes.length := by
  rw [formed.exact, minFrameSize]
  omega

theorem decodeFrame_eq_ok_iff (bytes : ByteVector) (frame : TelemetryFrame) :
    decodeFrame bytes = .ok frame ↔ WellFormed bytes ∧ frame = frameOf bytes := by
  unfold decodeFrame
  constructor
  · intro decoded
    split at decoded <;> [cases decoded; skip]
    split at decoded <;> [cases decoded; skip]
    rename_i magic
    split at decoded <;> [cases decoded; skip]
    rename_i version
    dsimp only at decoded
    split at decoded <;> [cases decoded; skip]
    rename_i bounded
    split at decoded <;> [cases decoded; skip]
    rename_i exact
    split at decoded <;> [cases decoded; skip]
    rename_i crc
    split at decoded <;> [cases decoded; skip]
    rename_i temperature
    split at decoded <;> [cases decoded; skip]
    rename_i battery
    split at decoded <;> [cases decoded; skip]
    rename_i status
    refine ⟨⟨?_, ?_, ?_, ?_, ?_, ?_, ?_, ?_⟩, (Except.ok.inj decoded).symm⟩
    · exact not_not.mp magic
    · exact not_not.mp version
    · exact Nat.le_of_not_lt bounded
    · exact not_not.mp exact
    · exact not_not.mp crc
    · simpa using temperature
    · exact UInt8.not_lt.mp battery
    · exact UInt8.not_lt.mp status
  · rintro ⟨formed, rfl⟩
    rw [if_neg (Nat.not_lt.mpr formed.long), if_neg (not_not.mpr formed.magic),
      if_neg (not_not.mpr formed.version)]
    dsimp only
    rw [if_neg (Nat.not_lt.mpr formed.bounded), if_neg (not_not.mpr formed.exact),
      if_neg (not_not.mpr formed.crc), if_neg (by simp [formed.temperature]),
      if_neg (UInt8.not_lt.mpr formed.battery), if_neg (UInt8.not_lt.mpr formed.status)]

end Stgs.Wire
