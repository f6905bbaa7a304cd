/-
# Wire.Observed -- the decoders with every access they make

The read helpers check nothing, and `byteAt` answers zero outside of its span; here
every indexed access, every call of a helper, every subtraction on a size and every
slice is recorded with the size it must respect (`Access`).  Each function of
`Observed` is the source's function once more, statement by statement, with its
accesses; its lemma says that it returns what the plain one returns and that all it
does is `InBounds`.
-/
import Stgs.Theory.Traced
import Stgs.Wire.ApplicationPayload

namespace Stgs.Wire

open Stgs.Theory Stgs.Theory.BigEndian

set_option autoImplicit false

/-- What a function does with a span, a vector or a size. -/
inductive Access where
  /-- `bytes[offset]` -/
  | index (offset size : Nat)
  /-- a call of a read helper at an offset, for this many bytes -/
  | read (offset width size : Nat)
  /-- `total - amount` on sizes -/
  | subtract (total amount : Nat)
  /-- the range from one offset to another: `subspan`, `assign`, `erase`, a new vector -/
  | slice (first last size : Nat)
deriving DecidableEq, Repr

/-- The access stays inside of its span, and the subtraction does not underflow. -/
def Access.InBounds : Access → Prop
  | .index offset size => offset < size
  | .read offset width size => offset + width ≤ size
  | .subtract total amount => amount ≤ total
  | .slice first last size => first ≤ last ∧ last ≤ size

/-- A computation that records its accesses. -/
abbrev Observe := Traced Access

/-- It returns this value, and every access is in bounds. -/
abbrev Observed {α : Type} (computation : Observe α) (value : α) : Prop :=
  computation.Keeps Access.InBounds value

namespace Observe

open Traced

/-! ## The helpers -/

def byteAt (bytes : ByteVector) (index : Nat) : Observe UInt8 := do
  perform (.index index bytes.length)
  return Wire.byteAt bytes index

def sub (total amount : Nat) : Observe Nat := do
  perform (.subtract total amount)
  return total - amount

/-- The bytes from `first` up to `last`. -/
def range (bytes : ByteVector) (first last : Nat) : Observe ByteVector := do
  perform (.slice first last bytes.length)
  return (bytes.take last).drop first

def readU16BE (bytes : ByteVector) (offset : Nat) : Observe UInt16 := do
  perform (.read offset 2 bytes.length)
  let high ← byteAt bytes offset
  let low ← byteAt bytes (offset + 1)
  return (high.toUInt16 <<< 8) ||| low.toUInt16

def readU32BE (bytes : ByteVector) (offset : Nat) : Observe UInt32 := do
  perform (.read offset 4 bytes.length)
  let first ← byteAt bytes offset
  let second ← byteAt bytes (offset + 1)
  let third ← byteAt bytes (offset + 2)
  let fourth ← byteAt bytes (offset + 3)
  return (first.toUInt32 <<< 24) ||| (second.toUInt32 <<< 16) ||| (third.toUInt32 <<< 8) |||
    fourth.toUInt32

def readU64BE (bytes : ByteVector) (offset : Nat) : Observe UInt64 := do
  perform (.read offset 8 bytes.length)
  (List.range 8).foldlM (fun value i => do
    let byte ← byteAt bytes (offset + i)
    return (value <<< 8) ||| byte.toUInt64) 0

def readFloatBE (bytes : ByteVector) (offset : Nat) : Observe Binary32 := do
  perform (.read offset 4 bytes.length)
  let bits ← readU32BE bytes offset
  return ⟨bits⟩

/-- The loop of `crc32`, which indexes the table. -/
def crc32 (bytes : ByteVector) : Observe UInt32 := do
  let crc ← bytes.foldlM (fun crc byte => do
    perform (.index (crcIndex crc byte).toNat crcTableEntryCount)
    return crcStep crc byte) crc32InitialValue
  return crc ^^^ crc32FinalXor

section Helpers

variable {bytes : ByteVector} {offset : Nat}

theorem observed_byteAt (inside : offset < bytes.length) :
    Observed (byteAt bytes offset) (Wire.byteAt bytes offset) :=
  .perform inside (keeps_pure _)

theorem observed_sub {total amount : Nat} (enough : amount ≤ total) :
    Observed (sub total amount) (total - amount) :=
  .perform enough (keeps_pure _)

theorem observed_range {first last : Nat} (ordered : first ≤ last) (inside : last ≤ bytes.length) :
    Observed (range bytes first last) ((bytes.take last).drop first) :=
  .perform ⟨ordered, inside⟩ (keeps_pure _)

theorem observed_readU16BE (inside : offset + 2 ≤ bytes.length) :
    Observed (readU16BE bytes offset) (Wire.readU16BE bytes offset) := by
  refine .perform inside ?_
  refine (observed_byteAt (by omega)).bind ?_
  refine (observed_byteAt (by omega)).bind ?_
  exact keeps_pure _

theorem observed_readU32BE (inside : offset + 4 ≤ bytes.length) :
    Observed (readU32BE bytes offset) (Wire.readU32BE bytes offset) := by
  refine .perform inside ?_
  refine (observed_byteAt (by omega)).bind ?_
  refine (observed_byteAt (by omega)).bind ?_
  refine (observed_byteAt (by omega)).bind ?_
  refine (observed_byteAt (by omega)).bind ?_
  exact keeps_pure _

theorem observed_readU64BE (inside : offset + 8 ≤ bytes.length) :
    Observed (readU64BE bytes offset) (Wire.readU64BE bytes offset) := by
  refine .perform inside (Keeps.foldlM ?_ 0)
  intro value i member
  have below := List.mem_range.mp member
  exact (observed_byteAt (by omega)).bind (keeps_pure _)

theorem observed_readFloatBE (inside : offset + 4 ≤ bytes.length) :
    Observed (readFloatBE bytes offset) (Wire.readFloatBE bytes offset) :=
  .perform inside ((observed_readU32BE inside).bind (keeps_pure _))

theorem observed_crc32 (bytes : ByteVector) : Observed (crc32 bytes) (Wire.crc32 bytes) := by
  refine Keeps.bind ?_ (keeps_pure _)
  refine @Keeps.foldlM _ _ _ _ _ crcStep _ ?_ crc32InitialValue
  intro crc byte _
  exact .perform (crcIndex crc byte).toNat_lt (keeps_pure _)

end Helpers

/-! ## The frame decoder -/

def decodeFrame (bytes : ByteVector) : Observe FrameParseResult :=
  if bytes.length < minFrameSize then
    return makeError .tooShort "frame is shorter than the minimum header + CRC size"
  else do
    let magic ← readU32BE bytes magicOffset
    if magic ≠ frameMagic then
      return makeError .badMagic "invalid frame magic; expected ASCII STGS"
    else
    let version ← byteAt bytes versionOffset
    if version ≠ protocolVersion then
      return makeError .unsupportedVersion "unsupported protocol version"
    else
    let payloadLength ← readU16BE bytes payloadLengthOffset
    if payloadLength.toNat > maxPayloadSize then
      return makeError .payloadTooLarge "payload length exceeds configured maximum"
    else
    let expectedSize := headerSize + payloadLength.toNat + crcSize
    if bytes.length ≠ expectedSize then
      return makeError .lengthMismatch ("frame length mismatch: expected " ++
        toString expectedSize ++ " bytes, got " ++ toString bytes.length)
    else
    let crcOffset ← sub bytes.length crcSize
    let expectedCrc ← readU32BE bytes crcOffset
    let covered ← sub bytes.length crcSize
    let body ← range bytes 0 covered
    let calculatedCrc ← crc32 body
    if expectedCrc ≠ calculatedCrc then
      return makeError .badCrc ("CRC mismatch: expected 0x" ++ hexCrc32 expectedCrc ++
        ", calculated 0x" ++ hexCrc32 calculatedCrc)
    else
    let temperature ← readFloatBE bytes temperatureOffset
    if temperature.isFinite = false then
      return makeError .invalidTemperature "temperature field must be finite"
    else
    let battery ← byteAt bytes batteryOffset
    if battery > maxBatteryPercent then
      return makeError .invalidBattery "battery percent is outside the 0..100 range"
    else
    let statusByte ← byteAt bytes statusOffset
    if statusByte > Status.safeMode.raw then
      return makeError .invalidStatus "status field contains an unknown value"
    else
    let satelliteId ← readU16BE bytes satelliteIdOffset
    let timestampMs ← readU64BE bytes timestampOffset
    let payload ← range bytes headerSize (headerSize + payloadLength.toNat)
    return .ok {
      version := version
      satelliteId := satelliteId
      timestampMs := timestampMs
      temperatureC := temperature
      batteryPercent := battery
      status := ⟨statusByte⟩
      payload := payload }

/-- **The frame decoder stays inside of its input.** -/
theorem observed_decodeFrame (bytes : ByteVector) :
    Observed (decodeFrame bytes) (Wire.decodeFrame bytes) := by
  have header : headerSize = 23 := rfl
  have crc : crcSize = 4 := rfl
  have least : minFrameSize = 27 := rfl
  refine .ite (fun _ => keeps_pure _) fun long => ?_
  have inside {offset : Nat} (low : offset ≤ 27) : offset ≤ bytes.length := by omega
  refine (observed_readU32BE (inside (by decide))).bind ?_
  refine .ite (fun _ => keeps_pure _) fun _ => ?_
  refine (observed_byteAt (inside (by decide))).bind ?_
  refine .ite (fun _ => keeps_pure _) fun _ => ?_
  refine (observed_readU16BE (inside (by decide))).bind ?_
  refine .ite (fun _ => keeps_pure _) fun _ => ?_
  refine .ite (fun _ => keeps_pure _) fun exact => ?_
  have size : bytes.length = headerSize + announcedLength bytes + crcSize := not_not.mp exact
  refine (observed_sub (by omega)).bind ?_
  refine (observed_readU32BE (by omega)).bind ?_
  refine (observed_sub (by omega)).bind ?_
  refine (observed_range (Nat.zero_le _) (Nat.sub_le _ _)).bind ?_
  refine (observed_crc32 _).bind ?_
  refine .ite (fun _ => keeps_pure _) fun _ => ?_
  refine (observed_readFloatBE (inside (by decide))).bind ?_
  refine .ite (fun _ => keeps_pure _) fun _ => ?_
  refine (observed_byteAt (inside (by decide))).bind ?_
  refine .ite (fun _ => keeps_pure _) fun _ => ?_
  refine (observed_byteAt (inside (by decide))).bind ?_
  refine .ite (fun _ => keeps_pure _) fun _ => ?_
  refine (observed_readU16BE (inside (by decide))).bind ?_
  refine (observed_readU64BE (inside (by decide))).bind ?_
  have payload : (bytes.take (headerSize + announcedLength bytes)).drop headerSize =
      slice bytes headerSize (announcedLength bytes) := by
    rw [slice, List.drop_take, Nat.add_sub_cancel_left]
  refine (observed_range (Nat.le_add_right _ _) (by rw [size, announcedLength]; omega)).bind ?_
  exact ⟨congrArg (fun payload => Except.ok { frameOf bytes with payload := payload }) payload,
    (keeps_pure _).safe⟩

/-! ## The application decoder -/

def hasApplicationMagic (payload : ByteVector) : Observe Bool :=
  if payload.length ≥ u32WireSize then do
    let magic ← readU32BE payload appMagicOffset
    return magic == applicationPayloadMagic
  else return false

def decodeTextMessage (payload : ByteVector) : Observe ApplicationPayloadParseResult :=
  if payload.length < textBodyOffset then
    return makeApplicationError .invalidLength
      "text message payload is shorter than its fixed header"
  else do
    let sequence ← readU32BE payload textSequenceOffset
    let length ← sub payload.length textBodyOffset
    let text ← range payload textBodyOffset (textBodyOffset + length)
    return .text { sequence := sequence, text := text }

/-- The sample loop from index `i` on, `left` turns before its end; nothing when a sample
is not finite. -/
def decodeSamples (payload : ByteVector) : Nat → Nat → List Binary32 →
    Observe (Option (List Binary32))
  | 0, _, samples => return some samples
  | left + 1, i, samples => do
      let sample ← readFloatBE payload (signalSamplesOffset + i * signalSampleWireSize)
      if sample.isFinite = false then return none
      else decodeSamples payload left (i + 1) (samples ++ [sample])

def decodeSignalBlock (payload : ByteVector) : Observe ApplicationPayloadParseResult :=
  if payload.length < signalSamplesOffset then
    return makeApplicationError .invalidLength "signal payload is shorter than its fixed header"
  else do
    let sampleRateHz ← readU16BE payload signalSampleRateOffset
    let frequencyHz ← readFloatBE payload signalFrequencyOffset
    let nominalAmplitude ← readFloatBE payload signalAmplitudeOffset
    let startSampleIndex ← readU32BE payload signalStartIndexOffset
    let sampleCount ← readU16BE payload signalSampleCountOffset
    if payload.length ≠ signalSamplesOffset + sampleCount.toNat * signalSampleWireSize then
      return makeApplicationError .invalidLength
        "signal sample count does not match the payload length"
    else if validSignalMetadata sampleRateHz frequencyHz nominalAmplitude = false then
      return makeApplicationError .invalidSignalMetadata
        "signal metadata requires finite amplitude, sampleRate > 0 and 0 < frequency < Nyquist"
    else
    let decoded ← decodeSamples payload sampleCount.toNat 0 []
    match decoded with
    | none =>
        return makeApplicationError .invalidSignalMetadata
          "signal payload contains a non-finite sample"
    | some samples =>
        return .signal {
          sampleRateHz := sampleRateHz
          frequencyHz := frequencyHz
          nominalAmplitude := nominalAmplitude
          startSampleIndex := startSampleIndex
          samples := samples }

def decodeApplicationPayload (payload : ByteVector) : Observe ApplicationPayloadParseResult := do
  let magic ← hasApplicationMagic payload
  if magic = false then return .monostate
  else if payload.length < applicationCommonHeaderSize then
    return makeApplicationError .truncatedHeader
      "STGA signature is present but the common header is truncated"
  else
  let version ← byteAt payload appVersionOffset
  if version ≠ applicationPayloadVersion then
    return makeApplicationError .unsupportedVersion
      "unsupported STGA application payload version"
  else
  let rawKind ← byteAt payload appKindOffset
  if rawKind = ApplicationPayloadKind.textMessage.raw then decodeTextMessage payload
  else if rawKind = ApplicationPayloadKind.signalBlock.raw then decodeSignalBlock payload
  else return makeApplicationError .unknownKind "unknown STGA application payload kind"

theorem observed_hasApplicationMagic (payload : ByteVector) :
    Observed (hasApplicationMagic payload) (Wire.hasApplicationMagic payload) := by
  unfold hasApplicationMagic Wire.hasApplicationMagic
  split
  · rename_i long
    have fits : appMagicOffset + 4 ≤ payload.length := long
    rw [decide_eq_true long, Bool.true_and]
    exact (observed_readU32BE fits).bind (keeps_pure _)
  · rename_i short
    rw [decide_eq_false short, Bool.false_and]
    exact keeps_pure _

theorem observed_decodeTextMessage (payload : ByteVector) :
    Observed (decodeTextMessage payload) (Wire.decodeTextMessage payload) := by
  have body : textBodyOffset = 10 := rfl
  have sequence : textSequenceOffset = 6 := rfl
  refine .ite (fun _ => keeps_pure _) fun long => ?_
  refine (observed_readU32BE (by omega)).bind ?_
  refine (observed_sub (by omega)).bind ?_
  refine (observed_range (Nat.le_add_right _ _) (by omega)).bind ?_
  rw [List.take_of_length_le (by omega)]
  exact keeps_pure _

/-- Each turn of the sample loop reads inside of the payload. -/
theorem observed_decodeSamples {payload : ByteVector} {left i : Nat}
    (inside : signalSamplesOffset + (i + left) * signalSampleWireSize ≤ payload.length)
    (samples : List Binary32) :
    Observed (decodeSamples payload left i samples)
      (let others := (List.range' i left).map fun i =>
        Wire.readFloatBE payload (signalSamplesOffset + i * signalSampleWireSize)
      if others.any (fun sample => !sample.isFinite) then none else some (samples ++ others)) := by
  induction left generalizing i samples with
  | zero =>
      simp only [List.range'_zero, List.map_nil, List.any_nil, List.append_nil]
      exact keeps_pure _
  | succ left ih =>
      have width : signalSampleWireSize = 4 := rfl
      refine (observed_readFloatBE (by rw [width] at inside ⊢; omega)).bind ?_
      have later := ih (i := i + 1) (by rw [width] at inside ⊢; omega)
        (samples ++ [Wire.readFloatBE payload (signalSamplesOffset + i * signalSampleWireSize)])
      cases finite : (Wire.readFloatBE payload
          (signalSamplesOffset + i * signalSampleWireSize)).isFinite with
      | false =>
          simp only [List.range'_succ, List.map_cons, List.any_cons, finite, Bool.not_false,
            Bool.true_or, if_true]
          exact keeps_pure _
      | true =>
          simp only [List.range'_succ, List.map_cons, List.any_cons, finite, Bool.not_true,
            Bool.false_or]
          simpa using later

theorem observed_decodeSignalBlock (payload : ByteVector) :
    Observed (decodeSignalBlock payload) (Wire.decodeSignalBlock payload) := by
  have fixed : signalSamplesOffset = 22 := rfl
  refine .ite (fun _ => keeps_pure _) fun long => ?_
  have inside {offset : Nat} (low : offset ≤ 22) : offset ≤ payload.length := by omega
  refine (observed_readU16BE (inside (by decide))).bind ?_
  refine (observed_readFloatBE (inside (by decide))).bind ?_
  refine (observed_readFloatBE (inside (by decide))).bind ?_
  refine (observed_readU32BE (inside (by decide))).bind ?_
  refine (observed_readU16BE (inside (by decide))).bind ?_
  refine .ite (fun _ => keeps_pure _) fun exact => ?_
  have size := not_not.mp exact
  refine .ite (fun _ => keeps_pure _) fun _ => ?_
  refine (observed_decodeSamples (by rw [Nat.zero_add]; exact Nat.le_of_eq size.symm) []).bind ?_
  have samples : (List.range' 0 (Wire.readU16BE payload signalSampleCountOffset).toNat).map
      (fun i => Wire.readFloatBE payload (signalSamplesOffset + i * signalSampleWireSize)) =
      (signalOf payload).samples := by rw [signalOf, List.range_eq_range']
  dsimp only
  rw [samples, List.nil_append]
  by_cases infinite : (signalOf payload).samples.any (fun sample => !sample.isFinite)
  · rw [if_pos infinite, if_pos infinite]
    exact keeps_pure _
  · rw [if_neg infinite, if_neg infinite]
    exact keeps_pure _

/-- **The application decoder stays inside of its input.** -/
theorem observed_decodeApplicationPayload (payload : ByteVector) :
    Observed (decodeApplicationPayload payload) (Wire.decodeApplicationPayload payload) := by
  have header : applicationCommonHeaderSize = 6 := rfl
  have version : appVersionOffset = 4 := rfl
  have kind : appKindOffset = 5 := rfl
  refine (observed_hasApplicationMagic payload).bind ?_
  refine .ite (fun _ => keeps_pure _) fun _ => ?_
  refine .ite (fun _ => keeps_pure _) fun long => ?_
  refine (observed_byteAt (by omega)).bind ?_
  refine .ite (fun _ => keeps_pure _) fun _ => ?_
  refine (observed_byteAt (by omega)).bind ?_
  refine .ite (fun _ => observed_decodeTextMessage payload) fun _ => ?_
  exact .ite (fun _ => observed_decodeSignalBlock payload) fun _ => keeps_pure _

end Observe

end Stgs.Wire
