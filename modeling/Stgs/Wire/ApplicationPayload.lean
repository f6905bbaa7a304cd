/-
# Wire.ApplicationPayload -- the STGA envelope inside a payload

`MAGIC:u32 | VERSION:u8 | KIND:u8`, then a text message (`SEQUENCE:u32 | bytes`) or
a signal block (`SAMPLE_RATE:u16 | FREQUENCY:f32 | AMPLITUDE:f32 |
START_INDEX:u32 | COUNT:u16 | samples:f32...`).  A payload without the magic is
opaque, not an error.

A decoded signal has passed every check the signal filters repeat:
`decodeApplicationPayload_signal` hands them over as one structure,
`SignalChecked`.
-/
import Stgs.Wire.Binary32
import Stgs.Wire.FrameCodec

namespace Stgs.Wire

set_option autoImplicit false

/-! ## Layout -/

def applicationPayloadMagic : UInt32 := 0x53544741
def applicationPayloadVersion : UInt8 := 1

def applicationCommonHeaderSize : Nat := u32WireSize + u8WireSize + u8WireSize
def textMessageFixedWireSize : Nat := applicationCommonHeaderSize + u32WireSize
def signalBlockFixedWireSize : Nat :=
  applicationCommonHeaderSize + u16WireSize + float32WireSize + float32WireSize + u32WireSize +
    u16WireSize
def signalSampleWireSize : Nat := float32WireSize
def maxTextMessageBytes : Nat := maxPayloadSize - textMessageFixedWireSize
def maxSignalSamplesPerPayload : Nat :=
  (maxPayloadSize - signalBlockFixedWireSize) / signalSampleWireSize

example : maxSignalSamplesPerPayload = 1018 := by decide

def appMagicOffset : Nat := 0
def appVersionOffset : Nat := appMagicOffset + u32WireSize
def appKindOffset : Nat := appVersionOffset + u8WireSize

def textSequenceOffset : Nat := applicationCommonHeaderSize
def textBodyOffset : Nat := textSequenceOffset + u32WireSize

def signalSampleRateOffset : Nat := applicationCommonHeaderSize
def signalFrequencyOffset : Nat := signalSampleRateOffset + u16WireSize
def signalAmplitudeOffset : Nat := signalFrequencyOffset + float32WireSize
def signalStartIndexOffset : Nat := signalAmplitudeOffset + float32WireSize
def signalSampleCountOffset : Nat := signalStartIndexOffset + u32WireSize
def signalSamplesOffset : Nat := signalSampleCountOffset + u16WireSize

inductive ApplicationPayloadKind where
  | textMessage
  | signalBlock
deriving DecidableEq, Repr

/-- `static_cast<std::uint8_t>(kind)`. -/
def ApplicationPayloadKind.raw : ApplicationPayloadKind → UInt8
  | textMessage => 1
  | signalBlock => 2

structure TextMessagePayload where
  sequence : UInt32 := 0
  text : ByteVector := []
deriving DecidableEq, Repr

structure SignalBlockPayload where
  sampleRateHz : UInt16 := 0
  frequencyHz : Binary32 := ⟨0⟩
  nominalAmplitude : Binary32 := ⟨0⟩
  startSampleIndex : UInt32 := 0
  samples : List Binary32 := []
deriving DecidableEq, Repr

inductive ApplicationPayloadErrorCode where
  | truncatedHeader
  | unsupportedVersion
  | unknownKind
  | invalidLength
  | invalidSignalMetadata
deriving DecidableEq, Repr

structure ApplicationPayloadError where
  code : ApplicationPayloadErrorCode
  message : String
deriving DecidableEq, Repr

/-- `std::variant<std::monostate, TextMessagePayload, SignalBlockPayload,
ApplicationPayloadError>`. -/
inductive ApplicationPayloadParseResult where
  | monostate
  | text (message : TextMessagePayload)
  | signal (block : SignalBlockPayload)
  | error (error : ApplicationPayloadError)
deriving DecidableEq, Repr

def makeApplicationError (code : ApplicationPayloadErrorCode) (message : String) :
    ApplicationPayloadParseResult :=
  .error ⟨code, message⟩

def hasApplicationMagic (payload : ByteVector) : Bool :=
  decide (u32WireSize ≤ payload.length) &&
    readU32BE payload appMagicOffset == applicationPayloadMagic

/-- The Nyquist frequency; half of a 16-bit integer is exact in a float. -/
def nyquistHz (sampleRateHz : UInt16) : ℚ := sampleRateHz.toNat / 2

def validSignalMetadata (sampleRateHz : UInt16) (frequencyHz nominalAmplitude : Binary32) : Bool :=
  if sampleRateHz = 0 ∨ frequencyHz.isFinite = false ∨ nominalAmplitude.isFinite = false then
    false
  else
    decide (0 < frequencyHz.value ℚ ∧ frequencyHz.value ℚ < nyquistHz sampleRateHz ∧
      0 ≤ nominalAmplitude.value ℚ)

/-! ## Encoders -/

def appendCommonHeader (out : ByteVector) (kind : ApplicationPayloadKind) : ByteVector :=
  let out := appendU32BE out applicationPayloadMagic
  let out := appendU8 out applicationPayloadVersion
  appendU8 out kind.raw

def encodeTextMessagePayload (message : TextMessagePayload) : Except Exn ByteVector :=
  if message.text.length > maxTextMessageBytes then
    .error (.invalidArgument "text message exceeds STGS application payload capacity")
  else
    let payload := appendCommonHeader [] .textMessage
    let payload := appendU32BE payload message.sequence
    .ok (payload ++ message.text)

def encodeSignalBlockPayload (signal : SignalBlockPayload) : Except Exn ByteVector :=
  if validSignalMetadata signal.sampleRateHz signal.frequencyHz signal.nominalAmplitude = false then
    .error (.invalidArgument
      "signal metadata requires finite amplitude, sampleRate > 0 and 0 < frequency < Nyquist")
  else if signal.samples.length > maxSignalSamplesPerPayload ∨
      signal.samples.length > UInt16.size - 1 then
    .error (.invalidArgument "signal block contains too many samples for one STGS payload")
  else if signal.samples.any (fun sample => !sample.isFinite) then
    .error (.invalidArgument "signal samples must all be finite")
  else
    let payload := appendCommonHeader [] .signalBlock
    let payload := appendU16BE payload signal.sampleRateHz
    let payload := appendFloatBE payload signal.frequencyHz
    let payload := appendFloatBE payload signal.nominalAmplitude
    let payload := appendU32BE payload signal.startSampleIndex
    let payload := appendU16BE payload (UInt16.ofNat signal.samples.length)
    .ok (signal.samples.foldl appendFloatBE payload)

/-! ## Decoder -/

def decodeTextMessage (payload : ByteVector) : ApplicationPayloadParseResult :=
  if payload.length < textBodyOffset then
    makeApplicationError .invalidLength "text message payload is shorter than its fixed header"
  else
    .text { sequence := readU32BE payload textSequenceOffset
            text := payload.drop textBodyOffset }

/-- The signal block a payload spells, before its checks. -/
def signalOf (payload : ByteVector) : SignalBlockPayload where
  sampleRateHz := readU16BE payload signalSampleRateOffset
  frequencyHz := readFloatBE payload signalFrequencyOffset
  nominalAmplitude := readFloatBE payload signalAmplitudeOffset
  startSampleIndex := readU32BE payload signalStartIndexOffset
  samples := (List.range (readU16BE payload signalSampleCountOffset).toNat).map fun i =>
    readFloatBE payload (signalSamplesOffset + i * signalSampleWireSize)

def decodeSignalBlock (payload : ByteVector) : ApplicationPayloadParseResult :=
  if payload.length < signalSamplesOffset then
    makeApplicationError .invalidLength "signal payload is shorter than its fixed header"
  else
    let signal := signalOf payload
    let sampleCount := (readU16BE payload signalSampleCountOffset).toNat
    if payload.length ≠ signalSamplesOffset + sampleCount * signalSampleWireSize then
      makeApplicationError .invalidLength "signal sample count does not match the payload length"
    else if validSignalMetadata signal.sampleRateHz signal.frequencyHz
        signal.nominalAmplitude = false then
      makeApplicationError .invalidSignalMetadata
        "signal metadata requires finite amplitude, sampleRate > 0 and 0 < frequency < Nyquist"
    else if signal.samples.any (fun sample => !sample.isFinite) then
      makeApplicationError .invalidSignalMetadata "signal payload contains a non-finite sample"
    else .signal signal

def decodeApplicationPayload (payload : ByteVector) : ApplicationPayloadParseResult :=
  if hasApplicationMagic payload = false then .monostate
  else if payload.length < applicationCommonHeaderSize then
    makeApplicationError .truncatedHeader
      "STGA signature is present but the common header is truncated"
  else if byteAt payload appVersionOffset ≠ applicationPayloadVersion then
    makeApplicationError .unsupportedVersion "unsupported STGA application payload version"
  else
    let rawKind := byteAt payload appKindOffset
    if rawKind = ApplicationPayloadKind.textMessage.raw then decodeTextMessage payload
    else if rawKind = ApplicationPayloadKind.signalBlock.raw then decodeSignalBlock payload
    else makeApplicationError .unknownKind "unknown STGA application payload kind"

/-! ## What a decoded signal has passed -/

/-- The checks on the metadata and the samples of a signal. -/
structure SignalChecked (signal : SignalBlockPayload) : Prop where
  sampleRate : signal.sampleRateHz ≠ 0
  frequency : signal.frequencyHz.isFinite = true
  amplitude : signal.nominalAmplitude.isFinite = true
  positive : 0 < signal.frequencyHz.value ℚ
  belowNyquist : signal.frequencyHz.value ℚ < nyquistHz signal.sampleRateHz
  amplitudeNonneg : 0 ≤ signal.nominalAmplitude.value ℚ
  samples : ∀ sample ∈ signal.samples, sample.isFinite = true

theorem signalChecked_iff (signal : SignalBlockPayload) :
    SignalChecked signal ↔
      validSignalMetadata signal.sampleRateHz signal.frequencyHz signal.nominalAmplitude = true ∧
        signal.samples.any (fun sample => !sample.isFinite) = false := by
  have finite : signal.samples.any (fun sample => !sample.isFinite) = false ↔
      ∀ sample ∈ signal.samples, sample.isFinite = true := by
    simp
  rw [finite, validSignalMetadata]
  constructor
  · rintro ⟨rate, frequency, amplitude, positive, nyquist, nonneg, samples⟩
    refine ⟨?_, samples⟩
    rw [if_neg (by simp [rate, frequency, amplitude])]
    exact decide_eq_true ⟨positive, nyquist, nonneg⟩
  · rintro ⟨metadata, samples⟩
    split at metadata
    · cases metadata
    · rename_i present
      simp only [not_or, Bool.not_eq_false] at present
      obtain ⟨rate, frequency, amplitude⟩ := present
      obtain ⟨positive, nyquist, nonneg⟩ := of_decide_eq_true metadata
      exact ⟨rate, frequency, amplitude, positive, nyquist, nonneg, samples⟩

/-- **A decoded signal has passed every check.** -/
theorem decodeApplicationPayload_signal {payload : ByteVector} {signal : SignalBlockPayload}
    (decoded : decodeApplicationPayload payload = .signal signal) : SignalChecked signal := by
  have block : decodeSignalBlock payload = .signal signal := by
    unfold decodeApplicationPayload makeApplicationError decodeTextMessage at decoded
    split at decoded <;> [cases decoded; skip]
    split at decoded <;> [cases decoded; skip]
    split at decoded <;> [cases decoded; skip]
    dsimp only at decoded
    split at decoded
    · split at decoded <;> cases decoded
    · split at decoded
      · exact decoded
      · cases decoded
  unfold decodeSignalBlock makeApplicationError at block
  split at block <;> [cases block; skip]
  dsimp only at block
  split at block <;> [cases block; skip]
  split at block <;> [cases block; skip]
  rename_i metadata
  split at block <;> [cases block; skip]
  rename_i samples
  obtain rfl := ApplicationPayloadParseResult.signal.inj block
  exact (signalChecked_iff _).mpr ⟨by simpa using metadata, by simpa using samples⟩

end Stgs.Wire
