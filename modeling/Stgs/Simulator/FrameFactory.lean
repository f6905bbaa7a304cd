/-
# Simulator.FrameFactory -- the frames of a run

What the clock and the generator give one frame is a parameter, `FrameDraws`: any
time, any temperature, any of the four statuses, any payload bytes, any samples
(`static_cast<float>(clean) + noise(rng)`).  `makeFrame` is what the source does
with them.

A corruption is one byte of the encoded frame xored with `0x5A`, its index drawn
from the frame's own length (`IndexDraw`).
-/
import Stgs.Simulator.Options

namespace Stgs.Simulator

open Stgs.Cli Stgs.Wire

set_option autoImplicit false

def corruptionXorMask : UInt8 := 0x5A
def simulationBatteryCycleLength : Nat := maxBatteryPercent.toNat + 1

/-- What `makeFrame` takes from the clock and the generator. -/
structure FrameDraws where
  nowMs : UInt64
  temperatureC : Binary32
  status : Fin 4
  payloadByte : Nat → UInt8
  sample : Nat → Binary32

/-- `randomStatus`: the distribution draws an index of the enumeration. -/
def randomStatus (draws : FrameDraws) : Status := ⟨UInt8.ofNat draws.status⟩

def makeRandomPayload (options : Options) (draws : FrameDraws) : ByteVector :=
  (List.range options.payloadSize).map draws.payloadByte

def makeSignalPayload (options : Options) (draws : FrameDraws) (blockIndex : Nat) :
    Except Exn ByteVector :=
  let startIndex64 := blockIndex * options.signalSamples % UInt64.size
  if startIndex64 > maxU32 then
    .error (.runtimeError "signal sample index exceeds STGA v1 32-bit range")
  else
    encodeSignalBlockPayload
      { sampleRateHz := options.sampleRateHz
        frequencyHz := options.signalFrequencyHz
        nominalAmplitude := options.signalAmplitude
        startSampleIndex := UInt32.ofNat startIndex64
        samples := (List.range options.signalSamples).map draws.sample }

def makePayload (options : Options) (draws : FrameDraws) (sequence : Nat) : Except Exn ByteVector :=
  match options.payloadMode with
  | .randomBytes => .ok (makeRandomPayload options draws)
  | .textMessage =>
      encodeTextMessagePayload { sequence := UInt32.ofNat sequence, text := options.message }
  | .signal => makeSignalPayload options draws sequence

def makeFrame (options : Options) (draws : FrameDraws) (sequence : Nat) :
    Except Exn TelemetryFrame :=
  match makePayload options draws sequence with
  | .error exn => .error exn
  | .ok payload =>
      .ok { satelliteId := options.satelliteId
            timestampMs := draws.nowMs
            temperatureC := draws.temperatureC
            batteryPercent :=
              UInt8.ofNat (maxBatteryPercent.toNat - sequence % simulationBatteryCycleLength)
            status := randomStatus draws
            payload }

/-! ## Corruption -/

/-- `std::uniform_int_distribution` over the indices of a vector. -/
abbrev IndexDraw := (size : Nat) → 0 < size → Fin size

/-- One byte xored with the corruption mask. -/
def corruptAt (bytes : ByteVector) (index : Nat) : ByteVector :=
  bytes.set index (byteAt bytes index ^^^ corruptionXorMask)

def maybeCorrupt (bytes : ByteVector) (draw : IndexDraw) : ByteVector :=
  if nonempty : 0 < bytes.length then corruptAt bytes (draw bytes.length nonempty) else bytes

@[simp] theorem length_corruptAt (bytes : ByteVector) (index : Nat) :
    (corruptAt bytes index).length = bytes.length :=
  List.length_set ..

theorem byteAt_corruptAt_of_ne {bytes : ByteVector} {index i : Nat} (other : i ≠ index) :
    byteAt (corruptAt bytes index) i = byteAt bytes i := by
  rw [byteAt, byteAt, corruptAt, List.getD_eq_getElem?_getD, List.getD_eq_getElem?_getD,
    List.getElem?_set_ne other.symm]

theorem byteAt_corruptAt_self {bytes : ByteVector} {index : Nat} (inside : index < bytes.length) :
    byteAt (corruptAt bytes index) index = byteAt bytes index ^^^ corruptionXorMask := by
  rw [byteAt, corruptAt, List.getD_eq_getElem?_getD, List.getElem?_set_self inside, Option.getD_some]

end Stgs.Simulator
