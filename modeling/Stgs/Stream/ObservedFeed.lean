/-
# Stream.ObservedFeed -- no read outside of the input

The extractor with every access it makes, as `Wire.Observed` has the decoders: the
header read of a partly filled buffer, the subtractions that trim it, and the three
ways it erases its front.  `no_read_outside` puts the three parsers together.
-/
import Stgs.Stream.Framing
import Stgs.Wire.Observed

namespace Stgs.Stream

open Stgs.Theory Stgs.Theory.Traced Stgs.Theory.Search Stgs.Wire

set_option autoImplicit false

/-- `erase` of the bytes from `first` up to `last`. -/
def observeErase (bytes : ByteVector) (first last : Nat) : Observe ByteVector := do
  perform (.slice first last bytes.length)
  return bytes.take first ++ bytes.drop last

/-- What follows the search, on a buffer that starts with the magic. -/
def observeAligned (buffer : ByteVector) : Observe (Verdict UInt8 ByteVector) :=
  if buffer.length < headerSize then return .wait buffer
  else do
    let payloadLength ← Observe.readU16BE buffer payloadLengthOffset
    if payloadLength.toNat > maxPayloadSize then do
      let rest ← observeErase buffer 0 1
      return .skip rest
    else
    let frameSize := headerSize + payloadLength.toNat + crcSize
    if buffer.length < frameSize then return .wait buffer
    else
    let candidate ← Observe.range buffer 0 frameSize
    let rest ← observeErase buffer 0 frameSize
    return .emit candidate rest

/-- One pass of the loop. -/
def observePass (buffer : ByteVector) : Observe (Verdict UInt8 ByteVector) :=
  match search magicBytes buffer with
  | none => do
      let kept ← Observe.sub magicSize 1
      if buffer.length > kept then do
        let last ← Observe.sub buffer.length kept
        let rest ← observeErase buffer 0 last
        return .wait rest
      else return .wait buffer
  | some it =>
      if it ≠ 0 then do
        let aligned ← observeErase buffer 0 it
        observeAligned aligned
      else observeAligned buffer

/-- The loop; `extractor.run_returns` bounds its passes. -/
def observeLoop : Nat → ByteVector → Observe (List ByteVector × ByteVector)
  | 0, buffer => return ([], buffer)
  | fuel + 1, buffer => do
      let verdict ← observePass buffer
      match verdict with
      | .wait keep => return ([], keep)
      | .skip rest => observeLoop fuel rest
      | .emit candidate rest => do
          let others ← observeLoop fuel rest
          return (candidate :: others.1, others.2)

def observeFeed (self : StreamFrameExtractor) (bytes : ByteVector) :
    Observe (List ByteVector × StreamFrameExtractor) := do
  let buffer := self.buffer ++ bytes
  let scanned ← observeLoop (buffer.length + 1) buffer
  return (scanned.1, ⟨scanned.2⟩)

/-! ## Every access is in bounds -/

/-- Erasing a front that is there. -/
theorem observed_erase {bytes : ByteVector} {last : Nat} (inside : last ≤ bytes.length) :
    Observed (observeErase bytes 0 last) (bytes.drop last) :=
  .perform ⟨Nat.zero_le last, inside⟩ (keeps_pure _)

theorem observed_aligned (buffer : ByteVector) :
    Observed (observeAligned buffer) (passAligned buffer) := by
  have header : headerSize = 23 := rfl
  have offset : payloadLengthOffset = 21 := rfl
  refine .ite (fun _ => keeps_pure _) fun long => ?_
  refine (Observe.observed_readU16BE (by omega)).bind ?_
  refine .ite (fun _ => ?_) fun _ => ?_
  · exact (observed_erase (by omega)).bind (keeps_pure _)
  refine .ite (fun _ => keeps_pure _) fun whole => ?_
  have fits := Nat.le_of_not_lt whole
  refine (Observe.observed_range (Nat.zero_le _) fits).bind ?_
  exact (observed_erase fits).bind (keeps_pure _)

/-- **One pass stays inside of its buffer**, whatever the buffer. -/
theorem observed_pass (buffer : ByteVector) : Observed (observePass buffer) (pass buffer) := by
  unfold observePass
  cases found : search magicBytes buffer with
  | none =>
      rw [pass_missing found]
      refine (Observe.observed_sub (by decide)).bind ?_
      split
      · rename_i long
        refine (Observe.observed_sub (Nat.le_of_lt long)).bind ?_
        exact (observed_erase (Nat.sub_le _ _)).bind (keeps_pure _)
      · rename_i short
        have nothing : buffer.length - (magicSize - 1) = 0 := by omega
        rw [nothing, List.drop_zero]
        exact keeps_pure _
  | some it =>
      have inside := (((search_eq_some_iff magicBytes_ne_nil _ _).mp found).1).inside
        magicBytes_ne_nil
      rw [pass_found found]
      dsimp only
      split
      · exact (observed_erase (by omega)).bind (observed_aligned _)
      · rename_i front
        rw [not_not.mp front, List.drop_zero]
        exact observed_aligned buffer

theorem observed_loop (fuel : Nat) (buffer : ByteVector) :
    Observed (observeLoop fuel buffer) (extractor.loop fuel buffer) := by
  induction fuel generalizing buffer with
  | zero => exact keeps_pure _
  | succ fuel ih =>
      rw [Scanner.loop]
      refine (observed_pass buffer).bind ?_
      have look : extractor.look buffer = pass buffer := rfl
      rw [look]
      cases pass buffer with
      | wait keep => exact keeps_pure _
      | skip rest => exact ih rest
      | emit candidate rest => exact (ih rest).bind (keeps_pure _)

theorem observed_feed (self : StreamFrameExtractor) (bytes : ByteVector) :
    Observed (observeFeed self bytes) (self.feed bytes) :=
  (observed_loop _ _).bind (keeps_pure _)

/-- **No read outside of the input.**  On every byte string the two decoders, and on
every state reached by calls of `feed` the extractor, return what they return with every
access inside of its span and no subtraction below zero. -/
theorem no_read_outside :
    (∀ bytes, Observed (Observe.decodeFrame bytes) (decodeFrame bytes)) ∧
    (∀ payload,
      Observed (Observe.decodeApplicationPayload payload) (decodeApplicationPayload payload)) ∧
    ∀ (fragments : List ByteVector) (bytes : ByteVector),
      Observed (observeFeed (StreamFrameExtractor.feedAll {} fragments).2 bytes)
        ((StreamFrameExtractor.feedAll {} fragments).2.feed bytes) :=
  ⟨Observe.observed_decodeFrame, Observe.observed_decodeApplicationPayload,
    fun _ bytes => observed_feed _ bytes⟩

end Stgs.Stream
