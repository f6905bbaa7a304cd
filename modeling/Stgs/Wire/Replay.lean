/-
# Wire.Replay -- the STGF capture file

`MAGIC "STGF" | VERSION:u32`, then records `LENGTH:u32 | frame bytes`.  A writer is
the bytes it has put in the file, a reader the bytes it has not read yet; the
streams themselves do not fail here.  Lengths are checked against the STGS frame
sizes on both sides, before a frame is written and before one is read.

`capture` is the file a list of frames makes, `readAll_capture` the round trip.
-/
import Stgs.Wire.FrameCodec

namespace Stgs.Wire

open Stgs.Theory.BigEndian

set_option autoImplicit false

def replayMagic : ByteVector := [0x53, 0x54, 0x47, 0x46]
def replayFormatVersion : UInt32 := 1
def replayLengthFieldSize : Nat := u32WireSize

/-- `makeFileHeader()`. -/
def fileHeader : ByteVector := appendU32BE replayMagic replayFormatVersion

/-- The sizes a record may have. -/
def replayLengthValid (length : Nat) : Bool :=
  decide (minFrameSize ≤ length) && decide (length ≤ maxFrameSize)

/-! ## Writer -/

structure FrameFileWriter where
  out : ByteVector
deriving DecidableEq, Repr

namespace FrameFileWriter

/-- The constructor. -/
def create : FrameFileWriter := ⟨fileHeader⟩

def writeFrame (self : FrameFileWriter) (frameBytes : ByteVector) : Except Exn FrameFileWriter :=
  if replayLengthValid frameBytes.length = false then
    .error (.runtimeError "refusing to write replay frame outside STGS frame size bounds")
  else
    let length := appendU32BE [] (UInt32.ofNat frameBytes.length)
    .ok ⟨self.out ++ length ++ frameBytes⟩

end FrameFileWriter

/-! ## Reader -/

/-- Exactly `size` bytes, and what follows them. -/
def readExact (input : ByteVector) (size : Nat) : Except Exn (ByteVector × ByteVector) :=
  if (input.take size).length ≠ size then .error (.runtimeError "unexpected end of replay file")
  else .ok (input.take size, input.drop size)

structure FrameFileReader where
  input : ByteVector
deriving DecidableEq, Repr

namespace FrameFileReader

/-- The constructor. -/
def create (file : ByteVector) : Except Exn FrameFileReader :=
  match readExact file fileHeader.length with
  | .error exn => .error exn
  | .ok (header, rest) =>
      if header ≠ fileHeader then
        .error (.runtimeError "invalid or unsupported STGF replay file header")
      else .ok ⟨rest⟩

/-- The next frame and the reader after it, or `none` at a regular end. -/
def readNext (self : FrameFileReader) : Except Exn (Option (ByteVector × FrameFileReader)) :=
  let lengthBytes := self.input.take replayLengthFieldSize
  if lengthBytes.length = 0 then .ok none
  else if lengthBytes.length ≠ replayLengthFieldSize then
    .error (.runtimeError "truncated frame length in replay file")
  else
    let length := (readU32BE lengthBytes 0).toNat
    if replayLengthValid length = false then .error (.runtimeError "invalid replay frame length")
    else
      match readExact (self.input.drop replayLengthFieldSize) length with
      | .error exn => .error exn
      | .ok (frame, rest) => .ok (some (frame, ⟨rest⟩))

/-- Frames read one after the other, and the exception that ended it, if any.
Every read takes bytes, so one read more than there are bytes is enough. -/
def readLoop : Nat → FrameFileReader → List ByteVector × Option Exn
  | 0, _ => ([], none)
  | fuel + 1, self =>
      match self.readNext with
      | .error exn => ([], some exn)
      | .ok none => ([], none)
      | .ok (some (frame, next)) => (frame :: (readLoop fuel next).1, (readLoop fuel next).2)

def readAll (self : FrameFileReader) : List ByteVector × Option Exn :=
  self.readLoop (self.input.length + 1)

end FrameFileReader

/-! ## Round trip -/

/-- One record. -/
def record (frameBytes : ByteVector) : ByteVector :=
  beBytes 4 frameBytes.length ++ frameBytes

/-- The file a list of frames makes. -/
def capture (frames : List ByteVector) : ByteVector :=
  fileHeader ++ (frames.map record).flatten

theorem writeFrame_ok {self : FrameFileWriter} {frameBytes : ByteVector}
    (valid : replayLengthValid frameBytes.length = true) :
    self.writeFrame frameBytes = .ok ⟨self.out ++ record frameBytes⟩ := by
  have small : frameBytes.length < UInt32.size := by
    have bound : frameBytes.length ≤ maxFrameSize := by
      simp only [replayLengthValid, Bool.and_eq_true, decide_eq_true_eq] at valid
      exact valid.2
    have : maxFrameSize < UInt32.size := by decide
    omega
  have length : appendU32BE [] (UInt32.ofNat frameBytes.length) = beBytes 4 frameBytes.length := by
    rw [appendU32BE_eq, List.nil_append, UInt32.toNat_ofNat', Nat.mod_eq_of_lt small]
  rw [FrameFileWriter.writeFrame, if_neg (by simp [valid])]
  simp only [length, record, List.append_assoc]

theorem readNext_record {frameBytes : ByteVector}
    (valid : replayLengthValid frameBytes.length = true) (rest : ByteVector) :
    FrameFileReader.readNext ⟨record frameBytes ++ rest⟩ = .ok (some (frameBytes, ⟨rest⟩)) := by
  have bound : frameBytes.length ≤ maxFrameSize := by
    simp only [replayLengthValid, Bool.and_eq_true, decide_eq_true_eq] at valid
    exact valid.2
  have size : replayLengthFieldSize = 4 := rfl
  have width : (beBytes 4 frameBytes.length).length = 4 := length_beBytes _ _
  have length : (record frameBytes ++ rest).take 4 = beBytes 4 frameBytes.length := by
    rw [record, List.append_assoc]
    exact List.take_left' width
  have tail : (record frameBytes ++ rest).drop 4 = frameBytes ++ rest := by
    rw [record, List.append_assoc]
    exact List.drop_left' width
  have announced : (readU32BE (beBytes 4 frameBytes.length) 0).toNat = frameBytes.length := by
    have whole := slice_all (beBytes 4 frameBytes.length)
    rw [width] at whole
    rw [readU32BE_toNat (by rw [width]), whole, beNat_beBytes]
    exact Nat.mod_eq_of_lt (lt_of_le_of_lt bound (by decide))
  have exact : readExact (frameBytes ++ rest) frameBytes.length = .ok (frameBytes, rest) := by
    rw [readExact, List.take_left, List.drop_left, if_neg (not_not.mpr rfl)]
  unfold FrameFileReader.readNext
  simp only [size, length, tail, width, announced, valid, exact]
  rfl

theorem readLoop_records {frames : List ByteVector}
    (valid : ∀ frame ∈ frames, replayLengthValid frame.length = true) (fuel : Nat)
    (enough : frames.length < fuel) :
    FrameFileReader.readLoop fuel ⟨(frames.map record).flatten⟩ = (frames, none) := by
  induction frames generalizing fuel with
  | nil =>
      obtain ⟨fuel, rfl⟩ := Nat.exists_eq_add_of_lt enough
      rfl
  | cons frame frames ih =>
      obtain ⟨fuel, rfl⟩ := Nat.exists_eq_add_of_lt enough
      have next := readNext_record (valid frame (List.mem_cons_self ..)) (frames.map record).flatten
      have rest := ih (fun frame member => valid frame (List.mem_cons_of_mem _ member))
        (frames.length + 1 + fuel) (by omega)
      rw [List.map_cons, List.flatten_cons, FrameFileReader.readLoop, List.length_cons, next]
      simp only [rest]

/-- A capture opens at its first record. -/
theorem create_capture (frames : List ByteVector) :
    FrameFileReader.create (capture frames) = .ok ⟨(frames.map record).flatten⟩ := by
  have header : readExact (capture frames) fileHeader.length =
      .ok (fileHeader, (frames.map record).flatten) := by
    rw [readExact, capture, List.take_left, List.drop_left, if_neg (not_not.mpr rfl)]
  rw [FrameFileReader.create, header]
  exact if_neg (not_not.mpr rfl)

theorem length_le_flatten (frames : List ByteVector) :
    frames.length ≤ (frames.map record).flatten.length := by
  induction frames with
  | nil => exact Nat.le_refl 0
  | cons frame frames ih =>
      rw [List.map_cons, List.flatten_cons, List.length_append, List.length_cons, record,
        List.length_append, length_beBytes]
      omega

/-- **A capture reads back as the frames it was made of.** -/
theorem readAll_capture {frames : List ByteVector}
    (valid : ∀ frame ∈ frames, replayLengthValid frame.length = true) :
    ∃ reader, FrameFileReader.create (capture frames) = .ok reader ∧
      reader.readAll = (frames, none) := by
  refine ⟨⟨(frames.map record).flatten⟩, create_capture frames, readLoop_records valid _ ?_⟩
  exact Nat.lt_succ_of_le (length_le_flatten frames)

end Stgs.Wire
