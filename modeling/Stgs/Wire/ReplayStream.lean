/-
# Wire.ReplayStream -- the STGF reader and writer on their streams

`Wire.Replay` says what a record is.  Here the reader works on an `std::ifstream`:
`read` stores what there is, counts it (`gcount`) and sets `eofbit` and `failbit` when
it came up short; the reader decides from the count and the flag whether a short
read of a length field is the end of the file or a truncation.  A call of the writer
that throws leaves the bytes it had put in its stream, so what a refused call does to
the file is read off the order of its statements.  The writer's stream does not fail.

`buffers` is history: the sizes of the buffers allocated so far.
-/
import Stgs.Wire.Replay

namespace Stgs.Wire

open Stgs.Theory.BigEndian

set_option autoImplicit false

/-! ## Reading -/

/-- An input file stream: what has not been read, its flags, and the last count. -/
structure FileInput where
  left : ByteVector
  eofbit : Bool := false
  failbit : Bool := false
  gcount : Nat := 0
deriving DecidableEq, Repr

/-- `read(data, size)` into a buffer: what the buffer holds, and the stream after it. -/
def FileInput.read (self : FileInput) (data : ByteVector) : ByteVector × FileInput :=
  if self.eofbit || self.failbit then (data, { self with failbit := true, gcount := 0 })
  else if self.left.length < data.length then
    (self.left ++ data.drop self.left.length,
      { left := [], eofbit := true, failbit := true, gcount := self.left.length })
  else
    (self.left.take data.length,
      { self with left := self.left.drop data.length, gcount := data.length })

/-- `readExact`, into a buffer. -/
def readExactly (input : FileInput) (data : ByteVector) :
    Except Exn ByteVector × FileInput :=
  let (stored, after) := input.read data
  if after.gcount ≠ data.length then
    (.error (.runtimeError "unexpected end of replay file"), after)
  else (.ok stored, after)

structure ReplayInput where
  input : FileInput
  buffers : List Nat := []
deriving DecidableEq, Repr

namespace ReplayInput

/-- `ByteVector(size)`. -/
def allocate (self : ReplayInput) (size : Nat) : ByteVector × ReplayInput :=
  (List.replicate size 0, { self with buffers := self.buffers ++ [size] })

/-- The constructor, on a file that opens. -/
def create (file : ByteVector) : Except Exn Unit × ReplayInput :=
  let (header, self) := allocate { input := { left := file } } fileHeader.length
  match readExactly self.input header with
  | (.error exn, input) => (.error exn, { self with input })
  | (.ok header, input) =>
      if header ≠ fileHeader then
        (.error (.runtimeError "invalid or unsupported STGF replay file header"),
          { self with input })
      else (.ok (), { self with input })

def readNext (self : ReplayInput) : Except Exn (Option ByteVector) × ReplayInput :=
  let (lengthBytes, self) := self.allocate replayLengthFieldSize
  let (lengthBytes, input) := self.input.read lengthBytes
  let self := { self with input }
  let bytesRead := input.gcount
  if bytesRead = 0 ∧ input.eofbit = true then (.ok none, self)
  else if bytesRead ≠ replayLengthFieldSize then
    (.error (.runtimeError "truncated frame length in replay file"), self)
  else
    let length := (readU32BE lengthBytes 0).toNat
    if length < minFrameSize ∨ length > maxFrameSize then
      (.error (.runtimeError "invalid replay frame length"), self)
    else
      let (frame, self) := self.allocate length
      match readExactly self.input frame with
      | (.error exn, input) => (.error exn, { self with input })
      | (.ok frame, input) => (.ok (some frame), { self with input })

/-- Calls of `readNext` until one returns nullopt (`none`) or throws. -/
inductive Drains : ReplayInput → List ByteVector → Option Exn → ReplayInput → Prop where
  | ends {self last : ReplayInput} (ended : self.readNext = (.ok none, last)) :
      Drains self [] none last
  | throws {self last : ReplayInput} {exn : Exn} (threw : self.readNext = (.error exn, last)) :
      Drains self [] (some exn) last
  | returns {self next last : ReplayInput} {frame : ByteVector} {frames : List ByteVector}
      {ending : Option Exn} (returned : self.readNext = (.ok (some frame), next))
      (drains : Drains next frames ending last) : Drains self (frame :: frames) ending last

/-- What reading a file comes to: the frames returned, the exception that ended it if
one did, how many times `readNext` was called, and the buffers allocated. -/
inductive Replays (file : ByteVector) :
    List ByteVector → Option Exn → Nat → List Nat → Prop where
  | refused {exn : Exn} {self : ReplayInput} (refused : create file = (.error exn, self)) :
      Replays file [] (some exn) 0 self.buffers
  | opened {self last : ReplayInput} {frames : List ByteVector} {ending : Option Exn}
      (opens : create file = (.ok (), self)) (drains : Drains self frames ending last) :
      Replays file frames ending (frames.length + 1) last.buffers

end ReplayInput

/-! ## Writing -/

namespace FrameFileWriter

/-- `out_.write`. -/
def put (self : FrameFileWriter) (bytes : ByteVector) : FrameFileWriter := ⟨self.out ++ bytes⟩

/-- `writeFrame`, with what it leaves in the stream when it throws. -/
def call (self : FrameFileWriter) (frameBytes : ByteVector) : Except Exn Unit × FrameFileWriter :=
  if frameBytes.length < minFrameSize ∨ frameBytes.length > maxFrameSize then
    (.error (.runtimeError "refusing to write replay frame outside STGS frame size bounds"), self)
  else
    let length := appendU32BE [] (UInt32.ofNat frameBytes.length)
    let self := self.put length
    let self := self.put frameBytes
    (.ok (), self)

/-- Calls one after the other, each with its outcome, and the writer after them. -/
def calls (self : FrameFileWriter) :
    List ByteVector → List (ByteVector × Except Exn Unit) × FrameFileWriter
  | [] => ([], self)
  | frameBytes :: others =>
      let (outcome, next) := self.call frameBytes
      let (outcomes, last) := next.calls others
      ((frameBytes, outcome) :: outcomes, last)

end FrameFileWriter

/-! ## Sizes -/

theorem replayLengthValid_iff (length : Nat) :
    replayLengthValid length = true ↔ minFrameSize ≤ length ∧ length ≤ maxFrameSize := by
  rw [replayLengthValid, Bool.and_eq_true, decide_eq_true_eq, decide_eq_true_eq]

theorem replayLengthValid_eq_false (length : Nat) :
    replayLengthValid length = false ↔ length < minFrameSize ∨ length > maxFrameSize := by
  rw [← Bool.not_eq_true, replayLengthValid_iff]
  omega

/-- The call is `writeFrame`; one that throws has put nothing in the stream. -/
theorem call_eq (self : FrameFileWriter) (frameBytes : ByteVector) :
    self.call frameBytes =
      match self.writeFrame frameBytes with
      | .error exn => (.error exn, self)
      | .ok after => (.ok (), after) := by
  unfold FrameFileWriter.call FrameFileWriter.writeFrame
  by_cases valid : replayLengthValid frameBytes.length = false
  · rw [if_pos valid, if_pos ((replayLengthValid_eq_false _).mp valid)]
  · rw [if_neg valid, if_neg fun outside => valid ((replayLengthValid_eq_false _).mpr outside)]
    rfl

/-! ## The reader without its flags -/

/-- A stream at which no read has come up short. -/
def FileInput.Good (self : FileInput) : Prop := self.eofbit = false ∧ self.failbit = false

theorem read_enough {self : FileInput} (good : self.Good) {data : ByteVector}
    (enough : data.length ≤ self.left.length) :
    self.read data = (self.left.take data.length,
      { self with left := self.left.drop data.length, gcount := data.length }) := by
  rw [FileInput.read, if_neg (by simp [good.1, good.2]), if_neg (Nat.not_lt.mpr enough)]

theorem read_short {self : FileInput} (good : self.Good) {data : ByteVector}
    (short : self.left.length < data.length) :
    self.read data = (self.left ++ data.drop self.left.length,
      { left := [], eofbit := true, failbit := true, gcount := self.left.length }) := by
  rw [FileInput.read, if_neg (by simp [good.1, good.2]), if_pos short]

/-- `readExactly` is `readExact` on what is left. -/
theorem readExactly_eq {self : FileInput} (good : self.Good) (data : ByteVector) :
    (∃ stored rest input, readExact self.left data.length = .ok (stored, rest) ∧
      readExactly self data = (.ok stored, input) ∧ input.Good ∧ input.left = rest) ∨
    ∃ exn input, readExact self.left data.length = .error exn ∧
      readExactly self data = (.error exn, input) := by
  by_cases enough : data.length ≤ self.left.length
  · left
    refine ⟨self.left.take data.length, self.left.drop data.length,
      { self with left := self.left.drop data.length, gcount := data.length }, ?_, ?_, good, rfl⟩
    · rw [readExact, if_neg]
      simpa using enough
    · rw [readExactly, read_enough good enough]
      exact if_neg (not_not.mpr rfl)
  · right
    have short : self.left.length < data.length := Nat.lt_of_not_le enough
    refine ⟨.runtimeError "unexpected end of replay file", (self.read data).2, ?_, ?_⟩
    · rw [readExact, if_pos]
      rw [List.length_take]
      omega
    · rw [readExactly, read_short good short]
      exact if_pos (Nat.ne_of_lt short)

/-- A buffer of an admissible size. -/
def Modest (before after : List Nat) : Prop := ∀ size ∈ after, size ∈ before ∨ size ≤ maxFrameSize

theorem modest_concat {before after : List Nat} (modest : Modest before after) {size : Nat}
    (small : size ≤ maxFrameSize) : Modest before (after ++ [size]) := by
  intro other member
  rcases List.mem_append.mp member with earlier | now
  · exact modest other earlier
  · rw [List.mem_singleton.mp now]
    exact Or.inr small

theorem Modest.trans {before between after : List Nat} (first : Modest before between)
    (second : Modest between after) : Modest before after := by
  intro size member
  rcases second size member with earlier | small
  · exact first size earlier
  · exact Or.inr small

section ReadNext

variable {self : ReplayInput}

/-- Fewer bytes than a length field: an end if there are none, else a truncation. -/
theorem readNext_short (good : self.input.Good)
    (short : self.input.left.length < replayLengthFieldSize) :
    self.readNext =
      (if self.input.left.length = 0 then .ok none
        else .error (.runtimeError "truncated frame length in replay file"),
        { input := { left := [], eofbit := true, failbit := true, gcount := self.input.left.length }
          buffers := self.buffers ++ [replayLengthFieldSize] }) := by
  have stored := @read_short _ good (List.replicate replayLengthFieldSize 0)
    (by rwa [List.length_replicate])
  simp only [ReplayInput.readNext, ReplayInput.allocate, stored]
  by_cases nothing : self.input.left.length = 0
  · rw [if_pos ⟨nothing, trivial⟩, if_pos nothing]
  · rw [if_neg (fun both => nothing both.1), if_pos (Nat.ne_of_lt short), if_neg nothing]

/-- The stream behind a length field. -/
def FileInput.behindLength (self : FileInput) : FileInput :=
  { self with left := self.left.drop replayLengthFieldSize, gcount := replayLengthFieldSize }

/-- The length a record announces. -/
def FileInput.announced (self : FileInput) : Nat :=
  (readU32BE (self.left.take replayLengthFieldSize) 0).toNat

theorem readNext_long (good : self.input.Good)
    (enough : replayLengthFieldSize ≤ self.input.left.length) :
    self.readNext =
      if self.input.announced < minFrameSize ∨ self.input.announced > maxFrameSize then
        (.error (.runtimeError "invalid replay frame length"),
          { input := self.input.behindLength, buffers := self.buffers ++ [replayLengthFieldSize] })
      else
        let result := readExactly self.input.behindLength (List.replicate self.input.announced 0)
        (result.1.map some,
          { input := result.2
            buffers := self.buffers ++ [replayLengthFieldSize] ++ [self.input.announced] }) := by
  have stored := @read_enough _ good (List.replicate replayLengthFieldSize 0)
    (by rwa [List.length_replicate])
  rw [List.length_replicate] at stored
  have nonzero : ¬ (replayLengthFieldSize = 0 ∧ self.input.eofbit = true) := fun both =>
    absurd both.1 (by decide)
  simp only [ReplayInput.readNext, ReplayInput.allocate, stored]
  rw [if_neg nonzero, if_neg (not_not.mpr rfl)]
  show (if self.input.announced < minFrameSize ∨ self.input.announced > maxFrameSize then _ else _) =
    _
  by_cases outside : self.input.announced < minFrameSize ∨ self.input.announced > maxFrameSize
  · rw [if_pos outside, if_pos outside]
    rfl
  · rw [if_neg outside, if_neg outside]
    show (match readExactly self.input.behindLength (List.replicate self.input.announced 0) with
      | (.error exn, input) => _
      | (.ok frame, input) => _) = _
    cases readExactly self.input.behindLength (List.replicate self.input.announced 0) with
    | mk result input => cases result <;> rfl

/-- **The flags tell the end of the file from a truncation**: on a stream that has not
come up short, `readNext` is `FrameFileReader.readNext` on what is left. -/
theorem readNext_refines (good : self.input.Good) :
    ∃ last, Modest self.buffers last.buffers ∧
      ((FrameFileReader.readNext ⟨self.input.left⟩ = .ok none ∧
          self.readNext = (.ok none, last)) ∨
        (∃ exn, FrameFileReader.readNext ⟨self.input.left⟩ = .error exn ∧
          self.readNext = (.error exn, last)) ∨
        ∃ frame, FrameFileReader.readNext ⟨self.input.left⟩ =
            .ok (some (frame, ⟨last.input.left⟩)) ∧
          self.readNext = (.ok (some frame), last) ∧ last.input.Good) := by
  have modest : Modest self.buffers (self.buffers ++ [replayLengthFieldSize]) :=
    modest_concat (fun _ => Or.inl) (by decide)
  by_cases enough : replayLengthFieldSize ≤ self.input.left.length
  · have taken : (self.input.left.take replayLengthFieldSize).length = replayLengthFieldSize := by
      rw [List.length_take, Nat.min_eq_left enough]
    have nonzero : ¬ replayLengthFieldSize = 0 := by decide
    have invalid (refused : replayLengthValid self.input.announced = false) :
        FrameFileReader.readNext ⟨self.input.left⟩ =
          .error (.runtimeError "invalid replay frame length") := by
      rw [FrameFileReader.readNext]
      simp only [taken]
      rw [if_neg nonzero, if_neg (not_not.mpr rfl)]
      exact if_pos refused
    have plain (valid : ¬ replayLengthValid self.input.announced = false)
        {result : Except Exn (ByteVector × ByteVector)}
        (read : readExact self.input.behindLength.left self.input.announced = result) :
        FrameFileReader.readNext ⟨self.input.left⟩ =
          result.map fun part => some (part.1, ⟨part.2⟩) := by
      have same : readExact (self.input.left.drop replayLengthFieldSize)
          (readU32BE (self.input.left.take replayLengthFieldSize) 0).toNat = result := read
      rw [FrameFileReader.readNext]
      simp only [taken]
      rw [if_neg nonzero, if_neg (not_not.mpr rfl)]
      refine (if_neg valid).trans ?_
      rw [same]
      cases result with
      | error exn => rfl
      | ok part => rfl
    have flagged := readNext_long good enough
    by_cases valid : replayLengthValid self.input.announced = false
    · rw [if_pos ((replayLengthValid_eq_false _).mp valid)] at flagged
      exact ⟨_, modest, Or.inr (Or.inl ⟨_, invalid valid, flagged⟩)⟩
    · have inside := fun outside => valid ((replayLengthValid_eq_false _).mpr outside)
      have small : self.input.announced ≤ maxFrameSize :=
        Nat.le_of_not_lt fun more => inside (Or.inr more)
      rw [if_neg inside] at flagged
      have exact := @readExactly_eq self.input.behindLength good
        (List.replicate self.input.announced 0)
      rw [List.length_replicate] at exact
      rcases exact with ⟨stored, rest, input, read, read', still, left⟩ | ⟨exn, input, read, read'⟩
      · rw [read'] at flagged
        refine ⟨_, modest_concat modest small, Or.inr (Or.inr ⟨stored, ?_, flagged, still⟩)⟩
        rw [plain valid read, ← left]
        rfl
      · rw [read'] at flagged
        exact ⟨_, modest_concat modest small, Or.inr (Or.inl ⟨exn, plain valid read, flagged⟩)⟩
  · have short : self.input.left.length < replayLengthFieldSize := Nat.lt_of_not_le enough
    have taken : self.input.left.take replayLengthFieldSize = self.input.left :=
      List.take_of_length_le (Nat.le_of_lt short)
    have flagged := readNext_short good short
    by_cases nothing : self.input.left.length = 0
    · rw [if_pos nothing] at flagged
      refine ⟨_, modest, Or.inl ⟨?_, flagged⟩⟩
      simp only [FrameFileReader.readNext, taken, nothing, if_true]
    · rw [if_neg nothing] at flagged
      refine ⟨_, modest, Or.inr (Or.inl ⟨_, ?_, flagged⟩)⟩
      simp only [FrameFileReader.readNext, taken, if_neg nothing]
      rw [if_pos (Nat.ne_of_lt short)]

end ReadNext

end Stgs.Wire
