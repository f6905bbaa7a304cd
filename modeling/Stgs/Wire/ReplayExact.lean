/-
# Wire.ReplayExact -- the STGF format is read and written exactly

Records are delimited (`records_delimited`), so a byte string starts with one longest
run of them; the reader returns that run whatever the file (`drains_exact`), and ends
without an exception exactly when nothing is left.  `reader_exact` is the reader on
every file and on every cut of a capture; `capture_round_trip` the writer with calls
that are refused, followed by the reader.
-/
import Stgs.Theory.Records
import Stgs.Wire.ReplayStream

namespace Stgs.Wire

open Stgs.Theory.BigEndian Stgs.Theory.Records

set_option autoImplicit false

/-! ## Records -/

/-- A frame whose size a record may have. -/
def Recordable (frame : ByteVector) : Prop := replayLengthValid frame.length = true

theorem record_ne_nil (frame : ByteVector) : record frame ≠ [] := by
  intro empty
  have width := congrArg List.length empty
  rw [record, List.length_append, length_beBytes] at width
  exact absurd width (by simp)

/-- Reading a record back tells where it ends. -/
theorem records_delimited : Delimited record Recordable where
  nonempty frame _ := record_ne_nil frame
  cancel := by
    intro frame other rest rest' valid valid' same
    have read := readNext_record valid rest
    rw [same, readNext_record valid' rest'] at read
    simpa [eq_comm] using read

/-- What one call makes of what is left. -/
inductive Reads (input : ByteVector) : Except Exn (Option (ByteVector × FrameFileReader)) → Prop where
  | ended (nothing : input = []) : Reads input (.ok none)
  | returned {frame rest : ByteVector} (valid : Recordable frame)
      (starts : input = record frame ++ rest) : Reads input (.ok (some (frame, ⟨rest⟩)))
  | refused {exn : Exn} (some : input ≠ []) (stuck : Stuck record Recordable input) :
      Reads input (.error exn)

/-- A record read is a record. -/
theorem record_of_parts {input : ByteVector} (enough : 4 ≤ input.length)
    (inside : (readU32BE (input.take 4) 0).toNat ≤ (input.drop 4).length) :
    record ((input.drop 4).take (readU32BE (input.take 4) 0).toNat) =
      input.take 4 ++ (input.drop 4).take (readU32BE (input.take 4) 0).toNat := by
  have width : (input.take 4).length = 4 := by rw [List.length_take, Nat.min_eq_left enough]
  have whole := slice_all (input.take 4)
  rw [width] at whole
  have announced : (readU32BE (input.take 4) 0).toNat = beNat (input.take 4) := by
    rw [readU32BE_toNat (by rw [width]), whole]
  have back := beBytes_beNat (input.take 4)
  rw [width, ← announced] at back
  rw [record, List.length_take, Nat.min_eq_left inside, back]

theorem readNext_reads (input : ByteVector) :
    Reads input (FrameFileReader.readNext ⟨input⟩) := by
  cases read : FrameFileReader.readNext ⟨input⟩ with
  | error exn =>
      refine .refused (fun empty => ?_) fun frame tail valid starts => ?_
      · rw [empty] at read
        cases read
      · rw [starts, readNext_record valid] at read
        cases read
  | ok result =>
      have size : replayLengthFieldSize = 4 := rfl
      unfold FrameFileReader.readNext at read
      simp only [size] at read
      split at read
      · rename_i nothing
        obtain rfl := Except.ok.inj read
        refine .ended ?_
        simpa using nothing
      split at read
      · cases read
      rename_i taken
      split at read
      · cases read
      rename_i valid
      have enough : 4 ≤ input.length := by
        rw [not_not, List.length_take] at taken
        omega
      unfold readExact at read
      by_cases inside : (readU32BE (input.take 4) 0).toNat ≤ (input.drop 4).length
      · rw [if_neg (by rw [List.length_take]; omega)] at read
        obtain rfl := Except.ok.inj read
        refine .returned ?_ ?_
        · rw [Recordable, List.length_take, Nat.min_eq_left inside]
          simpa using valid
        · rw [record_of_parts enough inside, List.append_assoc, List.take_append_drop,
            List.take_append_drop]
      · rw [if_pos (by rw [List.length_take]; omega)] at read
        cases read

/-! ## Reading to the end -/

/-- What draining a reader comes to. -/
structure Drained (reader : ReplayInput) (frames : List ByteVector) (rest : ByteVector)
    (ending : Option Exn) (last : ReplayInput) : Prop where
  drains : ReplayInput.Drains reader frames ending last
  valid : ∀ frame ∈ frames, Recordable frame
  left : reader.input.left = (frames.map record).flatten ++ rest
  stuck : Stuck record Recordable rest
  ended : ending = none ↔ rest = []
  modest : Modest reader.buffers last.buffers

/-- **Whatever is left, it is read to its longest run of records**, by induction on how
much that is. -/
theorem drains_exact (self : ReplayInput) (good : self.input.Good) :
    ∃ frames rest ending last, Drained self frames rest ending last := by
  generalize size : self.input.left.length = count
  induction count using Nat.strong_induction_on generalizing self with
  | h count ih =>
      have reads := readNext_reads self.input.left
      obtain ⟨last, modest, ⟨plain, flagged⟩ | ⟨exn, plain, flagged⟩ | ⟨frame, plain, flagged, still⟩⟩ :=
        readNext_refines good
      · rw [plain] at reads
        cases reads with
        | ended nothing =>
            exact ⟨[], [], none, last, .ends flagged, nofun, nothing, stuck_nil records_delimited,
              iff_of_true rfl rfl, modest⟩
      · rw [plain] at reads
        cases reads with
        | refused some stuck =>
            exact ⟨[], self.input.left, _, last, .throws flagged, nofun, rfl, stuck,
              iff_of_false nofun some, modest⟩
      · rw [plain] at reads
        cases reads with
        | returned valid starts =>
            have shorter : last.input.left.length < count := by
              have width := congrArg List.length starts
              rw [List.length_append, record, List.length_append, length_beBytes] at width
              omega
            obtain ⟨frames, rest, ending, final, drained⟩ := ih _ shorter last still rfl
            refine ⟨frame :: frames, rest, ending, final, .returns flagged drained.drains, ?_, ?_,
              drained.stuck, drained.ended, modest.trans drained.modest⟩
            · intro other member
              rcases List.mem_cons.mp member with rfl | later
              · exact valid
              · exact drained.valid other later
            · rw [starts, drained.left, List.map_cons, List.flatten_cons, List.append_assoc]

/-- A reader drains in one way. -/
theorem drains_unique {self last last' : ReplayInput} {frames frames' : List ByteVector}
    {ending ending' : Option Exn} (drains : ReplayInput.Drains self frames ending last)
    (drains' : ReplayInput.Drains self frames' ending' last') :
    frames = frames' ∧ ending = ending' ∧ last = last' := by
  induction drains generalizing frames' with
  | ends ended =>
      cases drains' with
      | ends ended' =>
          obtain rfl := (Prod.mk.inj (ended.symm.trans ended')).2
          exact ⟨rfl, rfl, rfl⟩
      | throws threw => cases ended.symm.trans threw
      | returns returned _ => cases ended.symm.trans returned
  | throws threw =>
      cases drains' with
      | ends ended => cases threw.symm.trans ended
      | throws threw' =>
          obtain ⟨same, rfl⟩ := Prod.mk.inj (threw.symm.trans threw')
          obtain rfl := Except.error.inj same
          exact ⟨rfl, rfl, rfl⟩
      | returns returned _ => cases threw.symm.trans returned
  | returns returned _ ih =>
      cases drains' with
      | ends ended => cases returned.symm.trans ended
      | throws threw => cases returned.symm.trans threw
      | returns returned' rest =>
          obtain ⟨same, rfl⟩ := Prod.mk.inj (returned.symm.trans returned')
          obtain rfl := Option.some.inj (Except.ok.inj same)
          obtain ⟨rfl, ended, final⟩ := ih rest
          exact ⟨rfl, ended, final⟩

/-! ## Opening -/

/-- The reader behind the header. -/
def opened (file : ByteVector) : ReplayInput where
  input := { left := file.drop fileHeader.length, gcount := fileHeader.length }
  buffers := [fileHeader.length]

/-- **A file opens when it starts with the header.** -/
theorem create_cases (file : ByteVector) :
    (fileHeader <+: file ∧ ReplayInput.create file = (.ok (), opened file)) ∨
      ¬ fileHeader <+: file ∧ ∃ exn self, ReplayInput.create file = (.error exn, self) ∧
        self.buffers = [fileHeader.length] := by
  have good : FileInput.Good { left := file } := ⟨rfl, rfl⟩
  by_cases enough : fileHeader.length ≤ file.length
  · have stored := @read_enough _ good (List.replicate fileHeader.length 0)
      (by rwa [List.length_replicate])
    rw [List.length_replicate] at stored
    by_cases header : file.take fileHeader.length = fileHeader
    · refine Or.inl ⟨header ▸ List.take_prefix _ _, ?_⟩
      simp only [ReplayInput.create, ReplayInput.allocate, readExactly, stored]
      rw [List.length_replicate, if_neg (not_not.mpr rfl)]
      simp only [header]
      exact if_neg (not_not.mpr rfl)
    · refine Or.inr ⟨fun starts => header (List.prefix_iff_eq_take.mp starts).symm,
        .runtimeError "invalid or unsupported STGF replay file header", opened file, ?_, rfl⟩
      simp only [ReplayInput.create, ReplayInput.allocate, readExactly, stored]
      rw [List.length_replicate, if_neg (not_not.mpr rfl)]
      simp only
      exact if_pos header
  · have short : file.length < fileHeader.length := Nat.lt_of_not_le enough
    have stored := @read_short _ good (List.replicate fileHeader.length 0)
      (by rwa [List.length_replicate])
    refine Or.inr ⟨fun starts => enough starts.length_le,
      .runtimeError "unexpected end of replay file",
      { input := { left := [], eofbit := true, failbit := true, gcount := file.length }
        buffers := [fileHeader.length] }, ?_, rfl⟩
    simp only [ReplayInput.create, ReplayInput.allocate, readExactly, stored]
    rw [List.length_replicate, if_pos (Nat.ne_of_lt short)]
    rfl

/-! ## Every file -/

/-- Recordable frames that a file holds first, behind its header. -/
def Begins (file : ByteVector) (frames : List ByteVector) : Prop :=
  (∀ frame ∈ frames, Recordable frame) ∧ capture frames <+: file

/-- What reading a file has to come to. -/
structure FaithfulReading (file : ByteVector) (frames : List ByteVector) (ending : Option Exn)
    (calls : Nat) (buffers : List Nat) : Prop where
  calls : calls ≤ file.length
  accepted : ending = none ↔ ∃ frames, (∀ frame ∈ frames, Recordable frame) ∧ file = capture frames
  whole : ending = none → file = capture frames
  unopened : ¬ fileHeader <+: file → frames = []
  begins : fileHeader <+: file → Begins file frames
  longest : ∀ others, Begins file others → others <+: frames
  truncated : ∀ records, (∀ frame ∈ records, Recordable frame) → file <+: capture records →
    frames <+: records ∧ (ending = none ↔ ∃ k, file = capture (records.take k))
  bounded : ∀ size ∈ buffers, size ≤ maxFrameSize

theorem header_prefix_capture (frames : List ByteVector) : fileHeader <+: capture frames :=
  List.prefix_append _ _

/-- A file that does not open. -/
theorem faithful_unopened {file : ByteVector} (unopened : ¬ fileHeader <+: file) (exn : Exn) :
    FaithfulReading file [] (some exn) 0 [fileHeader.length] where
  calls := Nat.zero_le _
  accepted := by
    refine iff_of_false nofun ?_
    rintro ⟨frames, _, rfl⟩
    exact unopened (header_prefix_capture frames)
  whole := nofun
  unopened _ := rfl
  begins starts := absurd starts unopened
  longest others begins := absurd ((header_prefix_capture others).trans begins.2) unopened
  truncated := by
    intro records _ _
    refine ⟨List.nil_prefix, iff_of_false nofun ?_⟩
    rintro ⟨k, rfl⟩
    exact unopened (header_prefix_capture _)
  bounded := by
    intro size member
    rw [List.mem_singleton.mp member]
    decide

/-- A file that opens, read to its end. -/
theorem faithful_opened {file : ByteVector} (starts : fileHeader <+: file)
    {frames : List ByteVector} {rest : ByteVector} {ending : Option Exn} {last : ReplayInput}
    (drained : Drained (opened file) frames rest ending last) :
    FaithfulReading file frames ending (frames.length + 1) last.buffers := by
  have split : file = capture frames ++ rest := by
    obtain ⟨tail, rfl⟩ := starts
    have left : tail = (frames.map record).flatten ++ rest := by
      rw [← drained.left, opened, List.drop_left]
    rw [left, capture, List.append_assoc]
  have cancel {others : List ByteVector} {tail : ByteVector}
      (same : capture frames ++ rest = capture others ++ tail) :
      (frames.map record).flatten ++ rest = (others.map record).flatten ++ tail := by
    simpa only [capture, List.append_assoc, List.append_cancel_left_eq] using same
  refine ⟨?_, ?_, fun ended => ?_, fun unopened => absurd starts unopened, fun _ => ?_,
    fun others begins => ?_, fun records valid cut => ?_, fun size member => ?_⟩
  · have grows := length_le_flatten frames
    have header : fileHeader.length = 8 := rfl
    rw [split, capture, List.length_append, List.length_append]
    omega
  · refine drained.ended.trans ⟨fun nothing => ⟨frames, drained.valid, ?_⟩, ?_⟩
    · rw [nothing, List.append_nil] at split
      exact split
    · rintro ⟨others, valid, whole⟩
      have same := @cancel others []
        (by rw [← split, whole, List.append_nil])
      exact (stuck_unique records_delimited drained.stuck (stuck_nil records_delimited) drained.valid
        valid same).2.symm
  · rw [drained.ended.mp ended, List.append_nil] at split
    exact split
  · exact ⟨drained.valid, split ▸ List.prefix_append _ _⟩
  · obtain ⟨valid, tail, whole⟩ := begins
    exact prefix_of_stuck records_delimited drained.stuck drained.valid valid
      (cancel (by rw [← split, whole]))
  · rw [split] at cut
    have inside : (frames.map record).flatten ++ rest <+: (records.map record).flatten := by
      simpa only [capture, List.append_assoc, List.prefix_append_right_inj] using cut
    obtain ⟨shorter, between⟩ :=
      cut_items records_delimited drained.stuck valid drained.valid inside
    refine ⟨shorter, drained.ended.trans (between.trans (exists_congr fun k => ?_))⟩
    rw [split]
    simp only [capture, List.append_assoc, List.append_cancel_left_eq]
  · rcases drained.modest size member with header | small
    · rw [List.mem_singleton.mp header]
      decide
    · exact small

/-- A file is read in one way. -/
theorem replays_unique {file : ByteVector} {frames frames' : List ByteVector}
    {ending ending' : Option Exn} {calls calls' : Nat} {buffers buffers' : List Nat}
    (replays : ReplayInput.Replays file frames ending calls buffers)
    (replays' : ReplayInput.Replays file frames' ending' calls' buffers') :
    frames' = frames ∧ ending' = ending ∧ calls' = calls ∧ buffers' = buffers := by
  cases replays with
  | refused refused =>
      cases replays' with
      | refused refused' =>
          obtain ⟨same, rfl⟩ := Prod.mk.inj (refused.symm.trans refused')
          obtain rfl := Except.error.inj same
          exact ⟨rfl, rfl, rfl, rfl⟩
      | opened opens _ => cases refused.symm.trans opens
  | opened opens drains =>
      cases replays' with
      | refused refused => cases opens.symm.trans refused
      | opened opens' drains' =>
          obtain ⟨_, rfl⟩ := Prod.mk.inj (opens.symm.trans opens')
          obtain ⟨rfl, rfl, rfl⟩ := drains_unique drains drains'
          exact ⟨rfl, rfl, rfl, rfl⟩

/-- Every file is read, and faithfully. -/
theorem replays_faithful (file : ByteVector) :
    ∃ frames ending calls buffers, ReplayInput.Replays file frames ending calls buffers ∧
      FaithfulReading file frames ending calls buffers := by
  rcases create_cases file with ⟨starts, opens⟩ | ⟨unopened, exn, self, refused, buffers⟩
  · obtain ⟨frames, rest, ending, last, drained⟩ := drains_exact (opened file) ⟨rfl, rfl⟩
    exact ⟨frames, ending, _, _, .opened opens drained.drains, faithful_opened starts drained⟩
  · refine ⟨[], some exn, 0, self.buffers, .refused refused, ?_⟩
    rw [buffers]
    exact faithful_unopened unopened exn

/-- **The reader accepts exactly its format.**  Every file is read to an end within as
many calls as it has bytes, in one way: to the end of the file exactly when it is a
header and whole records, else to an exception after its longest run of records. -/
theorem reader_exact (file : ByteVector) :
    ∃ frames ending calls buffers, ReplayInput.Replays file frames ending calls buffers ∧
      FaithfulReading file frames ending calls buffers ∧
        ∀ frames' ending' calls' buffers',
          ReplayInput.Replays file frames' ending' calls' buffers' →
            frames' = frames ∧ ending' = ending ∧ calls' = calls ∧ buffers' = buffers := by
  obtain ⟨frames, ending, calls, buffers, replays, faithful⟩ := replays_faithful file
  exact ⟨frames, ending, calls, buffers, replays, faithful,
    fun _ _ _ _ others => replays_unique replays others⟩

/-! ## Written and read back -/

/-- The vectors of the calls that did not throw. -/
def written (outcomes : List (ByteVector × Except Exn Unit)) : List ByteVector :=
  (outcomes.filter fun call => decide (call.2 = .ok ())).map Prod.fst

/-- A call, by the size of its vector. -/
theorem call_cases (writer : FrameFileWriter) (frameBytes : ByteVector) :
    Recordable frameBytes ∧ writer.call frameBytes = (.ok (), ⟨writer.out ++ record frameBytes⟩) ∨
      ¬ Recordable frameBytes ∧ ∃ exn, writer.call frameBytes = (.error exn, writer) := by
  rw [call_eq]
  by_cases valid : Recordable frameBytes
  · refine Or.inl ⟨valid, ?_⟩
    rw [writeFrame_ok valid]
  · have outside : replayLengthValid frameBytes.length = false := by
      simpa [Recordable] using valid
    refine Or.inr ⟨valid, .runtimeError
      "refusing to write replay frame outside STGS frame size bounds", ?_⟩
    rw [FrameFileWriter.writeFrame, if_pos outside]

theorem calls_append (writer : FrameFileWriter) (first second : List ByteVector) :
    writer.calls (first ++ second) =
      ((writer.calls first).1 ++ ((writer.calls first).2.calls second).1,
        ((writer.calls first).2.calls second).2) := by
  induction first generalizing writer with
  | nil => rfl
  | cons frameBytes first ih =>
      simp only [List.cons_append, FrameFileWriter.calls, ih]

/-- What a sequence of calls does: each throws exactly when its size is out of bounds,
and the others append a record each. -/
structure Session (writer : FrameFileWriter) (vectors : List ByteVector) : Prop where
  called : (writer.calls vectors).1.map Prod.fst = vectors
  threw : ∀ call ∈ (writer.calls vectors).1,
    call.2 = .ok () ↔ minFrameSize ≤ call.1.length ∧ call.1.length ≤ maxFrameSize
  file : (writer.calls vectors).2.out =
    writer.out ++ ((written (writer.calls vectors).1).map record).flatten

theorem session (writer : FrameFileWriter) (vectors : List ByteVector) :
    Session writer vectors := by
  induction vectors generalizing writer with
  | nil => exact ⟨rfl, fun _ member => absurd member List.not_mem_nil, (List.append_nil _).symm⟩
  | cons frameBytes vectors ih =>
      obtain ⟨valid, called⟩ | ⟨invalid, exn, called⟩ := call_cases writer frameBytes
      · obtain ⟨same, threw, file⟩ := ih ⟨writer.out ++ record frameBytes⟩
        refine ⟨?_, ?_, ?_⟩
        · simp only [FrameFileWriter.calls, called, List.map_cons, same]
        · simp only [FrameFileWriter.calls, called]
          intro call member
          rcases List.mem_cons.mp member with rfl | later
          · exact iff_of_true rfl ((replayLengthValid_iff _).mp valid)
          · exact threw call later
        · simp only [FrameFileWriter.calls, called, file, written, List.filter_cons, decide_true,
            if_true, List.map_cons, List.flatten_cons, List.append_assoc]
      · obtain ⟨same, threw, file⟩ := ih writer
        refine ⟨?_, ?_, ?_⟩
        · simp only [FrameFileWriter.calls, called, List.map_cons, same]
        · simp only [FrameFileWriter.calls, called]
          intro call member
          rcases List.mem_cons.mp member with rfl | later
          · exact iff_of_false nofun fun sizes => invalid ((replayLengthValid_iff _).mpr sizes)
          · exact threw call later
        · have refused : ¬ (Except.error exn : Except Exn Unit) = .ok () := nofun
          simp only [FrameFileWriter.calls, called, file, written, List.filter_cons, refused,
            decide_false, Bool.false_eq_true, if_false]

/-- **A capture with refused writes reads back as the others.**  The reader returns the
vectors of the calls that did not throw, in order, and then nullopt; and a call that
throws leaves the writer, and so the file of the whole run, as without it. -/
theorem capture_round_trip (vectors : List ByteVector) :
    Session .create vectors ∧
      (∃ count buffers, ReplayInput.Replays (FrameFileWriter.create.calls vectors).2.out
        (written (FrameFileWriter.create.calls vectors).1) none count buffers) ∧
      ∀ before refused after, vectors = before ++ refused :: after →
        refused.length < minFrameSize ∨ refused.length > maxFrameSize →
          ((FrameFileWriter.create.calls before).2.call refused).2 =
              (FrameFileWriter.create.calls before).2 ∧
            (FrameFileWriter.create.calls vectors).2 =
              (FrameFileWriter.create.calls (before ++ after)).2 := by
  obtain ⟨same, threw, file⟩ := session .create vectors
  refine ⟨⟨same, threw, file⟩, ?_, ?_⟩
  · have whole : (FrameFileWriter.create.calls vectors).2.out =
        capture (written (FrameFileWriter.create.calls vectors).1) := file
    have valid : ∀ frame ∈ written (FrameFileWriter.create.calls vectors).1, Recordable frame := by
      intro frame member
      obtain ⟨call, kept, rfl⟩ := List.mem_map.mp member
      obtain ⟨called, returned⟩ := List.mem_filter.mp kept
      exact (replayLengthValid_iff _).mpr ((threw call called).mp (by simpa using returned))
    obtain ⟨frames, ending, count, buffers, replays, reading⟩ :=
      replays_faithful (FrameFileWriter.create.calls vectors).2.out
    have ended : ending = none := reading.accepted.mpr ⟨_, valid, whole⟩
    have read := reading.whole ended
    have among := (reading.truncated _ valid (whole ▸ List.prefix_rfl)).1
    have others := reading.longest _ ⟨valid, whole ▸ List.prefix_rfl⟩
    have equal : written (FrameFileWriter.create.calls vectors).1 = frames :=
      others.eq_of_length_le among.length_le
    rw [equal]
    exact ⟨count, buffers, ended ▸ replays⟩
  · rintro before refused after rfl outside
    obtain ⟨valid, _⟩ | ⟨_, exn, called⟩ :=
      call_cases (FrameFileWriter.create.calls before).2 refused
    · exact absurd ((replayLengthValid_iff _).mp valid) (by omega)
    · refine ⟨by rw [called], ?_⟩
      rw [calls_append, calls_append, FrameFileWriter.calls, called]

end Stgs.Wire
