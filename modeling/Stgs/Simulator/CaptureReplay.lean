/-
# Simulator.CaptureReplay -- every frame of a run accounted for

A frame of a simulator run is dropped, or corrupted, or left intact (`Fate`).  The capture
has a record for each frame that is not dropped, in the order of generation (`Captured`).
The station that replays the capture decodes the intact ones to what they were and rejects
the corrupted ones, since one byte xored is always refused; so the counters of the two
programs agree (`capture_replay`).
-/
import Stgs.Simulator.LiveReplay
import Stgs.Station.ReplayInput

namespace Stgs.Simulator

open Stgs.Cli Stgs.Wire Stgs.Stream Stgs.Station

set_option autoImplicit false

/-! ## The frames of a run -/

/-- What becomes of a frame. -/
inductive Fate where
  | dropped
  | corrupted
  | intact
deriving DecidableEq, Repr

def Draws.fate (draws : Draws) (options : Simulator.Options) : Fate :=
  if draws.loss.value < options.lossProbability then .dropped
  else if draws.corrupt.value < options.corruptProbability then .corrupted
  else .intact

section Frames

variable (options : Simulator.Options) (draws : Nat → Draws)

/-- The frame of an iteration. -/
def generated (i : Nat) : TelemetryFrame :=
  match makeFrame options (draws i).frame i with
  | .ok frame => frame
  | .error _ => {}

/-- The first frames that have this fate, in order. -/
def withFate (fate : Fate) (count : Nat) : List Nat :=
  (List.range count).filter fun i => (draws i).fate options = fate

/-- The first frames that are not dropped. -/
def kept (count : Nat) : List Nat :=
  (List.range count).filter fun i => (draws i).fate options ≠ .dropped

/-- What is recorded of a frame. -/
def recorded (i : Nat) : ByteVector :=
  if (draws i).fate options = .corrupted then
    maybeCorrupt (wire (generated options draws i)) (draws i).index
  else wire (generated options draws i)

theorem withFate_succ (fate : Fate) (count : Nat) :
    withFate options draws fate (count + 1) = withFate options draws fate count ++
      if (draws count).fate options = fate then [count] else [] := by
  rw [withFate, List.range_succ, List.filter_append]
  by_cases same : (draws count).fate options = fate
  · simp [withFate, same]
  · simp [withFate, same]

theorem kept_succ (count : Nat) :
    kept options draws (count + 1) = kept options draws count ++
      if (draws count).fate options ≠ .dropped then [count] else [] := by
  rw [kept, List.range_succ, List.filter_append]
  by_cases same : (draws count).fate options = .dropped
  · simp [kept, same]
  · simp [kept, same]

/-- Every frame has one fate. -/
theorem kept_length (count : Nat) :
    (kept options draws count).length + (withFate options draws .dropped count).length = count ∧
      (withFate options draws .intact count).length +
        (withFate options draws .corrupted count).length = (kept options draws count).length := by
  induction count with
  | zero => exact ⟨rfl, rfl⟩
  | succ count ih =>
      simp only [kept_succ, withFate_succ, List.length_append]
      cases (draws count).fate options with
      | dropped =>
          simp only [reduceCtorEq, ne_eq, not_true, if_true, if_false, List.length_nil,
            List.length_singleton]
          omega
      | corrupted =>
          simp only [reduceCtorEq, ne_eq, not_false_eq_true, if_true, if_false, List.length_nil,
            List.length_singleton]
          omega
      | intact =>
          simp only [reduceCtorEq, ne_eq, not_false_eq_true, if_true, if_false, List.length_nil,
            List.length_singleton]
          omega

end Frames

/-! ## The capture -/

theorem length_maybeCorrupt (bytes : ByteVector) (draw : IndexDraw) :
    (maybeCorrupt bytes draw).length = bytes.length := by
  unfold maybeCorrupt
  split
  · exact length_corruptAt ..
  · rfl

/-- The socket leaves the capture and the counters. -/
theorem transmit_keeps {options : Simulator.Options} {state next : RunState} {bytes : ByteVector}
    (sent : transmit options state bytes = .ok next) :
    next.capture = state.capture ∧ next.produced = state.produced ∧
      next.dropped = state.dropped ∧ next.corrupted = state.corrupted := by
  unfold transmit at sent
  split at sent
  · obtain rfl := Except.ok.inj sent
    exact ⟨rfl, rfl, rfl, rfl⟩
  · unfold sendUdpFrame at sent
    split at sent
    · cases sent
    · cases sent
    · cases sent
    · split at sent
      · cases sent
      · obtain rfl := Except.ok.inj sent
        exact ⟨rfl, rfl, rfl, rfl⟩
  · split at sent
    · obtain rfl := Except.ok.inj sent
      exact ⟨rfl, rfl, rfl, rfl⟩
    · cases sent
    · cases sent

section Captured

variable {options : Simulator.Options} {draws : Nat → Draws}

/-- The run so far: the frames generated, the records and the counters. -/
structure Captured (options : Simulator.Options) (draws : Nat → Draws) (count : Nat)
    (state : RunState) : Prop where
  made : ∀ i < count, makeFrame options (draws i).frame i = .ok (generated options draws i) ∧
    Encodable (generated options draws i)
  capture : ∀ writer, state.capture = some writer →
    writer.out = Wire.capture ((kept options draws count).map (recorded options draws))
  produced : state.produced = (kept options draws count).length
  dropped : state.dropped = (withFate options draws .dropped count).length
  corrupted : state.corrupted = (withFate options draws .corrupted count).length

theorem captured_start (outcomes : List SendOutcome) :
    Captured options draws 0 (startRun options outcomes) where
  made i below := absurd below (Nat.not_lt_zero i)
  capture writer started := by
    change (if options.outputFile.isSome then some FrameFileWriter.create else none) = _ at started
    split at started
    · rw [← Option.some.inj started]
      exact (List.append_nil _).symm
    · cases started
  produced := rfl
  dropped := rfl
  corrupted := rfl

theorem capture_concat (frames : List ByteVector) (bytes : ByteVector) :
    Wire.capture (frames ++ [bytes]) = Wire.capture frames ++ record bytes := by
  simp [Wire.capture]

/-- A frame that is not dropped is recorded. -/
theorem deliver_keeps {draw : Draws} {state next : RunState} {frame : TelemetryFrame}
    (encodable : Encodable frame) (delivered : deliver options draw state (wire frame) = .ok next) :
    next.capture = state.capture.map (fun writer =>
        ⟨writer.out ++ record
          (if draw.corrupt.value < options.corruptProbability then maybeCorrupt (wire frame) draw.index
           else wire frame)⟩) ∧
      next.produced = state.produced + 1 ∧ next.dropped = state.dropped ∧
      next.corrupted =
        if draw.corrupt.value < options.corruptProbability then state.corrupted + 1
        else state.corrupted := by
  unfold deliver at delivered
  simp only [decide_eq_true_eq] at delivered
  generalize shape : (if draw.corrupt.value < options.corruptProbability then
    maybeCorrupt (wire frame) draw.index else wire frame) = bytes at delivered
  have valid : replayLengthValid bytes.length = true := by
    rw [← shape]
    split
    · rw [length_maybeCorrupt]
      exact recordable_wire encodable
    · exact recordable_wire encodable
  cases sent : transmit options state bytes with
  | error stop =>
      rw [sent] at delivered
      cases delivered
  | ok after =>
      obtain ⟨capture, produced, dropped, corrupted⟩ := transmit_keeps sent
      rw [sent] at delivered
      simp only [writeCapture_ok valid] at delivered
      rw [← Except.ok.inj delivered]
      refine ⟨?_, ?_, dropped, ?_⟩
      · show after.capture.map _ = _
        rw [capture]
      · show after.produced + 1 = _
        rw [produced]
      · show (if draw.corrupt.value < options.corruptProbability then after.corrupted + 1
          else after.corrupted) = _
        rw [corrupted]

section Iteration

variable {count : Nat} {state next : RunState} {frame : TelemetryFrame}
  (before : Captured options draws count state)
  (made : makeFrame options (draws count).frame count = .ok frame) (encodable : Encodable frame)

include before made encodable

/-- The frames that were made, with one more. -/
theorem captured_made : ∀ i < count + 1,
    makeFrame options (draws i).frame i = .ok (generated options draws i) ∧
      Encodable (generated options draws i) := by
  intro i below
  rcases Nat.lt_succ_iff_lt_or_eq.mp below with earlier | rfl
  · exact before.made i earlier
  · have same : generated options draws i = frame := by rw [generated, made]
    rw [same]
    exact ⟨made, encodable⟩

/-- A lost frame is counted, and nothing else. -/
theorem captured_lost (lost : (draws count).loss.value < options.lossProbability) :
    Captured options draws (count + 1) { state with dropped := state.dropped + 1 } := by
  have fate : (draws count).fate options = .dropped := if_pos lost
  refine ⟨captured_made before made encodable, ?_, ?_, ?_, ?_⟩
  · rw [kept_succ, fate, if_neg (not_not.mpr rfl), List.append_nil]
    exact before.capture
  · rw [kept_succ, fate, if_neg (not_not.mpr rfl), List.append_nil]
    exact before.produced
  · rw [withFate_succ, if_pos fate, List.length_append, ← before.dropped]
    rfl
  · rw [withFate_succ, fate, if_neg nofun, List.append_nil]
    exact before.corrupted

/-- A frame that is sent is recorded as it was sent. -/
theorem captured_sent (sent : ¬ (draws count).loss.value < options.lossProbability)
    (delivered : deliver options (draws count) state (wire frame) = .ok next) :
    Captured options draws (count + 1) next := by
  obtain ⟨capture, produced, dropped, corrupted⟩ := deliver_keeps encodable delivered
  have fate : (draws count).fate options =
      if (draws count).corrupt.value < options.corruptProbability then .corrupted
      else .intact := if_neg sent
  have keeps : kept options draws (count + 1) = kept options draws count ++ [count] := by
    rw [kept_succ, if_pos]
    rw [fate]
    split <;> nofun
  have drops : withFate options draws .dropped (count + 1) =
      withFate options draws .dropped count := by
    rw [withFate_succ, if_neg, List.append_nil]
    rw [fate]
    split <;> nofun
  refine ⟨captured_made before made encodable, fun writer written => ?_, ?_, ?_, ?_⟩
  · rw [capture] at written
    obtain ⟨earlier, found, rfl⟩ := Option.map_eq_some_iff.mp written
    rw [keeps, List.map_append, List.map_singleton, capture_concat,
      before.capture earlier found]
    have bytes : recorded options draws count =
        if (draws count).corrupt.value < options.corruptProbability then
          maybeCorrupt (wire frame) (draws count).index
        else wire frame := by
      have same : generated options draws count = frame := by rw [generated, made]
      rw [recorded, fate, same]
      by_cases corrupts : (draws count).corrupt.value < options.corruptProbability
      · rw [if_pos corrupts, if_pos corrupts, if_pos rfl]
      · rw [if_neg corrupts, if_neg corrupts, if_neg nofun]
    rw [bytes]
  · rw [produced, keeps, List.length_append, before.produced]
    rfl
  · rw [dropped, drops]
    exact before.dropped
  · rw [corrupted, withFate_succ, fate, before.corrupted]
    by_cases corrupts : (draws count).corrupt.value < options.corruptProbability
    · rw [if_pos corrupts, if_pos corrupts, if_pos rfl, List.length_append]
      rfl
    · rw [if_neg corrupts, if_neg corrupts, if_neg nofun, List.append_nil]

end Iteration

/-- **One iteration.** -/
theorem captured_iteration {count : Nat} {state next : RunState}
    (before : Captured options draws count state)
    (stepped : iteration options (draws count) count state = .ok next) :
    Captured options draws (count + 1) next ∧ next.capture.isSome = state.capture.isSome := by
  obtain ⟨frame, made, encodable, ⟨lost, rfl⟩ | ⟨sent, delivered⟩⟩ := iteration_cases stepped
  · exact ⟨captured_lost before made encodable lost, rfl⟩
  · have kept := (deliver_keeps encodable delivered).1
    refine ⟨captured_sent before made encodable sent delivered, ?_⟩
    rw [kept, Option.isSome_map]

theorem captured_iterations (remaining count : Nat) {state final : RunState}
    (before : Captured options draws count state)
    (ran : iterations options draws remaining count state = .ok final) :
    Captured options draws (count + remaining) final := by
  induction remaining generalizing count state with
  | zero =>
      obtain rfl := Except.ok.inj ran
      exact before
  | succ remaining ih =>
      rw [iterations] at ran
      cases stepped : iteration options (draws count) count state with
      | error stop =>
          rw [stepped] at ran
          cases ran
      | ok next =>
          simp only [stepped] at ran
          have rest := ih (count + 1) (captured_iteration before stepped).1 ran
          rwa [Nat.add_right_comm, Nat.add_assoc] at rest

/-- **The capture has a record for every frame that is not dropped**, in order. -/
theorem captured_run {outcomes : List SendOutcome} {final : RunState}
    (ran : run options draws outcomes = .ok final) : Captured options draws options.count final := by
  have all := captured_iterations options.count 0 (captured_start outcomes) ran
  rwa [Nat.zero_add] at all

end Captured

/-! ## The replay -/

section Replay

variable {options : Simulator.Options} {draws : Nat → Draws} {count : Nat}

/-- What decodes of a record: the frame it was made of, or nothing. -/
theorem decode_recorded {i : Nat} (encodable : Encodable (generated options draws i)) :
    ((draws i).fate options = .corrupted →
        ∃ error, decodeFrame (recorded options draws i) = .error error) ∧
      ((draws i).fate options = .intact →
        decodeFrame (recorded options draws i) = .ok (generated options draws i)) := by
  constructor
  · intro corrupted
    have long : 0 < (wire (generated options draws i)).length := by
      rw [length_wire]
      exact Nat.succ_pos _
    have bytes : recorded options draws i =
        corruptAt (wire (generated options draws i)) ((draws i).index _ long) := by
      rw [recorded, if_pos corrupted, maybeCorrupt, dif_pos long]
    rw [bytes]
    cases decoded : decodeFrame (corruptAt (wire (generated options draws i))
        ((draws i).index _ long)) with
    | error error => exact ⟨error, rfl⟩
    | ok frame =>
        exact absurd decoded (decodeFrame_corruptAt encodable ((draws i).index _ long).isLt frame)
  · intro intact
    rw [recorded, intact, if_neg (by decide)]
    exact (decodeFrame_eq_ok_iff _ _).mpr
      ⟨wellFormed_wire encodable, (frameOf_wire encodable).symm⟩

/-- The records that decode are the intact frames. -/
theorem decoded_kept (encodable : ∀ i < count, Encodable (generated options draws i)) :
    (((kept options draws count).map (recorded options draws)).map decodeFrame).filterMap
        Except.toOption =
      (withFate options draws .intact count).map (generated options draws) := by
  induction count with
  | zero => rfl
  | succ count ih =>
      obtain ⟨corrupted, intact⟩ := decode_recorded (encodable count (Nat.lt_succ_self count))
      have before := ih fun i below => encodable i (Nat.lt_succ_of_lt below)
      rw [kept_succ, withFate_succ, List.map_append, List.map_append, List.filterMap_append,
        List.map_append, before]
      refine congrArg (_ ++ ·) ?_
      cases fate : (draws count).fate options with
      | dropped => rfl
      | corrupted =>
          obtain ⟨error, refused⟩ := corrupted fate
          simp [refused, Except.toOption]
      | intact => simp [intact fate, Except.toOption]

/-- Every frame of the run accounted for, in the capture and at the station: the frames
generated; the records of those not dropped, in order; what the station handled, the
intact frames as they were and the corrupted ones refused; and the counters. -/
structure Accounted (options : Simulator.Options) (draws : Nat → Draws) (final : RunState)
    (file : ByteVector) {decoders : Nat} (station : PipelineState decoders) : Prop where
  made : ∀ i < options.count, makeFrame options (draws i).frame i = .ok (generated options draws i) ∧
    encodeFrame (generated options draws i) = .ok (wire (generated options draws i))
  file : file = Wire.capture ((kept options draws options.count).map (recorded options draws))
  records : (kept options draws options.count).length = options.count - final.dropped
  handled : station.handled =
    ((kept options draws options.count).map (recorded options draws)).map decodeFrame
  intact : ∀ i < options.count, (draws i).fate options = .intact →
    decodeFrame (recorded options draws i) = .ok (generated options draws i)
  corrupted : ∀ i < options.count, (draws i).fate options = .corrupted →
    ∃ error, decodeFrame (recorded options draws i) = .error error
  exported : station.work.exported =
    (withFate options draws .intact options.count).map (generated options draws)
  received : station.received = final.produced
  rejected : station.work.rejected = final.corrupted
  decoded : station.work.decoded = final.produced - final.corrupted

/-- **A capture and its replay account for every frame**: for any run of the simulator
that writes a capture, and any run of the station that replays it and returns. -/
theorem capture_replay {outcomes : List SendOutcome} {final : RunState}
    (ran : run options draws outcomes = .ok final) {writer : FrameFileWriter}
    (captures : final.capture = some writer) {station : Station.Options}
    {health : StationHealthMonitor} (workers : 1 ≤ station.decoderThreads)
    {state : ReplayState station.decoderThreads}
    (reachable : (replayStation station health writer.out).Reachable state)
    (returned : state.pipeline.main = .returned) :
    Accounted options draws final writer.out state.pipeline := by
  have captured := captured_run ran
  have encodable (i : Nat) (below : i < options.count) : Encodable (generated options draws i) :=
    (captured.made i below).2
  have file := captured.capture writer captures
  have valid : ∀ bytes ∈ (kept options draws options.count).map (recorded options draws),
      replayLengthValid bytes.length = true := by
    intro bytes member
    obtain ⟨i, inside, rfl⟩ := List.mem_map.mp member
    have below := List.mem_range.mp (List.mem_filter.mp inside).1
    have size : (recorded options draws i).length = (wire (generated options draws i)).length := by
      rw [recorded]
      split
      · exact length_maybeCorrupt ..
      · rfl
    rw [size]
    exact recordable_wire (encodable i below)
  have reached := replay_reachable reachable
  rw [file] at reachable
  have submitted := replay_returned valid reachable returned
  have complete := complete_of_returned workers reached returned
  obtain ⟨decoded, rejected⟩ := counted_of_returned workers reached returned
  obtain ⟨dropped, shares⟩ := kept_length options draws options.count
  have exports := sequential_results health (state.pipeline.submitted.map decodeFrame)
  rw [submitted, decoded_kept encodable, List.length_map, List.length_map, List.length_map] at exports
  have refused : state.pipeline.work.rejected = final.corrupted := by
    have counted : (reference health state.pipeline.submitted).rejected +
        (withFate options draws .intact options.count).length =
          (kept options draws options.count).length := by
      rw [submitted]
      exact exports.2
    rw [rejected, captured.corrupted]
    omega
  have received : state.pipeline.received = final.produced := by
    rw [complete.received, decoded, rejected, reference, sequential_count, List.length_map,
      submitted, List.length_map, captured.produced]
  refine ⟨fun i below => ?_, file, ?_, ?_, fun i below => (decode_recorded (encodable i below)).2,
    fun i below => (decode_recorded (encodable i below)).1, ?_, received, refused, ?_⟩
  · exact ⟨(captured.made i below).1, (encodeFrame_eq_ok_iff _ _).mpr ⟨encodable i below, rfl⟩⟩
  · rw [captured.dropped]
    omega
  · rw [complete.handled, complete.accepted, submitted]
  · rw [complete.exported, submitted]
    exact exports.1
  · have total := complete.received
    omega

end Replay

/-! ## One corrupted frame -/

/-- `--output-file c.stgf --count 1 --payload-size 0 --corrupt 0.5`. -/
def oneCorrupted : Simulator.Options := { halfCorrupted with transport := none, count := 1 }

/-- Its only record. -/
def corruptedRecord : ByteVector := corruptAt (wire (zeroFrame 0)) 22

/-- The state it ends in. -/
def afterOne : RunState where
  capture := some ⟨Wire.capture [corruptedRecord]⟩
  produced := 1
  corrupted := 1
  outcomes := []
  deliveries := [⟨wire (zeroFrame 0), some 22⟩]

/-- `--replay c.stgf`. -/
def replayOptions : Station.Options := { replayFile := some "c.stgf" }

theorem capture_replay_corrupted :
    ∃ state : PipelineState replayOptions.decoderThreads,
      state.work.rejected = 1 ∧
        Accounted oneCorrupted (corruptFirst 22) afterOne (Wire.capture [corruptedRecord]) state := by
  have ran : Simulator.run oneCorrupted (corruptFirst 22) [] = .ok afterOne := by
    change iterations oneCorrupted _ 1 0 _ = _
    rw [iterations, iteration_zeroFrame oneCorrupted 22 0 _ rfl rfl, afterOne, corruptedRecord,
      wire_zeroFrame_zero]
    decide +kernel
  have long : (wire (zeroFrame 0)).length = 27 := by
    rw [wire_zeroFrame_zero]
    rfl
  obtain ⟨error, refused⟩ : ∃ error, decodeFrame corruptedRecord = .error error := by
    have inside : 22 < (wire (zeroFrame 0)).length := by omega
    cases decoded : decodeFrame corruptedRecord with
    | error error => exact ⟨error, rfl⟩
    | ok frame => exact absurd decoded (decodeFrame_corruptAt (encodable_zeroFrame 0) inside frame)
  have valid : replayLengthValid corruptedRecord.length = true := by
    rw [corruptedRecord, length_corruptAt, long]
    decide
  let item : DecodedWorkItem := ⟨0, decodeFrame corruptedRecord⟩
  have run := @Stgs.Theory.Transition.System.Reachable.start _
    (replayStation replayOptions freshWriter.health (Wire.capture [corruptedRecord])) _ rfl
  -- the main thread reads the record and the end of the file
  replace run := run.step (.opens rfl rfl (create_capture [corruptedRecord]))
  replace run := run.step (.submits rfl rfl rfl (readNext_record valid []))
  replace run := run.step (.main (by decide) (.pushes rfl rfl))
  replace run := run.step (.main (by decide) (.counts rfl))
  replace run := run.step (.ends rfl rfl (Or.inr rfl))
  replace run := run.step (.main (by decide) (.closesRaw rfl))
  -- the first decoder decodes it; both leave
  replace run := run.step (@ReplayStep.decoder _ _ _ _ ⟨0, by decide⟩ _ (.pops rfl rfl))
  replace run := run.step (@ReplayStep.decoder _ _ _ _ ⟨0, by decide⟩ _ (.decodes rfl))
  replace run := run.step (@ReplayStep.decoder _ _ _ _ ⟨0, by decide⟩ _ (.pushes rfl rfl))
  replace run := run.step (@ReplayStep.decoder _ _ _ _ ⟨0, by decide⟩ _ (.logs rfl))
  replace run := run.step (@ReplayStep.decoder _ _ _ _ ⟨0, by decide⟩ _ (.finishes rfl rfl))
  replace run := run.step (@ReplayStep.decoder _ _ _ _ ⟨1, by decide⟩ _ (.finishes rfl rfl))
  replace run := run.step (.main (by decide) (.joins rfl (by decide) rfl))
  replace run := run.step (.main (by decide) (.joins rfl (by decide) rfl))
  replace run := run.step (.main (by decide) (.joinsAll rfl))
  replace run := run.step (.main (by decide) (.closesDecoded rfl))
  -- the writer
  replace run := run.step (.writer (.pops rfl rfl))
  replace run := run.step (.writer (.inserts rfl fun _ member => absurd member List.not_mem_nil))
  replace run := run.step (.writer (.finds rfl (List.mem_singleton_self _) rfl))
  replace run := run.step (.writer (.handles (.countsRejected refused)))
  replace run := run.step (.writer (.handles (.recordsRejected refused)))
  replace run := run.step (.writer (.handles (.logsRejected refused)))
  replace run := run.step (.writer (.erases rfl))
  -- the map is empty again
  have erased : List.erase [item] item = [] := List.erase_cons_head ..
  have missing (other : DecodedWorkItem) (member : other ∈ List.erase [item] item) (number : Nat) :
      other.sequence ≠ number := by
    rw [erased] at member
    cases member
  replace run := run.step (.writer (.waits rfl fun other member => missing other member _))
  replace run := run.step (.writer (.drains rfl rfl))
  replace run := run.step (.writer (.checks rfl erased))
  replace run := run.step (.writer (.stores rfl))
  replace run := run.step (.writer (.finishes rfl))
  replace run := run.step (.main (by simp) (.joinsWriter rfl (Or.inl rfl)))
  replace run := run.step (.main (by simp) (.returns rfl rfl))
  have accounted := capture_replay ran rfl (by decide) run rfl
  exact ⟨_, accounted.rejected, accounted⟩

end Stgs.Simulator
