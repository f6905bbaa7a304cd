/-
# Station.Processing -- what the writer does with one decoded frame

`processApplicationPayload` decodes the payload of a frame and shows a message or a
filtered signal, or counts an application error.  An opaque payload leaves no
trace.  `handleDecoded` is the writer's whole work on the frame: count it, update
the health monitor, process the payload, export it, count it again.  Terminal, log
and export file are lists of what they were given; writing to them does not fail
here.

Nothing in a payload should be able to stop the writer.  `handleDecoded_iff` says
what can: a signal block whose projection leaves the range of a float
(`ProjectionOverflows`), with the projection as the filter.
-/
import Stgs.Station.SignalProcessing
import Stgs.Wire.CodecBijection

namespace Stgs.Station

open Stgs.Cli Stgs.Theory.Projection Stgs.Wire

set_option autoImplicit false

/-- What is shown on the terminal: the arguments of `receivedMessage` and
`receivedSignal`. -/
inductive Shown where
  | message (satelliteId : UInt16) (sequence : UInt32) (text : ByteVector)
  | signal (satelliteId sampleRateHz : UInt16) (frequencyHz nominalAmplitude : Binary32)
      (raw filtered : List Binary32) (metrics : SignalMetrics) (filterMode : SignalFilterMode)

/-- What is given to the logger. -/
inductive LogEntry where
  | transition (transition : StationStateTransition)
  | payloadRejected (error : ApplicationPayloadError)
  | decoded (sequence : Nat) (frame : TelemetryFrame)
  | rejected (sequence : Nat) (error : FrameError)

/-- What the writer reads and changes while it handles a result. -/
structure WriterState where
  decoded : Nat := 0
  rejected : Nat := 0
  written : Nat := 0
  applicationErrors : Nat := 0
  health : StationHealthMonitor
  terminal : List Shown := []
  log : List LogEntry := []
  exported : List TelemetryFrame := []

/-! ## The payload -/

/-- The switch on the filter. -/
noncomputable def applyFilter (options : Options) (signal : SignalBlockPayload) :
    Except Exn (List Binary32) :=
  match options.signalFilter with
  | .none => .ok signal.samples
  | .movingAverage => movingAverageFilter signal.samples options.movingAverageWindow
  | .sineProjection =>
      sineProjectionFilter signal.samples signal.sampleRateHz signal.frequencyHz
        signal.startSampleIndex

/-- The signal branch: what is shown. -/
noncomputable def processSignal (options : Options) (frame : TelemetryFrame)
    (signal : SignalBlockPayload) : Except Exn Shown :=
  match applyFilter options signal with
  | .error exn => .error exn
  | .ok filtered =>
      match computeSignalMetrics signal.samples filtered signal.sampleRateHz signal.frequencyHz
          signal.startSampleIndex with
      | .error exn => .error exn
      | .ok metrics =>
          .ok (.signal frame.satelliteId signal.sampleRateHz signal.frequencyHz
            signal.nominalAmplitude signal.samples filtered metrics options.signalFilter)

noncomputable def processApplicationPayload (options : Options) (frame : TelemetryFrame)
    (state : WriterState) : Except Exn WriterState :=
  match decodeApplicationPayload frame.payload with
  | .monostate => .ok state
  | .text message =>
      .ok { state with
            terminal := state.terminal ++
              [.message frame.satelliteId message.sequence message.text] }
  | .signal signal =>
      match processSignal options frame signal with
      | .error exn => .error exn
      | .ok shown => .ok { state with terminal := state.terminal ++ [shown] }
  | .error error =>
      .ok { state with
            applicationErrors := state.applicationErrors + 1
            log := state.log ++ [.payloadRejected error] }

/-! ## The frame -/

/-- The health update of a decoded frame, and the log line of a transition. -/
def recordDecoded (frame : TelemetryFrame) (state : WriterState) : WriterState :=
  let recorded := state.health.recordDecoded frame
  { state with
    health := recorded.2
    log := state.log ++ recorded.1.toList.map .transition }

def recordRejected (state : WriterState) : WriterState :=
  let recorded := state.health.recordRejected
  { state with
    health := recorded.2
    log := state.log ++ recorded.1.toList.map .transition }

/-- `++decoded_` and `++rejected_`. -/
def countDecoded (state : WriterState) : WriterState := { state with decoded := state.decoded + 1 }

def countRejected (state : WriterState) : WriterState := { state with rejected := state.rejected + 1 }

/-- `output_.write(*frame)`. -/
def exportFrame (frame : TelemetryFrame) (state : WriterState) : WriterState :=
  { state with exported := state.exported ++ [frame] }

/-- `++written_`. -/
def countWritten (state : WriterState) : WriterState := { state with written := state.written + 1 }

def logDecoded (options : Options) (sequence : Nat) (frame : TelemetryFrame) (state : WriterState) :
    WriterState :=
  if options.verbose then { state with log := state.log ++ [.decoded sequence frame] } else state

def logRejected (sequence : Nat) (error : FrameError) (state : WriterState) : WriterState :=
  { state with log := state.log ++ [.rejected sequence error] }

/-- The branch of the writer for a decoded frame. -/
noncomputable def handleDecoded (options : Options) (sequence : Nat) (frame : TelemetryFrame)
    (state : WriterState) : Except Exn WriterState :=
  match processApplicationPayload options frame (recordDecoded frame (countDecoded state)) with
  | .error exn => .error exn
  | .ok state => .ok (logDecoded options sequence frame (countWritten (exportFrame frame state)))

/-- The branch for a rejected one. -/
def handleRejected (sequence : Nat) (error : FrameError) (state : WriterState) : WriterState :=
  logRejected sequence error (recordRejected (countRejected state))

/-- The writer's work on one result. -/
noncomputable def handleResult (options : Options) (sequence : Nat) (result : FrameParseResult)
    (state : WriterState) : Except Exn WriterState :=
  match result with
  | .ok frame => handleDecoded options sequence frame state
  | .error error => .ok (handleRejected sequence error state)

/-! ## What a payload can do -/

/-- The effects a payload may have: one thing shown, or one error counted, or none. -/
def PayloadEffect (state next : WriterState) : Prop :=
  (∃ shown, next.terminal = state.terminal ++ [shown] ∧
      next.applicationErrors = state.applicationErrors) ∨
    (next.terminal = state.terminal ∧ next.applicationErrors = state.applicationErrors + 1) ∨
    (next.terminal = state.terminal ∧ next.applicationErrors = state.applicationErrors)

/-- Processing has no other effect. -/
structure Processed (state next : WriterState) : Prop where
  payload : PayloadEffect state next
  decoded : next.decoded = state.decoded
  rejected : next.rejected = state.rejected
  written : next.written = state.written
  health : next.health = state.health
  exported : next.exported = state.exported

/-- The errors a frame's payload counts for. -/
def payloadErrors (frame : TelemetryFrame) : Nat :=
  match decodeApplicationPayload frame.payload with
  | .error _ => 1
  | _ => 0

/-- **What processing can do**: nothing, show one thing, or count and log one error. -/
theorem processApplicationPayload_cases {options : Options} {frame : TelemetryFrame}
    {state next : WriterState}
    (processed : processApplicationPayload options frame state = .ok next) :
    (payloadErrors frame = 0 ∧ next = state) ∨
      (∃ shown, payloadErrors frame = 0 ∧
        next = { state with terminal := state.terminal ++ [shown] }) ∨
      ∃ error, payloadErrors frame = 1 ∧
        next = { state with
          applicationErrors := state.applicationErrors + 1
          log := state.log ++ [.payloadRejected error] } := by
  unfold processApplicationPayload at processed
  unfold payloadErrors
  cases decoded : decodeApplicationPayload frame.payload with
  | monostate =>
      rw [decoded] at processed
      exact Or.inl ⟨rfl, (Except.ok.inj processed).symm⟩
  | text message =>
      rw [decoded] at processed
      exact Or.inr (Or.inl ⟨_, rfl, (Except.ok.inj processed).symm⟩)
  | signal signal =>
      simp only [decoded] at processed
      cases shows : processSignal options frame signal with
      | error exn =>
          rw [shows] at processed
          cases processed
      | ok shown =>
          rw [shows] at processed
          exact Or.inr (Or.inl ⟨_, rfl, (Except.ok.inj processed).symm⟩)
  | error error =>
      rw [decoded] at processed
      exact Or.inr (Or.inr ⟨_, rfl, (Except.ok.inj processed).symm⟩)

theorem processApplicationPayload_effect {options : Options} {frame : TelemetryFrame}
    {state next : WriterState}
    (processed : processApplicationPayload options frame state = .ok next) :
    Processed state next := by
  rcases processApplicationPayload_cases processed with
    ⟨_, rfl⟩ | ⟨shown, _, rfl⟩ | ⟨error, _, rfl⟩
  · exact ⟨Or.inr (Or.inr ⟨rfl, rfl⟩), rfl, rfl, rfl, rfl, rfl⟩
  · exact ⟨Or.inl ⟨_, rfl, rfl⟩, rfl, rfl, rfl, rfl, rfl⟩
  · exact ⟨Or.inr (Or.inl ⟨rfl, rfl⟩), rfl, rfl, rfl, rfl, rfl⟩

theorem processApplicationPayload_errors {options : Options} {frame : TelemetryFrame}
    {state next : WriterState}
    (processed : processApplicationPayload options frame state = .ok next) :
    next.applicationErrors = state.applicationErrors + payloadErrors frame := by
  rcases processApplicationPayload_cases processed with
    ⟨none, rfl⟩ | ⟨shown, none, rfl⟩ | ⟨error, one, rfl⟩
  · rw [none, Nat.add_zero]
  · rw [none, Nat.add_zero]
  · rw [one]

/-- The block is one whose projection, taken as a mean of its samples weighted by
`1 + 2 cos` of their phase distance, exceeds the largest float somewhere. -/
def SignalOverflows (signal : SignalBlockPayload) : Prop :=
  ∃ i < signal.samples.length, floatMax ℝ < |projectionAt signal i|

/-- The filter is the projection, and the payload a block that overflows. -/
def ProjectionOverflows (options : Options) (frame : TelemetryFrame) : Prop :=
  options.signalFilter = .sineProjection ∧
    ∃ signal, decodeApplicationPayload frame.payload = .signal signal ∧ SignalOverflows signal

/-- A filter returns as many samples, all finite but for an overflow. -/
theorem applyFilter_checked {options : Options} (odd : options.movingAverageWindow % 2 = 1)
    {signal : SignalBlockPayload} (checked : SignalChecked signal) :
    ∃ filtered, applyFilter options signal = .ok filtered ∧
      filtered.length = signal.samples.length ∧
        (AllFinite filtered ↔ ¬ (options.signalFilter = .sineProjection ∧ SignalOverflows signal)) := by
  unfold applyFilter
  cases mode : options.signalFilter with
  | none => exact ⟨_, rfl, rfl, iff_of_true checked.samples (by simp)⟩
  | movingAverage =>
      obtain ⟨filtered, filters, lengths, finite⟩ := movingAverageFilter_finite checked.samples odd
      exact ⟨filtered, filters, lengths, iff_of_true finite (by simp)⟩
  | sineProjection =>
      obtain ⟨filtered, filters, lengths, finite⟩ := sineProjectionFilter_checked checked
      refine ⟨filtered, filters, lengths, finite.trans ?_⟩
      rw [SignalOverflows]
      push Not
      simp

theorem processSignal_iff {options : Options} (odd : options.movingAverageWindow % 2 = 1)
    (frame : TelemetryFrame) {signal : SignalBlockPayload} (checked : SignalChecked signal) :
    (∃ shown, processSignal options frame signal = .ok shown) ↔
      ¬ (options.signalFilter = .sineProjection ∧ SignalOverflows signal) := by
  obtain ⟨filtered, filters, lengths, finite⟩ := applyFilter_checked odd checked
  rw [← finite, ← computeSignalMetrics_checked checked lengths]
  unfold processSignal
  rw [filters]
  dsimp only
  constructor
  · rintro ⟨shown, shows⟩
    cases computed : computeSignalMetrics signal.samples filtered signal.sampleRateHz
        signal.frequencyHz signal.startSampleIndex with
    | error exn =>
        rw [computed] at shows
        cases shows
    | ok metrics => exact ⟨metrics, rfl⟩
  · rintro ⟨metrics, computed⟩
    rw [computed]
    exact ⟨_, rfl⟩

/-- **Which payloads are processed**: all but those that overflow. -/
theorem processApplicationPayload_iff {options : Options}
    (odd : options.movingAverageWindow % 2 = 1) (frame : TelemetryFrame) (state : WriterState) :
    (∃ next, processApplicationPayload options frame state = .ok next) ↔
      ¬ ProjectionOverflows options frame := by
  unfold processApplicationPayload ProjectionOverflows
  cases decoded : decodeApplicationPayload frame.payload with
  | monostate => exact iff_of_true ⟨_, rfl⟩ (by simp)
  | text message => exact iff_of_true ⟨_, rfl⟩ (by simp)
  | error error => exact iff_of_true ⟨_, rfl⟩ (by simp)
  | signal signal =>
      have shows := processSignal_iff odd frame (decodeApplicationPayload_signal decoded)
      simp only [ApplicationPayloadParseResult.signal.injEq, exists_eq_left']
      rw [← shows]
      constructor
      · rintro ⟨next, processed⟩
        cases result : processSignal options frame signal with
        | error exn =>
            rw [result] at processed
            cases processed
        | ok shown => exact ⟨shown, rfl⟩
      · rintro ⟨shown, result⟩
        rw [result]
        exact ⟨_, rfl⟩

/-! ## What a frame can do -/

/-- The frame was counted, recorded and exported, and its payload had no other
effect than those it may have. -/
structure Handled (frame : TelemetryFrame) (state next : WriterState) : Prop where
  payload : PayloadEffect state next
  decoded : next.decoded = state.decoded + 1
  rejected : next.rejected = state.rejected
  written : next.written = state.written + 1
  health : next.health = (state.health.recordDecoded frame).2
  exported : next.exported = state.exported ++ [frame]

/-- The work on a frame is done if its payload is processed. -/
theorem handleDecoded_ok_iff (options : Options) (sequence : Nat) (frame : TelemetryFrame)
    (state : WriterState) :
    (∃ next, handleDecoded options sequence frame state = .ok next) ↔
      ∃ processed, processApplicationPayload options frame
        (recordDecoded frame (countDecoded state)) = .ok processed := by
  unfold handleDecoded
  cases processApplicationPayload options frame (recordDecoded frame (countDecoded state)) with
  | error exn => simp
  | ok processed => simp

theorem handleDecoded_effect {options : Options} {sequence : Nat} {frame : TelemetryFrame}
    {state next : WriterState} (handled : handleDecoded options sequence frame state = .ok next) :
    Handled frame state next := by
  unfold handleDecoded at handled
  cases result : processApplicationPayload options frame
      (recordDecoded frame (countDecoded state)) with
  | error exn =>
      rw [result] at handled
      cases handled
  | ok processed =>
      rw [result] at handled
      obtain rfl := Except.ok.inj handled
      have effect := processApplicationPayload_effect result
      unfold logDecoded
      split
      · exact ⟨effect.payload, effect.decoded, effect.rejected, congrArg (· + 1) effect.written,
          effect.health, congrArg (· ++ [frame]) effect.exported⟩
      · exact ⟨effect.payload, effect.decoded, effect.rejected, congrArg (· + 1) effect.written,
          effect.health, congrArg (· ++ [frame]) effect.exported⟩

/-- **What can stop the writer.**  Under accepted options the work on a decoded
frame throws nothing, and has no effect but the expected ones, exactly when the
frame does not carry a signal block whose projection overflows. -/
theorem handleDecoded_iff {strtod : String → Strtod} {args : List String} {options : Options}
    (parsed : parseArgs strtod args = .ok options) (sequence : Nat) (frame : TelemetryFrame)
    (state : WriterState) :
    (∃ next, handleDecoded options sequence frame state = .ok next ∧ Handled frame state next) ↔
      ¬ ProjectionOverflows options frame := by
  rw [← processApplicationPayload_iff (parseArgs_window_odd parsed) frame
    (recordDecoded frame (countDecoded state)), ← handleDecoded_ok_iff]
  constructor
  · rintro ⟨next, handled, _⟩
    exact ⟨next, handled⟩
  · rintro ⟨next, handled⟩
    exact ⟨next, handled, handleDecoded_effect handled⟩

/-! ## One sample -/

/-- A block of one sample: 200 Hz, a sine of 5 Hz and amplitude 1. -/
def oneSample (sample : Binary32) : SignalBlockPayload where
  sampleRateHz := 200
  frequencyHz := ⟨0x40A00000⟩
  nominalAmplitude := ⟨0x3F800000⟩
  samples := [sample]

/-- The frame with that block. -/
def oneSampleFrame (sample : Binary32) : TelemetryFrame where
  payload := appendFloatBE [0x53, 0x54, 0x47, 0x41, 1, 2, 0, 200, 0x40, 0xA0, 0, 0, 0x3F, 0x80, 0, 0,
    0, 0, 0, 0, 0, 1] sample

def largestFloat : Binary32 := ⟨0x7F7FFFFF⟩

/-- The writer before its first result, with the default monitor. -/
def freshWriter : WriterState where
  health := ⟨{}, [], .nominal, refusal_default, Nat.zero_le _⟩

/-- `--udp`: the filter is the projection. -/
def udpOptions : Options where
  transport := some .udp

theorem parseArgs_udp (strtod : String → Strtod) : parseArgs strtod ["--udp"] = .ok udpOptions := rfl

theorem projectionAt_oneSample (sample : Binary32) :
    projectionAt (oneSample sample) 0 = 3 * sample.value ℝ :=
  kernelMean_one _ _

theorem oneSample_overflows : SignalOverflows (oneSample largestFloat) := by
  have value : largestFloat.value ℝ = floatMax ℝ := by
    have positive : largestFloat.bits.toNat < signBit := by decide
    rw [Binary32.value, if_pos positive]
    rfl
  refine ⟨0, by decide, ?_⟩
  have positive := floatMax_pos ℝ
  rw [projectionAt_oneSample, value, abs_of_pos (by linarith)]
  linarith

/-- A sample of zero is shown, and the frame exported. -/
theorem handleDecoded_zero : ∃ next,
    handleDecoded udpOptions 0 (oneSampleFrame ⟨0⟩) freshWriter = .ok next ∧
      Handled (oneSampleFrame ⟨0⟩) freshWriter next := by
  refine (handleDecoded_iff (parseArgs_udp fun _ => ⟨none, 0, false⟩) 0 _ freshWriter).mpr ?_
  rintro ⟨_, signal, decoded, i, inside, overflows⟩
  have block : decodeApplicationPayload (oneSampleFrame ⟨0⟩).payload = .signal (oneSample ⟨0⟩) := by
    decide +kernel
  obtain rfl := ApplicationPayloadParseResult.signal.inj (block.symm.trans decoded)
  refine absurd (abs_projectionAt_le ?_ i inside) (not_le.mpr overflows)
  intro sample member
  obtain rfl := List.mem_singleton.mp member
  have zero : (⟨0⟩ : Binary32).value ℝ = 0 := by
    simp [Binary32.value, signBit, Stgs.Theory.BinaryFormat.magnitude,
      Stgs.Theory.BinaryFormat.scaled]
  have positive := floatMax_pos ℝ
  rw [zero, abs_zero]
  linarith

/-- **One sample stops the station**: the largest float comes back three times as
large, the cast gives an infinity, and the metrics throw. -/
theorem handleDecoded_throws :
    ¬ ∀ (strtod : String → Strtod) (args : List String) (options : Options) (bytes : ByteVector)
      (frame : TelemetryFrame) (sequence : Nat) (state : WriterState),
      parseArgs strtod args = .ok options → decodeFrame bytes = .ok frame →
        ∃ next, handleDecoded options sequence frame state = .ok next ∧ Handled frame state next := by
  intro contained
  have encodable : Encodable (oneSampleFrame largestFloat) :=
    { encodable_default with payload := by decide }
  have received := (encode_iff_decode _ _).mp ((encodeFrame_eq_ok_iff _ _).mpr ⟨encodable, rfl⟩)
  have parsed := parseArgs_udp fun _ => ⟨none, 0, false⟩
  obtain ⟨next, handled, _⟩ := contained _ _ _ _ _ 0 freshWriter parsed received
  have processed := (handleDecoded_ok_iff _ _ _ _).mp ⟨next, handled⟩
  refine (processApplicationPayload_iff (parseArgs_window_odd parsed) _ _).mp processed ?_
  exact ⟨rfl, oneSample largestFloat, by decide +kernel, oneSample_overflows⟩

end Stgs.Station
