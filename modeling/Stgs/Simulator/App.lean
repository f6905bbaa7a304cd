/-
# Simulator.App -- the transmission loop

A run generates `count` frames.  Each is encoded, then lost, or possibly
corrupted, sent and recorded.  The socket is a list of `send` outcomes, the
generator a `Draws` for each frame; a run ends with the state it leaves, with the
exception it threw, or blocked in a `send`.  Port discovery, the connection, the
pacing and the terminal are not part of it.

`Faithful` is the invariant: what is on the TCP wire and what is in the capture
file are the same deliveries, each an encoded frame or one with a corrupted byte.
`deliveries` is history; the program keeps no such list.
-/
import Stgs.Simulator.FrameFactory
import Stgs.Stream.Transport
import Stgs.Wire.Replay

namespace Stgs.Simulator

open Stgs.Cli Stgs.Wire Stgs.Stream

set_option autoImplicit false

/-- A draw of `std::uniform_real_distribution<double>(0.0, 1.0)`. -/
structure UnitDraw where
  value : ℚ
  nonneg : 0 ≤ value
  lt_one : value < 1

/-- What one iteration takes from the generator. -/
structure Draws where
  frame : FrameDraws
  loss : UnitDraw
  corrupt : UnitDraw
  index : IndexDraw

/-- A frame that was not lost: its encoding, and the index that was corrupted. -/
structure Delivery where
  encoded : ByteVector
  corruptedAt : Option Nat
deriving DecidableEq, Repr

/-- The bytes delivered. -/
def Delivery.bytes (delivery : Delivery) : ByteVector :=
  match delivery.corruptedAt with
  | none => delivery.encoded
  | some index => corruptAt delivery.encoded index

structure RunState where
  wire : List ByteVector := []
  datagrams : List ByteVector := []
  capture : Option FrameFileWriter
  produced : Nat := 0
  dropped : Nat := 0
  corrupted : Nat := 0
  outcomes : List SendOutcome
  deliveries : List Delivery := []
deriving DecidableEq, Repr

inductive RunStop where
  | threw (exn : Exn)
  | blocked
deriving DecidableEq, Repr

/-- `sendUdpFrame`: one call, all or nothing. -/
def sendUdpFrame (state : RunState) (bytes : ByteVector) : Except RunStop RunState :=
  match state.outcomes with
  | [] => .error .blocked
  | .interrupted :: _ => .error (.threw (.runtimeError "sendto() failed: Interrupted system call"))
  | .failed reason :: _ => .error (.threw (.runtimeError ("sendto() failed: " ++ reason)))
  | .accepted count :: outcomes =>
      if count ≠ bytes.length then
        .error (.threw (.runtimeError "UDP datagram was not transmitted atomically"))
      else .ok { state with outcomes, datagrams := state.datagrams ++ [bytes] }

/-- The socket part of an iteration. -/
def transmit (options : Options) (state : RunState) (bytes : ByteVector) :
    Except RunStop RunState :=
  match options.transport with
  | none => .ok state
  | some .udp => sendUdpFrame state bytes
  | some .tcp =>
      match sendAll bytes state.outcomes with
      | .returned pieces outcomes => .ok { state with outcomes, wire := state.wire ++ pieces }
      | .threw exn _ => .error (.threw exn)
      | .blocked _ => .error .blocked

/-- The capture part of an iteration. -/
def writeCapture (state : RunState) (bytes : ByteVector) : Except RunStop RunState :=
  match state.capture with
  | none => .ok state
  | some writer =>
      match writer.writeFrame bytes with
      | .error exn => .error (.threw exn)
      | .ok writer => .ok { state with capture := some writer }

/-- A frame that is not lost. -/
def deliver (options : Options) (draws : Draws) (state : RunState) (encoded : ByteVector) :
    Except RunStop RunState :=
  let corrupts := decide (draws.corrupt.value < options.corruptProbability)
  let bytes := if corrupts then maybeCorrupt encoded draws.index else encoded
  let delivery : Delivery :=
    { encoded
      corruptedAt :=
        if corrupts then
          if nonempty : 0 < encoded.length then some (draws.index encoded.length nonempty) else none
        else none }
  match transmit options state bytes with
  | .error stop => .error stop
  | .ok state =>
      match writeCapture state bytes with
      | .error stop => .error stop
      | .ok state =>
          .ok { state with
                produced := state.produced + 1
                corrupted := if corrupts then state.corrupted + 1 else state.corrupted
                deliveries := state.deliveries ++ [delivery] }

/-- One iteration. -/
def iteration (options : Options) (draws : Draws) (sequence : Nat) (state : RunState) :
    Except RunStop RunState :=
  match makeFrame options draws.frame sequence with
  | .error exn => .error (.threw exn)
  | .ok frame =>
      match encodeFrame frame with
      | .error exn => .error (.threw exn)
      | .ok encoded =>
          if draws.loss.value < options.lossProbability then
            .ok { state with dropped := state.dropped + 1 }
          else deliver options draws state encoded

/-- The iterations from `sequence` on. -/
def iterations (options : Options) (draws : Nat → Draws) : Nat → Nat → RunState →
    Except RunStop RunState
  | 0, _, state => .ok state
  | remaining + 1, sequence, state =>
      match iteration options (draws sequence) sequence state with
      | .error stop => .error stop
      | .ok state => iterations options draws remaining (sequence + 1) state

/-- The state before the first frame. -/
def startRun (options : Options) (outcomes : List SendOutcome) : RunState where
  capture := if options.outputFile.isSome then some FrameFileWriter.create else none
  outcomes

/-- `run`, from the first frame on. -/
def run (options : Options) (draws : Nat → Draws) (outcomes : List SendOutcome) :
    Except RunStop RunState :=
  iterations options draws options.count 0 (startRun options outcomes)

/-! ## The invariant -/

/-- A delivery as the loop makes them: an encoded frame, corrupted inside it if at
all. -/
structure Delivery.Valid (delivery : Delivery) : Prop where
  encoded : ∃ frame, Encodable frame ∧ delivery.encoded = wire frame
  inside : ∀ index, delivery.corruptedAt = some index → index < delivery.encoded.length

/-- The wire and the capture hold the deliveries. -/
structure Faithful (state : RunState) : Prop where
  wire : state.wire.flatten = (state.deliveries.map Delivery.bytes).flatten
  capture : ∀ writer, state.capture = some writer →
    writer.out = Wire.capture (state.deliveries.map Delivery.bytes)
  valid : ∀ delivery ∈ state.deliveries, delivery.Valid

@[simp] theorem Delivery.length_bytes (delivery : Delivery) :
    delivery.bytes.length = delivery.encoded.length := by
  unfold Delivery.bytes
  split
  · rfl
  · exact length_corruptAt _ _

/-- An encoded frame has the size of a record. -/
theorem recordable_wire {frame : TelemetryFrame} (encodable : Encodable frame) :
    replayLengthValid (wire frame).length = true := by
  have bound := wire_length_le encodable
  have long := length_wire frame
  have sizes : minFrameSize = headerSize + crcSize := rfl
  rw [replayLengthValid, Bool.and_eq_true, decide_eq_true_eq, decide_eq_true_eq]
  omega

theorem Delivery.Valid.recordable {delivery : Delivery} (valid : delivery.Valid) :
    replayLengthValid delivery.bytes.length = true := by
  obtain ⟨frame, encodable, encoded⟩ := valid.encoded
  rw [Delivery.length_bytes, encoded]
  exact recordable_wire encodable

theorem faithful_start (options : Options) (outcomes : List SendOutcome) :
    Faithful (startRun options outcomes) where
  wire := rfl
  capture := by
    intro writer started
    change (if options.outputFile.isSome then some FrameFileWriter.create else none) = _ at started
    split at started
    · rw [← Option.some.inj started]
      exact (List.append_nil _).symm
    · cases started
  valid := by
    intro delivery member
    cases member

/-! ## One iteration -/

/-- What the loop hands to the socket and to the file is the delivery's bytes. -/
theorem bytes_of_draws (encoded : ByteVector) (corrupts : Bool) (draw : IndexDraw) :
    (if corrupts then maybeCorrupt encoded draw else encoded) =
      Delivery.bytes
        { encoded
          corruptedAt :=
            if corrupts then
              if nonempty : 0 < encoded.length then some (draw encoded.length nonempty) else none
            else none } := by
  cases corrupts with
  | false => rfl
  | true =>
      by_cases nonempty : 0 < encoded.length
      · simp [Delivery.bytes, maybeCorrupt, nonempty]
      · simp [Delivery.bytes, maybeCorrupt, nonempty]

theorem transmit_tcp {options : Options} (tcp : options.transport = some .tcp)
    {state next : RunState} {bytes : ByteVector}
    (sent : transmit options state bytes = .ok next) :
    ∃ pieces unused, pieces.flatten = bytes ∧
      next = { state with outcomes := unused, wire := state.wire ++ pieces } := by
  simp only [transmit, tcp] at sent
  cases result : sendAll bytes state.outcomes with
  | returned pieces unused =>
      rw [result] at sent
      exact ⟨pieces, unused, sendAll_flatten result, (Except.ok.inj sent).symm⟩
  | threw exn pieces =>
      rw [result] at sent
      cases sent
  | blocked pieces =>
      rw [result] at sent
      cases sent

theorem writeCapture_ok {state : RunState} {bytes : ByteVector}
    (valid : replayLengthValid bytes.length = true) :
    writeCapture state bytes =
      .ok { state with capture := state.capture.map fun writer => ⟨writer.out ++ record bytes⟩ } := by
  obtain ⟨_, _, capture, _, _, _, _, _⟩ := state
  cases capture with
  | none => rfl
  | some writer =>
      rw [writeCapture]
      simp only [writeFrame_ok valid, Option.map_some]

/-- A state that a delivery over TCP leads to. -/
structure Delivered (delivery : Delivery) (state next : RunState) : Prop where
  valid : delivery.Valid
  wire : next.wire.flatten = state.wire.flatten ++ delivery.bytes
  capture : next.capture = state.capture.map fun writer => ⟨writer.out ++ record delivery.bytes⟩
  deliveries : next.deliveries = state.deliveries ++ [delivery]

theorem deliver_tcp {options : Options} (tcp : options.transport = some .tcp) {draws : Draws}
    {state next : RunState} {frame : TelemetryFrame} (encodable : Encodable frame)
    (delivered : deliver options draws state (wire frame) = .ok next) :
    ∃ delivery, Delivered delivery state next := by
  unfold deliver at delivered
  dsimp only at delivered
  rw [bytes_of_draws] at delivered
  generalize shape : (Delivery.mk (wire frame) _) = delivery at delivered
  have encoded : delivery.encoded = wire frame := by rw [← shape]
  have valid : delivery.Valid := by
    refine ⟨⟨frame, encodable, encoded⟩, fun index corrupted => ?_⟩
    rw [encoded]
    rw [← shape] at corrupted
    dsimp only at corrupted
    split at corrupted
    · split at corrupted
      · rw [← Option.some.inj corrupted]
        exact (draws.index _ _).isLt
      · cases corrupted
    · cases corrupted
  cases sent : transmit options state delivery.bytes with
  | error stop =>
      rw [sent] at delivered
      cases delivered
  | ok after =>
      obtain ⟨pieces, unused, flat, rfl⟩ := transmit_tcp tcp sent
      rw [sent] at delivered
      simp only [writeCapture_ok valid.recordable] at delivered
      refine ⟨delivery, valid, ?_, ?_, ?_⟩
      · rw [← Except.ok.inj delivered, ← flat]
        exact List.flatten_append
      · rw [← Except.ok.inj delivered]
      · rw [← Except.ok.inj delivered]

/-- An iteration whose frame can be encoded and is not lost. -/
theorem iteration_kept {options : Options} {draws : Draws} {sequence : Nat} {frame : TelemetryFrame}
    (made : makeFrame options draws.frame sequence = .ok frame) (encodable : Encodable frame)
    (kept : ¬ draws.loss.value < options.lossProbability) (state : RunState) :
    iteration options draws sequence state = deliver options draws state (wire frame) := by
  have encoded := (encodeFrame_eq_ok_iff frame _).mpr ⟨encodable, rfl⟩
  simp only [iteration, made, encoded, if_neg kept]

/-- **What one iteration does**: its frame is made and can be encoded, and it is lost
or delivered. -/
theorem iteration_cases {options : Options} {draws : Draws} {sequence : Nat}
    {state next : RunState} (stepped : iteration options draws sequence state = .ok next) :
    ∃ frame, makeFrame options draws.frame sequence = .ok frame ∧ Encodable frame ∧
      ((draws.loss.value < options.lossProbability ∧
          next = { state with dropped := state.dropped + 1 }) ∨
        (¬ draws.loss.value < options.lossProbability ∧
          deliver options draws state (wire frame) = .ok next)) := by
  unfold iteration at stepped
  cases made : makeFrame options draws.frame sequence with
  | error exn =>
      rw [made] at stepped
      cases stepped
  | ok frame =>
      simp only [made] at stepped
      cases coded : encodeFrame frame with
      | error exn =>
          rw [coded] at stepped
          cases stepped
      | ok encoded =>
          obtain ⟨encodable, rfl⟩ := (encodeFrame_eq_ok_iff frame encoded).mp coded
          simp only [coded] at stepped
          refine ⟨frame, rfl, encodable, ?_⟩
          split at stepped
          · rename_i lost
            exact Or.inl ⟨lost, (Except.ok.inj stepped).symm⟩
          · rename_i sent
            exact Or.inr ⟨sent, stepped⟩

/-- Over TCP it loses the frame, or delivers it. -/
theorem iteration_tcp {options : Options} (tcp : options.transport = some .tcp) {draws : Draws}
    {sequence : Nat} {state next : RunState}
    (stepped : iteration options draws sequence state = .ok next) :
    next = { state with dropped := state.dropped + 1 } ∨
      ∃ delivery, Delivered delivery state next := by
  obtain ⟨frame, _, encodable, ⟨_, lost⟩ | ⟨_, delivered⟩⟩ := iteration_cases stepped
  · exact Or.inl lost
  · exact Or.inr (deliver_tcp tcp encodable delivered)

/-! ## A run -/

theorem Faithful.delivered {delivery : Delivery} {state next : RunState}
    (faithful : Faithful state) (step : Delivered delivery state next) : Faithful next where
  wire := by
    rw [step.wire, faithful.wire, step.deliveries, List.map_append, List.flatten_append,
      List.map_singleton, List.flatten_singleton]
  capture := by
    intro writer written
    rw [step.capture] at written
    obtain ⟨before, open_before, rfl⟩ := Option.map_eq_some_iff.mp written
    rw [faithful.capture before open_before, step.deliveries, Wire.capture, Wire.capture,
      List.map_append, List.map_append, List.flatten_append, List.append_assoc]
    simp
  valid := by
    intro other member
    rw [step.deliveries, List.mem_append, List.mem_singleton] at member
    rcases member with earlier | rfl
    · exact faithful.valid other earlier
    · exact step.valid

theorem faithful_iterations {options : Options} (tcp : options.transport = some .tcp)
    {draws : Nat → Draws} (remaining sequence : Nat) {state final : RunState}
    (faithful : Faithful state)
    (ran : iterations options draws remaining sequence state = .ok final) :
    Faithful final ∧ final.capture.isSome = state.capture.isSome := by
  induction remaining generalizing sequence state with
  | zero =>
      obtain rfl := Except.ok.inj ran
      exact ⟨faithful, rfl⟩
  | succ remaining ih =>
      rw [iterations] at ran
      cases stepped : iteration options (draws sequence) sequence state with
      | error stop =>
          rw [stepped] at ran
          cases ran
      | ok next =>
          simp only [stepped] at ran
          rcases iteration_tcp tcp stepped with rfl | ⟨delivery, step⟩
          · have lost : Faithful { state with dropped := state.dropped + 1 } :=
              ⟨faithful.wire, faithful.capture, faithful.valid⟩
            have rest := ih (sequence + 1) lost ran
            exact rest
          · obtain ⟨kept, recorded⟩ := ih (sequence + 1) (faithful.delivered step) ran
            refine ⟨kept, ?_⟩
            rw [recorded, step.capture, Option.isSome_map]

/-- **A run over TCP puts the same deliveries on the wire and in the capture.** -/
theorem faithful_run {options : Options} (tcp : options.transport = some .tcp)
    {draws : Nat → Draws} {outcomes : List SendOutcome} {final : RunState}
    (ran : run options draws outcomes = .ok final) :
    Faithful final ∧ final.capture.isSome = options.outputFile.isSome := by
  obtain ⟨faithful, recorded⟩ :=
    faithful_iterations tcp options.count 0 (faithful_start options outcomes) ran
  refine ⟨faithful, recorded.trans ?_⟩
  rw [startRun]
  cases options.outputFile <;> rfl

end Stgs.Simulator
