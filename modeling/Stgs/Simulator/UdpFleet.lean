/-
# Simulator.UdpFleet -- simulators on UDP, and a network in between

A simulator on UDP sends each frame that is not dropped as one datagram (`datagrams_run`).
The network may lose datagrams, repeat them and change their order, within a simulator and
among them; it does not change one.  So what arrives is a list of labels, the simulator and
the number of the frame.

`udp_fleet`: a station exports the frames of the labels that were sent intact, in the order
in which they arrived and as often, and it counts a rejection for each of the others.  On a
network that does nothing of this, it does what the replay of the capture does.
-/
import Stgs.Simulator.CaptureReplay
import Stgs.Simulator.Fleet
import Stgs.Station.NetworkInput

namespace Stgs.Simulator

open Stgs.Cli Stgs.Wire Stgs.Stream Stgs.Station Stgs.Theory.Transition

set_option autoImplicit false

/-! ## What a simulator sends -/

section Datagrams

variable {options : Simulator.Options} {draws : Nat → Draws}

theorem transmit_udp (udp : options.transport = some .udp) {state next : RunState}
    {bytes : ByteVector} (sent : transmit options state bytes = .ok next) :
    next.datagrams = state.datagrams ++ [bytes] := by
  simp only [transmit, udp] at sent
  unfold sendUdpFrame at sent
  split at sent
  · cases sent
  · cases sent
  · cases sent
  · split at sent
    · cases sent
    · obtain rfl := Except.ok.inj sent
      rfl

theorem writeCapture_datagrams {state next : RunState} {bytes : ByteVector}
    (written : writeCapture state bytes = .ok next) : next.datagrams = state.datagrams := by
  unfold writeCapture at written
  split at written
  · obtain rfl := Except.ok.inj written
    rfl
  · split at written
    · cases written
    · obtain rfl := Except.ok.inj written
      rfl

theorem deliver_datagrams (udp : options.transport = some .udp) {draw : Draws}
    {state next : RunState} {encoded : ByteVector}
    (delivered : deliver options draw state encoded = .ok next) :
    next.datagrams = state.datagrams ++
      [if draw.corrupt.value < options.corruptProbability then maybeCorrupt encoded draw.index
        else encoded] := by
  unfold deliver at delivered
  simp only [decide_eq_true_eq] at delivered
  cases sent : transmit options state
      (if draw.corrupt.value < options.corruptProbability then maybeCorrupt encoded draw.index
        else encoded) with
  | error stop =>
      rw [sent] at delivered
      cases delivered
  | ok after =>
      simp only [sent] at delivered
      cases written : writeCapture after
          (if draw.corrupt.value < options.corruptProbability then maybeCorrupt encoded draw.index
            else encoded) with
      | error stop =>
          rw [written] at delivered
          cases delivered
      | ok later =>
          rw [written] at delivered
          rw [← Except.ok.inj delivered]
          show later.datagrams = _
          rw [writeCapture_datagrams written, transmit_udp udp sent]

/-- The frame of an iteration, as it is sent. -/
theorem recorded_sent {count : Nat} {frame : TelemetryFrame}
    (made : makeFrame options (draws count).frame count = .ok frame)
    (sent : ¬ (draws count).loss.value < options.lossProbability) :
    recorded options draws count =
      if (draws count).corrupt.value < options.corruptProbability then
        maybeCorrupt (wire frame) (draws count).index
      else wire frame := by
  have fate : (draws count).fate options =
      if (draws count).corrupt.value < options.corruptProbability then .corrupted
      else .intact := if_neg sent
  have same : generated options draws count = frame := by rw [generated, made]
  rw [recorded, fate, same]
  by_cases corrupts : (draws count).corrupt.value < options.corruptProbability
  · rw [if_pos corrupts, if_pos corrupts, if_pos rfl]
  · rw [if_neg corrupts, if_neg corrupts, if_neg (by decide)]

theorem datagrams_iteration (udp : options.transport = some .udp) {count : Nat}
    {state next : RunState}
    (before : state.datagrams = (kept options draws count).map (recorded options draws))
    (stepped : iteration options (draws count) count state = .ok next) :
    next.datagrams = (kept options draws (count + 1)).map (recorded options draws) := by
  obtain ⟨frame, made, encodable, ⟨lost, rfl⟩ | ⟨sent, delivered⟩⟩ := iteration_cases stepped
  · have fate : (draws count).fate options = .dropped := if_pos lost
    rw [kept_succ, fate, if_neg (not_not.mpr rfl), List.append_nil]
    exact before
  · have fate : (draws count).fate options ≠ .dropped := by
      rw [Draws.fate, if_neg sent]
      split <;> decide
    rw [deliver_datagrams udp delivered, kept_succ, if_pos fate, List.map_append, before,
      List.map_singleton, recorded_sent made sent]

theorem datagrams_iterations (udp : options.transport = some .udp) (remaining count : Nat)
    {state final : RunState}
    (before : state.datagrams = (kept options draws count).map (recorded options draws))
    (ran : iterations options draws remaining count state = .ok final) :
    final.datagrams = (kept options draws (count + remaining)).map (recorded options draws) := by
  induction remaining generalizing count state with
  | zero =>
      obtain rfl := Except.ok.inj ran
      exact before
  | succ remaining ih =>
      rw [iterations] at ran
      cases stepped : iteration options (draws count) count state with
      | error stop =>
          rw [stepped] at ran
          cases ran
      | ok next =>
          simp only [stepped] at ran
          have rest := ih (count + 1) (datagrams_iteration udp before stepped) ran
          rwa [Nat.add_right_comm, Nat.add_assoc] at rest

/-- **A datagram for every frame that is not dropped**, in order. -/
theorem datagrams_run (udp : options.transport = some .udp) {outcomes : List SendOutcome}
    {final : RunState} (ran : run options draws outcomes = .ok final) :
    final.datagrams = (kept options draws options.count).map (recorded options draws) := by
  have all := datagrams_iterations udp options.count 0 (by rfl) ran
  rwa [Nat.zero_add] at all

end Datagrams

/-- A run of the simulator over UDP. -/
structure UdpSatellite where
  options : Options
  draws : Nat → Draws
  outcomes : List SendOutcome
  final : RunState
  udp : options.transport = some .udp
  ran : run options draws outcomes = .ok final

namespace UdpSatellite

variable (satellite : UdpSatellite)

/-- The frame with this number. -/
def frame (i : Nat) : TelemetryFrame := generated satellite.options satellite.draws i

def fate (i : Nat) : Fate := (satellite.draws i).fate satellite.options

/-- The datagram with this number. -/
def datagram (i : Nat) : ByteVector := recorded satellite.options satellite.draws i

/-- The numbers of the frames that were sent. -/
def sent : List Nat := kept satellite.options satellite.draws satellite.options.count

theorem datagrams : satellite.final.datagrams = satellite.sent.map satellite.datagram :=
  datagrams_run satellite.udp satellite.ran

theorem encodable {i : Nat} (sent : i ∈ satellite.sent) : Wire.Encodable (satellite.frame i) :=
  ((captured_run satellite.ran).made i (List.mem_range.mp (List.mem_filter.mp sent).1)).2

/-- Corrupted or intact. -/
theorem fate_sent {i : Nat} (sent : i ∈ satellite.sent) :
    satellite.fate i = .corrupted ∨ satellite.fate i = .intact := by
  have kept := of_decide_eq_true (List.mem_filter.mp sent).2
  cases fate : (satellite.draws i).fate satellite.options with
  | dropped => exact absurd fate kept
  | corrupted => exact Or.inl fate
  | intact => exact Or.inr fate

/-- Every datagram fits. -/
theorem length_datagram {i : Nat} (sent : i ∈ satellite.sent) :
    (satellite.datagram i).length ≤ maxFrameSize := by
  have size : (satellite.datagram i).length = (wire (satellite.frame i)).length := by
    unfold datagram recorded
    split
    · exact length_maybeCorrupt ..
    · rfl
  have valid := recordable_wire (satellite.encodable sent)
  rw [replayLengthValid, Bool.and_eq_true, decide_eq_true_eq, decide_eq_true_eq] at valid
  rw [size]
  exact valid.2

/-- What the station makes of a datagram. -/
theorem decode_datagram {i : Nat} (sent : i ∈ satellite.sent) :
    (decodeFrame (satellite.datagram i)).toOption =
      if satellite.fate i = .intact then some (satellite.frame i) else none := by
  obtain ⟨corrupted, intact⟩ := decode_recorded (satellite.encodable sent)
  rcases satellite.fate_sent sent with fate | fate
  · obtain ⟨error, refused⟩ := corrupted fate
    rw [datagram, refused, fate]
    rfl
  · rw [datagram, intact fate, if_pos fate]
    rfl

end UdpSatellite

/-! ## The network -/

section Network

variable {ι : Type} (fleet : ι → UdpSatellite)

/-- A simulator, and the number of one of its frames. -/
abbrev Label (ι : Type) := ι × Nat

/-- What arrives, by its labels. -/
structure Carried (labels : List (Label ι)) (arrived : List ByteVector) : Prop where
  sent : ∀ label ∈ labels, label.2 ∈ (fleet label.1).sent
  arrived : arrived = labels.map fun label => (fleet label.1).datagram label.2

def withLabelFate (fate : Fate) (labels : List (Label ι)) : List (Label ι) :=
  labels.filter fun label => (fleet label.1).fate label.2 = fate

/-- The frames that were sent intact, in the order of arrival. -/
def intactFrames (labels : List (Label ι)) : List TelemetryFrame :=
  (withLabelFate fleet .intact labels).map fun label => (fleet label.1).frame label.2

variable {fleet}

/-- A datagram that some simulator sent has a label. -/
theorem carried_of_sent {arrived : List ByteVector}
    (sent : ∀ datagram ∈ arrived, ∃ satellite, datagram ∈ (fleet satellite).final.datagrams) :
    ∃ labels, Carried fleet labels arrived := by
  induction arrived with
  | nil => exact ⟨[], nofun, rfl⟩
  | cons datagram arrived ih =>
      obtain ⟨satellite, member⟩ := sent datagram (List.mem_cons_self ..)
      obtain ⟨labels, known, same⟩ := ih fun other member =>
        sent other (List.mem_cons_of_mem _ member)
      rw [(fleet satellite).datagrams] at member
      obtain ⟨i, inside, rfl⟩ := List.mem_map.mp member
      refine ⟨(satellite, i) :: labels, ?_, ?_⟩
      · rintro label (_ | ⟨_, member⟩)
        · exact inside
        · exact known label member
      · rw [List.map_cons, same]

namespace Carried

variable {labels : List (Label ι)} {arrived : List ByteVector}
  (carried : Carried fleet labels arrived)

include carried

theorem fitting : Stream.fitting arrived = arrived := by
  refine List.filter_eq_self.mpr fun datagram member => ?_
  rw [carried.arrived] at member
  obtain ⟨label, inside, rfl⟩ := List.mem_map.mp member
  exact decide_eq_true ((fleet label.1).length_datagram (carried.sent label inside))

/-- **What decodes are the intact frames.** -/
theorem decoded : (arrived.map decodeFrame).filterMap Except.toOption = intactFrames fleet labels := by
  obtain ⟨sent, rfl⟩ := carried
  induction labels with
  | nil => rfl
  | cons label labels ih =>
      have first := (fleet label.1).decode_datagram (sent label (List.mem_cons_self ..))
      have rest := ih fun other member => sent other (List.mem_cons_of_mem _ member)
      simp only [List.map_cons, intactFrames, withLabelFate, List.filter_cons, decide_eq_true_eq]
      by_cases intact : (fleet label.1).fate label.2 = .intact
      · rw [if_pos intact] at first ⊢
        rw [List.filterMap_cons_some first, rest]
        rfl
      · rw [if_neg intact] at first ⊢
        rw [List.filterMap_cons_none first, rest]
        rfl

/-- Every label is intact or corrupted. -/
theorem split : (withLabelFate fleet .corrupted labels).length +
    (withLabelFate fleet .intact labels).length = arrived.length := by
  obtain ⟨sent, rfl⟩ := carried
  induction labels with
  | nil => rfl
  | cons label labels ih =>
      have rest := ih fun other member => sent other (List.mem_cons_of_mem _ member)
      simp only [withLabelFate, List.filter_cons, List.length_map, List.length_cons] at rest ⊢
      rcases (fleet label.1).fate_sent (sent label (List.mem_cons_self ..)) with fate | fate
      · simp only [fate]
        simp only [decide_true, if_true, List.length_cons, reduceCtorEq, decide_false,
          Bool.false_eq_true, if_false]
        omega
      · simp only [fate]
        simp only [decide_true, if_true, List.length_cons, reduceCtorEq, decide_false,
          Bool.false_eq_true, if_false]
        omega

end Carried

/-- What a station on UDP says of the labels. -/
structure Tallied (fleet : ι → UdpSatellite) (labels : List (Label ι)) {decoders : Nat}
    (state : PipelineState decoders) : Prop where
  exported : state.work.exported = intactFrames fleet labels
  received : state.received = labels.length
  decoded : state.work.decoded = (withLabelFate fleet .intact labels).length
  rejected : state.work.rejected = (withLabelFate fleet .corrupted labels).length

variable {options : Station.Options} {health : StationHealthMonitor} {listenFd : Int}
  {state : NetworkState options.decoderThreads}

theorem tallied_of_returned (workers : 1 ≤ options.decoderThreads)
    (reachable : (networkStation options health listenFd .udp).Reachable state)
    (returned : state.pipeline.main = .returned) {udp : UdpState}
    (loop : state.server.loop = .udp udp) {labels : List (Label ι)}
    (carried : Carried fleet labels udp.arrived) : Tallied fleet labels state.pipeline := by
  obtain ⟨udp', loop', _, _, whole⟩ := submitted_fitting reachable
  obtain rfl : udp = udp' := LoopState.udp.inj (loop.symm.trans loop')
  have ran := station_pipeline reachable
  have submitted := whole returned
  rw [carried.fitting] at submitted
  have complete := complete_of_returned workers ran returned
  obtain ⟨decoded, rejected⟩ := counted_of_returned workers ran returned
  have exports := sequential_results health (state.pipeline.submitted.map decodeFrame)
  have counts := sequential_count health (state.pipeline.submitted.map decodeFrame)
  have shares := carried.split
  have frames : (intactFrames fleet labels).length =
      (withLabelFate fleet .intact labels).length := List.length_map ..
  have length : udp.arrived.length = labels.length := by rw [carried.arrived, List.length_map]
  rw [submitted, carried.decoded, List.length_map] at exports
  rw [submitted, List.length_map] at counts
  rw [reference, submitted] at decoded rejected
  have received := complete.received
  constructor
  case exported =>
    rw [complete.exported, reference, submitted]
    exact exports.1
  case received => omega
  case decoded => omega
  case rejected => omega

end Network

section Network

variable {ι : Type} {fleet : ι → UdpSatellite} {options : Station.Options}
  {health : StationHealthMonitor} {listenFd : Int} {state : NetworkState options.decoderThreads}

/-- Nothing lost, repeated or out of order. -/
theorem carried_whole (satellite : ι) :
    Carried fleet ((fleet satellite).sent.map (satellite, ·)) (fleet satellite).final.datagrams where
  sent label member := by
    obtain ⟨i, inside, rfl⟩ := List.mem_map.mp member
    exact inside
  arrived := by
    rw [(fleet satellite).datagrams, List.map_map]
    rfl

/-- The frames of a run that were sent intact. -/
def UdpSatellite.intact (satellite : UdpSatellite) : List TelemetryFrame :=
  (withFate satellite.options satellite.draws .intact satellite.options.count).map satellite.frame

theorem intactFrames_whole (satellite : ι) :
    intactFrames fleet ((fleet satellite).sent.map (satellite, ·)) = (fleet satellite).intact := by
  have whole := @carried_whole ι fleet satellite
  rw [← whole.decoded, (fleet satellite).datagrams]
  exact decoded_kept fun i below => ((captured_run (fleet satellite).ran).made i below).2

/-- **Datagrams count for themselves.**  A station on UDP takes what comes from any number of
simulators through a network that loses, repeats and reorders datagrams.  It exports, in every
reachable state, a front of the frames sent intact, in the order and as often as they arrived;
if it returns, all of them, with a rejection for every datagram that was sent corrupted.  If one
simulator's datagrams arrive as they were sent, its counters are the simulator's. -/
theorem udp_fleet (workers : 1 ≤ options.decoderThreads)
    (reachable : (networkStation options health listenFd .udp).Reachable state) {udp : UdpState}
    (loop : state.server.loop = .udp udp)
    (sent : ∀ datagram ∈ udp.arrived, ∃ satellite,
      datagram ∈ (fleet satellite).final.datagrams) :
    (∃ labels, Carried fleet labels udp.arrived ∧
      state.pipeline.work.exported <+: intactFrames fleet labels ∧
      (state.pipeline.main = .returned → Tallied fleet labels state.pipeline)) ∧
    ∀ satellite, udp.arrived = (fleet satellite).final.datagrams →
      state.pipeline.main = .returned →
        state.pipeline.work.exported = (fleet satellite).intact ∧
          state.pipeline.received = (fleet satellite).final.produced ∧
          state.pipeline.work.rejected = (fleet satellite).final.corrupted := by
  constructor
  · obtain ⟨labels, carried⟩ := carried_of_sent sent
    refine ⟨labels, carried, ?_, fun returned =>
      tallied_of_returned workers reachable returned loop carried⟩
    obtain ⟨udp', loop', front, _, _⟩ := submitted_fitting reachable
    obtain rfl : udp = udp' := LoopState.udp.inj (loop.symm.trans loop')
    rw [carried.fitting] at front
    have exported := exported_reference (station_pipeline reachable)
    rw [reference_exported] at exported
    rw [← carried.decoded, List.filterMap_map]
    exact exported.trans (accepted_mono front)
  · intro satellite whole returned
    have carried := @carried_whole ι fleet satellite
    rw [← whole] at carried
    have tallied := tallied_of_returned workers reachable returned loop carried
    have captured := captured_run (fleet satellite).ran
    obtain ⟨_, shares⟩ := kept_length (fleet satellite).options (fleet satellite).draws
      (fleet satellite).options.count
    have frames := @intactFrames_whole ι fleet satellite
    have intact := congrArg List.length frames
    simp only [intactFrames, UdpSatellite.intact, List.length_map] at intact
    have split := carried.split
    have arrived : udp.arrived.length = (kept (fleet satellite).options (fleet satellite).draws
        (fleet satellite).options.count).length := by
      rw [whole, (fleet satellite).datagrams, List.length_map]
      rfl
    refine ⟨tallied.exported.trans frames, ?_, ?_⟩
    · rw [tallied.received, captured.produced, List.length_map]
      rfl
    · rw [tallied.rejected, captured.corrupted]
      omega

end Network

/-! ## One datagram -/

/-- `--udp --count 1 --payload-size 0`. -/
def oneDatagram : Options :=
  { halfCorrupted with transport := some .udp, outputFile := none, count := 1, corruptProbability := 0 }

def oneDatagramRun : RunState where
  datagrams := [wire (zeroFrame 0)]
  capture := none
  produced := 1
  outcomes := []
  deliveries := [⟨wire (zeroFrame 0), none⟩]

theorem run_oneDatagram : run oneDatagram (corruptFirst 0) [.accepted 27] = .ok oneDatagramRun := by
  change iterations oneDatagram _ 1 0 _ = _
  rw [iterations, iteration_zeroFrame oneDatagram 0 0 _ rfl rfl, oneDatagramRun,
    wire_zeroFrame_zero]
  decide +kernel

def oneUdpSatellite : UdpSatellite where
  options := oneDatagram
  draws := corruptFirst 0
  outcomes := [.accepted 27]
  final := oneDatagramRun
  udp := rfl
  ran := run_oneDatagram

/-- It arrives, and then a signal. -/
theorem udp_fleet_one :
    ∃ state : NetworkState (oneWorker udpOptions).decoderThreads,
      state.pipeline.main = .returned ∧
        state.pipeline.work.exported = oneUdpSatellite.intact ∧
        state.pipeline.work.rejected = 0 := by
  have fits : (wire (zeroFrame 0)).length ≤ (List.replicate maxFrameSize (0 : UInt8)).length := by
    rw [List.length_replicate, wire_zeroFrame_zero]
    decide
  have run := @System.Reachable.start _
    (networkStation (oneWorker udpOptions) freshWriter.health 3 .udp) _ rfl
  replace run := run.step (.serves (Or.inl rfl) rfl (.enters rfl) rfl)
  replace run := run.step (.serves (Or.inl rfl) rfl (.resets rfl) rfl)
  replace run := run.step (.serves (Or.inl rfl) rfl (.opens rfl) rfl)
  replace run := run.step (.serves (Or.inl rfl) rfl (.loadsRunning rfl rfl) rfl)
  replace run := run.step (.serves (Or.inl rfl) rfl (.iterates rfl rfl) rfl)
  replace run := run.step (.serves (Or.inl rfl) rfl (.polls rfl (.udp _)) rfl)
  replace run := run.step (.serves (Or.inl rfl) rfl (.works rfl (.udp (.receives rfl fits))) rfl)
  dsimp only at run
  rw [recvfromInto_take fits] at run
  -- `submit`
  replace run := run.step (.submits rfl rfl rfl)
  replace run := run.step (.goesOn trivial (.pushes rfl rfl) trivial)
  replace run := run.step (.returns trivial (.counts rfl) rfl (.udp (.gives rfl)) rfl rfl rfl
    fun dead => by cases dead)
  -- the signal
  replace run := run.step .signals
  replace run := run.step (.serves (Or.inl rfl) rfl (.ends rfl rfl) rfl)
  replace run := run.step (.serves (Or.inl rfl) rfl (.closes rfl) rfl)
  replace run := run.step (.ends rfl rfl)
  obtain ⟨later, reachable, returned, submitted, loop⟩ :=
    station_returned_one run rfl rfl (silent_zeroFrame _)
  have whole := (@udp_fleet Unit (fun _ => oneUdpSatellite) _ _ _ _ (by decide) reachable _ loop
    fun datagram member => ⟨(), member⟩).2 () rfl returned
  exact ⟨later, returned, whole.1, whole.2.2⟩

end Stgs.Simulator
