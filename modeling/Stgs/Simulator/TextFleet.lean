/-
# Simulator.TextFleet -- what is typed is what is shown

Simulators with `--message` send one text over and over, with the number of the frame.  A
station shows what it decodes.  `text_shown`: over UDP, whatever the network loses, repeats
and reorders, its terminal shows the texts of the datagrams that were sent intact, in the
order in which they arrived and as often, and nothing else.
-/
import Stgs.Simulator.UdpFleet
import Stgs.Station.RemoteText
import Stgs.Wire.ApplicationBijection

namespace Stgs.Simulator

open Stgs.Wire Stgs.Stream Stgs.Station Stgs.Theory.Transition

set_option autoImplicit false

/-! ## One datagram -/

/-- The line of a frame in text mode. -/
def UdpSatellite.line (satellite : UdpSatellite) (i : Nat) : Shown :=
  .message satellite.options.satelliteId (UInt32.ofNat i) satellite.options.message

/-- The payload of a frame in text mode. -/
theorem payload_of_text {options : Options} (text : options.payloadMode = .textMessage)
    {draws : FrameDraws} {i : Nat} {frame : TelemetryFrame}
    (made : makeFrame options draws i = .ok frame) :
    frame.satelliteId = options.satelliteId ∧
      encodeTextMessagePayload { sequence := UInt32.ofNat i, text := options.message } =
        .ok frame.payload := by
  simp only [makeFrame, makePayload, text] at made
  split at made
  · cases made
  · rename_i payload encoded
    obtain rfl := Except.ok.inj made
    exact ⟨rfl, encoded⟩

/-- The station shows such a frame, with the text that was typed. -/
theorem shownOf_text {satellite : UdpSatellite}
    (text : satellite.options.payloadMode = .textMessage) {i : Nat} (sent : i ∈ satellite.sent)
    (options : Station.Options) :
    shownOf options (satellite.frame i) = some (satellite.line i) := by
  have below : i < satellite.options.count := List.mem_range.mp (List.mem_filter.mp sent).1
  obtain ⟨made, encodable⟩ := (captured_run satellite.ran).made i below
  obtain ⟨satelliteId, encoded⟩ := payload_of_text text made
  have fits := encodeText_fits encoded
  have decoded := (encodeText_iff_decode fits _).mp encoded
  change shownOf options (generated satellite.options satellite.draws i) = _
  rw [shownOf, decoded, satelliteId]
  rfl

section Network

variable {ι : Type} {fleet : ι → UdpSatellite}

/-- The lines of the labels that were sent intact. -/
def intactLines (fleet : ι → UdpSatellite) (labels : List (Label ι)) : List Shown :=
  (withLabelFate fleet .intact labels).map fun label => (fleet label.1).line label.2

theorem Carried.shown (text : ∀ satellite, (fleet satellite).options.payloadMode = .textMessage)
    {labels : List (Label ι)} {arrived : List ByteVector} (carried : Carried fleet labels arrived)
    (options : Station.Options) :
    (arrived.map decodeFrame).filterMap (resultShown options) = intactLines fleet labels := by
  have shown : (arrived.map decodeFrame).filterMap (resultShown options) =
      (intactFrames fleet labels).filterMap (shownOf options) := by
    rw [← carried.decoded, List.filterMap_filterMap]
    rfl
  rw [shown, intactFrames, intactLines, List.filterMap_map, ← List.filterMap_eq_map]
  refine List.filterMap_congr fun label member => ?_
  have sent := carried.sent label (List.mem_filter.mp member).1
  exact shownOf_text (text label.1) sent options

variable {options : Station.Options} {health : StationHealthMonitor} {listenFd : Int}
  {state : NetworkState options.decoderThreads}

/-- **What is typed is what is shown.**  Any number of simulators in text mode send to a
station on UDP, through a network that loses, repeats and reorders datagrams.  In every
reachable state the terminal shows a front of the typed texts, with their senders and
numbers, of the datagrams sent intact, in the order and as often as they arrived; if the
station returns, all of them. -/
theorem text_shown (text : ∀ satellite, (fleet satellite).options.payloadMode = .textMessage)
    (workers : 1 ≤ options.decoderThreads)
    (reachable : (networkStation options health listenFd .udp).Reachable state) {udp : UdpState}
    (loop : state.server.loop = .udp udp)
    (sent : ∀ datagram ∈ udp.arrived, ∃ satellite,
      datagram ∈ (fleet satellite).final.datagrams) :
    ∃ labels, Carried fleet labels udp.arrived ∧
      state.pipeline.work.terminal <+: intactLines fleet labels ∧
      (state.pipeline.main = .returned →
        state.pipeline.work.terminal = intactLines fleet labels) := by
  obtain ⟨labels, carried⟩ := carried_of_sent sent
  obtain ⟨udp', loop', front, _, whole⟩ := submitted_fitting reachable
  obtain rfl : udp = udp' := LoopState.udp.inj (loop.symm.trans loop')
  rw [carried.fitting] at front whole
  have ran := station_pipeline reachable
  have lines := carried.shown text options
  refine ⟨labels, carried, ?_, fun returned => ?_⟩
  · rw [← lines]
    exact (terminal_in_order ran).trans ((front.map decodeFrame).filterMap _)
  · have all := handleAll_shows (loop_of_returned workers ran returned)
    rw [all, whole returned, lines]
    rfl

end Network

/-! ## One text -/

/-- `--udp --count 1 --message hi`. -/
def sayHi : Options :=
  { oneDatagram with payloadMode := .textMessage, message := [0x68, 0x69] }

def hiFrame : TelemetryFrame where
  satelliteId := 42
  batteryPercent := 100
  payload := [0x53, 0x54, 0x47, 0x41, 1, 1, 0, 0, 0, 0, 0x68, 0x69]

theorem wire_hiFrame :
    wire hiFrame = [83, 84, 71, 83, 1, 0, 42, 0, 0, 0, 0, 0, 0, 0, 0, 0, 0, 0, 0, 100, 0, 0, 12,
      83, 84, 71, 65, 1, 1, 0, 0, 0, 0, 104, 105, 250, 154, 201, 171] := by
  rw [wire, crc32_bitwise]
  decide +kernel

theorem encodable_hiFrame : Encodable hiFrame where
  payload := by decide
  version := rfl
  temperature := encodable_default.temperature
  battery := by decide
  status := encodable_default.status

def saidHi : RunState where
  datagrams := [wire hiFrame]
  capture := none
  produced := 1
  outcomes := []
  deliveries := [⟨wire hiFrame, none⟩]

theorem run_sayHi : run sayHi (corruptFirst 0) [.accepted 39] = .ok saidHi := by
  have lossless : ¬ (corruptFirst 0 0).loss.value < sayHi.lossProbability := lt_irrefl 0
  have made : makeFrame sayHi (corruptFirst 0 0).frame 0 = .ok hiFrame := rfl
  change iterations sayHi _ 1 0 _ = _
  rw [iterations, iteration_kept made encodable_hiFrame lossless, saidHi, wire_hiFrame]
  decide +kernel

def hiSatellite : UdpSatellite where
  options := sayHi
  draws := corruptFirst 0
  outcomes := [.accepted 39]
  final := saidHi
  udp := rfl
  ran := run_sayHi

/-- It is sent, and it is on the terminal. -/
theorem text_shown_hi : ∃ state : NetworkState udpOptions.decoderThreads,
    state.pipeline.work.terminal = [.message 42 0 [0x68, 0x69]] ∧
      ∃ labels, state.pipeline.work.terminal <+:
        intactLines (fun _ : Unit => hiSatellite) labels := by
  have received := (encode_iff_decode _ _).mp
    ((encodeFrame_eq_ok_iff _ _).mpr ⟨encodable_hiFrame, rfl⟩)
  have decoded : decodeApplicationPayload hiFrame.payload = .text ⟨0, [0x68, 0x69]⟩ := by
    decide +kernel
  have processed (work : WriterState) : processApplicationPayload udpOptions hiFrame work =
      .ok { work with terminal := work.terminal ++ [.message 42 0 [0x68, 0x69]] } := by
    rw [processApplicationPayload, decoded]
    rfl
  have result : DecodedWorkItem.result ⟨0, decodeFrame (wire hiFrame)⟩ = .ok hiFrame := by
    dsimp only
    exact received
  have fits : (wire hiFrame).length ≤ (List.replicate maxFrameSize (0 : UInt8)).length := by
    rw [List.length_replicate, wire_hiFrame]
    decide
  have two : 0 < udpOptions.decoderThreads := by decide
  have run := @System.Reachable.start _ (networkStation udpOptions freshWriter.health 3 .udp) _ rfl
  replace run := run.step (.serves (Or.inl rfl) rfl (.enters rfl) rfl)
  replace run := run.step (.serves (Or.inl rfl) rfl (.resets rfl) rfl)
  replace run := run.step (.serves (Or.inl rfl) rfl (.opens rfl) rfl)
  replace run := run.step (.serves (Or.inl rfl) rfl (.loadsRunning rfl rfl) rfl)
  replace run := run.step (.serves (Or.inl rfl) rfl (.iterates rfl rfl) rfl)
  replace run := run.step (.serves (Or.inl rfl) rfl (.polls rfl (.udp _)) rfl)
  replace run := run.step (.serves (Or.inl rfl) rfl (.works rfl (.udp (.receives rfl fits))) rfl)
  dsimp only at run
  rw [recvfromInto_take fits] at run
  -- `submit`
  replace run := run.step (.submits rfl rfl rfl)
  replace run := run.step (.goesOn trivial (.pushes rfl rfl) trivial)
  replace run := run.step (.returns trivial (.counts rfl) rfl (.udp (.gives rfl)) rfl rfl rfl
    fun dead => by cases dead)
  -- a decoder
  replace run := run.step (.decoder (i := ⟨0, two⟩) (.pops rfl rfl))
  replace run := run.step (.decoder (i := ⟨0, two⟩) (.decodes rfl))
  replace run := run.step (.decoder (i := ⟨0, two⟩) (.pushes rfl rfl))
  -- the writer
  replace run := run.step (.writer (.pops rfl rfl))
  replace run := run.step
    (.writer (.inserts rfl fun _ member => absurd member List.not_mem_nil))
  replace run := run.step (.writer (.finds rfl (List.mem_singleton_self _) rfl))
  replace run := run.step (.writer (.handles (.countsDecoded result)))
  replace run := run.step (.writer (.handles (.recordsDecoded result)))
  replace run := run.step (.writer (.handles (.processes (processed _))))
  obtain ⟨labels, _, front, _⟩ := @text_shown Unit (fun _ => hiSatellite) _ _ _ _ (fun _ => rfl)
    (by decide) run _ rfl fun datagram member => ⟨(), member⟩
  exact ⟨_, rfl, labels, front⟩

end Stgs.Simulator
