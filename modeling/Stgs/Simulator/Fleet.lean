/-
# Simulator.Fleet -- many satellites, one station

A station on TCP serves any number of clients at once.  What it exports is a merge: of each
connection a front of what is accepted of the bytes sent there, and all of it where the
connection has ended and the station returns (`tcp_merged`).  A client that sends encoded
frames gets these exported, whatever the others send.

If the clients are simulators, the station exports a merge of what stations export that
replay their captures, each by itself (`fleet_eq_replays`).
-/
import Stgs.Simulator.LiveReplay
import Stgs.Station.StopBound

namespace Stgs.Simulator

open Stgs.Cli Stgs.Stream Stgs.Station Stgs.Theory.Interleaving Stgs.Theory.Transition Stgs.Wire

set_option autoImplicit false

theorem accepted_mono {first whole : List ByteVector} (front : first <+: whole) :
    accepted first <+: accepted whole := front.filterMap _

/-- The reference exports what is accepted. -/
theorem reference_exported (health : StationHealthMonitor) (submitted : List ByteVector) :
    (reference health submitted).exported = accepted submitted := by
  rw [reference, (sequential_results health _).1, List.filterMap_map]
  rfl

theorem accepted_wires {frames : List TelemetryFrame}
    (encodable : ∀ frame ∈ frames, Wire.Encodable frame) : accepted (frames.map wire) = frames := by
  induction frames with
  | nil => rfl
  | cons frame frames ih =>
      have decoded := (encode_iff_decode frame (wire frame)).mp
        ((encodeFrame_eq_ok_iff _ _).mpr ⟨encodable frame (List.mem_cons_self ..), rfl⟩)
      rw [List.map_cons, accepted_cons_ok decoded,
        ih fun other member => encodable other (List.mem_cons_of_mem _ member)]

/-! ## The merge -/

section Merge

variable {options : Station.Options} {health : StationHealthMonitor} {listenFd : Int}
  {state : NetworkState options.decoderThreads}

/-- The candidates given, and those on their way, by connection. -/
theorem streams_merged {tcp : TcpState} (streams : Streams tcp) :
    Interleaves (fun connection => (freshFeed (tcp.received connection)).1)
      ((tcp.given ++ tcp.frames).map Prod.snd) := by
  refine ⟨_, rfl, fun connection => ?_⟩
  rw [part_append]
  exact streams.delivered connection

/-- What is submitted is a front of that. -/
theorem submitted_front
    (reachable : (networkStation options health listenFd .tcp).Reachable state) :
    ∃ tcp, state.server.loop = .tcp tcp ∧ Streams tcp ∧
      state.pipeline.submitted <+: (tcp.given ++ tcp.frames).map Prod.snd ∧
      (state.pipeline.main = .returned →
        state.pipeline.submitted = (tcp.given ++ tcp.frames).map Prod.snd) := by
  obtain ⟨tcp, loop, streams, given, settled⟩ := delivered_tcp (station_server reachable)
  refine ⟨tcp, loop, streams, ?_, fun returned => ?_⟩
  · have sofar := (linked reachable).submitted.2
    rw [given, loop] at sofar
    refine sofar.trans ?_
    rw [List.map_append]
    exact (List.prefix_append_right_inj _).mpr (calls_tcp tcp)
  · obtain ⟨stopped, submitted⟩ := station_returned reachable returned
    rw [submitted, given, settled stopped, List.append_nil]

/-- What a station on TCP exports, by connection. -/
structure Merged {decoders : Nat} (tcp : TcpState) (state : PipelineState decoders)
    (parts : Connection → List TelemetryFrame) : Prop where
  merge : Interleaves parts state.work.exported
  front : ∀ connection, parts connection <+: accepted (freshFeed (tcp.sent connection)).1
  whole : state.main = .returned → ∀ connection, tcp.ended connection = true →
    parts connection = accepted (freshFeed (tcp.sent connection)).1

theorem merged_parts (workers : 1 ≤ options.decoderThreads)
    (reachable : (networkStation options health listenFd .tcp).Reachable state) :
    ∃ tcp, state.server.loop = .tcp tcp ∧ Streams tcp ∧
      ∃ parts, Interleaves parts state.pipeline.work.exported ∧
        (∀ connection, parts connection <+:
          accepted (freshFeed (tcp.received connection)).1) ∧
        (state.pipeline.main = .returned → ∀ connection, parts connection =
          accepted (freshFeed (tcp.received connection)).1) := by
  obtain ⟨tcp, loop, streams, front, whole⟩ := submitted_front reachable
  have merge : Interleaves _ (accepted _) := (streams_merged streams).filterMap _
  have ran := station_pipeline reachable
  refine ⟨tcp, loop, streams, ?_⟩
  by_cases returned : state.pipeline.main = .returned
  · refine ⟨_, ?_, fun _ => List.prefix_rfl, fun _ _ => rfl⟩
    rw [(complete_of_returned workers ran returned).exported, reference_exported, whole returned]
    exact merge
  · have exported := exported_reference ran
    rw [reference_exported] at exported
    obtain ⟨parts, fronts, merged⟩ := merge.front (exported.trans (accepted_mono front))
    exact ⟨parts, merged, fronts, fun returned' => absurd returned' returned⟩

/-- **What a station on TCP exports is a merge of what each client by itself gives**, in
every reachable state: of each connection a front of what is accepted of the bytes sent
there, and all of it where the connection has ended and the station has returned.  Of a
client that sends encoded frames these are its frames, whatever the other clients send. -/
theorem tcp_merged (workers : 1 ≤ options.decoderThreads)
    (reachable : (networkStation options health listenFd .tcp).Reachable state) :
    ∃ tcp parts, state.server.loop = .tcp tcp ∧ Merged tcp state.pipeline parts ∧
      ∀ connection frames, (∀ frame ∈ frames, Wire.Encodable frame) →
        (tcp.sent connection <+: (frames.map wire).flatten → parts connection <+: frames) ∧
        (tcp.sent connection = (frames.map wire).flatten → state.pipeline.main = .returned →
          tcp.ended connection = true → parts connection = frames) := by
  obtain ⟨tcp, loop, streams, parts, merge, front, whole⟩ := merged_parts workers reachable
  have merged : Merged tcp state.pipeline parts := by
    refine ⟨merge, fun connection => ?_, fun returned connection ended => ?_⟩
    · exact (front connection).trans
        (accepted_mono (freshFeed_mono (streams.arrived connection)))
    · rw [whole returned connection, (streams.ended connection ended).2.1]
  refine ⟨tcp, parts, loop, merged, fun connection frames encodable => ⟨fun sent => ?_,
    fun sent returned ended => ?_⟩⟩
  · have sofar := (merged.front connection).trans (accepted_mono (freshFeed_mono sent))
    rwa [freshFeed_wires encodable, accepted_wires encodable] at sofar
  · rw [merged.whole returned connection ended, sent, freshFeed_wires encodable,
      accepted_wires encodable]

end Merge

/-! ## Simulators -/

/-- A run of the simulator over TCP that records what it sends. -/
structure Satellite where
  options : Options
  draws : Nat → Draws
  outcomes : List SendOutcome
  final : RunState
  writer : FrameFileWriter
  tcp : options.transport = some .tcp
  ran : run options draws outcomes = .ok final
  captured : final.capture = some writer
  kept : NothingSwallowed final.deliveries

/-- The bytes it has sent. -/
def Satellite.stream (satellite : Satellite) : ByteVector := satellite.final.wire.flatten

/-- The records of its capture. -/
def Satellite.records (satellite : Satellite) : List ByteVector :=
  satellite.final.deliveries.map Delivery.bytes

theorem Satellite.file (satellite : Satellite) :
    satellite.writer.out = capture satellite.records :=
  (faithful_run satellite.tcp satellite.ran).1.capture _ satellite.captured

theorem Satellite.accepted_stream (satellite : Satellite) :
    accepted (freshFeed satellite.stream).1 = accepted satellite.records := by
  obtain ⟨faithful, _⟩ := faithful_run satellite.tcp satellite.ran
  rw [Satellite.stream, faithful.wire]
  exact accepted_deliveries faithful.valid satellite.kept

/-- A station that has replayed a file and returned. -/
structure Replayed (file : ByteVector) where
  options : Station.Options
  health : StationHealthMonitor
  state : ReplayState options.decoderThreads
  workers : 1 ≤ options.decoderThreads
  reachable : (replayStation options health file).Reachable state
  returned : state.pipeline.main = .returned

theorem replayed_exported {satellite : Satellite} (replayed : Replayed satellite.writer.out) :
    replayed.state.pipeline.work.exported = accepted satellite.records := by
  obtain ⟨faithful, _⟩ := faithful_run satellite.tcp satellite.ran
  have recordable : ∀ bytes ∈ satellite.records, replayLengthValid bytes.length = true := by
    intro bytes member
    obtain ⟨delivery, delivered, rfl⟩ := List.mem_map.mp member
    exact (faithful.valid delivery delivered).recordable
  obtain ⟨options, health, state, workers, reachable, returned⟩ := replayed
  rw [satellite.file] at reachable
  have submitted := replay_returned recordable reachable returned
  have complete := complete_of_returned workers (replay_reachable reachable) returned
  show state.pipeline.work.exported = accepted satellite.records
  rw [complete.exported, submitted, reference_exported]

section Fleet

variable {options : Station.Options} {health : StationHealthMonitor} {listenFd : Int}
  {state : NetworkState options.decoderThreads}

/-- **One station live is many stations replaying.**  A station has served simulators over
TCP, each on a connection of its own, to the end of each; it exports a merge of what the
replays of their captures export, and as many frames as they do together. -/
theorem fleet_eq_replays (workers : 1 ≤ options.decoderThreads)
    (reachable : (networkStation options health listenFd .tcp).Reachable state)
    (returned : state.pipeline.main = .returned) {tcp : TcpState}
    (loop : state.server.loop = .tcp tcp) (fleet : Connection → Satellite)
    (replays : (connection : Connection) → Replayed (fleet connection).writer.out)
    (served : ∀ connection < tcp.accepted, tcp.ended connection = true ∧
      tcp.sent connection = (fleet connection).stream) :
    Interleaves
        (fun connection =>
          if connection < tcp.accepted then (replays connection).state.pipeline.work.exported
          else [])
        state.pipeline.work.exported ∧
      state.pipeline.work.exported.length = ∑ connection ∈ Finset.range tcp.accepted,
        (replays connection).state.pipeline.work.exported.length := by
  obtain ⟨tcp', loop', streams, parts, merge, _, whole⟩ := merged_parts workers reachable
  obtain rfl : tcp = tcp' := LoopState.tcp.inj (loop.symm.trans loop')
  have same : parts = fun connection =>
      if connection < tcp.accepted then (replays connection).state.pipeline.work.exported
      else [] := by
    funext connection
    rw [whole returned connection]
    split
    · rename_i known
      obtain ⟨ended, sent⟩ := served connection known
      rw [(streams.ended connection ended).2.1, sent, Satellite.accepted_stream, replayed_exported]
    · rename_i unknown
      rw [streams.quiet connection (Nat.le_of_not_lt unknown), freshFeed_nil]
      rfl
  rw [same] at merge
  refine ⟨merge, ?_⟩
  rw [merge.length (Finset.range tcp.accepted) fun connection unknown => ?_]
  · refine Finset.sum_congr rfl fun connection member => ?_
    rw [if_pos (Finset.mem_range.mp member)]
  · exact if_neg fun known => unknown (Finset.mem_range.mpr known)

end Fleet

/-! ## One satellite, one frame -/

/-- `--tcp --output-file c.stgf --count 1 --payload-size 0`. -/
def oneFrame : Options := { halfCorrupted with count := 1, corruptProbability := 0 }

def oneFrameRun : RunState where
  wire := [wire (zeroFrame 0)]
  capture := some ⟨capture [wire (zeroFrame 0)]⟩
  produced := 1
  outcomes := []
  deliveries := [⟨wire (zeroFrame 0), none⟩]

theorem run_oneFrame : run oneFrame (corruptFirst 0) [.accepted 27] = .ok oneFrameRun := by
  change iterations oneFrame _ 1 0 _ = _
  rw [iterations, iteration_zeroFrame oneFrame 0 0 _ rfl rfl, oneFrameRun, wire_zeroFrame_zero]
  decide +kernel

def oneSatellite : Satellite where
  options := oneFrame
  draws := corruptFirst 0
  outcomes := [.accepted 27]
  final := oneFrameRun
  writer := ⟨capture [wire (zeroFrame 0)]⟩
  tcp := rfl
  ran := run_oneFrame
  captured := rfl
  kept := by
    refine ⟨fun blurred => ?_, trivial⟩
    obtain ⟨_, corrupted, _⟩ := blurred
    cases corrupted

/-- `--tcp`, and one decoder. -/
def liveStation : Station.Options := oneWorker { transport := some .tcp }

theorem decode_zeroFrame : decodeFrame (wire (zeroFrame 0)) = .ok (zeroFrame 0) :=
  (encode_iff_decode _ _).mp ((encodeFrame_eq_ok_iff _ _).mpr ⟨encodable_zeroFrame 0, rfl⟩)

/-- Its payload is empty. -/
theorem silent_zeroFrame (options : Station.Options) (frame : TelemetryFrame)
    (decoded : decodeFrame (wire (zeroFrame 0)) = .ok frame) (work : WriterState) :
    processApplicationPayload options frame work = .ok work := by
  obtain rfl := Except.ok.inj (decode_zeroFrame.symm.trans decoded)
  rfl

/-- A station replays the capture. -/
theorem replayed_one :
    ∃ state : ReplayState liveStation.decoderThreads,
      (replayStation liveStation freshWriter.health oneSatellite.writer.out).Reachable state ∧
        state.pipeline.main = .returned := by
  have valid := recordable_wire (encodable_zeroFrame 0)
  have run := @System.Reachable.start _
    (replayStation liveStation freshWriter.health oneSatellite.writer.out) _ rfl
  replace run := run.step (.opens rfl rfl (create_capture [wire (zeroFrame 0)]))
  replace run := run.step (.submits rfl rfl rfl (readNext_record valid []))
  replace run := run.step (.main (by simp) (.pushes rfl rfl))
  replace run := run.step (.main (by simp) (.counts rfl))
  replace run := run.step (.ends rfl rfl (Or.inr rfl))
  obtain ⟨later, returned, _, path⟩ := returned_one freshWriter.health true (silent_zeroFrame _)
  exact ⟨_, run.path (replay_behind path), returned⟩

/-- A station serves the satellite, and is stopped. -/
theorem served_one :
    ∃ (state : NetworkState liveStation.decoderThreads) (tcp : TcpState),
      (networkStation liveStation freshWriter.health 3 .tcp).Reachable state ∧
        state.pipeline.main = .returned ∧ state.server.loop = .tcp tcp ∧ tcp.accepted = 1 ∧
          tcp.ended 0 = true ∧ tcp.sent 0 = wire (zeroFrame 0) := by
  have run := firstClient_reachable liveStation freshWriter.health 3
  replace run := run.step (.peers (.sends _ 0 (wire (zeroFrame 0)) rfl))
  replace run := run.step (.serves (Or.inl rfl) rfl
    (.works rfl (.tcp ((firstClient_draining 3).receives (encodable_zeroFrame 0)))) rfl)
  replace run := run.step (.submits rfl rfl rfl)
  replace run := run.step (.goesOn trivial (.pushes rfl rfl) trivial)
  replace run := run.step (.returns trivial (.counts rfl) rfl (.tcp (.gives rfl rfl)) rfl rfl rfl
    fun dead => by cases dead)
  replace run := run.step (.serves (Or.inl rfl) rfl (.works rfl (.tcp (.delivers rfl rfl))) rfl)
  -- the end of the connection
  replace run := run.step (.peers (.shutsDown _ 0))
  replace run := run.step (.serves (Or.inl rfl) rfl (.works rfl (.tcp (.ends rfl rfl rfl rfl rfl))) rfl)
  replace run := run.step (.serves (Or.inl rfl) rfl (.works rfl (.tcp (.removes rfl rfl rfl))) rfl)
  replace run := run.step (.serves (Or.inl rfl) rfl (.works rfl (.tcp (.visited rfl rfl))) rfl)
  replace run := run.step (.serves (Or.inl rfl) rfl (.works rfl (.tcp (.acceptEnds rfl))) rfl)
  -- the signal
  replace run := run.step .signals
  replace run := run.step (.serves (Or.inl rfl) rfl (.ends rfl rfl) rfl)
  replace run := run.step (.serves (Or.inl rfl) rfl (.closes rfl) rfl)
  replace run := run.step (.ends rfl rfl)
  obtain ⟨later, reachable, returned, _, loop⟩ :=
    station_returned_one run rfl rfl (silent_zeroFrame _)
  exact ⟨later, _, reachable, returned, loop, rfl, rfl, rfl⟩

/-- Live and replayed. -/
theorem fleet_eq_replays_one :
    ∃ (live : NetworkState liveStation.decoderThreads)
      (replayed : ReplayState liveStation.decoderThreads),
      live.pipeline.main = .returned ∧ replayed.pipeline.main = .returned ∧
        live.pipeline.work.exported.length = ∑ _ ∈ Finset.range 1,
          replayed.pipeline.work.exported.length := by
  obtain ⟨state, tcp, reachable, returned, loop, accepted, ended, sent⟩ := served_one
  obtain ⟨again, replays, replayed⟩ := replayed_one
  have fleet := @fleet_eq_replays liveStation freshWriter.health 3 state (by decide) reachable returned
    tcp loop (fun _ => oneSatellite)
    (fun _ => ⟨liveStation, freshWriter.health, again, by decide, replays, replayed⟩) ?_
  · rw [accepted] at fleet
    exact ⟨state, again, returned, replayed, fleet.2⟩
  · intro connection known
    rw [accepted] at known
    obtain rfl : connection = 0 := by omega
    exact ⟨ended, sent.trans (List.flatten_singleton ..).symm⟩

/-- The client of that run. -/
theorem tcp_merged_one :
    ∃ (state : NetworkState liveStation.decoderThreads) (tcp : TcpState)
      (parts : Connection → List TelemetryFrame),
      Merged tcp state.pipeline parts ∧ parts 0 = [zeroFrame 0] := by
  obtain ⟨state, tcp, reachable, returned, loop, _, ended, sent⟩ := served_one
  obtain ⟨tcp', parts, loop', merged, honest⟩ := tcp_merged (by decide) reachable
  obtain rfl : tcp = tcp' := LoopState.tcp.inj (loop.symm.trans loop')
  refine ⟨state, tcp, parts, merged, (honest 0 [zeroFrame 0] ?_).2 ?_ returned ended⟩
  · simp [encodable_zeroFrame]
  · rw [sent]
    simp

end Stgs.Simulator
