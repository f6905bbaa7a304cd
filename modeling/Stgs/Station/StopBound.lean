/-
# Station.StopBound -- how far a station goes on after a stop

The loops read `running_` before an iteration.  When it is cleared one more iteration can
run.  On UDP that is one datagram, so one candidate more is submitted at most (`udp_ahead`).
On TCP an iteration drains a socket until there is nothing left: while a peer goes on
sending it goes on submitting, even if the pipeline has failed and refuses everything
(`flooded_next`).
-/
import Stgs.Station.NetworkInput

namespace Stgs.Station

open Relation Stgs.Cli Stgs.Concurrent Stgs.Stream Stgs.Theory.Transition Stgs.Wire

set_option autoImplicit false

/-! ## UDP -/

section Udp

variable {options : Options} {health : StationHealthMonitor} {listenFd : Int}
  {state next : NetworkState options.decoderThreads}

/-- The candidates that can still be submitted once `running_` is cleared. -/
def NetworkState.ahead {decoders : Nat} (state : NetworkState decoders) : Nat :=
  match state.server.run with
  | .loadingStop | .polling => 1
  | .working => if state.pipeline.main = .receiving then 1 else 0
  | _ => 0

theorem ahead_le_one {decoders : Nat} (state : NetworkState decoders) : state.ahead ≤ 1 := by
  unfold NetworkState.ahead
  split
  · exact Nat.le_refl 1
  · exact Nat.le_refl 1
  · split <;> simp
  · exact Nat.zero_le 1

/-- The server stays where it is, and the main thread as far from its input stage. -/
theorem ahead_same {decoders : Nat} {state next : NetworkState decoders}
    (run : next.server.run = state.server.run)
    (main : next.pipeline.main = .receiving → state.pipeline.main = .receiving) :
    next.ahead ≤ state.ahead := by
  unfold NetworkState.ahead
  rw [run]
  split
  · exact Nat.le_refl 1
  · exact Nat.le_refl 1
  · split
    · rename_i receiving
      rw [if_pos (main receiving)]
    · exact Nat.zero_le _
  · exact Nat.le_refl 0

/-- Nothing is ahead of a server that has still to read the flag. -/
theorem ahead_run {decoders : Nat} {state : NetworkState decoders}
    (run : state.server.run ≠ .loadingStop) (run' : state.server.run ≠ .polling)
    (idle : state.server.run = .working → state.pipeline.main ≠ .receiving) : state.ahead = 0 := by
  unfold NetworkState.ahead
  split
  · rename_i here
    exact absurd here run
  · rename_i here
    exact absurd here run'
  · rename_i here
    rw [if_neg (idle here)]
  · rfl

/-- Inside an iteration one candidate is ahead. -/
theorem ahead_inside {decoders : Nat} {state : NetworkState decoders}
    (inside : state.server.run = .loadingStop ∨ state.server.run = .polling ∨
      (state.server.run = .working ∧ state.pipeline.main = .receiving)) : state.ahead = 1 := by
  unfold NetworkState.ahead
  rcases inside with here | here | ⟨here, receiving⟩
  · rw [here]
  · rw [here]
  · rw [here]
    exact if_pos receiving

/-- **The server starts an iteration only while the flag is set.** -/
theorem serves_ahead {server : ServerState Empty} (stopped : state.server.running = false)
    (turn : state.pipeline.main = .receiving ∨ state.server.run = .catching)
    (step : ServerStep listenFd state.server server) :
    NetworkState.ahead { state with server } ≤ state.ahead := by
  have started (inside : state.ahead = 1) : NetworkState.ahead { state with server } ≤ state.ahead := by
    rw [inside]
    exact ahead_le_one _
  cases step with
  | calls idle => exact ahead_same rfl id
  | stores storing => exact ahead_same rfl id
  | returns returning => exact ahead_same rfl id
  | setsRunning value => exact ahead_same rfl id
  | peers peer => exact ahead_same rfl id
  | loadsRunning loading running =>
      rw [stopped] at running
      cases running
  | iterates loading free => exact started (ahead_inside (Or.inl loading))
  | polls polling step => exact started (ahead_inside (Or.inr (Or.inl polling)))
  | works working step =>
      refine started (ahead_inside (Or.inr (Or.inr ⟨working, turn.resolve_right fun catching => ?_⟩)))
      rw [working] at catching
      cases catching
  | _ => exact Nat.zero_le _

/-- **A step after the stop**: a candidate submitted was ahead. -/
theorem udp_ahead (reachable : (networkStation options health listenFd .udp).Reachable state)
    (stopped : state.server.running = false) (step : NetworkStep options listenFd state next) :
    next.pipeline.submitted.length + next.ahead ≤ state.pipeline.submitted.length + state.ahead ∧
      next.server.running = false := by
  -- the other threads submit nothing and leave the server where it is
  have others {after : PipelineState options.decoderThreads}
      (submitted : after.submitted = state.pipeline.submitted)
      (main : after.main = .receiving → state.pipeline.main = .receiving) :
      after.submitted.length + (state.stepped after).ahead ≤
          state.pipeline.submitted.length + state.ahead ∧
        (state.stepped after).server.running = false := by
    refine ⟨?_, ?_⟩
    · rw [submitted]
      exact Nat.add_le_add_left (@ahead_same _ state (state.stepped after) rfl main) _
    · show (state.server.running && _) = false
      rw [stopped]
      rfl
  -- a call of `submit` ends the iteration
  have ended {after : PipelineState options.decoderThreads} {loop : LoopState} {bytes : ByteVector}
      (inside : state.pipeline.main.InSubmit) (step : MainStep state.pipeline after)
      (works : state.server.loop.Works state.server.serverFd loop)
      (gives : loop.given = state.server.loop.given ++ [bytes]) :
      after.submitted.length + (state.left after loop).ahead ≤
          state.pipeline.submitted.length + state.ahead ∧
        (state.left after loop).server.running = false := by
    refine ⟨?_, ?_⟩
    · have udp := server_transport (station_server reachable)
      have none : (state.left after loop).ahead = 0 := by
        rcases works_udp udp works gives with head | catching
        · exact ahead_run (by simp [NetworkState.left, head]) (by simp [NetworkState.left, head])
            (by simp [NetworkState.left, head])
        · exact ahead_run (by simp [NetworkState.left, catching])
            (by simp [NetworkState.left, catching]) (by simp [NetworkState.left, catching])
      rw [mainStep_submitted (inSubmit_busy inside) step, none]
      exact Nat.add_le_add_left (Nat.zero_le _) _
    · show (state.server.running && _) = false
      rw [stopped]
      rfl
  cases step with
  | peers peer => exact ⟨Nat.add_le_add_left (ahead_same rfl id) _, stopped⟩
  | signals => exact ⟨Nat.add_le_add_left (ahead_same rfl id) _, rfl⟩
  | serves turn resting step reads =>
      exact ⟨Nat.add_le_add_left (serves_ahead stopped turn step) _, reads.trans stopped⟩
  | ends receiving returned =>
      have same := @ahead_same _ state
        { state with pipeline := { state.pipeline with main := .closingRaw } } rfl (by simp)
      exact ⟨Nat.add_le_add_left same _, stopped⟩
  | throws exn receiving threw =>
      have same := @ahead_same _ state
        { state with pipeline := { state.pipeline with main := .failing exn .capturing } } rfl (by simp)
      exact ⟨Nat.add_le_add_left same _, stopped⟩
  | @submits bytes receiving working calls =>
      refine ⟨?_, stopped⟩
      rw [ahead_inside (Or.inr (Or.inr ⟨working, receiving⟩)), ahead_run (by simp [working])
        (by simp [working]) (by simp)]
      simp
  | goesOn inside step still =>
      refine others (mainStep_submitted (inSubmit_busy inside) step) fun back => ?_
      exact absurd back (inSubmit_busy still)
  | returns inside step back works working calls gives alive =>
      exact ended inside step works gives
  | throwsOut inside step out works working calls gives thrown =>
      exact ended inside step works gives
  | main outside busy unwound step =>
      refine others (mainStep_submitted busy step) fun back => ?_
      exact absurd back (mainStep_outside outside busy step).2
  | decoder step =>
      exact others (decoderStep_submissions step).2.1 fun here => (decoderStep_frame step).1 ▸ here
  | writer step =>
      exact others (writerStep_submissions step).2.1 fun here => (writerStep_frame step).1 ▸ here

/-- **After a stop a station on UDP submits one more datagram at most.** -/
theorem udp_stops (reachable : (networkStation options health listenFd .udp).Reachable state)
    (stopped : state.server.running = false) {later : NetworkState options.decoderThreads}
    (path : ReflTransGen (NetworkStep options listenFd) state later) :
    later.pipeline.submitted.length ≤ state.pipeline.submitted.length + 1 := by
  have kept : later.pipeline.submitted.length + later.ahead ≤
      state.pipeline.submitted.length + state.ahead ∧ later.server.running = false := by
    induction path with
    | refl => exact ⟨Nat.le_refl _, stopped⟩
    | tail before step ih =>
        obtain ⟨less, off⟩ := udp_ahead (reachable.path before) ih.2 step
        exact ⟨less.trans ih.1, off⟩
  have one := ahead_le_one state
  omega

end Udp

/-! ## TCP -/

section Tcp

/-- The server is draining a socket that it has just emptied. -/
structure Draining (tcp : TcpState) : Prop where
  pc : tcp.pc = .receiving 0 false
  clients : tcp.clients = [{ fd := 5 }]
  live : tcp.live 5 = some 0
  frames : tcp.frames = []
  drained : tcp.received 0 = tcp.sent 0
  isOpen : tcp.finished 0 = false
  room : tcp.readBuffer.length = tcpReadBufferSize

/-- Some bytes arrive. -/
def arrival (tcp : TcpState) (bytes : ByteVector) : TcpState :=
  { tcp with sent := Function.update tcp.sent 0 (tcp.sent 0 ++ bytes) }

/-- They are received whole, and the extractor returns them. -/
def delivery (tcp : TcpState) (bytes : ByteVector) : TcpState :=
  { arrival tcp bytes with
    pc := .delivering 0 false
    readBuffer := recvInto tcp.readBuffer bytes
    frames := [(0, bytes)]
    received := Function.update tcp.received 0 (tcp.received 0 ++ bytes) }

variable {serverFd : Int} {tcp : TcpState}

theorem feed_wire {frame : TelemetryFrame} (encodable : Wire.Encodable frame) :
    StreamFrameExtractor.feed {} (wire frame) = ([wire frame], {}) := by
  have fed := @freshFeed_wires [frame] (by simp [encodable])
  simpa [freshFeed] using fed

theorem wire_fits {frame : TelemetryFrame} (encodable : Wire.Encodable frame) :
    wire frame ≠ [] ∧ (wire frame).length ≤ tcpReadBufferSize := by
  have most := wire_length_le encodable
  have least := header_le_wire frame
  refine ⟨fun empty => ?_, most.trans (by decide)⟩
  rw [empty] at least
  exact absurd least (by decide)

theorem Draining.receives (draining : Draining tcp) {frame : TelemetryFrame}
    (encodable : Wire.Encodable frame) :
    TcpStep serverFd (arrival tcp (wire frame)) (delivery tcp (wire frame)) := by
  obtain ⟨pc, clients, live, _, drained, _, room⟩ := draining
  obtain ⟨nonempty, short⟩ := wire_fits encodable
  have fits : (wire frame).length ≤ (arrival tcp (wire frame)).readBuffer.length := by
    show (wire frame).length ≤ tcp.readBuffer.length
    rwa [room]
  have next : wire frame <+: ((arrival tcp (wire frame)).sent 0).drop
      ((arrival tcp (wire frame)).received 0).length := by
    show wire frame <+: (Function.update tcp.sent 0 (tcp.sent 0 ++ wire frame) 0).drop
      (tcp.received 0).length
    rw [Function.update_self, drained, List.drop_left]
  have there : (arrival tcp (wire frame)).clients[0]? = some { fd := 5 } := by
    show tcp.clients[0]? = _
    rw [clients]
    rfl
  have step := @TcpStep.receives serverFd (arrival tcp (wire frame)) 0 false _ 0 (wire frame) pc there
    live nonempty fits next
  simp only [recvInto_take, feed_wire encodable] at step
  have kept : (arrival tcp (wire frame)).clients.set 0 { fd := 5, extractor := {} } =
      tcp.clients := by
    show tcp.clients.set 0 _ = tcp.clients
    rw [clients]
    rfl
  rw [kept] at step
  exact step

/-- The candidate is given, and the socket is empty again. -/
theorem Draining.gives (draining : Draining tcp) {frame : TelemetryFrame}
    (encodable : Wire.Encodable frame) (given : List (Connection × ByteVector)) :
    Draining { delivery tcp (wire frame) with pc := .receiving 0 false, frames := [], given } := by
  refine ⟨rfl, draining.clients, draining.live, rfl, ?_, draining.isOpen, ?_⟩
  · show Function.update tcp.received 0 (tcp.received 0 ++ wire frame) 0 =
      Function.update tcp.sent 0 (tcp.sent 0 ++ wire frame) 0
    rw [Function.update_self, Function.update_self, draining.drained]
  · show (recvInto tcp.readBuffer (wire frame)).length = tcpReadBufferSize
    have short := (wire_fits encodable).2
    have room := draining.room
    rw [recvInto, List.length_append, List.length_drop]
    omega

variable {options : Options} {health : StationHealthMonitor} {listenFd : Int}

/-- In an iteration of `runTcp`, with the flag cleared. -/
def stoppedAt {decoders : Nat} (pipeline : PipelineState decoders) (server : ServerState Empty)
    (tcp : TcpState) : NetworkState decoders where
  pipeline
  server := { server with run := .working, running := false, loop := .tcp tcp }

/-- The pipeline has failed, and the server is draining a socket. -/
structure Flooded {decoders : Nat} (pipeline : PipelineState decoders) (tcp : TcpState) : Prop where
  draining : Draining tcp
  main : pipeline.main = .receiving
  closed : pipeline.rawQueue.closed = true

theorem stoppedAt_works {decoders : Nat} (pipeline : PipelineState decoders)
    {server : ServerState Empty} {next : TcpState} (step : TcpStep server.serverFd tcp next)
    (inside : (LoopState.tcp next).run = .working) :
    ServerStep listenFd (stoppedAt pipeline server tcp).server
      (stoppedAt pipeline server next).server := by
  have works := @ServerStep.works _ _ listenFd (stoppedAt pipeline server tcp).server (.tcp next) rfl
    (.tcp step)
  rw [inside] at works
  exact works

/-- **The peer sends another frame, and the station takes it.** -/
theorem flooded_next {pipeline : PipelineState options.decoderThreads} {server : ServerState Empty}
    {tcp : TcpState} (flooded : Flooded pipeline tcp) :
    ∃ pipeline' tcp', Flooded pipeline' tcp' ∧
      pipeline'.submitted.length = pipeline.submitted.length + 1 ∧
        ReflTransGen (NetworkStep options listenFd) (stoppedAt pipeline server tcp)
          (stoppedAt pipeline' server tcp') := by
  obtain ⟨draining, receiving, closed⟩ := flooded
  let called : PipelineState options.decoderThreads :=
    { pipeline with
      main := .pushing ⟨pipeline.nextSequence, wire {}⟩
      nextSequence := pipeline.nextSequence + 1
      submitted := pipeline.submitted ++ [wire {}] }
  let refused : PipelineState options.decoderThreads := { called with main := .refused }
  let back : PipelineState options.decoderThreads :=
    { refused with running := false, main := .receiving }
  let given : TcpState :=
    { delivery tcp (wire {}) with frames := [], given := tcp.given ++ [(0, wire {})] }
  let drained : TcpState := { given with pc := .receiving 0 false }
  have quiet : LoopState.calls (.tcp (arrival tcp (wire {}))) = none := by
    simp [LoopState.calls, arrival, draining.pc]
  have sends : NetworkStep options listenFd (stoppedAt pipeline server tcp)
      (stoppedAt pipeline server (arrival tcp (wire {}))) :=
    .peers (.sends tcp 0 (wire {}) draining.isOpen)
  have receives : NetworkStep options listenFd (stoppedAt pipeline server (arrival tcp (wire {})))
      (stoppedAt pipeline server (delivery tcp (wire {}))) :=
    .serves (Or.inl receiving) quiet (stoppedAt_works _ (draining.receives encodable_default) rfl) rfl
  have submits : NetworkStep options listenFd (stoppedAt pipeline server (delivery tcp (wire {})))
      (stoppedAt called server (delivery tcp (wire {}))) := .submits receiving rfl rfl
  have refuses : NetworkStep options listenFd (stoppedAt called server (delivery tcp (wire {})))
      (stoppedAt refused server (delivery tcp (wire {}))) :=
    .goesOn trivial (.refuses rfl (if_pos closed)) trivial
  have gives : NetworkStep options listenFd (stoppedAt refused server (delivery tcp (wire {})))
      (stoppedAt back server given) := by
    have back := @NetworkStep.returns _ options listenFd (stoppedAt refused server (delivery tcp (wire {})))
      back (.tcp given) (wire {}) trivial (.stops rfl) rfl (.tcp (.gives rfl rfl)) rfl rfl
    refine back ?_ ?_
    · exact List.map_append
    · exact fun dead => by cases dead
  have delivers : NetworkStep options listenFd (stoppedAt back server given)
      (stoppedAt back server drained) :=
    .serves (Or.inl rfl) rfl (stoppedAt_works _ (.delivers rfl rfl) rfl) rfl
  refine ⟨back, drained, ⟨draining.gives encodable_default _, rfl, closed⟩, List.length_append, ?_⟩
  exact ((((ReflTransGen.single sends).tail receives).tail submits).tail refuses).tail gives
    |>.tail delivers

/-- Any number of frames. -/
theorem flooded_path {pipeline : PipelineState options.decoderThreads} {server : ServerState Empty}
    {tcp : TcpState} (flooded : Flooded pipeline tcp) (count : Nat) :
    ∃ pipeline' tcp', Flooded pipeline' tcp' ∧
      pipeline'.submitted.length = pipeline.submitted.length + count ∧
        ReflTransGen (NetworkStep options listenFd) (stoppedAt pipeline server tcp)
          (stoppedAt pipeline' server tcp') := by
  induction count with
  | zero => exact ⟨pipeline, tcp, flooded, rfl, .refl⟩
  | succ count ih =>
      obtain ⟨before, sofar, still, length, path⟩ := ih
      obtain ⟨after, tcp', flooded', one, more⟩ := @flooded_next options listenFd _ server _ still
      exact ⟨after, tcp', flooded', by omega, path.trans more⟩

/-- The first client is accepted and found readable. -/
def firstClient (listenFd : Int) : TcpState where
  pc := .receiving 0 false
  clients := [{ fd := 5 }]
  pfds := [{ fd := listenFd, revents := { pollIn := true } }, { fd := 5, revents := { pollIn := true } }]
  live := Function.update (fun _ => none) 5 (some 0)
  accepted := 1

theorem firstClient_draining (listenFd : Int) : Draining (firstClient listenFd) := by
  refine ⟨rfl, rfl, ?_, rfl, rfl, rfl, List.length_replicate⟩
  show Function.update (fun _ : Int => (none : Option Connection)) 5 (some 0) 5 = some 0
  exact Function.update_self ..

theorem firstClient_reachable (options : Options) (health : StationHealthMonitor) (listenFd : Int) :
    (networkStation options health listenFd .tcp).Reachable
      { pipeline := .initial options health
        server :=
          { run := .working, running := true, serverFd := listenFd
            loop := .tcp (firstClient listenFd) } } := by
  let listening : PollFd := { fd := listenFd, revents := { pollIn := true } }
  let readable : PollFd := { fd := 5, revents := { pollIn := true } }
  have run := @System.Reachable.start _ (networkStation options health listenFd .tcp) _ rfl
  replace run := run.step (.serves (Or.inl rfl) rfl (.enters rfl) rfl)
  replace run := run.step (.serves (Or.inl rfl) rfl (.resets rfl) rfl)
  replace run := run.step (.serves (Or.inl rfl) rfl (.opens rfl) rfl)
  replace run := run.step (.serves (Or.inl rfl) rfl (.loadsRunning rfl rfl) rfl)
  replace run := run.step (.serves (Or.inl rfl) rfl (.iterates rfl rfl) rfl)
  replace run := run.step
    (.serves (Or.inl rfl) rfl (.polls rfl (@LoopState.Polls.tcp _ [listening] _ rfl)) rfl)
  replace run := run.step (.serves (Or.inl rfl) rfl (.works rfl (.tcp (.visited rfl rfl))) rfl)
  replace run := run.step (.serves (Or.inl rfl) rfl
    (.works rfl (.tcp (@TcpStep.accepts _ _ 5 false rfl (by decide) rfl))) rfl)
  replace run := run.step (.serves (Or.inl rfl) rfl (.works rfl (.tcp (.acceptEnds rfl))) rfl)
  replace run := run.step (.serves (Or.inl rfl) rfl (.loadsRunning rfl rfl) rfl)
  replace run := run.step (.serves (Or.inl rfl) rfl (.iterates rfl rfl) rfl)
  replace run := run.step
    (.serves (Or.inl rfl) rfl (.polls rfl (@LoopState.Polls.tcp _ [listening, readable] _ rfl)) rfl)
  replace run := run.step
    (.serves (Or.inl rfl) rfl (.works rfl (.tcp (.drains rfl rfl rfl rfl))) rfl)
  exact run

/-- Then the writer throws. -/
theorem flooded_reachable (options : Options) (health : StationHealthMonitor) (listenFd : Int) :
    ∃ pipeline server tcp, Flooded pipeline tcp ∧ pipeline.failure.isSome = true ∧
      (networkStation options health listenFd .tcp).Reachable (stoppedAt pipeline server tcp) := by
  have run := firstClient_reachable options health listenFd
  replace run := run.step (.writer (.throws (.runtimeError "write failed") trivial))
  replace run := run.step (.writer (.fails rfl))
  replace run := run.step (.writer (.fails rfl))
  replace run := run.step (.writer (.fails rfl))
  replace run := run.step (.writer (.fails rfl))
  exact ⟨_, _, _, ⟨firstClient_draining listenFd, rfl, rfl⟩, rfl, run⟩

/-- **A stop is bounded on UDP, and not on TCP.**  Once `running_` is cleared a station on
UDP submits at most one more datagram.  On TCP there is no such bound: for every number, a
station whose pipeline has failed, and which refuses everything, can go on to take that many
frames from a peer. -/
theorem stop_bound (options : Options) (health : StationHealthMonitor) (listenFd : Int) :
    (∀ state later : NetworkState options.decoderThreads,
      (networkStation options health listenFd .udp).Reachable state →
        state.server.running = false → ReflTransGen (NetworkStep options listenFd) state later →
          later.pipeline.submitted.length ≤ state.pipeline.submitted.length + 1) ∧
    ∀ count, ∃ state later : NetworkState options.decoderThreads,
      (networkStation options health listenFd .tcp).Reachable state ∧
        state.server.running = false ∧ state.pipeline.failure.isSome = true ∧
          ReflTransGen (NetworkStep options listenFd) state later ∧
            later.pipeline.submitted.length = state.pipeline.submitted.length + count := by
  refine ⟨fun state later reachable stopped path => udp_stops reachable stopped path,
    fun count => ?_⟩
  obtain ⟨pipeline, server, tcp, flooded, failed, reachable⟩ :=
    flooded_reachable options health listenFd
  obtain ⟨after, tcp', _, length, path⟩ := flooded_path flooded count
  exact ⟨_, _, reachable, rfl, failed, path, length⟩

end Tcp

end Stgs.Station
