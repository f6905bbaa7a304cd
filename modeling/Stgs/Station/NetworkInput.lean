/-
# Station.NetworkInput -- the station fed by its network server

`receiveNetwork` runs a `NetworkServer` on the main thread, and `submit` is its callback.
`networkStation` is the pipeline with that server beside it: `submit` is called with the
candidate that the server delivers, and the server waits until the call is back.

`running_` has many writers.  The server reads it, so `server.running` is the flag;
`pipeline.running` is what the station's own threads have made of it.  They differ by
`signals`: SIGINT or SIGTERM clears the flag, at any moment.
-/
import Stgs.Station.ReplayInput
import Stgs.Stream.Delivered

namespace Stgs.Station

open Relation Stgs.Cli Stgs.Concurrent Stgs.Stream Stgs.Theory.Transition Stgs.Wire

set_option autoImplicit false

/-! ## The input stage -/

/-- In `submit`. -/
def MainPc.InSubmit : MainPc → Prop
  | pushing _ | refused | counting => True
  | _ => False

/-- Nobody calls `stop` while `run` is active. -/
structure NetworkState (decoders : Nat) where
  pipeline : PipelineState decoders
  server : ServerState Empty

section Steps

variable {decoders : Nat}

/-- A thread of the station has taken a step; if it cleared `running_`, that is clear. -/
def NetworkState.stepped (state : NetworkState decoders) (next : PipelineState decoders) :
    NetworkState decoders where
  pipeline := next
  server := { state.server with running := state.server.running && next.running }

/-- The same step ends the server's call of `submit`. -/
def NetworkState.left (state : NetworkState decoders) (next : PipelineState decoders)
    (loop : LoopState) : NetworkState decoders where
  pipeline := next
  server :=
    { state.server with run := loop.run, loop, running := state.server.running && next.running }

/-- A step, when the kernel gives the server the descriptor `listenFd`. -/
inductive NetworkStep (options : Options) (listenFd : Int) (state : NetworkState decoders) :
    NetworkState decoders → Prop where
  -- the peers, and a signal
  | peers {loop : LoopState} (peer : state.server.loop.Peers loop) :
      NetworkStep options listenFd state { state with server := { state.server with loop } }
  | signals :
      NetworkStep options listenFd state
        { state with server := { state.server with running := false } }
  -- `NetworkServer::run`; behind a callback that threw there is only its `catch`
  | serves {server : ServerState Empty}
      (turn : state.pipeline.main = .receiving ∨ state.server.run = .catching)
      (resting : state.server.loop.calls = none) (step : ServerStep listenFd state.server server)
      (reads : server.running = state.server.running) :
      NetworkStep options listenFd state { state with server }
  | ends (receiving : state.pipeline.main = .receiving) (returned : state.server.run = .returned) :
      NetworkStep options listenFd state
        { state with pipeline := { state.pipeline with main := .closingRaw } }
  | throws (exn : Exn) (receiving : state.pipeline.main = .receiving)
      (threw : state.server.run = .constructed ∨ state.server.run = .threw) :
      NetworkStep options listenFd state
        { state with pipeline := { state.pipeline with main := .failing exn .capturing } }
  -- the callback
  | submits {bytes : ByteVector} (receiving : state.pipeline.main = .receiving)
      (working : state.server.run = .working) (calls : state.server.loop.calls = some bytes) :
      NetworkStep options listenFd state
        { state with
          pipeline :=
            { state.pipeline with
              main := .pushing ⟨state.pipeline.nextSequence, bytes⟩
              nextSequence := state.pipeline.nextSequence + 1
              submitted := state.pipeline.submitted ++ [bytes] } }
  | goesOn {next : PipelineState decoders} (inside : state.pipeline.main.InSubmit)
      (step : MainStep state.pipeline next) (still : next.main.InSubmit) :
      NetworkStep options listenFd state (state.stepped next)
  | returns {next : PipelineState decoders} {loop : LoopState} {bytes : ByteVector}
      (inside : state.pipeline.main.InSubmit) (step : MainStep state.pipeline next)
      (back : next.main = .receiving) (works : state.server.loop.Works state.server.serverFd loop)
      (working : state.server.run = .working) (calls : state.server.loop.calls = some bytes)
      (gives : loop.given = state.server.loop.given ++ [bytes]) (alive : loop.run ≠ .catching) :
      NetworkStep options listenFd state (state.left next loop)
  | throwsOut {next : PipelineState decoders} {loop : LoopState} {bytes : ByteVector} {exn : Exn}
      (inside : state.pipeline.main.InSubmit) (step : MainStep state.pipeline next)
      (out : next.main = .failing exn .capturing)
      (works : state.server.loop.Works state.server.serverFd loop)
      (working : state.server.run = .working) (calls : state.server.loop.calls = some bytes)
      (gives : loop.given = state.server.loop.given ++ [bytes]) (thrown : loop.run = .catching) :
      NetworkStep options listenFd state (state.left next loop)
  -- the main thread behind its input, and the other threads
  | main {next : PipelineState decoders} (outside : ¬ state.pipeline.main.InSubmit)
      (busy : state.pipeline.main ≠ .receiving) (unwound : state.server.run ≠ .catching)
      (step : MainStep state.pipeline next) : NetworkStep options listenFd state (state.stepped next)
  | decoder {i : Fin decoders} {next : PipelineState decoders}
      (step : DecoderStep i state.pipeline next) :
      NetworkStep options listenFd state (state.stepped next)
  | writer {next : PipelineState decoders} (step : WriterStep options state.pipeline next) :
      NetworkStep options listenFd state (state.stepped next)

end Steps

/-- **The station on a network.** -/
def networkStation (options : Options) (health : StationHealthMonitor) (listenFd : Int)
    (transport : Transport) : System (NetworkState options.decoderThreads) where
  start state := state =
    { pipeline := .initial options health, server := { running := true, loop := .initial transport } }
  step := NetworkStep options listenFd

/-! ## Its two components -/

section Components

variable {options : Options} {health : StationHealthMonitor} {listenFd : Int}
  {transport : Transport} {state next : NetworkState options.decoderThreads}

theorem NetworkStep.pipeline (step : NetworkStep options listenFd state next) :
    next.pipeline = state.pipeline ∨
      (pipeline options health).step state.pipeline next.pipeline := by
  cases step with
  | peers peer => exact Or.inl rfl
  | signals => exact Or.inl rfl
  | serves turn resting step reads => exact Or.inl rfl
  | ends receiving returned => exact Or.inr (Or.inl (.ends receiving))
  | throws exn receiving threw =>
      exact Or.inr (Or.inl (.throws exn (by rw [receiving]; exact trivial)))
  | submits receiving working calls => exact Or.inr (Or.inl (.submits _ receiving))
  | goesOn inside step still => exact Or.inr (Or.inl step)
  | returns inside step => exact Or.inr (Or.inl step)
  | throwsOut inside step => exact Or.inr (Or.inl step)
  | main outside busy unwound step => exact Or.inr (Or.inl step)
  | decoder step => exact Or.inr (Or.inr (Or.inl ⟨_, step⟩))
  | writer step => exact Or.inr (Or.inr (Or.inr step))

/-- **The station is a run of the pipeline**, whatever the network does. -/
theorem station_pipeline
    (reachable : (networkStation options health listenFd transport).Reachable state) :
    (Station.pipeline options health).Reachable state.pipeline := by
  refine @System.invariant _ _
    (fun state => (Station.pipeline options health).Reachable state.pipeline) ?_ ?_ _ reachable
  · rintro _ rfl
    exact .start rfl
  · intro state next before step
    rcases @NetworkStep.pipeline _ health _ _ _ step with same | stepped
    · rw [same]
      exact before
    · exact before.step stepped

/-- A step of a thread is a store to `running_`, if anything, for the server. -/
theorem stepped_server (state : NetworkState options.decoderThreads)
    (next : PipelineState options.decoderThreads) :
    ServerStep listenFd state.server (state.stepped next).server := .setsRunning _

theorem left_server {loop : LoopState} (next : PipelineState options.decoderThreads)
    (working : state.server.run = .working)
    (works : state.server.loop.Works state.server.serverFd loop) :
    state.server.Reaches listenFd (state.left next loop).server := by
  have worked : ServerStep listenFd state.server { state.server with run := loop.run, loop } :=
    .works working works
  exact (ReflTransGen.single worked).tail (.setsRunning _)

theorem NetworkStep.server (step : NetworkStep options listenFd state next) :
    state.server.Reaches listenFd next.server := by
  cases step with
  | peers peer => exact .single (.peers peer)
  | signals => exact .single (.setsRunning false)
  | serves turn resting step reads => exact .single step
  | ends receiving returned => exact .refl
  | throws exn receiving threw => exact .refl
  | submits receiving working calls => exact .refl
  | goesOn inside step still => exact .single (stepped_server state _)
  | returns inside step back works working => exact left_server _ working works
  | throwsOut inside step out works working => exact left_server _ working works
  | main outside busy unwound step => exact .single (stepped_server state _)
  | decoder step => exact .single (stepped_server state _)
  | writer step => exact .single (stepped_server state _)

/-- **Its input is a run of the server**, whatever the pipeline does. -/
theorem station_server
    (reachable : (networkStation options health listenFd transport).Reachable state) :
    (networkServer Empty listenFd transport true).Reachable state.server := by
  refine @System.invariant _ _
    (fun state => (networkServer Empty listenFd transport true).Reachable state.server) ?_ ?_ _
    reachable
  · rintro _ rfl
    exact .start rfl
  · intro state next before step
    exact before.path step.server

end Components

/-! ## What is submitted is what the server gives -/

section Linked

variable {options : Options} {health : StationHealthMonitor} {listenFd : Int}
  {transport : Transport} {state next : NetworkState options.decoderThreads}

/-- What was submitted has been given, but for the candidate `submit` is working on; and
the input stage ends with the server. -/
structure Linked (state : NetworkState options.decoderThreads) : Prop where
  outside : ¬ state.pipeline.main.InSubmit →
    state.pipeline.submitted = state.server.loop.given
  inside : state.pipeline.main.InSubmit → ∃ bytes, state.server.loop.calls = some bytes ∧
    state.pipeline.submitted = state.server.loop.given ++ [bytes]
  past : state.pipeline.main.PastInput →
    state.pipeline.failure.isSome = true ∨ state.server.run = .returned

theorem not_inSubmit_receiving {pc : MainPc} (receiving : pc = .receiving) : ¬ pc.InSubmit := by
  rw [receiving]
  exact id

theorem inSubmit_busy {pc : MainPc} (inside : pc.InSubmit) : pc ≠ .receiving :=
  fun receiving => not_inSubmit_receiving receiving inside

theorem inSubmit_not_past {pc : MainPc} (inside : pc.InSubmit) : ¬ pc.PastInput := by
  cases pc <;> first | exact id | exact inside.elim

/-- Behind the input stage the main thread neither receives nor submits. -/
theorem mainStep_outside {state next : PipelineState options.decoderThreads}
    (outside : ¬ state.main.InSubmit) (busy : state.main ≠ .receiving) (step : MainStep state next) :
    ¬ next.main.InSubmit ∧ next.main ≠ .receiving := by
  cases step with
  | submits bytes receiving => exact absurd receiving busy
  | pushes pushing pushed => exact absurd (by rw [pushing]; trivial) outside
  | refuses pushing pushed => exact absurd (by rw [pushing]; trivial) outside
  | stops refused => exact absurd (by rw [refused]; trivial) outside
  | counts counting => exact absurd (by rw [counting]; trivial) outside
  | @fails exn stage failing => cases stage <;> exact ⟨id, by simp [MainPc.afterFail, FailStage.next]⟩
  | _ => exact ⟨id, by simp⟩

/-- A thread of the station that leaves the main thread where it is. -/
theorem Linked.others (linked : Linked state) {after : PipelineState options.decoderThreads}
    (main : after.main = state.pipeline.main) (submitted : after.submitted = state.pipeline.submitted)
    (failure : state.pipeline.failure.isSome = true → after.failure.isSome = true) :
    Linked (state.stepped after) := by
  constructor
  · show ¬ after.main.InSubmit → after.submitted = state.server.loop.given
    rw [main, submitted]
    exact linked.outside
  · show after.main.InSubmit → ∃ bytes, state.server.loop.calls = some bytes ∧
      after.submitted = state.server.loop.given ++ [bytes]
    rw [main, submitted]
    exact linked.inside
  · show after.main.PastInput → after.failure.isSome = true ∨ state.server.run = .returned
    rw [main]
    exact fun past => (linked.past past).imp_left failure

/-- **The end of the call**: the candidate is submitted and given. -/
theorem Linked.left (linked : Linked state) (inside : state.pipeline.main.InSubmit)
    {after : PipelineState options.decoderThreads} {loop : LoopState} {bytes : ByteVector}
    (step : MainStep state.pipeline after) (out : ¬ after.main.InSubmit)
    (input : ¬ after.main.PastInput) (calls : state.server.loop.calls = some bytes)
    (gives : loop.given = state.server.loop.given ++ [bytes]) : Linked (state.left after loop) := by
  refine ⟨fun _ => ?_, fun still => absurd still out, fun past => absurd past input⟩
  obtain ⟨called, calling, submitted⟩ := linked.inside inside
  obtain rfl := Option.some.inj (calls.symm.trans calling)
  show after.submitted = loop.given
  rw [mainStep_submitted (inSubmit_busy inside) step, submitted, gives]

theorem linked_step (inv : Shutdown state.pipeline) (linked : Linked state)
    (step : NetworkStep options listenFd state next) : Linked next := by
  cases step with
  | peers peer =>
      obtain ⟨given, calls⟩ := peers_given peer
      refine ⟨fun out => (linked.outside out).trans given.symm, fun inside => ?_, linked.past⟩
      obtain ⟨bytes, calling, submitted⟩ := linked.inside inside
      exact ⟨bytes, calls.trans calling, submitted.trans (by rw [given])⟩
  | signals => exact ⟨linked.outside, linked.inside, linked.past⟩
  | @serves server turn resting step reads =>
      have given := serverStep_given step resting
      refine ⟨fun out => (linked.outside out).trans given.symm, fun inside => ?_, fun past => ?_⟩
      · obtain ⟨bytes, calling, _⟩ := linked.inside inside
        rw [resting] at calling
        cases calling
      · rcases turn with receiving | catching
        · have past : state.pipeline.main.PastInput := past
          rw [receiving] at past
          exact past.elim
        · refine Or.inl ((linked.past past).resolve_right fun returned => ?_)
          rw [catching] at returned
          cases returned
  | ends receiving returned =>
      exact ⟨fun _ => linked.outside (not_inSubmit_receiving receiving), False.elim,
        fun _ => Or.inr returned⟩
  | throws exn receiving threw =>
      exact ⟨fun _ => linked.outside (not_inSubmit_receiving receiving), False.elim, False.elim⟩
  | @submits bytes receiving working calls =>
      refine ⟨fun out => absurd trivial out, fun _ => ⟨bytes, calls, ?_⟩, False.elim⟩
      show state.pipeline.submitted ++ [bytes] = _
      rw [linked.outside (not_inSubmit_receiving receiving)]
  | @goesOn after inside step still =>
      obtain ⟨bytes, calling, submitted⟩ := linked.inside inside
      refine ⟨fun out => absurd still out, fun _ => ⟨bytes, calling, ?_⟩,
        fun past => absurd past (inSubmit_not_past still)⟩
      exact (mainStep_submitted (inSubmit_busy inside) step).trans submitted
  | returns inside step back works working calls gives alive =>
      exact linked.left inside step (by rw [back]; exact id) (by rw [back]; exact id) calls gives
  | throwsOut inside step out works working calls gives thrown =>
      exact linked.left inside step (by rw [out]; exact id) (by rw [out]; exact id) calls gives
  | @main after outside busy unwound step =>
      refine ⟨fun _ => ?_, fun inside => absurd inside (mainStep_outside outside busy step).1,
        fun past => ?_⟩
      · exact (mainStep_submitted busy step).trans (linked.outside outside)
      · rcases mainStep_past inv busy step past with earlier | failed
        · exact (linked.past earlier).imp_left (mainStep_later step).failure
        · exact Or.inl failed
  | decoder step =>
      exact linked.others (decoderStep_frame step).1 (decoderStep_submissions step).2.1
        (decoderStep_later step).failure
  | writer step =>
      exact linked.others (writerStep_frame step).1 (writerStep_submissions step).2.1
        (writerStep_later step).failure

theorem linked (reachable : (networkStation options health listenFd transport).Reachable state) :
    Linked state := by
  refine @System.invariant_of _ _
    (fun state => (pipeline options health).Reachable state.pipeline) Linked
    (fun _ reached => station_pipeline reached) ?_ ?_ _ reachable
  · rintro _ rfl
    refine ⟨fun _ => ?_, False.elim, False.elim⟩
    cases transport <;> rfl
  · intro state next reached before step
    exact linked_step (shutdown reached) before step

/-- A candidate on its way is submitted or not. -/
theorem Linked.submitted (linked : Linked state) :
    state.server.loop.given <+: state.pipeline.submitted ∧
      state.pipeline.submitted <+: state.server.loop.given ++ state.server.loop.calls.toList := by
  by_cases inside : state.pipeline.main.InSubmit
  · obtain ⟨bytes, calls, submitted⟩ := linked.inside inside
    rw [submitted, calls]
    exact ⟨List.prefix_append _ _, List.prefix_rfl⟩
  · rw [linked.outside inside]
    exact ⟨List.prefix_rfl, List.prefix_append _ _⟩

/-- **A station that returned has had a server that returned**, and has submitted what it
gave. -/
theorem station_returned
    (reachable : (networkStation options health listenFd transport).Reachable state)
    (returned : state.pipeline.main = .returned) :
    state.server.run = .returned ∧ state.pipeline.submitted = state.server.loop.given := by
  have linked := linked reachable
  have place := (shutdown (station_pipeline reachable)).main
  rw [returned] at place
  obtain ⟨_, _, _, clean⟩ := place
  refine ⟨?_, linked.outside (by rw [returned]; exact id)⟩
  refine (linked.past (by rw [returned]; trivial)).resolve_left fun failed => ?_
  rw [clean] at failed
  cases failed

end Linked

/-! ## Behind the input stage -/

section Behind

variable {options : Options}

/-- A step that the input stage has no part in. -/
inductive Behind (options : Options) {decoders : Nat} (state next : PipelineState decoders) : Prop where
  | main (outside : ¬ state.main.InSubmit) (busy : state.main ≠ .receiving)
      (step : MainStep state next)
  | decoder (i : Fin decoders) (step : DecoderStep i state next)
  | writer (step : WriterStep options state next)

theorem network_behind {listenFd : Int} {state : NetworkState options.decoderThreads}
    (unwound : state.server.run ≠ .catching) {later : PipelineState options.decoderThreads}
    (path : ReflTransGen (Behind options) state.pipeline later) :
    ∃ server : ServerState Empty, server.run = state.server.run ∧
      server.loop = state.server.loop ∧
        ReflTransGen (NetworkStep options listenFd) state { pipeline := later, server } := by
  induction path with
  | refl => exact ⟨state.server, rfl, rfl, .refl⟩
  | @tail middle later _ step ih =>
      obtain ⟨server, run, loop, before⟩ := ih
      refine ⟨(NetworkState.stepped { pipeline := middle, server } later).server, run, loop,
        before.tail ?_⟩
      cases step with
      | main outside busy step => exact .main outside busy (run ▸ unwound) step
      | decoder i step => exact .decoder step
      | writer step => exact .writer step

theorem replay_behind {file : ByteVector} {state : ReplayState options.decoderThreads}
    {later : PipelineState options.decoderThreads}
    (path : ReflTransGen (Behind options) state.pipeline later) :
    ReflTransGen (ReplayStep options file) state { state with pipeline := later } := by
  induction path with
  | refl => exact .refl
  | tail _ step ih =>
      refine ih.tail ?_
      cases step with
      | main outside busy step => exact .main busy step
      | decoder i step => exact .decoder step
      | writer step => exact .writer step

/-- One decoder. -/
def oneWorker (options : Options) : Options :=
  { options with decoderThreads := 1, queueCapacity := 1024 }

/-- One vector was submitted, and the input has ended. -/
def submittedOne (options : Options) (health : StationHealthMonitor) (bytes : ByteVector)
    (running : Bool) : PipelineState (oneWorker options).decoderThreads :=
  { PipelineState.initial (oneWorker options) health with
    rawQueue := { queue := [⟨0, bytes⟩], capacity := 1024, bounded := Or.inr (Nat.succ_pos 1023) }
    running
    nextSequence := 1
    received := 1
    main := .closingRaw
    submitted := [bytes]
    accepted := [bytes] }

/-- One result is handled; a frame shows nothing on the terminal. -/
theorem handled_one {options : Options} {decoders : Nat} (state : PipelineState decoders)
    {item : DecodedWorkItem} (silent : ∀ frame, item.result = .ok frame →
      ∀ work, processApplicationPayload options frame work = .ok work) :
    ∃ work updates, ReflTransGen (Behind options) { state with writer := .counting item }
      { state with writer := .erasing item, work, healthUpdates := updates } := by
  have first {after : PipelineState decoders}
      (step : WriterStep options { state with writer := .counting item } after) :=
    ReflTransGen.single (Behind.writer step)
  cases result : item.result with
  | error error =>
      have path := first (.handles (.countsRejected result))
      replace path := path.tail (.writer (.handles (.recordsRejected result)))
      exact ⟨_, _, path.tail (.writer (.handles (.logsRejected result)))⟩
  | ok frame =>
      have path := first (.handles (.countsDecoded result))
      replace path := path.tail (.writer (.handles (.recordsDecoded result)))
      replace path := path.tail (.writer (.handles (.processes (silent frame result _))))
      replace path := path.tail (.writer (.handles .writes))
      replace path := path.tail (.writer (.handles .tallies))
      exact ⟨_, _, path.tail (.writer (.handles (.logsDecoded result)))⟩

/-- The pipeline returns. -/
theorem returned_one {options : Options} (health : StationHealthMonitor) {bytes : ByteVector}
    (running : Bool) (silent : ∀ frame, decodeFrame bytes = .ok frame →
      ∀ work, processApplicationPayload (oneWorker options) frame work = .ok work) :
    ∃ later : PipelineState (oneWorker options).decoderThreads, later.main = .returned ∧
      later.submitted = [bytes] ∧
        ReflTransGen (Behind (oneWorker options)) (submittedOne options health bytes running) later := by
  let item : DecodedWorkItem := ⟨0, decodeFrame bytes⟩
  have start : Behind (oneWorker options) (submittedOne options health bytes running) _ :=
    .main id (by simp [submittedOne]) (.closesRaw rfl)
  have path := ReflTransGen.single start
  replace path := path.tail (.decoder ⟨0, Nat.one_pos⟩ (.pops rfl rfl))
  replace path := path.tail (.decoder ⟨0, Nat.one_pos⟩ (.decodes rfl))
  replace path := path.tail (.decoder ⟨0, Nat.one_pos⟩ (.pushes rfl rfl))
  replace path := path.tail (.decoder ⟨0, Nat.one_pos⟩ (.logs rfl))
  replace path := path.tail (.decoder ⟨0, Nat.one_pos⟩ (.finishes rfl rfl))
  replace path := path.tail (.main id (by simp) (.joins rfl Nat.one_pos rfl))
  replace path := path.tail (.main id (by simp) (.joinsAll rfl))
  replace path := path.tail (.main id (by simp) (.closesDecoded rfl))
  replace path := path.tail (.writer (.pops rfl rfl))
  replace path := path.tail
    (.writer (.inserts rfl fun _ member => absurd member List.not_mem_nil))
  replace path := path.tail (.writer (.finds rfl (List.mem_singleton_self _) rfl))
  obtain ⟨work, updates, handled⟩ := @handled_one _ _ _ item silent
  replace path := path.trans handled
  replace path := path.tail (.writer (.erases rfl))
  have erased : List.erase [item] item = [] := List.erase_cons_head ..
  have missing (other : DecodedWorkItem) (member : other ∈ List.erase [item] item) (number : Nat) :
      other.sequence ≠ number := by
    rw [erased] at member
    cases member
  replace path := path.tail (.writer (.waits rfl fun other member => missing other member _))
  replace path := path.tail (.writer (.drains rfl rfl))
  replace path := path.tail (.writer (.checks rfl erased))
  replace path := path.tail (.writer (.stores rfl))
  replace path := path.tail (.writer (.finishes rfl))
  replace path := path.tail (.main id (by simp) (.joinsWriter rfl (Or.inl rfl)))
  exact ⟨_, rfl, rfl, path.tail (.main id (by simp) (.returns rfl rfl))⟩

/-- A station whose server has returned goes on to return. -/
theorem station_returned_one {options : Options} {health : StationHealthMonitor} {listenFd : Int}
    {transport : Transport} {bytes : ByteVector} {running : Bool}
    {state : NetworkState (oneWorker options).decoderThreads}
    (reachable : (networkStation (oneWorker options) health listenFd transport).Reachable state)
    (one : state.pipeline = submittedOne options health bytes running)
    (ended : state.server.run = .returned)
    (silent : ∀ frame, decodeFrame bytes = .ok frame →
      ∀ work, processApplicationPayload (oneWorker options) frame work = .ok work) :
    ∃ later : NetworkState (oneWorker options).decoderThreads,
      (networkStation (oneWorker options) health listenFd transport).Reachable later ∧
        later.pipeline.main = .returned ∧ later.pipeline.submitted = [bytes] ∧
          later.server.loop = state.server.loop := by
  obtain ⟨later, returned, submitted, path⟩ := returned_one health running silent
  rw [← one] at path
  have unwound : state.server.run ≠ .catching := by
    rw [ended]
    simp
  obtain ⟨server, _, loop, behind⟩ := network_behind unwound path
  exact ⟨_, reachable.path behind, returned, submitted, loop⟩

end Behind

/-! ## On UDP -/

section Udp

variable {options : Options} {health : StationHealthMonitor} {listenFd : Int}

/-- What the pipeline exports is a front of what the reference exports of the submitted
vectors, and all of it at the end. -/
theorem exported_reference {state : PipelineState options.decoderThreads}
    (reachable : (pipeline options health).Reachable state) :
    state.work.exported <+: (reference health state.submitted).exported :=
  (ordered reachable).exported.trans
    (sequential_mono health ((accounts reachable).kept.map decodeFrame)).1

/-- The datagrams that fit are submitted, all but one at most. -/
theorem submitted_fitting {state : NetworkState options.decoderThreads}
    (reachable : (networkStation options health listenFd .udp).Reachable state) :
    ∃ udp, state.server.loop = .udp udp ∧ state.pipeline.submitted <+: fitting udp.arrived ∧
      (fitting udp.arrived).length ≤ state.pipeline.submitted.length + 1 ∧
      (state.pipeline.main = .returned → state.pipeline.submitted = fitting udp.arrived) := by
  have linked := linked reachable
  obtain ⟨udp, loop, given, settled⟩ := delivered_udp (station_server reachable)
  obtain ⟨done, sofar⟩ := linked.submitted
  refine ⟨udp, loop, ?_, ?_, fun returned => ?_⟩
  · rw [← given]
    exact sofar
  · have one : state.server.loop.calls.toList.length ≤ 1 := by
      cases state.server.loop.calls <;> simp
    have less := done.length_le
    rw [← given, List.length_append]
    omega
  · obtain ⟨stopped, submitted⟩ := station_returned reachable returned
    have none := settled stopped
    rw [submitted, ← given, none]
    exact (List.append_nil _).symm

/-- What a station on UDP has made of the datagrams that have arrived. -/
structure UdpAccounted (health : StationHealthMonitor) {decoders : Nat} (udp : UdpState)
    (state : PipelineState decoders) : Prop where
  submitted : state.submitted <+: fitting udp.arrived
  behind : (fitting udp.arrived).length ≤ state.submitted.length + 1
  exported : state.work.exported <+: (reference health (fitting udp.arrived)).exported
  complete : state.main = .returned →
    state.submitted = fitting udp.arrived ∧ Complete health state

/-- **Every datagram counts, once and in order.**  Whatever arrives, with any number of
decoders in any order, and with a stop at any moment, a station on UDP has submitted the
datagrams that fit, all but one at most, and exported a front of what the reference makes of
them; if it returns it has handled exactly these. -/
theorem udp_accounted (workers : 1 ≤ options.decoderThreads)
    {state : NetworkState options.decoderThreads}
    (reachable : (networkStation options health listenFd .udp).Reachable state) :
    ∃ udp, state.server.loop = .udp udp ∧ UdpAccounted health udp state.pipeline := by
  have ran := station_pipeline reachable
  obtain ⟨udp, loop, front, behind, whole⟩ := submitted_fitting reachable
  refine ⟨udp, loop, front, behind, ?_, fun returned => ⟨whole returned, ?_⟩⟩
  · exact (exported_reference ran).trans (sequential_mono health (front.map decodeFrame)).1
  · exact complete_of_returned workers ran returned

/-- One empty datagram arrives, and then a signal: one rejection. -/
theorem udp_accounted_one :
    ∃ state : NetworkState (oneWorker udpOptions).decoderThreads,
      state.pipeline.submitted = [[]] ∧ state.pipeline.main = .returned ∧
        ∃ udp, state.server.loop = .udp udp ∧
          UdpAccounted freshWriter.health udp state.pipeline := by
  have fits : ([] : ByteVector).length ≤ (List.replicate maxFrameSize (0 : UInt8)).length :=
    Nat.zero_le _
  have run := @System.Reachable.start _
    (networkStation (oneWorker udpOptions) freshWriter.health 3 .udp) _ rfl
  replace run := run.step (.serves (Or.inl rfl) rfl (.enters rfl) rfl)
  replace run := run.step (.serves (Or.inl rfl) rfl (.resets rfl) rfl)
  replace run := run.step (.serves (Or.inl rfl) rfl (.opens rfl) rfl)
  replace run := run.step (.serves (Or.inl rfl) rfl (.loadsRunning rfl rfl) rfl)
  replace run := run.step (.serves (Or.inl rfl) rfl (.iterates rfl rfl) rfl)
  replace run := run.step (.serves (Or.inl rfl) rfl (.polls rfl (.udp _)) rfl)
  replace run := run.step (.serves (Or.inl rfl) rfl (.works rfl (.udp (.receives rfl fits))) rfl)
  -- `submit`
  replace run := run.step (.submits rfl rfl rfl)
  replace run := run.step (.goesOn trivial (.pushes rfl rfl) trivial)
  replace run := run.step (.returns trivial (.counts rfl) rfl (.udp (.gives rfl)) rfl rfl rfl
    fun dead => by cases dead)
  -- the signal
  replace run := run.step .signals
  replace run := run.step (.serves (Or.inl rfl) rfl (.ends rfl rfl) rfl)
  replace run := run.step (.serves (Or.inl rfl) rfl (.closes rfl) rfl)
  replace run := run.step (.ends rfl rfl)
  obtain ⟨later, reachable, returned, submitted, _⟩ :=
    station_returned_one run rfl rfl fun frame decoded => by cases decoded
  exact ⟨later, submitted, returned, udp_accounted (by decide) reachable⟩

end Udp

end Stgs.Station
