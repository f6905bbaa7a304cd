/-
# Stream.Delivered -- what a server has given to its callback

The two loops seen from the callback: `given`, the candidates it has got, and `calls`, the
one it is being called with.  An iteration gives a candidate only by returning from that
call or throwing out of it (`works_given`), and a server that has left its loop by the
condition has none on its way (`server_stopped`).

`delivered_udp` and `delivered_tcp` then say of the server as a whole what `udp_given` and
`Streams` say of the loops.
-/
import Stgs.Stream.NetworkServer
import Stgs.Stream.TcpIsolation
import Stgs.Stream.Transport
import Stgs.Theory.Interleaving

namespace Stgs.Stream

open Stgs.Cli Stgs.Theory.Interleaving Stgs.Theory.Transition Stgs.Wire

set_option autoImplicit false

namespace LoopState

/-- The candidates the callback has got. -/
def given : LoopState → List ByteVector
  | udp state => state.given
  | tcp state => state.given.map Prod.snd

/-- The candidate the callback is being called with. -/
def calls : LoopState → Option ByteVector
  | udp state =>
      match state.pc with
      | .delivering bytes => some bytes
      | _ => none
  | tcp state =>
      match state.pc with
      | .delivering _ _ => state.frames.head?.map Prod.snd
      | _ => none

/-- The loop was left because its condition was false. -/
def Stopped : LoopState → Prop
  | udp state => state.pc = .stopped
  | tcp state => state.pc = .stopped

end LoopState

/-! ## One step -/

section Steps

variable {serverFd : Int} {loop next : LoopState}

/-- **A candidate is given at the end of its call**, and at no other step. -/
theorem works_given (step : loop.Works serverFd next) :
    next.given = loop.given ∨
      ∃ bytes, loop.calls = some bytes ∧ next.given = loop.given ++ [bytes] := by
  cases step with
  | @udp state next step =>
      cases step with
      | gives delivering => exact Or.inr ⟨_, by simp only [LoopState.calls, delivering], rfl⟩
      | callbackThrows delivering =>
          exact Or.inr ⟨_, by simp only [LoopState.calls, delivering], rfl⟩
      | _ => exact Or.inl rfl
  | @tcp state next step =>
      cases step with
      | @gives index remove frame frames delivering next =>
          refine Or.inr ⟨frame.2, by simp [LoopState.calls, delivering, next], ?_⟩
          simp [LoopState.given]
      | @callbackThrows index remove frame frames delivering next =>
          refine Or.inr ⟨frame.2, by simp [LoopState.calls, delivering, next], ?_⟩
          simp [LoopState.given, TcpState.leave]
      | _ => exact Or.inl rfl

theorem polls_given (step : loop.Polls serverFd next) : next.given = loop.given := by
  cases step <;> rfl

theorem peers_given (peer : loop.Peers next) : next.given = loop.given ∧ next.calls = loop.calls := by
  cases peer <;> exact ⟨rfl, rfl⟩

theorem stop_given (loop : LoopState) : loop.stop.given = loop.given := by
  cases loop <;> rfl

variable {caller : Type} [DecidableEq caller] {listenFd : Int} {state after : ServerState caller}

/-- A server that is not in its callback gives nothing. -/
theorem serverStep_given (step : ServerStep listenFd state after)
    (resting : state.loop.calls = none) : after.loop.given = state.loop.given := by
  cases step with
  | peers peer => exact (peers_given peer).1
  | ends loading finished => exact stop_given state.loop
  | stops loading requested => exact stop_given state.loop
  | polls polling step => exact polls_given step
  | works working step =>
      rcases works_given step with same | ⟨bytes, calls, _⟩
      · exact same
      · rw [resting] at calls
        cases calls
  | _ => rfl

end Steps

/-- The callback is called with the first of the candidates on their way. -/
theorem calls_tcp (tcp : TcpState) :
    (LoopState.tcp tcp).calls.toList <+: tcp.frames.map Prod.snd := by
  unfold LoopState.calls
  dsimp only
  split
  · cases tcp.frames with
    | nil => exact List.prefix_rfl
    | cons frame frames => exact ⟨frames.map Prod.snd, rfl⟩
  · exact List.nil_prefix

/-! ## A server outside its loop -/

section LoopPlaced

variable {caller : Type} [DecidableEq caller] {listenFd : Int}

/-- Where the loop is, by where the server is. -/
structure LoopPlaced (state : ServerState caller) : Prop where
  working : state.run = .working → state.loop.run = .working
  stopped : state.run = .closing ∨ state.run = .returned → state.loop.Stopped

theorem stop_stopped (loop : LoopState) : loop.stop.Stopped := by
  cases loop <;> rfl

theorem peers_run {loop next : LoopState} (peer : loop.Peers next) :
    next.run = loop.run ∧ (loop.Stopped → next.Stopped) := by
  cases peer <;> exact ⟨rfl, id⟩

/-- An iteration that ends the loop stands outside it. -/
theorem run_closing {loop : LoopState} (here : loop.run = .closing ∨ loop.run = .returned) :
    loop.Stopped := by
  cases loop with
  | udp state =>
      show state.pc = .stopped
      have place : state.pc.run = .closing ∨ state.pc.run = .returned := here
      cases pc : state.pc with
      | stopped => rfl
      | _ =>
          rw [pc] at place
          rcases place with closing | returned
          · cases closing
          · cases returned
  | tcp state =>
      show state.pc = .stopped
      have place : state.pc.run = .closing ∨ state.pc.run = .returned := here
      cases pc : state.pc with
      | stopped => rfl
      | _ =>
          rw [pc] at place
          rcases place with closing | returned
          · cases closing
          · cases returned

theorem loopPlaced_step {state next : ServerState caller} (before : LoopPlaced state)
    (step : ServerStep listenFd state next) : LoopPlaced next := by
  obtain ⟨working, stopped⟩ := before
  cases step with
  | peers peer =>
      obtain ⟨same, still⟩ := peers_run peer
      exact ⟨fun here => same.trans (working here), fun here => still (stopped here)⟩
  | calls idle => exact ⟨working, stopped⟩
  | stores storing => exact ⟨working, stopped⟩
  | returns returning => exact ⟨working, stopped⟩
  | setsRunning value => exact ⟨working, stopped⟩
  | ends loading finished => exact ⟨by simp, fun _ => stop_stopped _⟩
  | stops loading requested => exact ⟨by simp, fun _ => stop_stopped _⟩
  | polls polling step => exact ⟨id, run_closing⟩
  | works working step => exact ⟨id, run_closing⟩
  | closes closing => exact ⟨by simp, fun _ => stopped (Or.inl closing)⟩
  | resets resetting => exact ⟨by simp [ServerState.reset], by simp [ServerState.reset]⟩
  | _ => exact ⟨by simp, by simp⟩

theorem loopPlaced {transport : Transport} {running : Bool} {state : ServerState caller}
    (reachable : (networkServer caller listenFd transport running).Reachable state) :
    LoopPlaced state := by
  refine System.invariant ?_ (fun _ _ => loopPlaced_step) reachable
  rintro _ rfl
  exact ⟨by simp, by simp⟩

end LoopPlaced

/-! ## A whole run -/

/-- The invariants of `runTcp`, of every reachable state. -/
theorem tcp_streams {serverFd : Int} {state : TcpState}
    (reachable : (tcpServer serverFd).Reachable state) :
    Descriptors state.clients state.live state.accepted ∧ Streams state := by
  have all : Indexed state ∧ Descriptors state.clients state.live state.accepted ∧
      Streams state := by
    refine @System.invariant _ _ (fun state => Indexed state ∧
      Descriptors state.clients state.live state.accepted ∧ Streams state) ?_ ?_ _ reachable
    · rintro _ rfl
      refine ⟨by simp [Indexed, TcpPc.reach], ⟨by simp, List.nodup_nil, by simp, by simp⟩,
        streams_start⟩
    · intro state next known step
      obtain ⟨indexed, descriptors, streams⟩ := known
      exact ⟨indexed_step indexed step, descriptors_step indexed descriptors step,
        streams_step indexed descriptors streams step⟩
  exact all.2

/-- **A connection that carries encoded frames gives them back**, and keeps nothing. -/
theorem freshFeed_wires {frames : List TelemetryFrame}
    (encodable : ∀ frame ∈ frames, Wire.Encodable frame) :
    freshFeed (frames.map wire).flatten = (frames.map wire, {}) := by
  have empty : extractor.run [] = ([], []) := extractor.run_wait StreamFrameExtractor.settled_empty
  have run := run_wires encodable []
  rw [List.append_nil, empty, List.append_nil] at run
  rw [freshFeed, StreamFrameExtractor.feed, List.nil_append, run]

/-- What has arrived first gives the first candidates. -/
theorem freshFeed_mono {arrived whole : ByteVector} (first : arrived <+: whole) :
    (freshFeed arrived).1 <+: (freshFeed whole).1 := by
  obtain ⟨rest, rfl⟩ := first
  rw [freshFeed_append]
  exact List.prefix_append _ _

def LoopState.transport : LoopState → Transport
  | udp _ => .udp
  | tcp _ => .tcp

theorem peers_transport {loop next : LoopState} (peer : loop.Peers next) :
    next.transport = loop.transport := by
  cases peer <;> rfl

theorem polls_transport {serverFd : Int} {loop next : LoopState}
    (step : loop.Polls serverFd next) : next.transport = loop.transport := by
  cases step <;> rfl

theorem works_transport {serverFd : Int} {loop next : LoopState}
    (step : loop.Works serverFd next) : next.transport = loop.transport := by
  cases step <;> rfl

/-- On UDP the end of a call is the end of its iteration. -/
theorem works_udp {serverFd : Int} {loop next : LoopState} (udp : loop.transport = .udp)
    (step : loop.Works serverFd next) {bytes : ByteVector}
    (gives : next.given = loop.given ++ [bytes]) :
    next.run = .loadingRunning ∨ next.run = .catching := by
  have grown : next.given ≠ loop.given := by
    intro same
    rw [same] at gives
    simpa using congrArg List.length gives
  cases step with
  | tcp step => cases udp
  | udp step =>
      cases step with
      | gives delivering => exact Or.inl rfl
      | callbackThrows delivering => exact Or.inr rfl
      | _ => exact absurd rfl grown

section Run

variable {caller : Type} [DecidableEq caller] {listenFd : Int}

theorem serverStep_transport {state next : ServerState caller}
    (step : ServerStep listenFd state next) : next.loop.transport = state.loop.transport := by
  have stopping (loop : LoopState) : loop.stop.transport = loop.transport := by
    cases loop <;> rfl
  cases step with
  | peers peer => exact peers_transport peer
  | ends loading finished => exact stopping _
  | stops loading requested => exact stopping _
  | polls polling step => exact polls_transport step
  | works working step => exact works_transport step
  | _ => rfl

variable {running : Bool}

theorem server_transport {transport : Transport} {state : ServerState caller}
    (reachable : (networkServer caller listenFd transport running).Reachable state) :
    state.loop.transport = transport := by
  refine @System.invariant _ _ (fun state => state.loop.transport = transport) ?_ ?_ _ reachable
  · rintro _ rfl
    cases transport <;> rfl
  · intro state next same step
    exact (serverStep_transport step).trans same

/-- **A UDP server has given a front of the datagrams that fit**, all of them but one at
most; it has left its loop with all of them. -/
theorem delivered_udp {state : ServerState caller}
    (reachable : (networkServer caller listenFd .udp running).Reachable state) :
    ∃ udp, state.loop = .udp udp ∧ state.loop.given ++ state.loop.calls.toList = fitting udp.arrived ∧
      (state.run = .returned → state.loop.calls = none) := by
  have runs := server_loop reachable
  have kind := server_transport reachable
  have place := loopPlaced reachable
  cases here : state.loop with
  | tcp tcp =>
      rw [here] at kind
      cases kind
  | udp udp =>
      rw [here] at runs
      refine ⟨udp, rfl, ?_, fun returned => ?_⟩
      · rw [← udp_given runs]
        cases pc : udp.pc with
        | _ => simp [LoopState.given, LoopState.calls, UdpPc.pending, pc]
      · have stopped := place.stopped (Or.inr returned)
        rw [here] at stopped
        have pc : udp.pc = .stopped := stopped
        simp [LoopState.calls, pc]

/-- **A TCP server has given, of each connection, a front of what a fresh extractor makes of
the bytes received there**; it has left its loop with all of it. -/
theorem delivered_tcp {state : ServerState caller}
    (reachable : (networkServer caller listenFd .tcp running).Reachable state) :
    ∃ tcp, state.loop = .tcp tcp ∧ Streams tcp ∧ state.loop.given = tcp.given.map Prod.snd ∧
      (state.run = .returned → tcp.frames = []) := by
  have runs := server_loop reachable
  have kind := server_transport reachable
  have place := loopPlaced reachable
  cases here : state.loop with
  | udp udp =>
      rw [here] at kind
      cases kind
  | tcp tcp =>
      rw [here] at runs
      obtain ⟨_, streams⟩ := tcp_streams runs
      refine ⟨tcp, rfl, streams, rfl, fun returned => ?_⟩
      have stopped := place.stopped (Or.inr returned)
      rw [here] at stopped
      have pc : tcp.pc = .stopped := stopped
      exact streams.frames_nil (by simp [pc]) (by simp [pc])

end Run

end Stgs.Stream
