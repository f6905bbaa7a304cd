/-
# Stream.NetworkServer -- `run` and `stop`

One thread executes `run` once; others call `stop`, at any moment.  `stop` stores
`stopRequested_`; both loops load it, after `running`, before each iteration.  But the
first thing `run` does is to reset it: a request that is stored before the reset is
lost (`stop_lost`), and no other is (`stop_kept_iff`).

The loop's iterations are those of `Stream.UdpReceiver` and `Stream.TcpServer`, with the
condition that these leave open (`server_loop`).  `late` is history: how many iterations
began after some call of `stop` had returned.
-/
import Stgs.Cli.CliParsing
import Stgs.Stream.UdpReceiver

namespace Stgs.Stream

open Relation Stgs.Cli Stgs.Theory.Transition Stgs.Wire

set_option autoImplicit false

/-- Where a call of `stop` is. -/
inductive StopPc where
  | idle
  | storing
  | returning
deriving DecidableEq

/-- Where `run` is. -/
inductive RunPc where
  | constructed
  | resetting
  | opening
  | loadingRunning
  | loadingStop
  | polling
  | working
  | closing
  | catching
  | returned
  | threw
deriving DecidableEq

/-! ## The loops -/

inductive LoopState where
  | udp (state : UdpState)
  | tcp (state : TcpState)

def LoopState.initial : Transport → LoopState
  | .udp => .udp {}
  | .tcp => .tcp {}

/-- Where `run` is when its loop is there. -/
def UdpPc.run : UdpPc → RunPc
  | polling => .loadingRunning
  | receiving | delivering _ => .working
  | stopped => .closing
  | threw | callbackThrew => .catching

def TcpPc.run : TcpPc → RunPc
  | polling => .loadingRunning
  | visiting _ | receiving _ _ | delivering _ _ | leaving _ _ | accepting => .working
  | stopped => .closing
  | threw | callbackThrew => .catching

namespace LoopState

def run : LoopState → RunPc
  | udp state => state.pc.run
  | tcp state => state.pc.run

/-- The condition is false. -/
def stop : LoopState → LoopState
  | udp state => .udp { state with pc := .stopped }
  | tcp state => .tcp (state.leave .stopped)

/-- The condition is true: `poll`, the first call of the iteration. -/
inductive Polls (serverFd : Int) : LoopState → LoopState → Prop where
  | udpIdles (state : UdpState) : Polls serverFd (.udp state) (.udp state)
  | udpFails (state : UdpState) : Polls serverFd (.udp state) (.udp { state with pc := .threw })
  | udp (state : UdpState) : Polls serverFd (.udp state) (.udp { state with pc := .receiving })
  | tcpIdles (state : TcpState) :
      Polls serverFd (.tcp state) (.tcp { state with pfds := snapshot serverFd state.clients })
  | tcpFails (state : TcpState) : Polls serverFd (.tcp state) (.tcp (state.leave .threw))
  | tcp {pfds : List PollFd} (state : TcpState)
      (answered : pfds.map PollFd.fd = (snapshot serverFd state.clients).map PollFd.fd) :
      Polls serverFd (.tcp state)
        (.tcp { state with pc := .visiting state.clients.length, pfds })

/-- The rest of the iteration. -/
inductive Works (serverFd : Int) : LoopState → LoopState → Prop where
  | udp {state next : UdpState} (step : UdpStep state next) : Works serverFd (.udp state) (.udp next)
  | tcp {state next : TcpState} (step : TcpStep serverFd state next) :
      Works serverFd (.tcp state) (.tcp next)

/-- The peers, whatever `run` does. -/
inductive Peers : LoopState → LoopState → Prop where
  | sends (state : TcpState) (connection : Connection) (bytes : ByteVector)
      (isOpen : state.finished connection = false) :
      Peers (.tcp state)
        (.tcp { state with
          sent := Function.update state.sent connection (state.sent connection ++ bytes) })
  | shutsDown (state : TcpState) (connection : Connection) :
      Peers (.tcp state)
        (.tcp { state with finished := Function.update state.finished connection true })

end LoopState

/-! ## The server -/

structure ServerState (caller : Type) where
  run : RunPc := .constructed
  stopRequested : Bool := false
  running : Bool
  serverFd : Int := -1
  loop : LoopState
  callers : caller → StopPc := fun _ => .idle
  stopReturned : Bool := false
  late : Nat := 0

section Steps

variable {caller : Type}

/-- `stopRequested_.store(false)`. -/
def ServerState.reset (state : ServerState caller) : ServerState caller :=
  { state with run := .opening, stopRequested := false }

/-- A step, when the kernel gives `run` the descriptor `listenFd`. -/
inductive ServerStep [DecidableEq caller] (listenFd : Int) (state : ServerState caller) :
    ServerState caller → Prop where
  -- `stop`
  | calls {c : caller} (idle : state.callers c = .idle) :
      ServerStep listenFd state { state with callers := Function.update state.callers c .storing }
  | stores {c : caller} (storing : state.callers c = .storing) :
      ServerStep listenFd state
        { state with
          stopRequested := true
          callers := Function.update state.callers c .returning }
  | returns {c : caller} (returning : state.callers c = .returning) :
      ServerStep listenFd state
        { state with
          callers := Function.update state.callers c .idle
          stopReturned := true }
  -- the application and the peers
  | setsRunning (value : Bool) : ServerStep listenFd state { state with running := value }
  | peers {loop : LoopState} (peer : state.loop.Peers loop) :
      ServerStep listenFd state { state with loop }
  -- `run`
  | enters (constructed : state.run = .constructed) :
      ServerStep listenFd state { state with run := .resetting }
  | resets (resetting : state.run = .resetting) : ServerStep listenFd state state.reset
  | opens (opening : state.run = .opening) :
      ServerStep listenFd state { state with run := .loadingRunning, serverFd := listenFd }
  | openFails (opening : state.run = .opening) :
      ServerStep listenFd state { state with run := .catching }
  -- `while (running.load() && !stopRequested_.load())`
  | loadsRunning (loading : state.run = .loadingRunning) (running : state.running = true) :
      ServerStep listenFd state { state with run := .loadingStop }
  | ends (loading : state.run = .loadingRunning) (finished : state.running = false) :
      ServerStep listenFd state { state with run := .closing, loop := state.loop.stop }
  | iterates (loading : state.run = .loadingStop) (free : state.stopRequested = false) :
      ServerStep listenFd state
        { state with
          run := .polling
          late := if state.stopReturned then state.late + 1 else state.late }
  | stops (loading : state.run = .loadingStop) (requested : state.stopRequested = true) :
      ServerStep listenFd state { state with run := .closing, loop := state.loop.stop }
  -- an iteration
  | polls {loop : LoopState} (polling : state.run = .polling)
      (step : state.loop.Polls state.serverFd loop) :
      ServerStep listenFd state { state with run := loop.run, loop }
  | works {loop : LoopState} (working : state.run = .working)
      (step : state.loop.Works state.serverFd loop) :
      ServerStep listenFd state { state with run := loop.run, loop }
  -- the end
  | closes (closing : state.run = .closing) :
      ServerStep listenFd state { state with run := .returned, serverFd := -1 }
  | closeFails (closing : state.run = .closing) :
      ServerStep listenFd state { state with run := .catching, serverFd := -1 }
  | catches (catching : state.run = .catching) :
      ServerStep listenFd state { state with run := .threw, serverFd := -1 }

end Steps

/-- **A server on which `run` is called once and `stop` by any number of threads.** -/
def networkServer (caller : Type) [DecidableEq caller] (listenFd : Int) (transport : Transport)
    (running : Bool) : System (ServerState caller) where
  start state := state = { running, loop := .initial transport }
  step := ServerStep listenFd

/-! ## The loop of the server is the loop of its transport -/

section Loop

variable {caller : Type} [DecidableEq caller] {listenFd : Int}

/-- Before an iteration. -/
def RunPc.AtHead : RunPc → Prop
  | constructed | resetting | opening | loadingRunning | loadingStop | polling => True
  | _ => False

def RunPc.Serves : RunPc → Prop
  | loadingRunning | loadingStop | polling | working => True
  | _ => False

/-- The loop is one that its transport reaches by itself. -/
def LoopState.Runs (listenFd : Int) : LoopState → Prop
  | udp state => udpReceiver.Reachable state
  | tcp state => (tcpServer listenFd).Reachable state

structure Serving (listenFd : Int) (state : ServerState caller) : Prop where
  serverFd : state.run.Serves → state.serverFd = listenFd
  head : state.run.AtHead → state.loop.run = .loadingRunning
  runs : state.loop.Runs listenFd

theorem UdpPc.run_head {pc : UdpPc} (head : pc.run.AtHead) : pc = .polling := by
  cases pc <;> first | rfl | exact head.elim

theorem TcpPc.run_head {pc : TcpPc} (head : pc.run.AtHead) : pc = .polling := by
  cases pc <;> first | rfl | exact head.elim

theorem LoopState.run_head {loop : LoopState} (head : loop.run.AtHead) :
    loop.run = .loadingRunning := by
  cases loop with
  | udp state => exact congrArg UdpPc.run (UdpPc.run_head head)
  | tcp state => exact congrArg TcpPc.run (TcpPc.run_head head)

theorem LoopState.Runs.stop {loop : LoopState} (runs : loop.Runs listenFd)
    (head : loop.run = .loadingRunning) : loop.stop.Runs listenFd := by
  have atHead : loop.run.AtHead := head ▸ trivial
  cases loop with
  | udp state => exact runs.step (.stops (UdpPc.run_head atHead))
  | tcp state => exact runs.step (.stops (TcpPc.run_head atHead))

theorem LoopState.Runs.polls {loop next : LoopState} (runs : loop.Runs listenFd)
    (head : loop.run = .loadingRunning) (step : loop.Polls listenFd next) : next.Runs listenFd := by
  have atHead : loop.run.AtHead := head ▸ trivial
  cases step with
  | udpIdles state => exact runs
  | udpFails state => exact runs.step (.pollFails (UdpPc.run_head atHead))
  | udp state => exact runs.step (.polls (UdpPc.run_head atHead))
  | tcpIdles state => exact runs.step (.idles (TcpPc.run_head atHead))
  | tcpFails state => exact runs.step (.pollFails (TcpPc.run_head atHead))
  | tcp state answered => exact runs.step (.polls (TcpPc.run_head atHead) answered)

theorem LoopState.Runs.works {loop next : LoopState} (runs : loop.Runs listenFd)
    (step : loop.Works listenFd next) : next.Runs listenFd := by
  cases step with
  | udp step => exact runs.step step
  | tcp step => exact runs.step step

theorem LoopState.Runs.peers {loop next : LoopState} (runs : loop.Runs listenFd)
    (peer : loop.Peers next) : next.Runs listenFd ∧ next.run = loop.run := by
  cases peer with
  | sends state connection bytes isOpen => exact ⟨runs.step (.sends connection bytes isOpen), rfl⟩
  | shutsDown state connection => exact ⟨runs.step (.shutsDown connection), rfl⟩

theorem serving_step {state next : ServerState caller} (serving : Serving listenFd state)
    (step : ServerStep listenFd state next) : Serving listenFd next := by
  obtain ⟨serverFd, head, runs⟩ := serving
  have iterated (loop : LoopState) (here : state.run.Serves) (next : loop.Runs listenFd) :
      Serving listenFd { state with run := loop.run, loop } :=
    ⟨fun _ => serverFd here, LoopState.run_head, next⟩
  cases step with
  | calls idle => exact ⟨serverFd, head, runs⟩
  | stores storing => exact ⟨serverFd, head, runs⟩
  | returns returning => exact ⟨serverFd, head, runs⟩
  | setsRunning value => exact ⟨serverFd, head, runs⟩
  | peers peer =>
      obtain ⟨after, same⟩ := runs.peers peer
      exact ⟨serverFd, fun here => same.trans (head here), after⟩
  | enters here => exact ⟨False.elim, fun _ => head (here ▸ trivial), runs⟩
  | resets here => exact ⟨False.elim, fun _ => head (here ▸ trivial), runs⟩
  | opens here => exact ⟨fun _ => rfl, fun _ => head (here ▸ trivial), runs⟩
  | openFails here => exact ⟨False.elim, False.elim, runs⟩
  | loadsRunning here running =>
      exact ⟨fun _ => serverFd (here ▸ trivial), fun _ => head (here ▸ trivial), runs⟩
  | ends here finished => exact ⟨False.elim, False.elim, runs.stop (head (here ▸ trivial))⟩
  | iterates here free =>
      exact ⟨fun _ => serverFd (here ▸ trivial), fun _ => head (here ▸ trivial), runs⟩
  | stops here requested => exact ⟨False.elim, False.elim, runs.stop (head (here ▸ trivial))⟩
  | polls here step =>
      rw [serverFd (here ▸ trivial)] at step
      exact iterated _ (here ▸ trivial) (runs.polls (head (here ▸ trivial)) step)
  | works here step =>
      rw [serverFd (here ▸ trivial)] at step
      exact iterated _ (here ▸ trivial) (runs.works step)
  | closes here => exact ⟨False.elim, False.elim, runs⟩
  | closeFails here => exact ⟨False.elim, False.elim, runs⟩
  | catches here => exact ⟨False.elim, False.elim, runs⟩

/-- **The server refines its loop**: what is proved of every run of `runUdp` or `runTcp`
is true of the loop inside the server. -/
theorem server_loop {transport : Transport} {running : Bool} {state : ServerState caller}
    (reachable : (networkServer caller listenFd transport running).Reachable state) :
    state.loop.Runs listenFd := by
  have serving : Serving listenFd state := by
    refine System.invariant ?_ (fun _ _ => serving_step) reachable
    rintro _ rfl
    refine ⟨False.elim, fun _ => ?_, ?_⟩
    · cases transport <;> rfl
    · cases transport with
      | udp => exact System.Reachable.start rfl
      | tcp => exact System.Reachable.start rfl
  exact serving.runs

end Loop

/-! ## Requests -/

section Requests

variable {caller : Type}

/-- Some call of `stop` has stored its request. -/
def ServerState.Stored (state : ServerState caller) : Prop :=
  state.stopReturned = true ∨ ∃ c, state.callers c = .returning

theorem not_stored_start (running : Bool) (loop : LoopState) :
    ¬ ({ running, loop } : ServerState caller).Stored := by
  rintro (returned | ⟨c, returning⟩)
  · cases returned
  · cases returning

def RunPc.BeforeReset : RunPc → Prop
  | constructed | resetting => True
  | _ => False

/-- `run` resets the flag after `stop` has set it. -/
def Wipes (state next : ServerState caller) : Prop :=
  state.run = .resetting ∧ next.run = .opening ∧ state.stopRequested = true

variable [DecidableEq caller] {listenFd : Int}

/-- A call that has nothing to return from yet. -/
theorem stored_calls {state : ServerState caller} {c : caller} (idle : state.callers c = .idle) :
    ServerState.Stored { state with callers := Function.update state.callers c .storing } ↔
      state.Stored := by
  refine or_congr_right ⟨?_, ?_⟩
  · rintro ⟨other, returning⟩
    by_cases same : other = c
    · subst same
      cases (Function.update_self ..).symm.trans returning
    · exact ⟨other, (Function.update_of_ne same ..).symm.trans returning⟩
  · rintro ⟨other, returning⟩
    have apart : other ≠ c := by
      rintro rfl
      cases idle.symm.trans returning
    exact ⟨other, (Function.update_of_ne apart ..).trans returning⟩

/-- What a step does to the flag and to the requests. -/
inductive Flagging (state next : ServerState caller) : Prop where
  | stores (stored : next.Stored) (requested : next.stopRequested = true)
      (late : next.late = state.late) (run : next.run = state.run)
  | resets (here : state.run = .resetting) (reset : next = state.reset)
  | iterates (here : state.run = .loadingStop) (there : next.run = .polling)
      (free : state.stopRequested = false) (same : next.Stored ↔ state.Stored)
      (requested : next.stopRequested = state.stopRequested)
      (late : next.late = if state.stopReturned then state.late + 1 else state.late)
  | other (same : next.Stored ↔ state.Stored) (requested : next.stopRequested = state.stopRequested)
      (late : next.late = state.late) (run : next.run.BeforeReset → state.run.BeforeReset)

theorem LoopState.run_not_beforeReset (loop : LoopState) : ¬ loop.run.BeforeReset := by
  cases loop with
  | udp state =>
      show ¬ state.pc.run.BeforeReset
      cases state.pc <;> exact id
  | tcp state =>
      show ¬ state.pc.run.BeforeReset
      cases state.pc <;> exact id

theorem step_flagging {state next : ServerState caller} (step : ServerStep listenFd state next) :
    Flagging state next := by
  cases step with
  | calls idle => exact .other (stored_calls idle) rfl rfl id
  | @stores c storing => exact .stores (Or.inr ⟨c, Function.update_self ..⟩) rfl rfl rfl
  | @returns c returning =>
      exact .other (iff_of_true (Or.inl rfl) (Or.inr ⟨c, returning⟩)) rfl rfl id
  | setsRunning value => exact .other Iff.rfl rfl rfl id
  | peers peer => exact .other Iff.rfl rfl rfl id
  | enters here => exact .other Iff.rfl rfl rfl fun _ => here ▸ trivial
  | resets here => exact .resets here rfl
  | opens here => exact .other Iff.rfl rfl rfl False.elim
  | openFails here => exact .other Iff.rfl rfl rfl False.elim
  | loadsRunning here running => exact .other Iff.rfl rfl rfl False.elim
  | ends here finished => exact .other Iff.rfl rfl rfl False.elim
  | iterates here free => exact .iterates here rfl free Iff.rfl rfl rfl
  | stops here requested => exact .other Iff.rfl rfl rfl False.elim
  | polls here step =>
      exact .other Iff.rfl rfl rfl fun before => absurd before (LoopState.run_not_beforeReset _)
  | works here step =>
      exact .other Iff.rfl rfl rfl fun before => absurd before (LoopState.run_not_beforeReset _)
  | closes here => exact .other Iff.rfl rfl rfl False.elim
  | closeFails here => exact .other Iff.rfl rfl rfl False.elim
  | catches here => exact .other Iff.rfl rfl rfl False.elim

/-- A stored request is in the flag, and no iteration began after a call of `stop`. -/
structure Kept (state : ServerState caller) : Prop where
  requested : state.Stored → state.stopRequested = true
  late : state.late = 0

theorem kept_step {state next : ServerState caller} (kept : Kept state)
    (step : ServerStep listenFd state next) (whole : ¬ Wipes state next) : Kept next := by
  obtain ⟨requested, late⟩ := kept
  cases step_flagging step with
  | stores stored set same run => exact ⟨fun _ => set, same.trans late⟩
  | resets here reset =>
      subst reset
      exact ⟨fun stored => absurd ⟨here, rfl, requested stored⟩ whole, late⟩
  | iterates here there free same flag counted =>
      have silent : ¬ state.stopReturned = true := by
        intro returned
        rw [requested (Or.inl returned)] at free
        cases free
      refine ⟨fun stored => flag.trans (requested (same.mp stored)), ?_⟩
      rw [counted, if_neg silent, late]
  | other same flag counted run =>
      exact ⟨fun stored => flag.trans (requested (same.mp stored)), counted.trans late⟩

/-- Before the reset the flag says exactly whether a request is stored. -/
structure Fresh (state : ServerState caller) : Prop where
  requested : state.stopRequested = true ↔ state.Stored
  late : state.late = 0

theorem fresh_step {state next : ServerState caller} (fresh : state.run.BeforeReset → Fresh state)
    (step : ServerStep listenFd state next) (before : next.run.BeforeReset) : Fresh next := by
  cases step_flagging step with
  | stores stored set same run =>
      rw [run] at before
      exact ⟨iff_of_true set stored, same.trans (fresh before).late⟩
  | resets here reset =>
      subst reset
      exact before.elim
  | iterates here there =>
      rw [there] at before
      exact before.elim
  | other same flag counted run =>
      obtain ⟨requested, late⟩ := fresh (run before)
      exact ⟨by rw [flag, requested, same], counted.trans late⟩

theorem fresh {transport : Transport} {running : Bool} {state : ServerState caller}
    (reachable : (networkServer caller listenFd transport running).Reachable state)
    (before : state.run.BeforeReset) : Fresh state := by
  have holds : state.run.BeforeReset → Fresh state := by
    refine @System.invariant _ _ (fun state => state.run.BeforeReset → Fresh state) ?_
      (fun _ _ => fresh_step) _ reachable
    rintro _ rfl _
    exact ⟨iff_of_false Bool.false_ne_true (not_stored_start _ _), rfl⟩
  exact holds before

/-- What the threads do from here on. -/
abbrev ServerState.Reaches (listenFd : Int) : ServerState caller → ServerState caller → Prop :=
  ReflTransGen (ServerStep listenFd)

/-- The reset is behind the server, and nothing was lost. -/
theorem kept_path {state later : ServerState caller} (kept : Kept state)
    (past : ¬ state.run.BeforeReset) (path : state.Reaches listenFd later) :
    Kept later ∧ ¬ later.run.BeforeReset := by
  induction path with
  | refl => exact ⟨kept, past⟩
  | @tail state next _ step ih =>
      obtain ⟨kept, past⟩ := ih
      refine ⟨kept_step kept step fun wipes => past (wipes.1 ▸ trivial), ?_⟩
      cases step_flagging step with
      | stores stored set same run => rwa [run]
      | resets here reset => exact absurd (here ▸ trivial) past
      | iterates here there => exact there ▸ id
      | other same flag counted run => exact fun before => past (run before)

/-- A call of `stop` has returned, and the loop goes on. -/
theorem late_iteration {state : ServerState caller} (opening : state.run = .opening)
    (free : state.stopRequested = false) (returned : state.stopReturned = true) :
    ∃ later, state.Reaches listenFd later ∧ 0 < later.late := by
  have opened : ServerStep listenFd state
      { state with run := .loadingRunning, serverFd := listenFd } := .opens opening
  have path := (ReflTransGen.single opened).tail (.setsRunning true)
  replace path := path.tail (.loadsRunning rfl rfl)
  replace path := path.tail (.iterates rfl free)
  refine ⟨_, path, ?_⟩
  simp only [returned, if_true]
  exact Nat.succ_pos _

/-- **What the reset wipes is lost.** -/
theorem Fresh.lost {state : ServerState caller} (fresh : Fresh state)
    (requested : state.stopRequested = true) :
    ∃ later, state.reset.Reaches listenFd later ∧ 0 < later.late := by
  rcases fresh.requested.mp requested with returned | ⟨c, returning⟩
  · exact late_iteration rfl rfl returned
  · have returns : ServerStep listenFd state.reset
        { state.reset with
          callers := Function.update state.callers c .idle
          stopReturned := true } := .returns returning
    obtain ⟨later, path, late⟩ := @late_iteration _ _ listenFd
      { state.reset with
        callers := Function.update state.callers c .idle
        stopReturned := true } rfl rfl rfl
    exact ⟨later, .head returns path, late⟩

end Requests

/-- **A request of `stop` is kept exactly when `run` does not find it in the flag that it
resets.**  In a run in which the reset wipes nothing no iteration begins after a call of
`stop` has returned; and when `run` is about to reset the flag, that is so in all that can
follow if and only if the flag is not set. -/
theorem stop_kept_iff (caller : Type) [DecidableEq caller] (listenFd : Int) (transport : Transport)
    (running : Bool) (state : ServerState caller) :
    (((networkServer caller listenFd transport running).restrict fun state next =>
      ¬ Wipes state next).Reachable state → state.late = 0) ∧
    ((networkServer caller listenFd transport running).Reachable state → state.run = .resetting →
      ((∀ later, state.reset.Reaches listenFd later → later.late = 0) ↔
        state.stopRequested = false)) := by
  refine ⟨fun reachable => ?_, fun reachable here => ?_⟩
  · have kept : Kept state := by
      refine System.invariant ?_ ?_ reachable
      · rintro _ rfl
        exact ⟨fun stored => absurd stored (not_stored_start _ _), rfl⟩
      · rintro state next kept ⟨step, whole⟩
        exact kept_step kept step whole
    exact kept.late
  · have fresh := fresh reachable (here ▸ trivial)
    constructor
    · intro never
      by_contra requested
      obtain ⟨later, path, late⟩ := fresh.lost (Bool.eq_true_of_not_eq_false requested)
      exact absurd (never later path) (Nat.ne_of_gt late)
    · intro free later path
      have kept : Kept state.reset := by
        refine ⟨fun stored => ?_, fresh.late⟩
        rw [fresh.requested.mpr stored] at free
        cases free
      exact (kept_path kept id path).1.late

/-- A call of `stop` while the loop runs: `run` returns. -/
theorem stop_kept_one : ∃ state : ServerState Unit,
    state.run = .returned ∧ state.stopReturned = true ∧ state.late = 0 := by
  have whole {state next : ServerState Unit} (later : state.run ≠ .resetting) :
      ¬ Wipes state next := fun wipes => later wipes.1
  have run := @System.Reachable.start _ ((networkServer Unit 3 .tcp true).restrict
    fun state next => ¬ Wipes state next) _ rfl
  replace run := run.step ⟨.enters rfl, whole nofun⟩
  replace run := run.step ⟨.resets rfl, fun wipes => Bool.false_ne_true wipes.2.2⟩
  replace run := run.step ⟨.opens rfl, whole nofun⟩
  replace run := run.step ⟨@ServerStep.calls _ _ _ _ () rfl, whole nofun⟩
  replace run := run.step ⟨@ServerStep.stores _ _ _ _ () rfl, whole nofun⟩
  replace run := run.step ⟨@ServerStep.returns _ _ _ _ () rfl, whole nofun⟩
  replace run := run.step ⟨.loadsRunning rfl rfl, whole nofun⟩
  replace run := run.step ⟨.stops rfl rfl, whole nofun⟩
  replace run := run.step ⟨.closes rfl, whole nofun⟩
  exact ⟨_, rfl, rfl, (stop_kept_iff _ _ _ _ _).1 run⟩

/-- **A request before the start of `run` is lost.**  `stop` returns, then `run` resets
the flag, and its loop begins. -/
theorem stop_lost :
    ¬ ∀ (caller : Type) [DecidableEq caller] (listenFd : Int) (transport : Transport)
      (running : Bool) (state : ServerState caller),
      (networkServer caller listenFd transport running).Reachable state → state.late = 0 := by
  intro kept
  have run := @System.Reachable.start _ (networkServer Unit 3 .udp true) _ rfl
  replace run := run.step (@ServerStep.calls _ _ _ _ () rfl)
  replace run := run.step (@ServerStep.stores _ _ _ _ () rfl)
  replace run := run.step (@ServerStep.returns _ _ _ _ () rfl)
  replace run := run.step (.enters rfl)
  replace run := run.step (.resets rfl)
  replace run := run.step (.opens rfl)
  replace run := run.step (.loadsRunning rfl rfl)
  replace run := run.step (.iterates rfl rfl)
  have late : 0 + 1 = 0 := kept _ _ _ _ _ run
  cases late

end Stgs.Stream
