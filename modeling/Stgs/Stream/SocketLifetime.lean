/-
# Stream.SocketLifetime -- the descriptors of a server

A `NetworkServer` opens a socket in `createBoundSocket` and one for every TCP client, and
every system call, every allocation, the logger and the callback may fail.  This module
follows the descriptors through all of it: the constructor, any number of calls of `run`, the
destructor.  The kernel gives out any descriptor that is free; other threads open and close
theirs at any moment.

A descriptor is in one of the server's variables (`LifetimeState.held`), and `close` is called
for that one only: never twice, never for a descriptor of someone else
(`descriptors_owned`).  Behind `run` nothing is open, with one exception: `clients` may fail
to grow between `accepted.release()` and `emplace_back`, and nobody closes that descriptor
any more (`lost`).
-/
import Stgs.Cli.CliParsing
import Stgs.Stream.TcpServer
import Stgs.Theory.Ownership
import Mathlib.Tactic.Abel

namespace Stgs.Stream

open Stgs.Cli Stgs.Theory.Ownership Stgs.Theory.Transition Stgs.Wire

set_option autoImplicit false

/-- `createBoundSocket`, the rest of `runTcp` and `runUdp`, the ways out of them, `run`. -/
inductive LifetimePc where
  | idle
  | opening
  | binding
  | listening
  | preparing
  | looping
  | accepting
  | placing
  | clearing
  | closing
  | logging
  | unwinding
  | catching
  | destroyed
deriving DecidableEq

/-- `socketFd` is the `ScopedFd` of `createBoundSocket`, `accepted` the `ScopedAcceptedFd`.
`lost` is history: the descriptors that were released and not placed. -/
structure LifetimeState where
  pc : LifetimePc := .idle
  serverFd : Int := -1
  socketFd : Int := -1
  accepted : Int := -1
  clients : List TcpClient := []
  lost : List Int := []
  table : Table Int := {}

namespace LifetimeState

/-- `closeFd(serverFd_)`. -/
def closeServerSocket (state : LifetimeState) : LifetimeState :=
  { state with serverFd := -1, table := state.table.closeAll (closeFd state.serverFd) }

/-- The destructor of `createBoundSocket`'s guard. -/
def closeSocket (state : LifetimeState) : LifetimeState :=
  { state with socketFd := -1, table := state.table.closeAll (closeFd state.socketFd) }

/-- The destructor of the guard around an accepted descriptor. -/
def closeAccepted (state : LifetimeState) : LifetimeState :=
  { state with accepted := -1, table := state.table.closeAll (closeFd state.accepted) }

/-- `clients.clear()`, or the destructor of `clients`. -/
def clearClients (state : LifetimeState) : LifetimeState :=
  { state with
    clients := []
    table := state.table.closeAll (state.clients.flatMap fun client => closeFd client.fd) }

/-- `clients.erase(...)`. -/
def eraseClient (state : LifetimeState) (index : Nat) : LifetimeState :=
  let erased := eraseAt state.clients index
  { state with clients := erased.1, table := state.table.closeAll erased.2 }

/-- `clients.emplace_back(accepted.release())`; a vector that grows destroys what it has moved
its clients from. -/
def placeAccepted (state : LifetimeState) (grows : Bool) : LifetimeState :=
  let left := if grows then state.clients.map fun client => client.moved.2 else []
  { state with
    accepted := -1
    clients := emplaceBack state.clients state.accepted grows
    table := state.table.closeAll (left.flatMap fun client => closeFd client.fd) }

end LifetimeState

/-- A step of the server; `exhausts` says whether `clients` may fail to grow. -/
inductive SocketStep (transport : Transport) (exhausts : Bool) (state : LifetimeState) :
    LifetimeState → Prop where
  | runs (idle : state.pc = .idle) : SocketStep transport exhausts state { state with pc := .opening }
  | destroys (idle : state.pc = .idle) :
      SocketStep transport exhausts state { state.closeServerSocket with pc := .destroyed }
  -- `createBoundSocket`
  | socketFails (opening : state.pc = .opening) :
      SocketStep transport exhausts state { state with pc := .catching }
  | sockets {fd : Int} (opening : state.pc = .opening) (valid : 0 ≤ fd)
      (free : state.table.holder fd = .nobody) :
      SocketStep transport exhausts state
        { state with pc := .binding, socketFd := fd, table := state.table.take fd }
  | bindFails (binding : state.pc = .binding) :
      SocketStep transport exhausts state { state.closeSocket with pc := .catching }
  | binds (binding : state.pc = .binding) :
      SocketStep transport exhausts state
        { state with
          pc := if transport = .tcp then .listening else .preparing
          serverFd := state.socketFd
          socketFd := -1 }
  -- `setNonBlocking` and `listen`
  | setNonBlockingFails (listening : state.pc = .listening) :
      SocketStep transport exhausts state { state with pc := .catching }
  | listenFails (listening : state.pc = .listening) :
      SocketStep transport exhausts state { state.closeServerSocket with pc := .catching }
  | listens (listening : state.pc = .listening) :
      SocketStep transport exhausts state { state with pc := .preparing }
  -- the logger and the buffers
  | prepares (preparing : state.pc = .preparing) :
      SocketStep transport exhausts state { state with pc := .looping }
  | prepareFails (preparing : state.pc = .preparing) :
      SocketStep transport exhausts state { state with pc := .unwinding }
  -- the loop
  | works {clients : List TcpClient} (looping : state.pc = .looping)
      (same : clients.map TcpClient.fd = state.clients.map TcpClient.fd) :
      SocketStep transport exhausts state { state with clients }
  | erases {index : Nat} (looping : state.pc = .looping) (inside : index < state.clients.length) :
      SocketStep transport exhausts state (state.eraseClient index)
  | throws (looping : state.pc = .looping ∨ state.pc = .accepting) :
      SocketStep transport exhausts state { state with pc := .unwinding }
  | stops (looping : state.pc = .looping) : SocketStep transport exhausts state { state with pc := .clearing }
  -- `accept`
  | visited (looping : state.pc = .looping) (tcp : transport = .tcp) :
      SocketStep transport exhausts state { state with pc := .accepting }
  | acceptEnds (accepting : state.pc = .accepting) :
      SocketStep transport exhausts state { state with pc := .looping }
  | accepts {fd : Int} (accepting : state.pc = .accepting) (valid : 0 ≤ fd)
      (free : state.table.holder fd = .nobody) :
      SocketStep transport exhausts state
        { state with pc := .placing, accepted := fd, table := state.table.take fd }
  | acceptedFails (placing : state.pc = .placing) :
      SocketStep transport exhausts state { state.closeAccepted with pc := .unwinding }
  | places (grows : Bool) (placing : state.pc = .placing) :
      SocketStep transport exhausts state { state.placeAccepted grows with pc := .accepting }
  | placeFails (placing : state.pc = .placing) (exhausted : exhausts = true) :
      SocketStep transport exhausts state
        { state with
          pc := .unwinding
          accepted := -1
          lost := closeFd state.accepted ++ state.lost }
  -- the ways out
  | clears (clearing : state.pc = .clearing) :
      SocketStep transport exhausts state { state.clearClients with pc := .closing }
  | closes (closing : state.pc = .closing) :
      SocketStep transport exhausts state { state.closeServerSocket with pc := .logging }
  | returns (logging : state.pc = .logging) : SocketStep transport exhausts state { state with pc := .idle }
  | logFails (logging : state.pc = .logging) :
      SocketStep transport exhausts state { state with pc := .unwinding }
  | unwinds (unwinding : state.pc = .unwinding) :
      SocketStep transport exhausts state { state.clearClients with pc := .catching }
  | catches (catching : state.pc = .catching) :
      SocketStep transport exhausts state { state.closeServerSocket with pc := .idle }

/-- The server, or someone else. -/
inductive LifetimeStep (transport : Transport) (exhausts : Bool) (state : LifetimeState) :
    LifetimeState → Prop where
  | own {next : LifetimeState} (step : SocketStep transport exhausts state next) :
      LifetimeStep transport exhausts state next
  | others {table : Table Int} (others : state.table.Others table) :
      LifetimeStep transport exhausts state { state with table }

/-- **A server and the process around it**, which has some descriptors open already. -/
def socketLifetime (transport : Transport) (exhausts : Bool) : System LifetimeState where
  start state := ∃ table : Table Int,
    table.wrong = [] ∧ (∀ fd, table.holder fd ≠ .self) ∧ state = { table }
  step := LifetimeStep transport exhausts

/-! ## What is held -/

/-- The descriptors that some variable holds. -/
def LifetimeState.held (state : LifetimeState) : Multiset Int :=
  ↑(closeFd state.serverFd) + (↑(closeFd state.socketFd) + (↑(closeFd state.accepted) +
    (↑(state.clients.flatMap fun client => closeFd client.fd) + ↑state.lost)))

theorem closeFd_none : closeFd (-1) = [] := rfl

theorem closeFd_valid {fd : Int} (valid : 0 ≤ fd) : closeFd fd = [fd] := if_pos valid

/-- The move leaves nothing to close. -/
theorem moved_closed (clients : List TcpClient) :
    ((clients.map fun client => client.moved.2).flatMap fun client => closeFd client.fd) = [] := by
  induction clients with
  | nil => rfl
  | cons client rest ih => exact ih

/-- Which variables are empty where. -/
def LifetimeState.Place (state : LifetimeState) : Prop :=
  match state.pc with
  | .idle | .opening | .logging | .destroyed =>
      state.serverFd = -1 ∧ state.socketFd = -1 ∧ state.accepted = -1 ∧ state.clients = []
  | .binding => state.serverFd = -1 ∧ state.accepted = -1 ∧ state.clients = []
  | .listening | .preparing | .closing | .catching =>
      state.socketFd = -1 ∧ state.accepted = -1 ∧ state.clients = []
  | .looping | .accepting | .clearing | .unwinding => state.socketFd = -1 ∧ state.accepted = -1
  | .placing => state.socketFd = -1

structure Holding (state : LifetimeState) : Prop where
  place : state.Place
  owns : Owns state.table state.held

/-! ## Each operation closes what it holds -/

section Operations

variable (state : LifetimeState)

theorem held_closeServerSocket :
    state.held = ↑(closeFd state.serverFd) + state.closeServerSocket.held := by
  simp only [LifetimeState.held, LifetimeState.closeServerSocket, closeFd_none, Multiset.coe_nil,
    zero_add]

theorem held_closeSocket : state.held = ↑(closeFd state.socketFd) + state.closeSocket.held := by
  simp only [LifetimeState.held, LifetimeState.closeSocket, closeFd_none, Multiset.coe_nil]
  abel

theorem held_closeAccepted :
    state.held = ↑(closeFd state.accepted) + state.closeAccepted.held := by
  simp only [LifetimeState.held, LifetimeState.closeAccepted, closeFd_none, Multiset.coe_nil]
  abel

theorem held_clearClients :
    state.held = ↑(state.clients.flatMap fun client => closeFd client.fd) +
      state.clearClients.held := by
  simp only [LifetimeState.held, LifetimeState.clearClients, List.flatMap_nil, Multiset.coe_nil]
  abel

theorem held_eraseClient {index : Nat} (inside : index < state.clients.length) :
    state.held = ↑(eraseAt state.clients index).2 + (state.eraseClient index).held := by
  have split : (↑(state.clients.flatMap fun client => closeFd client.fd) : Multiset Int) =
      ↑(closeFd state.clients[index].fd) +
        ↑((state.clients.eraseIdx index).flatMap fun client => closeFd client.fd) := by
    rw [Multiset.coe_add, Multiset.coe_eq_coe]
    exact (List.getElem_cons_eraseIdx_perm inside).symm.flatMap_right _
  simp only [LifetimeState.held, LifetimeState.eraseClient,
    eraseAt_eq (List.getElem?_eq_getElem inside), split]
  abel

theorem table_placeAccepted (grows : Bool) : (state.placeAccepted grows).table = state.table := by
  cases grows with
  | true =>
      show state.table.closeAll
        ((state.clients.map fun client => client.moved.2).flatMap _) = state.table
      rw [moved_closed]
      rfl
  | false => rfl

theorem held_placeAccepted (grows : Bool) : (state.placeAccepted grows).held = state.held := by
  simp only [LifetimeState.held, LifetimeState.placeAccepted, emplaceBack_eq, closeFd_none,
    List.flatMap_append, List.flatMap_singleton, Multiset.coe_nil, ← Multiset.coe_add]
  abel

end Operations

/-- A descriptor that the kernel gives goes into an empty variable. -/
theorem held_sockets {state : LifetimeState} {fd : Int} (valid : 0 ≤ fd)
    (empty : state.socketFd = -1) (pc : LifetimePc) (table : Table Int) :
    LifetimeState.held { state with pc, socketFd := fd, table } = fd ::ₘ state.held := by
  simp only [LifetimeState.held, empty, closeFd_none, closeFd_valid valid, Multiset.coe_nil,
    Multiset.coe_singleton, ← Multiset.singleton_add]
  abel

theorem held_accepts {state : LifetimeState} {fd : Int} (valid : 0 ≤ fd)
    (empty : state.accepted = -1) (pc : LifetimePc) (table : Table Int) :
    LifetimeState.held { state with pc, accepted := fd, table } = fd ::ₘ state.held := by
  simp only [LifetimeState.held, empty, closeFd_none, closeFd_valid valid, Multiset.coe_nil,
    Multiset.coe_singleton, ← Multiset.singleton_add]
  abel

theorem holding_socketStep {transport : Transport} {exhausts : Bool}
    {state next : LifetimeState} (holding : Holding state)
    (step : SocketStep transport exhausts state next) : Holding next := by
  obtain ⟨place, owns⟩ := holding
  have closed {handles : List Int} {rest : Multiset Int} (held : state.held = ↑handles + rest) :
      Owns (state.table.closeAll handles) rest := Owns.closeAll (held ▸ owns)
  unfold LifetimeState.Place at place
  cases step with
  | runs here =>
      simp only [here] at place
      exact ⟨place, owns⟩
  | destroys here =>
      simp only [here] at place
      exact ⟨⟨rfl, place.2⟩, closed (held_closeServerSocket state)⟩
  | socketFails here =>
      simp only [here] at place
      exact ⟨place.2, owns⟩
  | @sockets fd here valid free =>
      simp only [here] at place
      refine ⟨⟨place.1, place.2.2⟩, ?_⟩
      rw [held_sockets valid place.2.1]
      exact owns.take free
  | bindFails here =>
      simp only [here] at place
      exact ⟨⟨rfl, place.2⟩, closed (held_closeSocket state)⟩
  | binds here =>
      simp only [here] at place
      refine ⟨?_, ?_⟩
      · unfold LifetimeState.Place
        cases transport with
        | udp => exact ⟨rfl, place.2⟩
        | tcp => exact ⟨rfl, place.2⟩
      · have same : LifetimeState.held
            { state with
              pc := if transport = .tcp then .listening else .preparing
              serverFd := state.socketFd
              socketFd := -1 } = state.held := by
          simp only [LifetimeState.held, place.1, closeFd_none, Multiset.coe_nil]
          abel
        rw [same]
        exact owns
  | setNonBlockingFails here =>
      simp only [here] at place
      exact ⟨place, owns⟩
  | listenFails here =>
      simp only [here] at place
      exact ⟨place, closed (held_closeServerSocket state)⟩
  | listens here =>
      simp only [here] at place
      exact ⟨place, owns⟩
  | prepares here =>
      simp only [here] at place
      exact ⟨⟨place.1, place.2.1⟩, owns⟩
  | prepareFails here =>
      simp only [here] at place
      exact ⟨⟨place.1, place.2.1⟩, owns⟩
  | @works clients here same =>
      simp only [here] at place
      refine ⟨?_, ?_⟩
      · simp only [LifetimeState.Place, here]
        exact place
      · have held : LifetimeState.held { state with clients } = state.held := by
          have flat (list : List TcpClient) : (list.flatMap fun client => closeFd client.fd) =
              (list.map TcpClient.fd).flatMap closeFd := by
            rw [List.flatMap_map]
          simp only [LifetimeState.held]
          rw [flat, same, ← flat]
        rw [held]
        exact owns
  | erases here inside =>
      simp only [here] at place
      refine ⟨?_, closed (held_eraseClient state inside)⟩
      simp only [LifetimeState.Place, LifetimeState.eraseClient, here]
      exact place
  | throws here =>
      refine ⟨?_, owns⟩
      rcases here with here | here
      · simp only [here] at place
        exact place
      · simp only [here] at place
        exact place
  | stops here =>
      simp only [here] at place
      exact ⟨place, owns⟩
  | visited here tcp =>
      simp only [here] at place
      exact ⟨place, owns⟩
  | acceptEnds here =>
      simp only [here] at place
      exact ⟨place, owns⟩
  | @accepts fd here valid free =>
      simp only [here] at place
      refine ⟨place.1, ?_⟩
      rw [held_accepts valid place.2]
      exact owns.take free
  | acceptedFails here =>
      simp only [here] at place
      exact ⟨⟨place, rfl⟩, closed (held_closeAccepted state)⟩
  | places grows here =>
      simp only [here] at place
      refine ⟨⟨place, rfl⟩, ?_⟩
      show Owns (state.placeAccepted grows).table (state.placeAccepted grows).held
      rw [table_placeAccepted, held_placeAccepted]
      exact owns
  | placeFails here exhausted =>
      simp only [here] at place
      refine ⟨⟨place, rfl⟩, ?_⟩
      have same : LifetimeState.held
          { state with
            pc := .unwinding
            accepted := -1
            lost := closeFd state.accepted ++ state.lost } = state.held := by
        simp only [LifetimeState.held, closeFd_none, Multiset.coe_nil, ← Multiset.coe_add]
        abel
      rw [same]
      exact owns
  | clears here =>
      simp only [here] at place
      exact ⟨⟨place.1, place.2, rfl⟩, closed (held_clearClients state)⟩
  | closes here =>
      simp only [here] at place
      exact ⟨⟨rfl, place⟩, closed (held_closeServerSocket state)⟩
  | returns here =>
      simp only [here] at place
      exact ⟨place, owns⟩
  | logFails here =>
      simp only [here] at place
      exact ⟨⟨place.2.1, place.2.2.1⟩, owns⟩
  | unwinds here =>
      simp only [here] at place
      exact ⟨⟨place.1, place.2, rfl⟩, closed (held_clearClients state)⟩
  | catches here =>
      simp only [here] at place
      exact ⟨⟨rfl, place⟩, closed (held_closeServerSocket state)⟩

theorem holding {transport : Transport} {exhausts : Bool} {state : LifetimeState}
    (reachable : (socketLifetime transport exhausts).Reachable state) : Holding state := by
  refine System.invariant ?_ (fun state next holding step => ?_) reachable
  · rintro _ ⟨table, right, none, rfl⟩
    refine ⟨⟨rfl, rfl, rfl, rfl⟩, right, Multiset.nodup_zero, fun fd => iff_of_false (none fd) ?_⟩
    simp [LifetimeState.held, closeFd_none]
  · cases step with
    | own step => exact holding_socketStep holding step
    | others others =>
        refine ⟨?_, holding.owns.others others⟩
        have place := holding.place
        unfold LifetimeState.Place at place ⊢
        exact place

/-- **The descriptors of others.** -/
theorem socketStep_other {transport : Transport} {exhausts : Bool} {state next : LifetimeState}
    (owns : Owns state.table state.held) (step : SocketStep transport exhausts state next) {fd : Int}
    (theirs : state.table.holder fd = .other) : next.table.holder fd = .other := by
  have closed {handles : List Int} {rest : Multiset Int} (held : state.held = ↑handles + rest) :
      (state.table.closeAll handles).holder fd = .other :=
    Owns.closeAll_other (held ▸ owns) theirs
  cases step with
  | destroys here => exact closed (held_closeServerSocket state)
  | sockets here valid free => exact Owns.take_other free theirs
  | bindFails here => exact closed (held_closeSocket state)
  | listenFails here => exact closed (held_closeServerSocket state)
  | erases here inside => exact closed (held_eraseClient state inside)
  | accepts here valid free => exact Owns.take_other free theirs
  | acceptedFails here => exact closed (held_closeAccepted state)
  | places grows here =>
      show (state.placeAccepted grows).table.holder fd = .other
      rw [table_placeAccepted]
      exact theirs
  | clears here => exact closed (held_clearClients state)
  | closes here => exact closed (held_closeServerSocket state)
  | unwinds here => exact closed (held_clearClients state)
  | catches here => exact closed (held_closeServerSocket state)
  | _ => exact theirs

/-! ## What is lost -/

/-- Without a failure of `clients` to grow nothing is lost. -/
theorem lost_none {transport : Transport} {state : LifetimeState}
    (reachable : (socketLifetime transport false).Reachable state) : state.lost = [] := by
  refine @System.invariant _ _ (fun state => state.lost = []) ?_ (fun state next none step => ?_) _
    reachable
  · rintro _ ⟨table, _, _, rfl⟩
    rfl
  · cases step with
    | own step =>
        cases step with
        | placeFails here exhausted => cases exhausted
        | _ => exact none
    | others others => exact none

/-- A run of the server that loses one more descriptor. -/
theorem lost_more {state : LifetimeState} (reachable : (socketLifetime .tcp true).Reachable state)
    (idle : state.pc = .idle) {fd : Int} (valid : 0 ≤ fd)
    (free : ∀ other, fd ≤ other → state.table.holder other = .nobody) :
    ∃ next, (socketLifetime .tcp true).Reachable next ∧ next.pc = .idle ∧
      next.lost.length = state.lost.length + 1 ∧
        ∀ other, fd + 2 ≤ other → next.table.holder other = .nobody := by
  have apart : fd + 1 ≠ fd := by omega
  have second : (state.table.take fd).holder (fd + 1) = .nobody := by
    show Function.update state.table.holder fd .self (fd + 1) = .nobody
    rw [Function.update_of_ne apart]
    exact free _ (by omega)
  have run := reachable.step (.own (.runs idle))
  have run := run.step (.own (.sockets rfl valid (free fd le_rfl)))
  have run := run.step (.own (.binds rfl))
  have run := run.step (.own (.listens rfl))
  have run := run.step (.own (.prepares rfl))
  have run := run.step (.own (.visited rfl rfl))
  have run := run.step (.own (.accepts rfl (by omega) second))
  have run := run.step (.own (.placeFails rfl rfl))
  have run := run.step (.own (.unwinds rfl))
  have run := run.step (.own (.catches rfl))
  refine ⟨_, run, rfl, ?_, fun other above => ?_⟩
  · show (closeFd (fd + 1) ++ state.lost).length = _
    rw [closeFd_valid (by omega), List.length_append, List.length_singleton, Nat.add_comm]
  · show ((((state.table.take fd).take (fd + 1)).closeAll _).closeAll _).holder other = .nobody
    have kept : ((state.table.take fd).take (fd + 1)).holder other = .nobody := by
      show Function.update (Function.update state.table.holder fd .self) (fd + 1) .self other = _
      rw [Function.update_of_ne (by omega), Function.update_of_ne (by omega)]
      exact free other (by omega)
    rw [Owns.closeAll_holder, Owns.closeAll_holder, kept, ite_self, ite_self]

/-- **The descriptors of a server.** -/
structure Disciplined (state : LifetimeState) : Prop where
  /-- `close` has only been called for descriptors of the server, once each. -/
  right : state.table.wrong = []
  /-- What is open is in one variable. -/
  distinct : state.held.Nodup
  exact : ∀ fd, state.table.holder fd = .self ↔ fd ∈ state.held
  /-- Before and behind a run the server has nothing open but what it has lost. -/
  behind : state.pc = .idle ∨ state.pc = .destroyed → state.held = ↑state.lost

theorem behind {state : LifetimeState} (place : state.Place)
    (here : state.pc = .idle ∨ state.pc = .destroyed) : state.held = ↑state.lost := by
  have empty : state.serverFd = -1 ∧ state.socketFd = -1 ∧ state.accepted = -1 ∧
      state.clients = [] := by
    unfold LifetimeState.Place at place
    rcases here with here | here
    · simp only [here] at place
      exact place
    · simp only [here] at place
      exact place
  obtain ⟨server, socket, accepted, clients⟩ := empty
  simp only [LifetimeState.held, server, socket, accepted, clients, closeFd_none,
    List.flatMap_nil, Multiset.coe_nil, zero_add]

theorem lost_many (count : Nat) : ∃ state, (socketLifetime .tcp true).Reachable state ∧
    state.pc = .idle ∧ state.lost.length = count ∧
      ∃ fd, 0 ≤ fd ∧ ∀ other, fd ≤ other → state.table.holder other = .nobody := by
  induction count with
  | zero => exact ⟨{}, .start ⟨{}, rfl, by simp, rfl⟩, rfl, rfl, 0, le_rfl, fun _ _ => rfl⟩
  | succ count ih =>
      obtain ⟨state, reachable, idle, length, fd, valid, free⟩ := ih
      obtain ⟨next, reached, back, longer, still⟩ := lost_more reachable idle valid free
      exact ⟨next, reached, back, by omega, fd + 2, by omega, still⟩

/-- **No descriptor is closed twice, and none of someone else.**  All that the server ever
leaves open are the connections that `clients` could not take, and these may be many. -/
theorem descriptors_owned (transport : Transport) (exhausts : Bool) :
    (∀ state, (socketLifetime transport exhausts).Reachable state →
      Disciplined state ∧ (exhausts = false → state.lost = []) ∧
        ∀ next, SocketStep transport exhausts state next →
          ∀ fd, state.table.holder fd = .other → next.table.holder fd = .other) ∧
      ∀ count, ∃ state, (socketLifetime .tcp true).Reachable state ∧ state.pc = .idle ∧
        state.held.card = count := by
  refine ⟨fun state reachable => ?_, fun count => ?_⟩
  · obtain ⟨place, owns⟩ := holding reachable
    refine ⟨⟨owns.right, owns.distinct, owns.exact, behind place⟩, ?_,
      fun next step fd theirs => socketStep_other owns step theirs⟩
    rintro rfl
    exact lost_none reachable
  · obtain ⟨state, reachable, idle, length, -⟩ := lost_many count
    refine ⟨state, reachable, idle, ?_⟩
    rw [behind (holding reachable).place (Or.inl idle), Multiset.coe_card, length]

end Stgs.Stream
