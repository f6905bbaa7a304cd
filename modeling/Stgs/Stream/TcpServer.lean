/-
# Stream.TcpServer -- many TCP clients in one loop

`runTcp` takes a snapshot of its clients, polls it, and visits the snapshot from its end:
it drains each socket that is ready through one read buffer, feeds the client's extractor
and gives the candidates to the callback, and erases the clients that are gone.  Only then
it accepts new ones.

A client is a descriptor and an extractor.  Which connection a descriptor means is the
kernel's business (`live`): a descriptor is free again once it is closed.  `received` and
`given` are history, by connection.
-/
import Stgs.Stream.Extractor
import Stgs.Theory.Transition

namespace Stgs.Stream

open Stgs.Theory.Transition Stgs.Wire

set_option autoImplicit false

/-! ## Clients -/

/-- The descriptors that `closeFd` closes. -/
def closeFd (fd : Int) : List Int := if 0 ≤ fd then [fd] else []

structure TcpClient where
  fd : Int := -1
  extractor : StreamFrameExtractor := {}
deriving DecidableEq

namespace TcpClient

/-- The move constructor: the new client, and what is left of the other. -/
def moved (other : TcpClient) : TcpClient × TcpClient := (other, { fd := -1 })

/-- The move assignment: also the descriptors it closes. -/
def assign (self other : TcpClient) : TcpClient × TcpClient × List Int :=
  (other, { fd := -1 }, closeFd self.fd)

end TcpClient

/-- `erase` moves each client of the tail one slot down, and destroys the last slot. -/
def eraseFrom (slot : TcpClient) : List TcpClient → List TcpClient × List Int
  | [] => ([], closeFd slot.fd)
  | next :: rest =>
      let (kept, left, closed) := slot.assign next
      let others := eraseFrom left rest
      (kept :: others.1, closed ++ others.2)

/-- `clients.erase(clients.begin() + index)`, and the descriptors it closes. -/
def eraseAt (clients : List TcpClient) (index : Nat) : List TcpClient × List Int :=
  match clients.drop index with
  | [] => (clients, [])
  | slot :: rest =>
      let erased := eraseFrom slot rest
      (clients.take index ++ erased.1, erased.2)

/-- `clients.emplace_back(fd)`; a vector that grows moves its clients. -/
def emplaceBack (clients : List TcpClient) (fd : Int) (grows : Bool) : List TcpClient :=
  (if grows then clients.map fun client => client.moved.1 else clients) ++ [{ fd := fd }]

/-- The tail moves down; one descriptor is closed. -/
theorem eraseFrom_eq (slot : TcpClient) (rest : List TcpClient) :
    eraseFrom slot rest = (rest, closeFd slot.fd) := by
  induction rest generalizing slot with
  | nil => rfl
  | cons next rest ih =>
      simp only [eraseFrom, TcpClient.assign, ih]
      exact Prod.ext rfl (List.append_nil _)

/-- **`erase` takes one client out**, and closes its descriptor only. -/
theorem eraseAt_eq {clients : List TcpClient} {index : Nat} {client : TcpClient}
    (there : clients[index]? = some client) :
    eraseAt clients index = (clients.eraseIdx index, closeFd client.fd) := by
  obtain ⟨below, rfl⟩ := List.getElem?_eq_some_iff.mp there
  rw [eraseAt, List.drop_eq_getElem_cons below]
  simp only [eraseFrom_eq]
  rw [List.eraseIdx_eq_take_drop_succ]

theorem emplaceBack_eq (clients : List TcpClient) (fd : Int) (grows : Bool) :
    emplaceBack clients fd grows = clients ++ [{ fd := fd }] := by
  cases grows with
  | true => simp [emplaceBack, TcpClient.moved]
  | false => rfl

/-! ## The loop -/

/-- `pollfd::revents`. -/
structure Revents where
  pollIn : Bool := false
  pollErr : Bool := false
  pollHup : Bool := false
  pollNval : Bool := false
  other : Bool := false
deriving DecidableEq

structure PollFd where
  fd : Int
  revents : Revents := {}
deriving DecidableEq

def tcpReadBufferSize : Nat := 8192

/-- The bytes that `recv` writes to the front of the read buffer. -/
def recvInto (readBuffer bytes : ByteVector) : ByteVector := bytes ++ readBuffer.drop bytes.length

/-- Where `runTcp` is: `visiting` has the loop's `snapshotIndex`, the next four the client's
index; `remove` is `removeClient`. -/
inductive TcpPc where
  | polling
  | visiting (snapshotIndex : Nat)
  | receiving (clientIndex : Nat) (remove : Bool)
  | delivering (clientIndex : Nat) (remove : Bool)
  | leaving (clientIndex : Nat) (remove : Bool)
  | accepting
  | stopped
  | threw
  | callbackThrew
deriving DecidableEq

/-- A connection is its number, in the order of acceptance. -/
abbrev Connection := Nat

/-- The first part is the program's, the second the kernel's and the peers', the third is
history: the bytes received, the candidates given to the callback, and the connections
on which `recv` returned 0. -/
structure TcpState where
  pc : TcpPc := .polling
  clients : List TcpClient := []
  pfds : List PollFd := []
  readBuffer : ByteVector := List.replicate tcpReadBufferSize 0
  frames : List (Connection × ByteVector) := []
  live : Int → Option Connection := fun _ => none
  accepted : Nat := 0
  sent : Connection → ByteVector := fun _ => []
  finished : Connection → Bool := fun _ => false
  received : Connection → ByteVector := fun _ => []
  given : List (Connection × ByteVector) := []
  ended : Connection → Bool := fun _ => false

/-- The kernel after some descriptors are closed. -/
def closed (live : Int → Option Connection) (fds : List Int) : Int → Option Connection :=
  fun fd => if fd ∈ fds then none else live fd

/-- The snapshot. -/
def snapshot (serverFd : Int) (clients : List TcpClient) : List PollFd :=
  { fd := serverFd } :: clients.map fun client => { fd := client.fd }

/-- The end of `runTcp`, or an exception: every client is destroyed. -/
def TcpState.leave (state : TcpState) (pc : TcpPc) : TcpState :=
  { state with
    pc
    clients := []
    live := closed state.live (state.clients.flatMap fun client => closeFd client.fd) }

inductive TcpStep (serverFd : Int) (state : TcpState) : TcpState → Prop where
  -- the peers
  | sends (connection : Connection) (bytes : ByteVector) (isOpen : state.finished connection = false) :
      TcpStep serverFd state
        { state with
          sent := Function.update state.sent connection (state.sent connection ++ bytes) }
  | shutsDown (connection : Connection) :
      TcpStep serverFd state
        { state with finished := Function.update state.finished connection true }
  -- `poll`
  | stops (polling : state.pc = .polling) : TcpStep serverFd state (state.leave .stopped)
  | idles (polling : state.pc = .polling) :
      TcpStep serverFd state { state with pfds := snapshot serverFd state.clients }
  | pollFails (polling : state.pc = .polling) : TcpStep serverFd state (state.leave .threw)
  | polls {pfds : List PollFd} (polling : state.pc = .polling)
      (answered : pfds.map PollFd.fd = (snapshot serverFd state.clients).map PollFd.fd) :
      TcpStep serverFd state { state with pc := .visiting state.clients.length, pfds }
  -- one entry of the snapshot
  | skips {index : Nat} {entry : PollFd} (visiting : state.pc = .visiting (index + 1))
      (polled : state.pfds[index + 1]? = some entry) (quiet : entry.revents = {}) :
      TcpStep serverFd state { state with pc := .visiting index }
  | drains {index : Nat} {entry : PollFd} {client : TcpClient}
      (visiting : state.pc = .visiting (index + 1))
      (polled : state.pfds[index + 1]? = some entry) (there : state.clients[index]? = some client)
      (readable : (entry.revents.pollIn || entry.revents.pollHup) = true) :
      TcpStep serverFd state
        { state with pc := .receiving index (entry.revents.pollErr || entry.revents.pollNval) }
  | passes {index : Nat} {entry : PollFd} {client : TcpClient}
      (visiting : state.pc = .visiting (index + 1))
      (polled : state.pfds[index + 1]? = some entry) (there : state.clients[index]? = some client)
      (ready : entry.revents ≠ {})
      (unreadable : (entry.revents.pollIn || entry.revents.pollHup) = false) :
      TcpStep serverFd state
        { state with pc := .leaving index (entry.revents.pollErr || entry.revents.pollNval) }
  -- `recv`
  | receives {index : Nat} {remove : Bool} {client : TcpClient} {connection : Connection}
      {bytes : ByteVector} (receiving : state.pc = .receiving index remove)
      (there : state.clients[index]? = some client) (open' : state.live client.fd = some connection)
      (some : bytes ≠ []) (fits : bytes.length ≤ state.readBuffer.length)
      (next : bytes <+: (state.sent connection).drop (state.received connection).length) :
      TcpStep serverFd state
        (let readBuffer := recvInto state.readBuffer bytes
         let fed := client.extractor.feed (readBuffer.take bytes.length)
         { state with
           pc := .delivering index remove
           readBuffer
           clients := state.clients.set index { client with extractor := fed.2 }
           frames := fed.1.map fun frame => (connection, frame)
           received := Function.update state.received connection (state.received connection ++ bytes) })
  | interrupts {index : Nat} {remove : Bool} (receiving : state.pc = .receiving index remove) :
      TcpStep serverFd state state
  | wouldBlock {index : Nat} {remove : Bool} (receiving : state.pc = .receiving index remove) :
      TcpStep serverFd state { state with pc := .leaving index remove }
  | recvFails {index : Nat} {remove : Bool} (receiving : state.pc = .receiving index remove) :
      TcpStep serverFd state { state with pc := .leaving index true }
  | ends {index : Nat} {remove : Bool} {client : TcpClient} {connection : Connection}
      (receiving : state.pc = .receiving index remove)
      (there : state.clients[index]? = some client) (open' : state.live client.fd = some connection)
      (finished : state.finished connection = true)
      (whole : state.received connection = state.sent connection) :
      TcpStep serverFd state
        { state with
          pc := .leaving index true
          ended := Function.update state.ended connection true }
  -- the callback
  | gives {index : Nat} {remove : Bool} {frame : Connection × ByteVector}
      {frames : List (Connection × ByteVector)} (delivering : state.pc = .delivering index remove)
      (next : state.frames = frame :: frames) :
      TcpStep serverFd state { state with frames, given := state.given ++ [frame] }
  | callbackThrows {index : Nat} {remove : Bool} {frame : Connection × ByteVector}
      {frames : List (Connection × ByteVector)} (delivering : state.pc = .delivering index remove)
      (next : state.frames = frame :: frames) :
      TcpStep serverFd state
        (TcpState.leave { state with frames, given := state.given ++ [frame] } .callbackThrew)
  | delivers {index : Nat} {remove : Bool} (delivering : state.pc = .delivering index remove)
      (none : state.frames = []) :
      TcpStep serverFd state { state with pc := .receiving index remove }
  -- the end of an entry
  | keeps {index : Nat} {remove : Bool} {entry : PollFd} (leaving : state.pc = .leaving index remove)
      (polled : state.pfds[index + 1]? = some entry)
      (stays : (remove || entry.revents.pollHup) = false) :
      TcpStep serverFd state { state with pc := .visiting index }
  | removes {index : Nat} {remove : Bool} {entry : PollFd}
      (leaving : state.pc = .leaving index remove) (polled : state.pfds[index + 1]? = some entry)
      (goes : (remove || entry.revents.pollHup) = true) :
      TcpStep serverFd state
        (let erased := eraseAt state.clients index
         { state with
           pc := .visiting index
           clients := erased.1
           live := closed state.live erased.2 })
  -- `accept`
  | visited {entry : PollFd} (visiting : state.pc = .visiting 0) (polled : state.pfds[0]? = some entry) :
      TcpStep serverFd state
        { state with pc := if entry.revents.pollIn then .accepting else .polling }
  | accepts {fd : Int} (grows : Bool) (accepting : state.pc = .accepting) (valid : 0 ≤ fd)
      (fresh : state.live fd = none) :
      TcpStep serverFd state
        { state with
          clients := emplaceBack state.clients fd grows
          live := Function.update state.live fd (some state.accepted)
          accepted := state.accepted + 1 }
  | acceptInterrupts (accepting : state.pc = .accepting) : TcpStep serverFd state state
  | acceptEnds (accepting : state.pc = .accepting) :
      TcpStep serverFd state { state with pc := .polling }
  | setNonBlockingFails (accepting : state.pc = .accepting) :
      TcpStep serverFd state
        (TcpState.leave { state with accepted := state.accepted + 1 } .threw)

/-- **`runTcp` once its socket listens**, its peers and the kernel. -/
def tcpServer (serverFd : Int) : System TcpState where
  start state := state = {}
  step := TcpStep serverFd

end Stgs.Stream
