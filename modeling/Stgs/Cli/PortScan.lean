/-
# Cli.PortScan -- who listens on the ports of a range

`probeTcpPort` asks one port of the loopback by a `connect` that does not block;
`scanTcpPorts` asks the ports of a range in order.  What the system calls of a probe return
is a parameter, one `ProbeCalls` for each probe, and so are the texts of `strerror`.

The socket calls are history: what a probe opened, where it connected to, how long it was
ready to wait and what it closed.  `Probed` says what one probe does, `Scan` what they do in
a row; `scanTcpPorts_scans` is that the checks in front of a scan are all that can stop it.
-/
import Mathlib.Data.Rat.Defs
import Mathlib.Tactic.Ring
import Stgs.Cli.PortDiagnostics

namespace Stgs.Cli

open Stgs.Wire

set_option autoImplicit false

/-! ## One probe -/

/-- `Open`, `Closed`, `Timeout` and `Error`. -/
inductive TcpPortState where
  | opened
  | closed
  | timeout
  | error
deriving DecidableEq, Repr

def tcpPortStateToString : TcpPortState → String
  | .opened => "OPEN"
  | .closed => "CLOSED"
  | .timeout => "TIMEOUT"
  | .error => "ERROR"

structure TcpPortProbeResult where
  port : UInt16 := 0
  state : TcpPortState := .error
  latencyMs : ℚ := 0
  detail : String := ""
deriving DecidableEq

def defaultPortProbeTimeout : Int := 200
def maximumPortProbeTimeout : Int := 60000

def eConnRefused : Nat := 111
def eInProgress : Nat := 115

/-- What the calls of a probe return; where they fail, `errno`. -/
structure ProbeCalls where
  socket : Except Nat Nat
  getFlags : Int
  setFlags : Int
  connect : Option Nat
  poll : Except Nat Nat
  socketError : Except Nat Nat
  started : ℚ
  ended : ℚ

structure SocketAddress where
  address : List Nat
  port : UInt16
deriving DecidableEq

inductive SocketEvent where
  | opens (fd : Nat)
  | connects (fd : Nat) (address : SocketAddress)
  | waits (fd : Nat) (timeoutMs : Int)
  | closes (fd : Nat)
deriving DecidableEq

/-- The text of an exception. -/
def what : Exn → String
  | .invalidArgument text => text
  | .runtimeError text => text

def makeAddress (address : String) (port : UInt16) : Except Exn SocketAddress :=
  match inetPton address with
  | none => .error (.runtimeError ("invalid IPv4 address: " ++ address))
  | some octets => .ok ⟨octets, port⟩

def makeNonBlocking (calls : ProbeCalls) : Except Exn Unit :=
  if calls.getFlags < 0 ∨ calls.setFlags < 0 then
    .error (.runtimeError "failed to configure non-blocking probe socket")
  else .ok ()

/-- What `connect`, and the wait for it, tell of the port. -/
def connectOutcome (strerror : Nat → String) (calls : ProbeCalls) : TcpPortState × String :=
  match calls.connect with
  | none => (.opened, "TCP listener accepted the connection")
  | some errno =>
      if errno = eInProgress then
        match calls.poll with
        | .error errno => (.error, "poll(): " ++ strerror errno)
        | .ok 0 => (.timeout, "connection attempt timed out")
        | .ok (_ + 1) =>
            match calls.socketError with
            | .error errno => (.error, "getsockopt(SO_ERROR): " ++ strerror errno)
            | .ok 0 => (.opened, "TCP listener accepted the connection")
            | .ok (code + 1) =>
                if code + 1 = eConnRefused then (.closed, "connection refused")
                else (.error, strerror (code + 1))
      else if errno = eConnRefused then (.closed, "connection refused")
      else (.error, strerror errno)

/-- The `try` block, on an open socket. -/
def attempt (strerror : Nat → String) (calls : ProbeCalls) (normalizedHost : String) (port : UInt16)
    (timeoutMs : Int) (fd : Nat) : Except Exn (TcpPortState × String) × List SocketEvent :=
  match makeNonBlocking calls with
  | .error exn => (.error exn, [])
  | .ok () =>
      match makeAddress normalizedHost port with
      | .error exn => (.error exn, [])
      | .ok address =>
          (.ok (connectOutcome strerror calls),
            .connects fd address ::
              if calls.connect = some eInProgress then [.waits fd timeoutMs] else [])

/-- As in `SimulatorSocket`; the probe has it in line. -/
def normalizeIpv4Host (host : String) : String :=
  if host = "localhost" then "127.0.0.1" else host

def probeTcpPort (strerror : Nat → String) (calls : ProbeCalls) (host : String) (port : UInt16)
    (timeoutMs : Int) : Except Exn TcpPortProbeResult × List SocketEvent :=
  if isLoopbackIpv4 host = false then
    (.error (.invalidArgument "port diagnostics are intentionally restricted to IPv4 loopback"), [])
  else
    match validateDiagnosticPort port with
    | .error exn => (.error exn, [])
    | .ok () =>
        if timeoutMs ≤ 0 ∨ timeoutMs > maximumPortProbeTimeout then
          (.error (.invalidArgument "port probe timeout must be in the 1..60000 ms range"), [])
        else
          match calls.socket with
          | .error errno => (.ok { port, detail := "socket(): " ++ strerror errno }, [])
          | .ok fd =>
              let latencyMs := calls.ended - calls.started
              match attempt strerror calls (normalizeIpv4Host host) port timeoutMs fd with
              | (.error exn, events) =>
                  (.ok { port, state := .error, latencyMs, detail := what exn },
                    .opens fd :: events ++ [.closes fd])
              | (.ok (state, detail), events) =>
                  (.ok { port, state, latencyMs, detail }, .opens fd :: events ++ [.closes fd])

/-- The loop over the ports of a range; its counter has 32 bits, so that it passes the last. -/
def scanFrom (strerror : Nat → String) (calls : Nat → ProbeCalls) (host : String)
    (timeoutMs : Int) (last : UInt16) (port : UInt32) (results : List TcpPortProbeResult)
    (events : List SocketEvent) : Except Exn (List TcpPortProbeResult) × List SocketEvent :=
  if _inside : port ≤ last.toUInt32 then
    match probeTcpPort strerror (calls results.length) host port.toUInt16 timeoutMs with
    | (.error exn, own) => (.error exn, events ++ own)
    | (.ok result, own) =>
        scanFrom strerror calls host timeoutMs last (port + 1) (results ++ [result]) (events ++ own)
  else (.ok results, events)
termination_by last.toNat + 1 - port.toNat
decreasing_by
  have below : port.toNat ≤ last.toNat := UInt32.le_iff_toNat_le.mp _inside
  have small := last.toNat_lt
  rw [UInt32.toNat_add, show (1 : UInt32).toNat = 1 from rfl, Nat.mod_eq_of_lt (by omega)]
  omega

def scanTcpPorts (strerror : Nat → String) (calls : Nat → ProbeCalls) (host : String)
    (range : PortRange) (timeoutMs : Int) :
    Except Exn (List TcpPortProbeResult) × List SocketEvent :=
  if isLoopbackIpv4 host = false then
    (.error (.invalidArgument "port scan is intentionally restricted to IPv4 loopback"), [])
  else
    match validateDiagnosticRange range with
    | .error exn => (.error exn, [])
    | .ok () => scanFrom strerror calls host timeoutMs range.last range.first.toUInt32 [] []

/-! ## What one probe does -/

namespace ProbeCalls

/-- There is a socket, and it does not block. -/
def usable (calls : ProbeCalls) : Prop :=
  (∃ fd, calls.socket = .ok fd) ∧ makeNonBlocking calls = .ok ()

/-- The connection was not there at once, but in time there was an answer. -/
def answered (calls : ProbeCalls) : Prop :=
  calls.connect = some eInProgress ∧ ∃ ready, calls.poll = .ok (ready + 1)

def accepts (calls : ProbeCalls) : Prop :=
  calls.usable ∧ (calls.connect = none ∨ (calls.answered ∧ calls.socketError = .ok 0))

def refuses (calls : ProbeCalls) : Prop :=
  calls.usable ∧ (calls.connect = some eConnRefused ∨
    (calls.answered ∧ calls.socketError = .ok eConnRefused))

def silent (calls : ProbeCalls) : Prop :=
  calls.usable ∧ calls.connect = some eInProgress ∧ calls.poll = .ok 0

end ProbeCalls

/-- Every socket that is opened is closed before the next one is. -/
inductive Bracketed : List SocketEvent → Prop where
  | nil : Bracketed []
  | socket {fd : Nat} {between rest : List SocketEvent}
      (quiet : ∀ event ∈ between, ∀ other, event ≠ .opens other ∧ event ≠ .closes other)
      (after : Bracketed rest) : Bracketed (.opens fd :: between ++ .closes fd :: rest)

theorem Bracketed.append {first second : List SocketEvent} (bracketed : Bracketed first)
    (more : Bracketed second) : Bracketed (first ++ second) := by
  induction bracketed with
  | nil => exact more
  | socket quiet _ ih =>
      rw [List.append_assoc, List.cons_append]
      exact .socket quiet ih

/-- How long the calls are ready to wait. -/
def waited : List SocketEvent → Int
  | [] => 0
  | .waits _ timeoutMs :: events => timeoutMs + waited events
  | _ :: events => waited events

theorem waited_append (first second : List SocketEvent) :
    waited (first ++ second) = waited first + waited second := by
  induction first with
  | nil => simp [waited]
  | cons event events ih => cases event <;> simp [waited, ih, add_assoc]

/-- The probe of a port. -/
structure Probed (calls : ProbeCalls) (timeoutMs : Int) (port : UInt16)
    (result : TcpPortProbeResult) (events : List SocketEvent) : Prop where
  asked : result.port = port
  opened : result.state = .opened ↔ calls.accepts
  closed : result.state = .closed ↔ calls.refuses
  timeout : result.state = .timeout ↔ calls.silent
  bracketed : Bracketed events
  loopback : ∀ fd address, .connects fd address ∈ events →
    address.address.head? = some ipv4LoopbackPrefix ∧ address.port = port
  waited : Cli.waited events ≤ timeoutMs

/-- `makeAddress` finds an address, since the host was checked. -/
theorem makeAddress_loopback {host : String} (loopback : isLoopbackIpv4 host = true)
    (port : UInt16) : ∃ octets, makeAddress (normalizeIpv4Host host) port = .ok ⟨octets, port⟩ ∧
      octets.head? = some ipv4LoopbackPrefix := by
  unfold isLoopbackIpv4 at loopback
  by_cases named : host = "localhost"
  · refine ⟨[127, 0, 0, 1], ?_, rfl⟩
    rw [normalizeIpv4Host, if_pos named]
    rfl
  · rw [if_neg named] at loopback
    split at loopback
    · rename_i first rest address
      refine ⟨first :: rest, ?_, congrArg some (beq_iff_eq.mp loopback)⟩
      rw [normalizeIpv4Host, if_neg named, makeAddress, address]
    · cases loopback

/-- What `connect` tells is what there was. -/
theorem connectOutcome_iff (strerror : Nat → String) (calls : ProbeCalls) :
    ((connectOutcome strerror calls).1 = .opened ↔
        calls.connect = none ∨ (calls.answered ∧ calls.socketError = .ok 0)) ∧
      ((connectOutcome strerror calls).1 = .closed ↔
        calls.connect = some eConnRefused ∨
          (calls.answered ∧ calls.socketError = .ok eConnRefused)) ∧
      ((connectOutcome strerror calls).1 = .timeout ↔
        calls.connect = some eInProgress ∧ calls.poll = .ok 0) := by
  unfold connectOutcome ProbeCalls.answered
  cases connect : calls.connect with
  | none => simp
  | some errno =>
      dsimp only
      by_cases pending : errno = eInProgress
      · subst pending
        rw [if_pos rfl]
        cases poll : calls.poll with
        | error errno => simp [eInProgress, eConnRefused]
        | ok ready =>
            cases ready with
            | zero => simp [eInProgress, eConnRefused]
            | succ ready =>
                cases answer : calls.socketError with
                | error errno => simp [eInProgress, eConnRefused]
                | ok code =>
                    cases code with
                    | zero => simp [eInProgress, eConnRefused]
                    | succ code =>
                        dsimp only
                        by_cases refused : code + 1 = eConnRefused
                        · simp [refused, eInProgress, eConnRefused]
                        · have other : ¬ code = 110 := fun same => refused (by rw [same]; rfl)
                          simp [other, eInProgress, eConnRefused]
      · rw [if_neg pending]
        by_cases refused : errno = eConnRefused
        · simp [refused, eInProgress, eConnRefused]
        · simp [refused, pending]

/-- What a host and a timeout need for a probe. -/
structure Diagnosable (host : String) (timeoutMs : Int) : Prop where
  loopback : isLoopbackIpv4 host = true
  positive : 0 < timeoutMs
  short : timeoutMs ≤ maximumPortProbeTimeout

/-- **A probe returns**, whatever the sockets do. -/
theorem probeTcpPort_probed (strerror : Nat → String) (calls : ProbeCalls) {host : String}
    {timeoutMs : Int} (target : Diagnosable host timeoutMs) {port : UInt16}
    (low : minimumNetworkPort ≤ port.toNat) :
    ∃ result events, probeTcpPort strerror calls host port timeoutMs = (.ok result, events) ∧
      Probed calls timeoutMs port result events := by
  have checked : validateDiagnosticPort port = .ok () := if_neg (Nat.not_lt_of_le low)
  have inTime : ¬ (timeoutMs ≤ 0 ∨ timeoutMs > maximumPortProbeTimeout) := by
    have := target.positive
    have := target.short
    omega
  have local' : ¬ isLoopbackIpv4 host = false := by simp [target.loopback]
  have waits : 0 ≤ timeoutMs := Int.le_of_lt target.positive
  unfold probeTcpPort
  rw [if_neg local', checked]
  dsimp only
  rw [if_neg inTime]
  cases socket : calls.socket with
  | error errno =>
      refine ⟨_, _, rfl, rfl, ?_, ?_, ?_, .nil, ?_, waits⟩
      · simp [ProbeCalls.accepts, ProbeCalls.usable, socket]
      · simp [ProbeCalls.refuses, ProbeCalls.usable, socket]
      · simp [ProbeCalls.silent, ProbeCalls.usable, socket]
      · simp
  | ok fd =>
      dsimp only
      cases nonBlocking : makeNonBlocking calls with
      | error exn =>
          simp only [attempt, nonBlocking]
          refine ⟨_, _, rfl, rfl, ?_, ?_, ?_, .socket (by simp) .nil, ?_, ?_⟩
          · simp [ProbeCalls.accepts, ProbeCalls.usable, nonBlocking]
          · simp [ProbeCalls.refuses, ProbeCalls.usable, nonBlocking]
          · simp [ProbeCalls.silent, ProbeCalls.usable, nonBlocking]
          · simp
          · simpa [waited] using waits
      | ok _ =>
          obtain ⟨octets, address, head⟩ := makeAddress_loopback target.loopback port
          have usable : calls.usable := ⟨⟨fd, socket⟩, nonBlocking⟩
          obtain ⟨opened, closed, timeout⟩ := connectOutcome_iff strerror calls
          simp only [attempt, nonBlocking, address]
          refine ⟨_, _, rfl, rfl, ?_, ?_, ?_, .socket ?_ .nil, ?_, ?_⟩
          · simpa [ProbeCalls.accepts, usable] using opened
          · simpa [ProbeCalls.refuses, usable] using closed
          · simpa [ProbeCalls.silent, usable] using timeout
          · split <;> simp
          · split <;> simp [head]
          · split <;> simp [waited, waits]

/-! ## The probes of a range -/

/-- Probes in a row, from a number on. -/
inductive Scan (calls : Nat → ProbeCalls) (timeoutMs : Int) :
    Nat → List UInt16 → List TcpPortProbeResult → List SocketEvent → Prop where
  | nil (number : Nat) : Scan calls timeoutMs number [] [] []
  | cons {number : Nat} {port : UInt16} {ports : List UInt16} {result : TcpPortProbeResult}
      {results : List TcpPortProbeResult} {own events : List SocketEvent}
      (probed : Probed (calls number) timeoutMs port result own)
      (rest : Scan calls timeoutMs (number + 1) ports results events) :
      Scan calls timeoutMs number (port :: ports) (result :: results) (own ++ events)

namespace Scan

variable {calls : Nat → ProbeCalls} {timeoutMs : Int} {number : Nat} {ports : List UInt16}
  {results : List TcpPortProbeResult} {events : List SocketEvent}

theorem asked (scan : Scan calls timeoutMs number ports results events) :
    results.map (·.port) = ports := by
  induction scan with
  | nil => rfl
  | cons probed _ ih => rw [List.map_cons, probed.asked, ih]

theorem bracketed (scan : Scan calls timeoutMs number ports results events) :
    Bracketed events := by
  induction scan with
  | nil => exact .nil
  | cons probed _ ih => exact probed.bracketed.append ih

theorem loopback (scan : Scan calls timeoutMs number ports results events) {fd : Nat}
    {address : SocketAddress} (connects : .connects fd address ∈ events) :
    address.address.head? = some ipv4LoopbackPrefix ∧ address.port ∈ ports := by
  induction scan with
  | nil => cases connects
  | cons probed _ ih =>
      rcases List.mem_append.mp connects with own | later
      · obtain ⟨head, port⟩ := probed.loopback _ _ own
        exact ⟨head, port ▸ List.mem_cons_self⟩
      · obtain ⟨head, port⟩ := ih later
        exact ⟨head, List.mem_cons_of_mem _ port⟩

theorem waited_le (scan : Scan calls timeoutMs number ports results events) :
    waited events ≤ ports.length * timeoutMs := by
  induction scan with
  | nil => simp [waited]
  | cons probed _ ih =>
      have own := probed.waited
      rw [waited_append, List.length_cons, Nat.cast_succ, add_mul, one_mul]
      omega

/-- The result at a position is that of the probe with its number. -/
theorem state (scan : Scan calls timeoutMs number ports results events) {i : Nat}
    {result : TcpPortProbeResult} (there : results[i]? = some result) :
    (result.state = .opened ↔ (calls (number + i)).accepts) ∧
      (result.state = .closed ↔ (calls (number + i)).refuses) ∧
      (result.state = .timeout ↔ (calls (number + i)).silent) := by
  induction scan generalizing i with
  | nil => cases there
  | cons probed _ ih =>
      cases i with
      | zero =>
          obtain rfl := Option.some.inj there
          exact ⟨probed.opened, probed.closed, probed.timeout⟩
      | succ i =>
          have later := ih there
          rwa [Nat.add_right_comm, Nat.add_assoc] at later

end Scan

/-- The ports from one on, as the loop counts them. -/
def portsFrom (port : UInt32) (last : UInt16) : List UInt16 :=
  (List.range' port.toNat (last.toNat + 1 - port.toNat)).map UInt16.ofNat

theorem portsFrom_of_le {port : UInt32} {last : UInt16} (inside : port ≤ last.toUInt32) :
    portsFrom port last = port.toUInt16 :: portsFrom (port + 1) last := by
  have below : port.toNat ≤ last.toNat := UInt32.le_iff_toNat_le.mp inside
  have small := last.toNat_lt
  have next : (port + 1).toNat = port.toNat + 1 := by
    rw [UInt32.toNat_add, show (1 : UInt32).toNat = 1 from rfl, Nat.mod_eq_of_lt (by omega)]
  have count : last.toNat + 1 - port.toNat = last.toNat + 1 - (port.toNat + 1) + 1 := by omega
  rw [portsFrom, portsFrom, next, count, List.range'_succ, List.map_cons]
  congr 1

theorem portsFrom_of_not_le {port : UInt32} {last : UInt16} (passed : ¬ port ≤ last.toUInt32) :
    portsFrom port last = [] := by
  have above : ¬ port.toNat ≤ last.toNat := fun below => passed (UInt32.le_iff_toNat_le.mpr below)
  rw [portsFrom, Nat.sub_eq_zero_of_le (by omega)]
  rfl

theorem scanFrom_scans (strerror : Nat → String) (calls : Nat → ProbeCalls) {host : String}
    {timeoutMs : Int} (target : Diagnosable host timeoutMs) (last : UInt16) (port : UInt32)
    (low : minimumNetworkPort ≤ port.toNat) (results : List TcpPortProbeResult)
    (events : List SocketEvent) :
    ∃ more own, scanFrom strerror calls host timeoutMs last port results events =
        (.ok (results ++ more), events ++ own) ∧
      Scan calls timeoutMs results.length (portsFrom port last) more own := by
  rw [scanFrom]
  by_cases inside : port ≤ last.toUInt32
  · have below : port.toNat ≤ last.toNat := UInt32.le_iff_toNat_le.mp inside
    have small := last.toNat_lt
    have same : port.toUInt16.toNat = port.toNat := by
      rw [UInt32.toNat_toUInt16, Nat.mod_eq_of_lt (by omega)]
    have next : (port + 1).toNat = port.toNat + 1 := by
      rw [UInt32.toNat_add, show (1 : UInt32).toNat = 1 from rfl, Nat.mod_eq_of_lt (by omega)]
    obtain ⟨result, own, returned, probed⟩ :=
      probeTcpPort_probed strerror (calls results.length) target (same ▸ low)
    obtain ⟨more, later, scanned, rest⟩ := scanFrom_scans strerror calls target last (port + 1)
      (by omega) (results ++ [result]) (events ++ own)
    rw [dif_pos inside, returned]
    dsimp only
    refine ⟨result :: more, own ++ later, ?_, ?_⟩
    · rw [scanned, List.append_assoc, List.append_assoc]
      rfl
    · rw [portsFrom_of_le inside]
      rw [List.length_append] at rest
      exact .cons probed rest
  · rw [dif_neg inside, portsFrom_of_not_le inside]
    exact ⟨[], [], by rw [List.append_nil, List.append_nil], .nil _⟩
termination_by last.toNat + 1 - port.toNat
decreasing_by omega

/-- What a range needs for a scan. -/
theorem validateDiagnosticRange_ok {range : PortRange} (valid : range.valid = true)
    (short : range.count ≤ maxDiagnosticPortCount) : validateDiagnosticRange range = .ok () := by
  simp only [PortRange.valid, decide_eq_true_eq] at valid
  obtain ⟨low, ordered⟩ := valid
  have ordered' : range.first.toNat ≤ range.last.toNat := UInt16.le_iff_toNat_le.mp ordered
  rw [validateDiagnosticRange, if_neg, if_neg (Nat.not_lt_of_le short)]
  rintro (zero | zero | reversed)
  · omega
  · omega
  · have less : range.last.toNat < range.first.toNat := UInt16.lt_iff_toNat_lt.mp reversed
    omega

/-- **A scan returns**, with a result for every port. -/
theorem scanTcpPorts_scans (strerror : Nat → String) (calls : Nat → ProbeCalls) {host : String}
    {timeoutMs : Int} (target : Diagnosable host timeoutMs) {range : PortRange}
    (valid : range.valid = true) (short : range.count ≤ maxDiagnosticPortCount) :
    ∃ results events,
      scanTcpPorts strerror calls host range timeoutMs = (.ok results, events) ∧
        Scan calls timeoutMs 0 range.ports results events := by
  have low : minimumNetworkPort ≤ range.first.toUInt32.toNat := (decide_eq_true_eq.mp valid).1
  obtain ⟨results, events, scanned, scan⟩ :=
    scanFrom_scans strerror calls target range.last range.first.toUInt32 low [] []
  refine ⟨results, events, ?_, scan⟩
  rw [scanTcpPorts, if_neg (by simp [target.loopback]), validateDiagnosticRange_ok valid short]
  exact scanned

theorem length_ports {range : PortRange} (valid : range.valid = true) :
    range.ports.length = range.count := by
  have ordered : range.first.toNat ≤ range.last.toNat :=
    UInt16.le_iff_toNat_le.mp (decide_eq_true_eq.mp valid).2
  rw [PortRange.ports, PortRange.count, if_pos valid, List.length_map, List.length_range']
  omega

end Stgs.Cli
