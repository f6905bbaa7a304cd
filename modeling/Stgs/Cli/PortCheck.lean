/-
# Cli.PortCheck -- the tool `stgs_port_check`

`main` parses its arguments, scans the range and reports every port.  A host that is not on
the loopback, a range that is too long and a timeout out of range are refused before the
first socket.

`port_check`: what was not refused is scanned to its end, whatever the system calls of the
probes return; the library's own checks never throw.
-/
import Stgs.Cli.PortScan

namespace Stgs.Cli.PortCheck

open Stgs.Wire

set_option autoImplicit false

/-! ## The command line -/

def defaultDiagnosticFirstPort : UInt16 := 9000
def defaultDiagnosticLastPort : UInt16 := 9010

structure Options where
  host : String := "127.0.0.1"
  ports : PortRange := ⟨defaultDiagnosticFirstPort, defaultDiagnosticLastPort⟩
  timeout : Int := defaultPortProbeTimeout
  color : Bool := true
deriving DecidableEq

/-- One argument, with its value if it takes one; the arguments left. -/
def parseStep (arg : String) (rest : List String) (options : Options) :
    Except CliStop (Options × List String) :=
  if arg = "--help" ∨ arg = "-h" then .error (.exited 0)
  else if arg = "--host" then do
    let (host, rest) ← requireValue arg rest
    pure ({ options with host }, rest)
  else if arg = "--ports" then do
    let (value, rest) ← requireValue arg rest
    let ports ← parsePortRange value "--ports"
    pure ({ options with ports }, rest)
  else if arg = "--timeout-ms" then do
    let (value, rest) ← requireValue arg rest
    let timeout ← parseUnsigned maxU32 value "--timeout-ms" 1 maximumPortProbeTimeout.toNat
    pure ({ options with timeout }, rest)
  else if arg = "--no-color" then pure ({ options with color := false }, rest)
  else fail ("unknown option: " ++ arg)

/-- The loop over the arguments; every step takes at least one. -/
def parseLoop : Nat → List String → Options → Except CliStop Options
  | 0, _, options => .ok options
  | _ + 1, [], options => .ok options
  | fuel + 1, arg :: rest, options =>
      match parseStep arg rest options with
      | .error stop => .error stop
      | .ok (options, rest) => parseLoop fuel rest options

/-- `parseArgs`, on the arguments after the program's name. -/
def parseArgs (args : List String) : Except CliStop Options := do
  let options ← parseLoop args.length args {}
  if isLoopbackIpv4 options.host = false then
    fail "--host is intentionally restricted to IPv4 loopback"
  else if options.ports.count > maxDiagnosticPortCount then
    fail "--ports exceeds MaxDiagnosticPortCount"
  else pure options

/-! ## The report -/

inductive TerminalStatus where
  | info
  | success
  | warning
  | error
deriving DecidableEq, Repr

def visualStatus : TcpPortState → TerminalStatus
  | .opened => .success
  | .closed => .info
  | .timeout => .warning
  | .error => .error

theorem visualStatus_success (state : TcpPortState) :
    visualStatus state = .success ↔ state = .opened := by
  cases state <;> simp [visualStatus]

/-- A line of the report, before its numbers are printed. -/
structure ReportLine where
  status : TerminalStatus
  port : UInt16
  state : String
  latencyMs : ℚ
  detail : String
deriving DecidableEq

def reportLine (result : TcpPortProbeResult) : ReportLine where
  status := visualStatus result.state
  port := result.port
  state := tcpPortStateToString result.state
  latencyMs := result.latencyMs
  detail := result.detail

/-- What the process leaves: its exit code, what it printed, its socket calls. -/
structure Outcome where
  exitCode : Nat
  lines : List ReportLine := []
  portsTested : Nat := 0
  openCount : Nat := 0
  error : Option String := none
  events : List SocketEvent := []

def main (strerror : Nat → String) (calls : Nat → ProbeCalls) (args : List String) : Outcome :=
  match parseArgs args with
  | .error (.exited code) => { exitCode := code }
  | .error (.threw exn) => { exitCode := 1, error := some (what exn) }
  | .ok options =>
      match scanTcpPorts strerror calls options.host options.ports options.timeout with
      | (.error exn, events) => { exitCode := 1, error := some (what exn), events }
      | (.ok results, events) =>
          { exitCode := 0
            lines := results.map reportLine
            portsTested := results.length
            openCount := results.countP fun result => result.state = .opened
            events }

/-! ## What the arguments set -/

/-- What every value satisfies by itself. -/
structure Ranged (options : Options) : Prop where
  ports : options.ports.valid = true
  positive : 0 < options.timeout
  short : options.timeout ≤ maximumPortProbeTimeout

theorem ranged_default : Ranged {} where
  ports := by decide
  positive := by decide
  short := by decide

theorem parseStep_ranged {arg : String} {rest left : List String} {options next : Options}
    (ranged : Ranged options) (ok : parseStep arg rest options = .ok (next, left)) :
    Ranged next := by
  unfold parseStep fail at ok
  split at ok
  · cases ok
  split at ok
  · obtain ⟨_, _, ok⟩ := bind_eq_ok.mp ok
    obtain ⟨rfl, _⟩ := Prod.mk.inj (Except.ok.inj ok)
    exact { ranged with }
  split at ok
  · obtain ⟨_, _, ok⟩ := bind_eq_ok.mp ok
    obtain ⟨ports, parsed, ok⟩ := bind_eq_ok.mp ok
    obtain ⟨rfl, _⟩ := Prod.mk.inj (Except.ok.inj ok)
    exact { ranged with ports := parsePortRange_ok parsed }
  split at ok
  · obtain ⟨_, _, ok⟩ := bind_eq_ok.mp ok
    obtain ⟨timeout, parsed, ok⟩ := bind_eq_ok.mp ok
    obtain ⟨rfl, _⟩ := Prod.mk.inj (Except.ok.inj ok)
    obtain ⟨low, high, _⟩ := parseUnsigned_bounds parsed
    have short : (timeout : Int) ≤ maximumPortProbeTimeout := by
      simp only [maximumPortProbeTimeout] at high ⊢
      omega
    exact { ranged with positive := by dsimp only; omega, short }
  split at ok
  · obtain ⟨rfl, _⟩ := Prod.mk.inj (Except.ok.inj ok)
    exact { ranged with }
  · cases ok

theorem parseLoop_ranged {fuel : Nat} {args : List String} {options final : Options}
    (ranged : Ranged options) (ok : parseLoop fuel args options = .ok final) : Ranged final := by
  induction fuel generalizing args options with
  | zero => exact Except.ok.inj ok ▸ ranged
  | succ fuel ih =>
      cases args with
      | nil => exact Except.ok.inj ok ▸ ranged
      | cons arg rest =>
          rw [parseLoop] at ok
          cases step : parseStep arg rest options with
          | error stop =>
              rw [step] at ok
              cases ok
          | ok out =>
              rw [step] at ok
              exact ih (parseStep_ranged ranged step) ok

/-- What `parseArgs` promises. -/
theorem parseArgs_ok {args : List String} {options : Options} (ok : parseArgs args = .ok options) :
    Ranged options ∧ isLoopbackIpv4 options.host = true ∧
      options.ports.count ≤ maxDiagnosticPortCount := by
  obtain ⟨state, loop, ok⟩ := bind_eq_ok.mp ok
  unfold fail at ok
  split at ok
  · cases ok
  rename_i loopback
  split at ok
  · cases ok
  rename_i short
  obtain rfl := Except.ok.inj ok
  exact ⟨parseLoop_ranged ranged_default loop, by simpa using loopback, Nat.le_of_not_lt short⟩

/-! ## The whole tool -/

/-- The report of a scan. -/
structure Reported (calls : Nat → ProbeCalls) (options : Options) (outcome : Outcome) : Prop where
  succeeded : outcome.exitCode = 0
  noError : outcome.error = none
  -- a line for each port, in order
  ports : outcome.lines.map (·.port) = options.ports.ports
  tested : outcome.portsTested = options.ports.count
  states : ∀ i line, outcome.lines[i]? = some line →
    (line.state = "OPEN" ↔ (calls i).accepts) ∧ (line.state = "CLOSED" ↔ (calls i).refuses) ∧
      (line.state = "TIMEOUT" ↔ (calls i).silent)
  counted : outcome.openCount = outcome.lines.countP fun line => line.status = .success
  -- its sockets
  bracketed : Bracketed outcome.events
  loopback : ∀ fd address, .connects fd address ∈ outcome.events →
    address.address.head? = some ipv4LoopbackPrefix ∧ address.port ∈ options.ports.ports
  waited : waited outcome.events ≤ maxDiagnosticPortCount * maximumPortProbeTimeout

theorem reported_of_scan {calls : Nat → ProbeCalls} {options : Options}
    {results : List TcpPortProbeResult} {events : List SocketEvent} (ranged : Ranged options)
    (short : options.ports.count ≤ maxDiagnosticPortCount)
    (scan : Scan calls options.timeout 0 options.ports.ports results events) :
    Reported calls options
      { exitCode := 0, lines := results.map reportLine, portsTested := results.length
        openCount := results.countP fun result => result.state = .opened, events } where
  succeeded := rfl
  noError := rfl
  ports := by
    rw [List.map_map, ← scan.asked]
    rfl
  tested := by
    have asked := congrArg List.length scan.asked
    rw [List.length_map, length_ports ranged.ports] at asked
    exact asked
  states := by
    intro i line there
    dsimp only at there
    rw [List.getElem?_map, Option.map_eq_some_iff] at there
    obtain ⟨result, there, rfl⟩ := there
    obtain ⟨opened, closed, timeout⟩ := scan.state there
    rw [Nat.zero_add] at opened closed timeout
    rw [← opened, ← closed, ← timeout, reportLine]
    cases result.state <;> simp [tcpPortStateToString]
  counted := by
    dsimp only
    rw [List.countP_map]
    refine List.countP_congr fun result _ => ?_
    rw [Function.comp_apply, decide_eq_true_eq, decide_eq_true_eq]
    exact (visualStatus_success result.state).symm
  bracketed := scan.bracketed
  loopback _ _ connects := scan.loopback connects
  waited := by
    have bound := scan.waited_le
    rw [length_ports ranged.ports] at bound
    refine bound.trans (mul_le_mul (Nat.cast_le.mpr short) ranged.short ?_ ?_)
    · exact Int.le_of_lt ranged.positive
    · exact Nat.cast_nonneg _

/-- **The tool reports or refuses.**  Arguments that it does not take cost no socket call.
For all others it exits with zero, whatever the system calls return: with a line for each port
of the range, in order, that says what `connect` told; every socket closed before the next is
opened; connections to the loopback only, to ports of the range; and no more than 256 times a
minute of waiting. -/
theorem port_check (strerror : Nat → String) (calls : Nat → ProbeCalls) (args : List String) :
    (∃ stop, parseArgs args = .error stop ∧ (main strerror calls args).events = [] ∧
      (main strerror calls args).lines = [] ∧
      ((main strerror calls args).exitCode = 0 ↔ stop = .exited 0)) ∨
    ∃ options, parseArgs args = .ok options ∧
      Reported calls options (main strerror calls args) := by
  unfold main
  cases parsed : parseArgs args with
  | error stop =>
      refine Or.inl ⟨stop, rfl, ?_⟩
      cases stop with
      | exited code => exact ⟨rfl, rfl, by simp⟩
      | threw exn => exact ⟨rfl, rfl, by simp⟩
  | ok options =>
      obtain ⟨ranged, loopback, short⟩ := parseArgs_ok parsed
      have target : Diagnosable options.host options.timeout :=
        ⟨loopback, ranged.positive, ranged.short⟩
      obtain ⟨results, events, scanned, scan⟩ :=
        scanTcpPorts_scans strerror calls target ranged.ports short
      refine Or.inr ⟨options, rfl, ?_⟩
      dsimp only
      rw [scanned]
      exact reported_of_scan ranged short scan

end Stgs.Cli.PortCheck
