/-
# Simulator.Startup -- from the command line to the first frame

Before its first frame the simulator looks for a port (`discoverPort`), opens its capture,
which empties the file, makes a socket and, for TCP, connects it.  What the system calls
return is a parameter, `StartCalls`; the socket calls are history, as in a scan.

`simulator_start` says when all this succeeds for options that `parseArgs` accepts, and what
is left where it fails.  The host of a run without discovery is not checked before: a mistake
in it is found only after the capture was emptied.
-/
import Stgs.Cli.PortScan
import Stgs.Simulator.Generation

namespace Stgs.Simulator

open Stgs.Cli Stgs.Theory Stgs.Wire

set_option autoImplicit false

/-! ## The start of a run -/

structure StartCalls where
  strerror : Nat → String
  probes : Nat → ProbeCalls
  captureOpens : Bool
  captureWrites : Bool
  socket : Except Nat Nat
  connect : Option Nat

/-- The first port that is open. -/
def selected (results : List TcpPortProbeResult) : Option UInt16 :=
  (results.find? fun result => result.state = .opened).map (·.port)

def discoverPort (calls : StartCalls) (options : Options) :
    Except Exn Options × List SocketEvent :=
  match options.discoverPorts with
  | none => (.ok options, [])
  | some range =>
      match scanTcpPorts calls.strerror calls.probes options.host range
        options.discoveryTimeoutMs with
      | (.error exn, events) => (.error exn, events)
      | (.ok results, events) =>
          match selected results with
          | none =>
              (.error (.runtimeError "no OPEN TCP listener found in --discover-ports range"),
                events)
          | some port => (.ok { options with port }, events)

/-- The constructor of `FrameFileWriter`. -/
def openCapture (calls : StartCalls) (options : Options) : Except Exn Unit :=
  match options.outputFile with
  | none => .ok ()
  | some path =>
      if calls.captureOpens = false then
        .error (.runtimeError ("failed to open replay output file: " ++ path))
      else if calls.captureWrites = false then
        .error (.runtimeError "failed while writing STGF replay header")
      else .ok ()

def createSocket (calls : StartCalls) : Except Exn Nat :=
  match calls.socket with
  | .error errno => .error (.runtimeError ("socket() failed: " ++ calls.strerror errno))
  | .ok fd => .ok fd

def destination (options : Options) : Except Exn SocketAddress :=
  match inetPton (normalizeIpv4Host options.host) with
  | none => .error (.runtimeError ("invalid IPv4 destination host: " ++ options.host))
  | some octets => .ok ⟨octets, options.port⟩

/-- What the loop over the frames starts with. -/
structure Started where
  options : Options
  connection : Option (Nat × SocketAddress)

/-- The socket, its address and, for TCP, its connection. -/
def connectSocket (calls : StartCalls) (options : Options) (transport : Transport) :
    Except Exn Started × List SocketEvent :=
  match createSocket calls with
  | .error exn => (.error exn, [])
  | .ok fd =>
      match destination options with
      | .error exn => (.error exn, [.opens fd, .closes fd])
      | .ok address =>
          match transport, calls.connect with
          | .udp, _ => (.ok ⟨options, some (fd, address)⟩, [.opens fd])
          | .tcp, none => (.ok ⟨options, some (fd, address)⟩, [.opens fd, .connects fd address])
          | .tcp, some errno =>
              (.error (.runtimeError ("connect() failed: " ++ calls.strerror errno)),
                [.opens fd, .connects fd address, .closes fd])

/-- The start, its socket calls, and whether the capture file was emptied. -/
structure StartOutcome where
  result : Except Exn Started
  events : List SocketEvent
  emptied : Bool

/-- The capture and the connection. -/
def openOutputs (calls : StartCalls) (options : Options) (events : List SocketEvent) :
    StartOutcome :=
  let emptied := options.outputFile.isSome && calls.captureOpens
  match openCapture calls options with
  | .error exn => ⟨.error exn, events, emptied⟩
  | .ok () =>
      match options.transport with
      | none => ⟨.ok ⟨options, none⟩, events, emptied⟩
      | some transport =>
          let (result, own) := connectSocket calls options transport
          ⟨result, events ++ own, emptied⟩

/-- `run` up to its loop. -/
def start (calls : StartCalls) (options : Options) : StartOutcome :=
  match discoverPort calls options with
  | (.error exn, events) => ⟨.error exn, events, false⟩
  | (.ok options, events) => openOutputs calls options events

/-! ## What the arguments set -/

/-- What the values for a discovery satisfy by themselves. -/
structure Discovering (options : Options) : Prop where
  valid : ∀ range, options.discoverPorts = some range → range.valid = true
  positive : 0 < options.discoveryTimeoutMs
  short : options.discoveryTimeoutMs ≤ maximumPortProbeTimeoutMs

section Arguments

variable {strtod : String → Strtod}

theorem discovering_selectTransport {options : Options} (transport : Transport)
    (holds : Discovering options) : Ensures Discovering (selectTransport options transport) :=
  .ite (fun _ => .error _) fun _ => .ok { holds with }

theorem discovering_parseStep {state : ParseState} (arg : String) (rest : List String)
    (holds : Discovering state.options) :
    Ensures (fun out => Discovering out.1.options) (parseStep strtod arg rest state) := by
  unfold parseStep
  dsimp only
  refine .ite (fun _ => .error _) fun _ => ?_
  refine .ite (fun _ => .bind (discovering_selectTransport .udp holds) fun _ kept => .ok kept)
    fun _ => ?_
  refine .ite (fun _ => .bind (discovering_selectTransport .tcp holds) fun _ kept => .ok kept)
    fun _ => ?_
  -- the host and the port
  refine .ite (fun _ => .after fun _ => .ok { holds with }) fun _ => ?_
  refine .ite (fun _ => .after fun _ => .after fun _ => .ok { holds with }) fun _ => ?_
  -- the discovery
  refine .ite (fun _ => ?range) fun _ => ?_
  case range =>
    have parsed {value : String} : Ensures (fun range : PortRange => range.valid = true)
        (parsePortRange value "--discover-ports") := fun _ => parsePortRange_ok
    refine .after fun _ => .bind parsed ?_
    intro range valid
    refine .ok { holds with valid := ?_ }
    rintro _ ⟨⟩
    exact valid
  refine .ite (fun _ => ?timeout) fun _ => ?_
  case timeout =>
    refine .after fun _ => .bind (ensures_parseUnsigned _ _ _ _ _) ?_
    intro discoveryTimeoutMs bounds
    exact .ok { holds with positive := bounds.1, short := bounds.2 }
  -- the run
  refine .ite (fun _ => .after fun _ => .after fun _ => .ok { holds with }) fun _ => ?_
  refine .ite (fun _ => .after fun _ => .after fun _ =>
    .ite (fun _ => .error _) fun _ => .ok { holds with }) fun _ => ?_
  refine .ite (fun _ => .after fun _ => .after fun _ => .ok { holds with }) fun _ => ?_
  refine .ite (fun _ => .after fun _ => .after fun _ => .ok { holds with }) fun _ => ?_
  refine .ite (fun _ => .after fun _ => .after fun _ => .ok { holds with }) fun _ => ?_
  refine .ite (fun _ => .after fun _ => .after fun _ => .ok { holds with }) fun _ => ?_
  refine .ite (fun _ => .after fun _ => .after fun _ => .ok { holds with }) fun _ => ?_
  refine .ite (fun _ => .after fun _ => .ok { holds with }) fun _ => ?_
  -- the payload
  refine .ite (fun _ => .after fun _ => .ok { holds with }) fun _ => ?_
  refine .ite (fun _ => .ok { holds with }) fun _ => ?_
  refine .ite (fun _ => .after fun _ => .after fun _ => .ok { holds with }) fun _ => ?_
  refine .ite (fun _ => .after fun _ => .after fun _ => .ok { holds with }) fun _ => ?_
  refine .ite (fun _ => .after fun _ => .after fun _ => .ok { holds with }) fun _ => ?_
  refine .ite (fun _ => .after fun _ => .after fun _ => .ok { holds with }) fun _ => ?_
  refine .ite (fun _ => .after fun _ => .after fun _ => .ok { holds with }) fun _ => ?_
  exact .ite (fun _ => .ok { holds with }) fun _ => .error _

theorem discovering_parseLoop (fuel : Nat) (args : List String) {state : ParseState}
    (holds : Discovering state.options) :
    Ensures (fun final => Discovering final.options) (parseLoop strtod fuel args state) := by
  induction fuel generalizing args state with
  | zero => exact .ok holds
  | succ fuel ih =>
      cases args with
      | nil => exact .ok holds
      | cons arg rest =>
          rw [parseLoop]
          cases step : parseStep strtod arg rest state with
          | error stop => exact .error stop
          | ok out => exact ih out.2 (discovering_parseStep arg rest holds out step)

/-- What an accepted range was checked for. -/
theorem checkDiscovery_ok {state : ParseState} (ok : checkDiscovery state = .ok ())
    {range : PortRange} (present : state.options.discoverPorts = some range) :
    isLoopbackIpv4 state.options.host = true ∧ range.count ≤ maxDiagnosticPortCount := by
  unfold checkDiscovery fail at ok
  simp only [present] at ok
  split at ok
  · cases ok
  split at ok
  · cases ok
  split at ok
  · cases ok
  rename_i loopback
  split at ok
  · cases ok
  rename_i short
  exact ⟨by simpa using loopback, Nat.le_of_not_lt short⟩

/-- A range that `scanTcpPorts` takes. -/
structure Scannable (options : Options) (range : PortRange) : Prop where
  target : Diagnosable options.host options.discoveryTimeoutMs
  valid : range.valid = true
  short : range.count ≤ maxDiagnosticPortCount

theorem resolveCount_discovery (options : Options) :
    (resolveCount options).discoverPorts = options.discoverPorts ∧
      (resolveCount options).host = options.host ∧
      (resolveCount options).discoveryTimeoutMs = options.discoveryTimeoutMs := by
  unfold resolveCount
  split
  · exact ⟨rfl, rfl, rfl⟩
  · split <;> exact ⟨rfl, rfl, rfl⟩

theorem parseArgs_scannable {randomDevice : UInt32} {args : List String} {options : Options}
    (parsed : parseArgs strtod randomDevice args = .ok options) {range : PortRange}
    (present : options.discoverPorts = some range) : Scannable options range := by
  obtain ⟨state, loop, parsed⟩ := bind_eq_ok.mp parsed
  obtain ⟨_, _, parsed⟩ := bind_eq_ok.mp parsed
  obtain ⟨_, discovery, parsed⟩ := bind_eq_ok.mp parsed
  obtain ⟨_, _, parsed⟩ := bind_eq_ok.mp parsed
  obtain ⟨_, _, parsed⟩ := bind_eq_ok.mp parsed
  obtain rfl := Except.ok.inj parsed
  obtain ⟨ports, host, timeout⟩ := resolveCount_discovery state.options
  rw [ports] at present
  have first : Discovering { seed := randomDevice } := {
    valid := by simp
    positive := Nat.succ_pos _
    short := show 200 ≤ 60000 by decide }
  have holds := discovering_parseLoop _ _ first state loop
  obtain ⟨loopback, short⟩ := checkDiscovery_ok discovery present
  refine ⟨⟨host ▸ loopback, ?_, ?_⟩, holds.valid range present, short⟩
  · rw [timeout]
    exact Int.natCast_pos.mpr holds.positive
  · rw [timeout]
    exact Int.ofNat_le.mpr holds.short

end Arguments

/-! ## The port -/

/-- The port of a run: the given one, or the first of the range whose probe is accepted. -/
def PortChosen (calls : StartCalls) (options : Options) (port : UInt16) : Prop :=
  match options.discoverPorts with
  | none => port = options.port
  | some range => ∃ i < range.count, (calls.probes i).accepts ∧
      (∀ j < i, ¬ (calls.probes j).accepts) ∧ port.toNat = range.first.toNat + i

def Discovered (calls : StartCalls) (options : Options) : Prop :=
  ∀ range, options.discoverPorts = some range → ∃ i < range.count, (calls.probes i).accepts

theorem getElem?_ports {range : PortRange} (valid : range.valid = true) {i : Nat}
    (inside : i < range.count) :
    ∃ port, range.ports[i]? = some port ∧ port.toNat = range.first.toNat + i := by
  have small := range.last.toNat_lt
  have length := length_ports valid
  rw [PortRange.ports, List.length_map, List.length_range'] at length
  refine ⟨UInt16.ofNat (range.first.toNat + i), ?_, ?_⟩
  · rw [PortRange.ports, List.getElem?_map, List.getElem?_range' (by omega), Nat.one_mul]
    rfl
  · rw [UInt16.toNat_ofNat', Nat.mod_eq_of_lt (by omega)]

/-- What is selected of a scan. -/
theorem selected_scan {calls : StartCalls} {range : PortRange} {timeoutMs : Int}
    {results : List TcpPortProbeResult} {events : List SocketEvent} (valid : range.valid = true)
    (scan : Scan calls.probes timeoutMs 0 range.ports results events) :
    (selected results = none ∧ ∀ i < range.count, ¬ (calls.probes i).accepts) ∨
      ∃ port, selected results = some port ∧ ∃ i < range.count, (calls.probes i).accepts ∧
        (∀ j < i, ¬ (calls.probes j).accepts) ∧ port.toNat = range.first.toNat + i := by
  have count : results.length = range.count := by
    rw [← length_ports valid, ← scan.asked, List.length_map]
  have opened {i : Nat} (inside : i < results.length) :
      results[i].state = .opened ↔ (calls.probes i).accepts := by
    have there := (scan.state (List.getElem?_eq_getElem inside)).1
    rwa [Nat.zero_add] at there
  unfold selected
  cases found : results.find? fun result => result.state = .opened with
  | none =>
      refine Or.inl ⟨rfl, fun i inside accepts => ?_⟩
      have refused := List.find?_eq_none.mp found _ (List.getElem_mem (count ▸ inside))
      exact refused (decide_eq_true ((opened (count ▸ inside)).mpr accepts))
  | some result =>
      refine Or.inr ⟨result.port, rfl, ?_⟩
      obtain ⟨first, i, inside, rfl, others⟩ := List.find?_eq_some_iff_getElem.mp found
      refine ⟨i, count ▸ inside, (opened inside).mp (of_decide_eq_true first), ?_, ?_⟩
      · intro j before accepts
        have refused := others j before
        rw [decide_eq_true ((opened (before.trans inside)).mpr accepts)] at refused
        cases refused
      · obtain ⟨port, there, number⟩ := getElem?_ports valid (count ▸ inside)
        rw [← scan.asked, List.getElem?_map, List.getElem?_eq_getElem inside] at there
        obtain rfl := Option.some.inj there
        exact number

/-- A discovery ends with a port or without a listener. -/
theorem discoverPort_cases (calls : StartCalls) {options : Options}
    (scannable : ∀ range, options.discoverPorts = some range → Scannable options range) :
    (∃ port events, discoverPort calls options = (.ok { options with port }, events) ∧
      PortChosen calls options port ∧ Discovered calls options ∧ Bracketed events) ∨
    ∃ events, discoverPort calls options = (.error (.runtimeError
        "no OPEN TCP listener found in --discover-ports range"), events) ∧
      ¬ Discovered calls options ∧ Bracketed events := by
  obtain present | ⟨range, present⟩ := Option.eq_none_or_eq_some options.discoverPorts
  · have given : discoverPort calls options = (.ok options, []) := by rw [discoverPort, present]
    refine Or.inl ⟨options.port, [], given, ?_, ?_, .nil⟩
    · simp only [PortChosen, present]
    · intro range other
      rw [present] at other
      cases other
  · obtain ⟨target, valid, short⟩ := scannable range present
    obtain ⟨results, events, scanned, scan⟩ :=
      scanTcpPorts_scans calls.strerror calls.probes target valid short
    rcases selected_scan valid scan with ⟨nowhere, refused⟩ | ⟨port, found, i, inside, chosen⟩
    · refine Or.inr ⟨events, by simp only [discoverPort, present, scanned, nowhere], ?_,
        scan.bracketed⟩
      intro discovered
      obtain ⟨i, inside, accepts⟩ := discovered range present
      exact refused i inside accepts
    · refine Or.inl ⟨port, events, by simp only [discoverPort, present, scanned, found], ?_, ?_,
        scan.bracketed⟩
      · simp only [PortChosen, present]
        exact ⟨i, inside, chosen⟩
      · intro other same
        obtain rfl := Option.some.inj (present.symm.trans same)
        exact ⟨i, inside, chosen.1⟩

/-! ## The capture and the socket -/

def CaptureReady (calls : StartCalls) (options : Options) : Prop :=
  options.outputFile.isSome → calls.captureOpens = true ∧ calls.captureWrites = true

theorem openCapture_cases (calls : StartCalls) (options : Options) :
    (openCapture calls options = .ok () ∧ CaptureReady calls options) ∨
      ∃ text, openCapture calls options = .error (.runtimeError text) ∧
        ¬ CaptureReady calls options := by
  unfold openCapture CaptureReady
  cases options.outputFile with
  | none => exact Or.inl ⟨rfl, by simp⟩
  | some path =>
      cases opens : calls.captureOpens with
      | false => exact Or.inr ⟨_, rfl, by simp⟩
      | true =>
          cases writes : calls.captureWrites with
          | false => exact Or.inr ⟨_, rfl, by simp⟩
          | true => exact Or.inl ⟨rfl, by simp⟩

/-- What the system has to give for a transport. -/
structure Connectable (calls : StartCalls) (options : Options) (transport : Transport) : Prop where
  socket : ∃ fd, calls.socket = .ok fd
  host : ∃ octets, inetPton (normalizeIpv4Host options.host) = some octets
  connects : transport = .tcp → calls.connect = none

/-- The socket a start leaves, and nothing else. -/
structure ConnectedAs (calls : StartCalls) (options : Options) (transport : Transport)
    (connection : Option (Nat × SocketAddress)) (own : List SocketEvent) : Prop where
  opened : ∃ fd octets, calls.socket = .ok fd ∧
    inetPton (normalizeIpv4Host options.host) = some octets ∧
    connection = some (fd, ⟨octets, options.port⟩) ∧
    own = .opens fd :: if transport = .tcp then [.connects fd ⟨octets, options.port⟩] else []

theorem connectSocket_cases (calls : StartCalls) (options : Options) (transport : Transport) :
    (∃ connection own,
      connectSocket calls options transport = (.ok ⟨options, connection⟩, own) ∧
        Connectable calls options transport ∧
        ConnectedAs calls options transport connection own) ∨
      ∃ text own, connectSocket calls options transport = (.error (.runtimeError text), own) ∧
        ¬ Connectable calls options transport ∧ Bracketed own := by
  unfold connectSocket createSocket destination
  cases socket : calls.socket with
  | error errno =>
      refine Or.inr ⟨_, [], rfl, ?_, .nil⟩
      rintro ⟨⟨fd, given⟩, _, _⟩
      rw [socket] at given
      cases given
  | ok fd =>
      dsimp only
      cases host : inetPton (normalizeIpv4Host options.host) with
      | none =>
          have closed : Bracketed (.opens fd :: [] ++ .closes fd :: []) := .socket (by simp) .nil
          refine Or.inr ⟨_, _, rfl, ?_, closed⟩
          rintro ⟨_, ⟨octets, given⟩, _⟩
          rw [host] at given
          cases given
      | some octets =>
          cases transport with
          | udp =>
              refine Or.inl ⟨_, _, rfl, ⟨⟨fd, socket⟩, ⟨octets, host⟩, ?_⟩, ?_⟩
              · intro tcp
                cases tcp
              · exact ⟨fd, octets, socket, host, rfl, rfl⟩
          | tcp =>
              cases connect : calls.connect with
              | none =>
                  exact Or.inl ⟨_, _, rfl, ⟨⟨fd, socket⟩, ⟨octets, host⟩, fun _ => connect⟩,
                    ⟨fd, octets, socket, host, rfl, rfl⟩⟩
              | some errno =>
                  have closed : Bracketed (.opens fd :: [.connects fd ⟨octets, options.port⟩] ++
                      .closes fd :: []) := .socket (by simp) .nil
                  refine Or.inr ⟨_, _, rfl, ?_, closed⟩
                  rintro ⟨_, _, connects⟩
                  rw [connect] at connects
                  cases connects rfl

/-! ## The whole start -/

/-- What the system has to give for a run to reach its first frame. -/
structure Startable (calls : StartCalls) (options : Options) : Prop where
  discovered : Discovered calls options
  capture : CaptureReady calls options
  connectable : ∀ transport, options.transport = some transport →
    Connectable calls options transport

/-- How a run reaches its first frame. -/
structure StartedAs (calls : StartCalls) (options : Options) (started : Started)
    (events : List SocketEvent) : Prop where
  kept : started.options = { options with port := started.options.port }
  chosen : PortChosen calls options started.options.port
  sockets : ∃ scanned own, events = scanned ++ own ∧ Bracketed scanned ∧
    (options.transport = none → started.connection = none ∧ own = []) ∧
    ∀ transport, options.transport = some transport →
      ConnectedAs calls started.options transport started.connection own

/-- What is found out about a start. -/
structure StartOk (calls : StartCalls) (options : Options) (outcome : StartOutcome) : Prop where
  succeeds : (∃ started, outcome.result = .ok started) ↔ Startable calls options
  started : ∀ started, outcome.result = .ok started →
    StartedAs calls options started outcome.events
  failed : ∀ exn, outcome.result = .error exn →
    (∃ text, exn = .runtimeError text) ∧ Bracketed outcome.events
  emptied : outcome.emptied = true ↔
    Discovered calls options ∧ options.outputFile.isSome ∧ calls.captureOpens = true

/-- A start that fails. -/
theorem startOk_error {calls : StartCalls} {options : Options} {text : String}
    {events : List SocketEvent} {emptied : Bool} (unable : ¬ Startable calls options)
    (bracketed : Bracketed events)
    (file : emptied = true ↔
      Discovered calls options ∧ options.outputFile.isSome ∧ calls.captureOpens = true) :
    StartOk calls options ⟨.error (.runtimeError text), events, emptied⟩ where
  succeeds := by simp [unable]
  started := by simp
  failed exn same := by
    obtain rfl := Except.error.inj same
    exact ⟨⟨text, rfl⟩, bracketed⟩
  emptied := file

theorem startOk_ok {calls : StartCalls} {options : Options} {started : Started}
    {events : List SocketEvent} {emptied : Bool} (able : Startable calls options)
    (reached : StartedAs calls options started events)
    (file : emptied = true ↔
      Discovered calls options ∧ options.outputFile.isSome ∧ calls.captureOpens = true) :
    StartOk calls options ⟨.ok started, events, emptied⟩ where
  succeeds := by simp [able]
  started other same := by
    obtain rfl := Except.ok.inj same
    exact reached
  failed := by simp
  emptied := file

/-- The capture and the connection of a run whose port is known. -/
theorem openOutputs_ok (calls : StartCalls) {given options : Options}
    {scanned : List SocketEvent} (kept : options = { given with port := options.port })
    (chosen : PortChosen calls given options.port) (discovered : Discovered calls given)
    (bracketed : Bracketed scanned) :
    StartOk calls given (openOutputs calls options scanned) := by
  have outputFile : options.outputFile = given.outputFile := by rw [kept]
  have transport : options.transport = given.transport := by rw [kept]
  have host : options.host = given.host := by rw [kept]
  have file : (options.outputFile.isSome && calls.captureOpens) = true ↔
      Discovered calls given ∧ given.outputFile.isSome ∧ calls.captureOpens = true := by
    rw [Bool.and_eq_true, outputFile]
    exact ⟨fun both => ⟨discovered, both⟩, fun all => all.2⟩
  unfold openOutputs
  rcases openCapture_cases calls options with ⟨opened, ready⟩ | ⟨text, failed, unready⟩
  · rw [CaptureReady, outputFile] at ready
    rw [opened]
    dsimp only
    cases wanted : options.transport with
    | none =>
        rw [wanted] at transport
        refine startOk_ok ⟨discovered, ready, ?_⟩ ⟨kept, chosen, ?_⟩ file
        · intro other same
          cases transport.trans same
        · refine ⟨scanned, [], by rw [List.append_nil], bracketed, fun _ => ⟨rfl, rfl⟩, ?_⟩
          intro other same
          cases transport.trans same
    | some wished =>
        rw [wanted] at transport
        dsimp only
        rcases connectSocket_cases calls options wished with
          ⟨connection, own, connected, able, as⟩ | ⟨text, own, failed, unable, closed⟩
        · rw [connected]
          refine startOk_ok ⟨discovered, ready, ?_⟩ ⟨kept, chosen, ?_⟩ file
          · intro other same
            obtain rfl := Option.some.inj (transport.trans same)
            exact ⟨able.socket, host ▸ able.host, able.connects⟩
          · refine ⟨scanned, own, rfl, bracketed, ?_, ?_⟩
            · intro none
              cases transport.trans none
            · intro other same
              obtain rfl := Option.some.inj (transport.trans same)
              exact as
        · rw [failed]
          refine startOk_error ?_ (bracketed.append closed) file
          intro startable
          obtain ⟨socket, address, connects⟩ := startable.connectable wished transport.symm
          exact unable ⟨socket, host ▸ address, connects⟩
  · rw [CaptureReady, outputFile] at unready
    rw [failed]
    exact startOk_error (fun startable => unready startable.capture) bracketed file

theorem start_ok (calls : StartCalls) {options : Options}
    (scannable : ∀ range, options.discoverPorts = some range → Scannable options range) :
    StartOk calls options (start calls options) := by
  unfold start
  rcases discoverPort_cases calls scannable with
    ⟨port, scanned, discovery, chosen, discovered, bracketed⟩ |
    ⟨scanned, discovery, nowhere, bracketed⟩
  · rw [discovery]
    exact openOutputs_ok calls rfl chosen discovered bracketed
  · rw [discovery]
    have file : false = true ↔
        Discovered calls options ∧ options.outputFile.isSome ∧ calls.captureOpens = true := by
      simp [nowhere]
    exact startOk_error (fun startable => nowhere startable.discovered) bracketed file

/-- **When a run reaches its first frame.**  For every accepted command line, whatever the
system calls return: exactly if its discovery finds a listener, its capture can be opened, there
is a socket, the host is an address and, for TCP, `connect` succeeds.  Then its port is the
given one or the first of the range that accepted, the rest of the options is kept, and of all
sockets one is open.  Otherwise the exception is a `std::runtime_error` and no socket is left;
but the capture was emptied, unless it was the discovery that failed. -/
theorem simulator_start {strtod : String → Strtod} {randomDevice : UInt32} {args : List String}
    {options : Options} (parsed : parseArgs strtod randomDevice args = .ok options)
    (calls : StartCalls) : StartOk calls options (start calls options) :=
  start_ok calls fun _ present => parseArgs_scannable parsed present

/-- A host that is no address. -/
def mistypedHost : List String := ["--tcp", "--host", "localhos", "--output-file", "c.stgf"]

def quietCalls : StartCalls where
  strerror _ := ""
  probes _ := ⟨.error 24, 0, 0, none, .ok 0, .ok 0, 0, 0⟩
  captureOpens := true
  captureWrites := true
  socket := .ok 3
  connect := none

theorem simulator_start_mistyped : ∃ options,
    parseArgs (fun _ => ⟨none, 0, false⟩) 0 mistypedHost = .ok options ∧
      ¬ Startable quietCalls options ∧ (start quietCalls options).emptied = true := by
  have parsed : parseArgs (fun _ => ⟨none, 0, false⟩) 0 mistypedHost = .ok
      { seed := 0, transport := some .tcp, host := "localhos", outputFile := some "c.stgf" } := by
    decide +kernel
  have outcome := simulator_start parsed quietCalls
  refine ⟨_, parsed, ?_, ?_⟩
  · intro startable
    obtain ⟨octets, host⟩ := (startable.connectable .tcp rfl).host
    have none : inetPton (normalizeIpv4Host "localhos") = Option.none := by decide +kernel
    rw [none] at host
    cases host
  · exact outcome.emptied.mpr ⟨(fun range present => by cases present), rfl, rfl⟩

end Stgs.Simulator
