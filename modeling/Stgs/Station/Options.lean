/-
# Station.Options -- the ground station's configuration and its command line

`parseArgs` reads the arguments left to right into `Options`, one `parseStep` for
each, and then checks the combinations: network or replay, automatic ports, the
parity of the filter window, the thresholds of the health monitor.

`parseArgs_window_odd` is what the filters need of the options that come out.
-/
import Stgs.Cli.CliParsing
import Stgs.Station.Health
import Stgs.Wire.ApplicationPayload

namespace Stgs.Station

open Stgs.Cli Stgs.Wire

set_option autoImplicit false

inductive OutputFormat where
  | auto
  | csv
  | json
deriving DecidableEq, Repr

inductive LogLevel where
  | trace
  | debug
  | info
  | warning
  | error
deriving DecidableEq, Repr

inductive SignalFilterMode where
  | none
  | movingAverage
  | sineProjection
deriving DecidableEq, Repr

structure Options where
  transport : Option Transport := Option.none
  bindAddress : String := "0.0.0.0"
  port : UInt16 := defaultTelemetryPort
  autoPortRange : Option PortRange := Option.none
  replayFile : Option String := Option.none
  replayRate : ℚ := 0
  outputFile : String := "telemetry.csv"
  outputFormat : OutputFormat := .auto
  logFile : Option String := Option.none
  logLevel : LogLevel := .info
  decoderThreads : Nat := 2
  queueCapacity : Nat := 1024
  healthConfig : StationHealthConfig := {}
  signalFilter : SignalFilterMode := .sineProjection
  movingAverageWindow : Nat := 5
  color : Bool := true
  verbose : Bool := false
deriving DecidableEq

def maximumDecoderThreads : Nat := 256
def maximumQueueCapacity : Nat := 1000000
def maximumHealthWindowSamples : Nat := 1000000

/-- A centred filter is odd and no longer than the largest block. -/
def maximumFilterWindow : Nat :=
  if maxSignalSamplesPerPayload % 2 = 0 then maxSignalSamplesPerPayload - 1
  else maxSignalSamplesPerPayload

example : maximumFilterWindow = 1017 := by decide

def selectTransport (options : Options) (transport : Transport) : Except CliStop Options :=
  if options.transport.isSome ∧ options.transport ≠ some transport then
    fail "--udp and --tcp are mutually exclusive"
  else .ok { options with transport := some transport }

def parseOutputFormat (value : String) : Except CliStop OutputFormat :=
  if value = "csv" then .ok .csv
  else if value = "json" then .ok .json
  else fail "--output-format must be csv or json"

def parseSignalFilter (value : String) : Except CliStop SignalFilterMode :=
  if value = "none" then .ok .none
  else if value = "moving-average" then .ok .movingAverage
  else if value = "sine-projection" then .ok .sineProjection
  else fail "--signal-filter must be none, moving-average or sine-projection"

def parseLogLevel (value : String) : Option LogLevel :=
  if value = "trace" then some .trace
  else if value = "debug" then some .debug
  else if value = "info" then some .info
  else if value = "warning" ∨ value = "warn" then some .warning
  else if value = "error" then some .error
  else Option.none

/-- The options so far, and whether the port was given. -/
structure ParseState where
  options : Options := {}
  portExplicit : Bool := false
deriving DecidableEq

/-- An option whose value is an integer within bounds. -/
def sizeOption (name : String) (minimum maximum : Nat) (set : Nat → Options → Options)
    (rest : List String) (state : ParseState) : Except CliStop (ParseState × List String) := do
  let (value, rest) ← requireValue name rest
  let parsed ← parseUnsigned maxSize value name minimum maximum
  pure ({ state with options := set parsed state.options }, rest)

/-- An option whose value is a probability. -/
def probabilityOption (strtod : String → Strtod) (name : String) (set : ℚ → Options → Options)
    (rest : List String) (state : ParseState) : Except CliStop (ParseState × List String) := do
  let (value, rest) ← requireValue name rest
  let parsed ← parseProbability strtod value name
  pure ({ state with options := set parsed state.options }, rest)

def setHealth (update : StationHealthConfig → StationHealthConfig) (options : Options) : Options :=
  { options with healthConfig := update options.healthConfig }

/-- One argument, with its value if it takes one; the arguments left. -/
def parseStep (strtod : String → Strtod) (arg : String) (rest : List String) (state : ParseState) :
    Except CliStop (ParseState × List String) :=
  let options := state.options
  if arg = "--help" ∨ arg = "-h" then .error (.exited 0)
  else if arg = "--udp" then do
    let options ← selectTransport options .udp
    pure ({ state with options }, rest)
  else if arg = "--tcp" then do
    let options ← selectTransport options .tcp
    pure ({ state with options }, rest)
  else if arg = "--bind" then do
    let (value, rest) ← requireValue arg rest
    pure ({ state with options := { options with bindAddress := value } }, rest)
  else if arg = "--port" then do
    let (value, rest) ← requireValue arg rest
    let port ← parsePort value "--port"
    pure ({ state with options := { options with port }, portExplicit := true }, rest)
  else if arg = "--auto-port" then do
    let (value, rest) ← requireValue arg rest
    let range ← parsePortRange value "--auto-port"
    pure ({ state with options := { options with autoPortRange := some range } }, rest)
  else if arg = "--replay" then do
    let (value, rest) ← requireValue arg rest
    pure ({ state with options := { options with replayFile := some value } }, rest)
  else if arg = "--replay-rate" then do
    let (value, rest) ← requireValue arg rest
    let replayRate ← parseFiniteDouble strtod value "--replay-rate"
    if replayRate < 0 then fail "--replay-rate must be >= 0"
    else pure ({ state with options := { options with replayRate } }, rest)
  else if arg = "--output" then do
    let (value, rest) ← requireValue arg rest
    pure ({ state with options := { options with outputFile := value } }, rest)
  else if arg = "--output-format" then do
    let (value, rest) ← requireValue arg rest
    let outputFormat ← parseOutputFormat value
    pure ({ state with options := { options with outputFormat } }, rest)
  else if arg = "--log" then do
    let (value, rest) ← requireValue arg rest
    pure ({ state with options := { options with logFile := some value } }, rest)
  else if arg = "--log-level" then do
    let (value, rest) ← requireValue arg rest
    match parseLogLevel value with
    | Option.none => fail "unknown log level"
    | some logLevel => pure ({ state with options := { options with logLevel } }, rest)
  else if arg = "--verbose" then
    pure ({ state with options := { options with verbose := true, logLevel := .debug } }, rest)
  else if arg = "--decoder-threads" then
    sizeOption "--decoder-threads" 1 maximumDecoderThreads
      (fun decoderThreads options => { options with decoderThreads }) rest state
  else if arg = "--queue-capacity" then
    sizeOption "--queue-capacity" 1 maximumQueueCapacity
      (fun queueCapacity options => { options with queueCapacity }) rest state
  else if arg = "--signal-filter" then do
    let (value, rest) ← requireValue arg rest
    let signalFilter ← parseSignalFilter value
    pure ({ state with options := { options with signalFilter } }, rest)
  else if arg = "--filter-window" then
    sizeOption "--filter-window" 1 maximumFilterWindow
      (fun movingAverageWindow options => { options with movingAverageWindow }) rest state
  else if arg = "--disable-degraded" then
    pure ({ state with options := setHealth (fun health => { health with enabled := false }) options },
      rest)
  else if arg = "--degraded-window" then
    sizeOption "--degraded-window" 1 maximumHealthWindowSamples
      (fun windowSize => setHealth fun health => { health with windowSize }) rest state
  else if arg = "--degraded-min-samples" then
    sizeOption "--degraded-min-samples" 1 maximumHealthWindowSamples
      (fun minSamples => setHealth fun health => { health with minSamples }) rest state
  else if arg = "--degraded-rejection-rate" then
    probabilityOption strtod "--degraded-rejection-rate"
      (fun degradedRejectionRate => setHealth fun health => { health with degradedRejectionRate })
      rest state
  else if arg = "--degraded-recovery-rate" then
    probabilityOption strtod "--degraded-recovery-rate"
      (fun recoveryRejectionRate => setHealth fun health => { health with recoveryRejectionRate })
      rest state
  else if arg = "--degraded-critical-count" then
    sizeOption "--degraded-critical-count" 1 maximumHealthWindowSamples
      (fun criticalFramesForDegraded => setHealth fun health =>
        { health with criticalFramesForDegraded }) rest state
  else if arg = "--recovery-critical-count" then
    sizeOption "--recovery-critical-count" 0 maximumHealthWindowSamples
      (fun criticalFramesForRecovery => setHealth fun health =>
        { health with criticalFramesForRecovery }) rest state
  else if arg = "--no-color" then
    pure ({ state with options := { options with color := false } }, rest)
  else fail ("unknown option: " ++ arg)

/-- The loop over the arguments; every step takes at least one. -/
def parseLoop (strtod : String → Strtod) : Nat → List String → ParseState → Except CliStop ParseState
  | 0, _, state => .ok state
  | _ + 1, [], state => .ok state
  | fuel + 1, arg :: rest, state =>
      match parseStep strtod arg rest state with
      | .error stop => .error stop
      | .ok (state, rest) => parseLoop strtod fuel rest state

/-- Network or replay. -/
def checkInput (options : Options) : Except CliStop Unit :=
  if options.replayFile.isSome ∧ options.transport.isSome then
    fail "choose either network mode or replay mode, not both"
  else if options.replayFile = Option.none ∧ options.transport = Option.none then
    fail "choose --udp, --tcp, or --replay"
  else .ok ()

/-- An automatic port: TCP, without a port, over few ports. -/
def checkAutoPort (state : ParseState) : Except CliStop Unit :=
  match state.options.autoPortRange with
  | Option.none => .ok ()
  | some range =>
      if state.options.transport ≠ some .tcp then fail "--auto-port requires --tcp"
      else if state.portExplicit then fail "choose either --port or --auto-port, not both"
      else if range.count > maxDiagnosticPortCount then
        fail "--auto-port exceeds MaxDiagnosticPortCount"
      else .ok ()

/-- The window of the filter and the thresholds of the monitor. -/
def checkThresholds (options : Options) : Except CliStop Unit :=
  if options.movingAverageWindow % 2 = 0 then
    fail "--filter-window must be odd for a centered moving average"
  else if options.healthConfig.minSamples > options.healthConfig.windowSize then
    fail "--degraded-min-samples cannot exceed --degraded-window"
  else if options.healthConfig.criticalFramesForRecovery ≥
      options.healthConfig.criticalFramesForDegraded then
    fail "recovery critical threshold must be lower than degradation threshold"
  else .ok ()

/-- `parseArgs`, on the arguments after the program's name. -/
def parseArgs (strtod : String → Strtod) (args : List String) : Except CliStop Options := do
  let state ← parseLoop strtod args.length args {}
  checkInput state.options
  checkAutoPort state
  checkThresholds state.options
  pure state.options

/-- An accepted filter window is odd. -/
theorem parseArgs_window_odd {strtod : String → Strtod} {args : List String} {options : Options}
    (parsed : parseArgs strtod args = .ok options) : options.movingAverageWindow % 2 = 1 := by
  obtain ⟨state, _, parsed⟩ := bind_eq_ok.mp parsed
  obtain ⟨_, _, parsed⟩ := bind_eq_ok.mp parsed
  obtain ⟨_, _, parsed⟩ := bind_eq_ok.mp parsed
  obtain ⟨_, thresholds, parsed⟩ := bind_eq_ok.mp parsed
  obtain rfl := Except.ok.inj parsed
  unfold checkThresholds fail at thresholds
  split at thresholds
  · cases thresholds
  · rename_i odd
    omega

end Stgs.Station
