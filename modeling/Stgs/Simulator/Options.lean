/-
# Simulator.Options -- the simulator's configuration and its command line

`parseArgs` reads the arguments left to right into `Options` and then checks the
combinations: exclusive modes, Nyquist, the size of a payload that will be
encoded, the counter of absolute samples.  One argument is one `parseStep`.

The default seed is `std::random_device`, a parameter; a message is the bytes of
its argument.
-/
import Mathlib.Data.Rat.Floor
import Stgs.Cli.CliParsing
import Stgs.Wire.ApplicationPayload

namespace Stgs.Simulator

open Stgs.Cli Stgs.Wire

set_option autoImplicit false

inductive PayloadMode where
  | randomBytes
  | textMessage
  | signal
deriving DecidableEq, Repr

def defaultPortProbeTimeoutMs : Nat := 200
def maximumPortProbeTimeoutMs : Nat := 60000

structure Options where
  transport : Option Transport := none
  host : String := "127.0.0.1"
  port : UInt16 := defaultTelemetryPort
  discoverPorts : Option PortRange := none
  discoveryTimeoutMs : Nat := defaultPortProbeTimeoutMs
  count : Nat := 1000
  countExplicit : Bool := false
  rate : ℚ := 100
  satelliteId : UInt16 := 42
  payloadSize : Nat := 32
  lossProbability : ℚ := 0
  corruptProbability : ℚ := 0
  seed : UInt32
  outputFile : Option String := none
  payloadMode : PayloadMode := .randomBytes
  message : ByteVector := []
  sampleRateHz : UInt16 := 200
  signalFrequencyHz : Binary32 := ⟨0x40A00000⟩
  signalAmplitude : Binary32 := ⟨0x3F800000⟩
  signalSamples : Nat := 256
  noiseStddev : Binary32 := ⟨0⟩
  color : Bool := true
deriving DecidableEq

def defaultSignalFrameCount : Nat := 5
def defaultMessageFrameCount : Nat := 1
def maximumGeneratedFrameCount : Nat := 10000000

/-- The options so far, and the locals of `parseArgs`. -/
structure ParseState where
  options : Options
  portExplicit : Bool := false
  payloadSizeExplicit : Bool := false
  messageSelected : Bool := false
  signalSelected : Bool := false
deriving DecidableEq

def selectTransport (options : Options) (transport : Transport) : Except CliStop Options :=
  if options.transport.isSome ∧ options.transport ≠ some transport then
    fail "--udp and --tcp are mutually exclusive"
  else .ok { options with transport := some transport }

def parseFiniteFloat (strtod : String → Strtod) (value name : String) : Except CliStop Binary32 :=
  match parseFiniteDouble strtod value name with
  | .error stop => .error stop
  | .ok parsed =>
      if parsed < -floatMax ℚ ∨ parsed > floatMax ℚ then fail (name ++ " exceeds float range")
      else .ok (Binary32.ofExact parsed)

/-- One argument, with its value if it takes one; the arguments left. -/
def parseStep (strtod : String → Strtod) (arg : String) (rest : List String) (state : ParseState) :
    Except CliStop (ParseState × List String) :=
  let options := state.options
  if arg = "--help" ∨ arg = "-h" then .error (.exited 0)
  else if arg = "--udp" then do
    let options ← selectTransport options .udp
    pure ({ state with options }, rest)
  else if arg = "--tcp" then do
    let options ← selectTransport options .tcp
    pure ({ state with options }, rest)
  else if arg = "--host" then do
    let (value, rest) ← requireValue arg rest
    pure ({ state with options := { options with host := value } }, rest)
  else if arg = "--port" then do
    let (value, rest) ← requireValue arg rest
    let port ← parsePort value "--port"
    pure ({ state with options := { options with port }, portExplicit := true }, rest)
  else if arg = "--discover-ports" then do
    let (value, rest) ← requireValue arg rest
    let range ← parsePortRange value "--discover-ports"
    pure ({ state with options := { options with discoverPorts := some range } }, rest)
  else if arg = "--discovery-timeout-ms" then do
    let (value, rest) ← requireValue arg rest
    let discoveryTimeoutMs ←
      parseUnsigned maxU32 value "--discovery-timeout-ms" 1 maximumPortProbeTimeoutMs
    pure ({ state with options := { options with discoveryTimeoutMs } }, rest)
  else if arg = "--count" then do
    let (value, rest) ← requireValue arg rest
    let count ← parseUnsigned maxSize value "--count" 1 maximumGeneratedFrameCount
    pure ({ state with options := { options with count, countExplicit := true } }, rest)
  else if arg = "--rate" then do
    let (value, rest) ← requireValue arg rest
    let rate ← parseFiniteDouble strtod value "--rate"
    if rate < 0 then fail "--rate must be >= 0"
    else pure ({ state with options := { options with rate } }, rest)
  else if arg = "--satellite" then do
    let (value, rest) ← requireValue arg rest
    let satelliteId ← parseUnsigned maxU16 value "--satellite" 0 maxU16
    pure ({ state with options := { options with satelliteId := UInt16.ofNat satelliteId } }, rest)
  else if arg = "--payload-size" then do
    let (value, rest) ← requireValue arg rest
    let payloadSize ← parseUnsigned maxSize value "--payload-size" 0 maxPayloadSize
    pure ({ state with options := { options with payloadSize }, payloadSizeExplicit := true }, rest)
  else if arg = "--loss" then do
    let (value, rest) ← requireValue arg rest
    let lossProbability ← parseProbability strtod value "--loss"
    pure ({ state with options := { options with lossProbability } }, rest)
  else if arg = "--corrupt" then do
    let (value, rest) ← requireValue arg rest
    let corruptProbability ← parseProbability strtod value "--corrupt"
    pure ({ state with options := { options with corruptProbability } }, rest)
  else if arg = "--seed" then do
    let (value, rest) ← requireValue arg rest
    let seed ← parseUnsigned maxU32 value "--seed" 0 maxU32
    pure ({ state with options := { options with seed := UInt32.ofNat seed } }, rest)
  else if arg = "--output-file" then do
    let (value, rest) ← requireValue arg rest
    pure ({ state with options := { options with outputFile := some value } }, rest)
  else if arg = "--message" then do
    let (value, rest) ← requireValue arg rest
    let options := { options with payloadMode := .textMessage, message := value.toUTF8.toList }
    pure ({ state with options, messageSelected := true }, rest)
  else if arg = "--signal" then
    pure ({ state with options := { options with payloadMode := .signal }, signalSelected := true },
      rest)
  else if arg = "--sample-rate" then do
    let (value, rest) ← requireValue arg rest
    let sampleRateHz ← parseUnsigned maxU16 value "--sample-rate" 1 maxU16
    pure ({ state with options := { options with sampleRateHz := UInt16.ofNat sampleRateHz } }, rest)
  else if arg = "--signal-frequency" then do
    let (value, rest) ← requireValue arg rest
    let signalFrequencyHz ← parseFiniteFloat strtod value "--signal-frequency"
    pure ({ state with options := { options with signalFrequencyHz } }, rest)
  else if arg = "--signal-amplitude" then do
    let (value, rest) ← requireValue arg rest
    let signalAmplitude ← parseFiniteFloat strtod value "--signal-amplitude"
    pure ({ state with options := { options with signalAmplitude } }, rest)
  else if arg = "--signal-samples" then do
    let (value, rest) ← requireValue arg rest
    let signalSamples ← parseUnsigned maxSize value "--signal-samples" 1 maxSignalSamplesPerPayload
    pure ({ state with options := { options with signalSamples } }, rest)
  else if arg = "--noise-stddev" then do
    let (value, rest) ← requireValue arg rest
    let noiseStddev ← parseFiniteFloat strtod value "--noise-stddev"
    pure ({ state with options := { options with noiseStddev } }, rest)
  else if arg = "--no-color" then
    pure ({ state with options := { options with color := false } }, rest)
  else fail ("unknown option: " ++ arg)

/-- The loop over the arguments; every step takes at least one. -/
def parseLoop (strtod : String → Strtod) : Nat → List String → ParseState → Except CliStop ParseState
  | 0, _, state => .ok state
  | _ + 1, [], state => .ok state
  | fuel + 1, arg :: rest, state =>
      match parseStep strtod arg rest state with
      | .error stop => .error stop
      | .ok (state, rest) => parseLoop strtod fuel rest state

/-- The exclusive modes. -/
def checkModes (state : ParseState) : Except CliStop Unit :=
  let options := state.options
  if state.messageSelected ∧ state.signalSelected then
    fail "--message and --signal are mutually exclusive payload modes"
  else if state.payloadSizeExplicit ∧ options.payloadMode ≠ .randomBytes then
    fail "--payload-size applies only to the default random payload mode"
  else if options.transport = none ∧ options.outputFile = none then
    fail "choose --udp, --tcp, and/or --output-file"
  else .ok ()

/-- Port discovery: TCP, on loopback, without a port, over few ports. -/
def checkDiscovery (state : ParseState) : Except CliStop Unit :=
  let options := state.options
  match options.discoverPorts with
  | none => .ok ()
  | some range =>
      if options.transport ≠ some .tcp then fail "--discover-ports requires --tcp"
      else if state.portExplicit then
        fail "choose either --port or --discover-ports, not both"
      else if isLoopbackIpv4 options.host = false then
        fail "--discover-ports is intentionally restricted to IPv4 loopback"
      else if range.count > maxDiagnosticPortCount then
        fail "--discover-ports exceeds MaxDiagnosticPortCount"
      else .ok ()

def checkSignal (options : Options) : Except CliStop Unit :=
  if options.signalAmplitude.value ℚ < 0 then fail "--signal-amplitude must be >= 0"
  else if options.noiseStddev.value ℚ < 0 then fail "--noise-stddev must be >= 0"
  else if options.signalFrequencyHz.value ℚ ≤ 0 ∨
      options.signalFrequencyHz.value ℚ ≥ nyquistHz options.sampleRateHz then
    fail "--signal-frequency must be > 0 and strictly below the Nyquist frequency"
  else .ok ()

/-- The number of frames of a mode, when none was given. -/
def resolveCount (options : Options) : Options :=
  if options.countExplicit then options
  else
    match options.payloadMode with
    | .textMessage => { options with count := defaultMessageFrameCount }
    | .signal => { options with count := defaultSignalFrameCount }
    | .randomBytes => options

/-- The payload the run would encode first, and the last sample index. -/
def checkEncodable (options : Options) : Except CliStop Unit :=
  match options.payloadMode with
  | .randomBytes => .ok ()
  | .signal =>
      let probe : SignalBlockPayload :=
        { sampleRateHz := options.sampleRateHz, frequencyHz := options.signalFrequencyHz
          nominalAmplitude := options.signalAmplitude
          samples := List.replicate options.signalSamples ⟨0⟩ }
      match encodeSignalBlockPayload probe with
      | .error exn => .error (.threw exn)
      | .ok _ =>
          if (options.count - 1) * options.signalSamples > maxU32 then
            fail ("signal run exceeds STGA v1 32-bit startSampleIndex; " ++
              "reduce --count or --signal-samples")
          else .ok ()
  | .textMessage =>
      match encodeTextMessagePayload { sequence := 0, text := options.message } with
      | .error exn => .error (.threw exn)
      | .ok _ => .ok ()

/-- `parseArgs`, on the arguments after the program's name. -/
def parseArgs (strtod : String → Strtod) (randomDevice : UInt32) (args : List String) :
    Except CliStop Options := do
  let state ← parseLoop strtod args.length args { options := { seed := randomDevice } }
  checkModes state
  checkDiscovery state
  checkSignal state.options
  let options := resolveCount state.options
  checkEncodable options
  pure options

end Stgs.Simulator
