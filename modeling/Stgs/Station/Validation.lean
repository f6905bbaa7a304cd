/-
# Station.Validation -- what the command line promises to the rest

`parseArgs` checks each value on its own and some combinations at the end; the
constructors behind it check theirs again, after files have been opened.  What one
argument can do to the options is said once (`parseStep_effect`), for the loop by
induction (`parseLoop_effect`).

The health thresholds are the last ones given (`healthArguments`).  All other
options are accepted downstream.  For the monitor two of the constructor's nine
checks are missing in `parseArgs`: the recovery rate may exceed the degradation
rate, the critical count may exceed the window.  `accepted_downstream_iff` says that
nothing else can be refused.
-/
import Stgs.Cli.PortDiagnostics
import Stgs.Station.Hysteresis
import Stgs.Station.Pipeline
import Stgs.Station.SignalProcessing
import Stgs.Theory.Postcondition

namespace Stgs.Station

open Stgs.Cli Stgs.Concurrent Stgs.Theory Stgs.Wire

set_option autoImplicit false

variable {strtod : String → Strtod}

/-! ## The thresholds the arguments give -/

/-- The options that are followed by a value. -/
def takesValue (arg : String) : Bool :=
  arg ∈ ["--bind", "--port", "--auto-port", "--replay", "--replay-rate", "--output",
    "--output-format", "--log", "--log-level", "--decoder-threads", "--queue-capacity",
    "--signal-filter", "--filter-window", "--degraded-window", "--degraded-min-samples",
    "--degraded-rejection-rate", "--degraded-recovery-rate", "--degraded-critical-count",
    "--recovery-critical-count"]

/-- The number a value spells. -/
def spelledRate (strtod : String → Strtod) (value : String) : ℚ := (strtod value).value.getD 0

/-- What an option with its value sets. -/
def setThreshold (strtod : String → Strtod) (arg value : String) (config : StationHealthConfig) :
    StationHealthConfig :=
  if arg = "--degraded-window" then { config with windowSize := decimal value.toList }
  else if arg = "--degraded-min-samples" then { config with minSamples := decimal value.toList }
  else if arg = "--degraded-rejection-rate" then
    { config with degradedRejectionRate := spelledRate strtod value }
  else if arg = "--degraded-recovery-rate" then
    { config with recoveryRejectionRate := spelledRate strtod value }
  else if arg = "--degraded-critical-count" then
    { config with criticalFramesForDegraded := decimal value.toList }
  else if arg = "--recovery-critical-count" then
    { config with criticalFramesForRecovery := decimal value.toList }
  else config

/-- What an option without a value sets. -/
def setSwitch (arg : String) (config : StationHealthConfig) : StationHealthConfig :=
  if arg = "--disable-degraded" then { config with enabled := false } else config

/-- The thresholds after the arguments: for each the last value given. -/
def healthArguments (strtod : String → Strtod) :
    List String → StationHealthConfig → StationHealthConfig
  | [], config => config
  | [arg], config => if takesValue arg then config else setSwitch arg config
  | arg :: value :: rest, config =>
      if takesValue arg then healthArguments strtod rest (setThreshold strtod arg value config)
      else healthArguments strtod (value :: rest) (setSwitch arg config)

/-! ## What one argument can do -/

/-- What every value satisfies by itself. -/
structure Ranged (options : Options) : Prop where
  threads : 0 < options.decoderThreads
  capacity : 0 < options.queueCapacity
  ports : ∀ range, options.autoPortRange = some range → range.valid = true
  window : 0 < options.healthConfig.windowSize
  samples : 0 < options.healthConfig.minSamples
  degraded : 0 ≤ options.healthConfig.degradedRejectionRate ∧
    options.healthConfig.degradedRejectionRate ≤ 1
  recovery : 0 ≤ options.healthConfig.recoveryRejectionRate ∧
    options.healthConfig.recoveryRejectionRate ≤ 1
  critical : 0 < options.healthConfig.criticalFramesForDegraded

theorem ranged_default : Ranged {} where
  threads := by decide
  capacity := by decide
  ports := nofun
  window := by decide
  samples := by decide
  degraded := by decide +kernel
  recovery := by decide +kernel
  critical := by decide

/-- The effect of an argument: it takes its value, sets its threshold and leaves the
values in range. -/
structure Effect (strtod : String → Strtod) (arg : String) (rest : List String)
    (before : Options) (left : List String) (after : Options) : Prop where
  taken : (takesValue arg = true ∧ ∃ value, rest = value :: left ∧
      after.healthConfig = setThreshold strtod arg value before.healthConfig) ∨
    (takesValue arg = false ∧ rest = left ∧
      after.healthConfig = setSwitch arg before.healthConfig)
  ranged : Ranged before → Ranged after

/-- Nothing that is checked later was set. -/
structure Unchecked (before after : Options) : Prop where
  threads : after.decoderThreads = before.decoderThreads
  capacity : after.queueCapacity = before.queueCapacity
  ports : after.autoPortRange = before.autoPortRange
  health : after.healthConfig = before.healthConfig

theorem Unchecked.ranged {before after : Options} (same : Unchecked before after)
    (ranged : Ranged before) : Ranged after := by
  obtain ⟨threads, capacity, ports, health⟩ := same
  refine ⟨?_, ?_, ?_, ?_, ?_, ?_, ?_, ?_⟩
  · rw [threads]
    exact ranged.threads
  · rw [capacity]
    exact ranged.capacity
  · rw [ports]
    exact ranged.ports
  · rw [health]
    exact ranged.window
  · rw [health]
    exact ranged.samples
  · rw [health]
    exact ranged.degraded
  · rw [health]
    exact ranged.recovery
  · rw [health]
    exact ranged.critical

theorem ensures_requireValue (arg : String) (rest : List String) :
    Ensures (fun out => rest = out.1 :: out.2) (requireValue arg rest) := by
  rintro ⟨value, left⟩ required
  exact requireValue_ok required

/-- What an argument leads to, of whatever it leads to. -/
def leadsTo (strtod : String → Strtod) (arg : String) (rest : List String) (before : Options)
    (out : ParseState × List String) : Prop :=
  Effect strtod arg rest before out.2 out.1.options

/-- An option without a value, that is not checked later. -/
theorem ensures_switch {arg : String} {rest : List String} {before : Options} {next : ParseState}
    (takes : takesValue arg = false) (other : setSwitch arg before.healthConfig = before.healthConfig)
    (same : Unchecked before next.options) :
    Ensures (leadsTo strtod arg rest before) (.ok (next, rest) : Except CliStop _) :=
  .ok ⟨Or.inr ⟨takes, rfl, same.health.trans other.symm⟩, same.ranged⟩

/-- An option with a value, that is not checked later. -/
theorem ensures_value {arg : String} {rest : List String} {before : Options}
    {next : String × List String → Except CliStop (ParseState × List String)}
    (takes : takesValue arg = true)
    (other : ∀ value, setThreshold strtod arg value before.healthConfig = before.healthConfig)
    (same : ∀ value left, Ensures (fun out => out.2 = left ∧ Unchecked before out.1.options)
      (next (value, left))) :
    Ensures (leadsTo strtod arg rest before) (requireValue arg rest >>= next) := by
  refine .bind (ensures_requireValue arg rest) ?_
  rintro ⟨value, left⟩ given
  refine (same value left).mono ?_
  rintro ⟨state, _⟩ ⟨rfl, same⟩
  exact ⟨Or.inl ⟨takes, value, given, same.health.trans (other value).symm⟩, same.ranged⟩

/-- An option whose value is an integer. -/
theorem ensures_sizeOption {name : String} {minimum maximum : Nat} {set : Nat → Options → Options}
    {rest : List String} {state : ParseState} (takes : takesValue name = true)
    (threshold : ∀ value : String, (set (decimal value.toList) state.options).healthConfig =
      setThreshold strtod name value state.options.healthConfig)
    (ranged : ∀ number, minimum ≤ number → Ranged state.options →
      Ranged (set number state.options)) :
    Ensures (leadsTo strtod name rest state.options)
      (sizeOption name minimum maximum set rest state) := by
  refine .bind (ensures_requireValue name rest) ?_
  rintro ⟨value, left⟩ given out returned
  obtain ⟨parsed, parses, result⟩ := bind_eq_ok.mp returned
  obtain rfl := Except.ok.inj result
  obtain rfl := parseUnsigned_decimal parses
  exact ⟨Or.inl ⟨takes, value, given, threshold value⟩, ranged _ (parseUnsigned_bounds parses).1⟩

/-- An option whose value is a probability. -/
theorem ensures_probabilityOption {name : String} {set : ℚ → Options → Options}
    {rest : List String} {state : ParseState} (takes : takesValue name = true)
    (threshold : ∀ value, (set (spelledRate strtod value) state.options).healthConfig =
      setThreshold strtod name value state.options.healthConfig)
    (ranged : ∀ rate, 0 ≤ rate ∧ rate ≤ 1 → Ranged state.options →
      Ranged (set rate state.options)) :
    Ensures (leadsTo strtod name rest state.options)
      (probabilityOption strtod name set rest state) := by
  refine .bind (ensures_requireValue name rest) ?_
  rintro ⟨value, left⟩ given out returned
  obtain ⟨parsed, parses, result⟩ := bind_eq_ok.mp returned
  obtain rfl := Except.ok.inj result
  obtain rfl : spelledRate strtod value = parsed := by
    rw [spelledRate, parseProbability_value parses, Option.getD_some]
  exact ⟨Or.inl ⟨takes, value, given, threshold value⟩, ranged _ (parseProbability_bounds parses)⟩

theorem ensures_selectTransport (options : Options) (transport : Transport) :
    Ensures (Unchecked options) (selectTransport options transport) :=
  .ite (fun _ => .error _) fun _ => .ok ⟨rfl, rfl, rfl, rfl⟩

/-- **What one argument can do.** -/
theorem parseStep_effect (arg : String) (rest : List String) (state : ParseState) :
    Ensures (leadsTo strtod arg rest state.options) (parseStep strtod arg rest state) := by
  unfold parseStep
  dsimp only
  refine .ite (fun _ => .error _) fun _ => ?_
  refine .ite (fun is => ?_) fun _ => ?_
  · subst is
    exact .bind (ensures_selectTransport _ .udp) fun _ same =>
      ensures_switch (by decide) (by simp [setSwitch]) same
  refine .ite (fun is => ?_) fun _ => ?_
  · subst is
    exact .bind (ensures_selectTransport _ .tcp) fun _ same =>
      ensures_switch (by decide) (by simp [setSwitch]) same
  -- the address and the ports
  refine .ite (fun is => ?_) fun _ => ?_
  · subst is
    exact ensures_value (by decide) (by simp [setThreshold]) fun _ _ =>
      .ok ⟨rfl, rfl, rfl, rfl, rfl⟩
  refine .ite (fun is => ?_) fun _ => ?_
  · subst is
    exact ensures_value (by decide) (by simp [setThreshold]) fun _ _ =>
      .after fun _ => .ok ⟨rfl, rfl, rfl, rfl, rfl⟩
  refine .ite (fun is => ?_) fun _ => ?_
  · subst is
    refine .bind (ensures_requireValue _ rest) ?_
    rintro ⟨value, left⟩ given
    have valid : Ensures (fun range => range.valid = true) (parsePortRange value "--auto-port") :=
      fun range parsed => parsePortRange_ok parsed
    refine .bind valid fun range valid => .ok ?_
    refine ⟨Or.inl ⟨by decide, value, given, by simp [setThreshold]⟩, ?_⟩
    intro ranged
    refine { ranged with ports := ?_ }
    rintro _ ⟨⟩
    exact valid
  -- the replay, the output and the log
  refine .ite (fun is => ?_) fun _ => ?_
  · subst is
    exact ensures_value (by decide) (by simp [setThreshold]) fun _ _ =>
      .ok ⟨rfl, rfl, rfl, rfl, rfl⟩
  refine .ite (fun is => ?_) fun _ => ?_
  · subst is
    exact ensures_value (by decide) (by simp [setThreshold]) fun _ _ =>
      .after fun _ => .ite (fun _ => .error _) fun _ => .ok ⟨rfl, rfl, rfl, rfl, rfl⟩
  refine .ite (fun is => ?_) fun _ => ?_
  · subst is
    exact ensures_value (by decide) (by simp [setThreshold]) fun _ _ =>
      .ok ⟨rfl, rfl, rfl, rfl, rfl⟩
  refine .ite (fun is => ?_) fun _ => ?_
  · subst is
    exact ensures_value (by decide) (by simp [setThreshold]) fun _ _ =>
      .after fun _ => .ok ⟨rfl, rfl, rfl, rfl, rfl⟩
  refine .ite (fun is => ?_) fun _ => ?_
  · subst is
    exact ensures_value (by decide) (by simp [setThreshold]) fun _ _ =>
      .ok ⟨rfl, rfl, rfl, rfl, rfl⟩
  refine .ite (fun is => ?_) fun _ => ?_
  · subst is
    refine ensures_value (by decide) (by simp [setThreshold]) fun value _ => ?_
    dsimp only
    cases parseLogLevel value with
    | none => exact .error _
    | some logLevel => exact .ok ⟨rfl, rfl, rfl, rfl, rfl⟩
  refine .ite (fun is => ?_) fun _ => ?_
  · subst is
    exact ensures_switch (by decide) (by simp [setSwitch]) ⟨rfl, rfl, rfl, rfl⟩
  -- the threads, the queues and the filter
  refine .ite (fun is => ?_) fun _ => ?_
  · subst is
    refine ensures_sizeOption (by decide) (fun value => by simp [setThreshold]) ?_
    intro number low ranged
    exact { ranged with threads := low }
  refine .ite (fun is => ?_) fun _ => ?_
  · subst is
    refine ensures_sizeOption (by decide) (fun value => by simp [setThreshold]) ?_
    intro number low ranged
    exact { ranged with capacity := low }
  refine .ite (fun is => ?_) fun _ => ?_
  · subst is
    exact ensures_value (by decide) (by simp [setThreshold]) fun _ _ =>
      .after fun _ => .ok ⟨rfl, rfl, rfl, rfl, rfl⟩
  refine .ite (fun is => ?_) fun _ => ?_
  · subst is
    refine ensures_sizeOption (by decide) (fun value => by simp [setThreshold]) ?_
    intro number low
    exact Unchecked.ranged ⟨rfl, rfl, rfl, rfl⟩
  -- the thresholds
  refine .ite (fun is => ?_) fun _ => ?_
  · subst is
    refine .ok ⟨Or.inr ⟨by decide, rfl, by simp [setSwitch, setHealth]⟩, ?_⟩
    intro ranged
    exact { ranged with }
  refine .ite (fun is => ?_) fun _ => ?_
  · subst is
    refine ensures_sizeOption (by decide) (fun value => by simp [setThreshold, setHealth]) ?_
    intro number low ranged
    exact { ranged with window := low }
  refine .ite (fun is => ?_) fun _ => ?_
  · subst is
    refine ensures_sizeOption (by decide) (fun value => by simp [setThreshold, setHealth]) ?_
    intro number low ranged
    exact { ranged with samples := low }
  refine .ite (fun is => ?_) fun _ => ?_
  · subst is
    refine ensures_probabilityOption (by decide) (fun value => by simp [setThreshold, setHealth]) ?_
    intro rate range ranged
    exact { ranged with degraded := range }
  refine .ite (fun is => ?_) fun _ => ?_
  · subst is
    refine ensures_probabilityOption (by decide) (fun value => by simp [setThreshold, setHealth]) ?_
    intro rate range ranged
    exact { ranged with recovery := range }
  refine .ite (fun is => ?_) fun _ => ?_
  · subst is
    refine ensures_sizeOption (by decide) (fun value => by simp [setThreshold, setHealth]) ?_
    intro number low ranged
    exact { ranged with critical := low }
  refine .ite (fun is => ?_) fun _ => ?_
  · subst is
    refine ensures_sizeOption (by decide) (fun value => by simp [setThreshold, setHealth]) ?_
    intro number low ranged
    exact { ranged with }
  refine .ite (fun is => ?_) fun _ => .error _
  subst is
  exact ensures_switch (by decide) (by simp [setSwitch]) ⟨rfl, rfl, rfl, rfl⟩

/-- **The loop**: the thresholds are the last given, the values stay in range. -/
theorem parseLoop_effect {fuel : Nat} {args : List String} {state final : ParseState}
    (enough : args.length ≤ fuel) (ok : parseLoop strtod fuel args state = .ok final) :
    final.options.healthConfig = healthArguments strtod args state.options.healthConfig ∧
      (Ranged state.options → Ranged final.options) := by
  induction fuel generalizing args state with
  | zero =>
      obtain rfl : args = [] := List.length_eq_zero_iff.mp (Nat.le_zero.mp enough)
      obtain rfl := Except.ok.inj ok
      exact ⟨rfl, id⟩
  | succ fuel ih =>
      cases args with
      | nil =>
          obtain rfl := Except.ok.inj ok
          exact ⟨rfl, id⟩
      | cons arg rest =>
          rw [parseLoop] at ok
          cases step : parseStep strtod arg rest state with
          | error stop => simp [step] at ok
          | ok result =>
              obtain ⟨next, left⟩ := result
              simp only [step] at ok
              have effect := parseStep_effect arg rest state (next, left) step
              have less : rest.length ≤ fuel := Nat.le_of_succ_le_succ enough
              rcases effect.taken with ⟨takes, value, rfl, set⟩ | ⟨takes, rfl, set⟩
              · have fewer : left.length ≤ fuel := Nat.le_of_succ_le less
                obtain ⟨health, ranged⟩ := ih fewer ok
                refine ⟨?_, ranged ∘ effect.ranged⟩
                rw [health, set, healthArguments, if_pos takes]
              · obtain ⟨health, ranged⟩ := ih less ok
                refine ⟨?_, ranged ∘ effect.ranged⟩
                rw [health, set]
                cases rest with
                | nil => rw [healthArguments, healthArguments, if_neg (by simp [takes])]
                | cons value others => rw [healthArguments, if_neg (by simp [takes])]

/-! ## What `parseArgs` promises -/

/-- What is known of accepted options. -/
structure Parsed (strtod : String → Strtod) (args : List String) (options : Options) : Prop where
  ranged : Ranged options
  health : options.healthConfig = healthArguments strtod args {}
  window : options.movingAverageWindow % 2 = 1
  short : ∀ range, options.autoPortRange = some range → range.count ≤ maxDiagnosticPortCount
  fits : options.healthConfig.minSamples ≤ options.healthConfig.windowSize
  counts : options.healthConfig.criticalFramesForRecovery <
    options.healthConfig.criticalFramesForDegraded

theorem checkAutoPort_ok {state : ParseState} (ok : checkAutoPort state = .ok ())
    {range : PortRange} (present : state.options.autoPortRange = some range) :
    range.count ≤ maxDiagnosticPortCount := by
  rw [checkAutoPort, present] at ok
  unfold fail at ok
  dsimp only at ok
  split at ok <;> [cases ok; skip]
  split at ok <;> [cases ok; skip]
  split at ok <;> [cases ok; skip]
  rename_i short
  exact Nat.le_of_not_lt short

theorem checkThresholds_ok {options : Options} (ok : checkThresholds options = .ok ()) :
    options.movingAverageWindow % 2 = 1 ∧
      options.healthConfig.minSamples ≤ options.healthConfig.windowSize ∧
      options.healthConfig.criticalFramesForRecovery <
        options.healthConfig.criticalFramesForDegraded := by
  unfold checkThresholds fail at ok
  split at ok <;> [cases ok; skip]
  rename_i odd
  split at ok <;> [cases ok; skip]
  rename_i fits
  split at ok <;> [cases ok; skip]
  rename_i counts
  exact ⟨by omega, Nat.le_of_not_lt fits, Nat.lt_of_not_le counts⟩

theorem parseArgs_parsed {args : List String} {options : Options}
    (ok : parseArgs strtod args = .ok options) : Parsed strtod args options := by
  obtain ⟨state, loop, ok⟩ := bind_eq_ok.mp ok
  obtain ⟨_, _, ok⟩ := bind_eq_ok.mp ok
  obtain ⟨_, ports, ok⟩ := bind_eq_ok.mp ok
  obtain ⟨_, thresholds, ok⟩ := bind_eq_ok.mp ok
  obtain rfl := Except.ok.inj ok
  obtain ⟨health, ranged⟩ := parseLoop_effect (Nat.le_refl _) loop
  obtain ⟨window, fits, counts⟩ := checkThresholds_ok thresholds
  exact
    { ranged := ranged ranged_default
      health
      window
      short := fun range present => checkAutoPort_ok ports present
      fits
      counts }

/-! ## The constructors behind it -/

/-- Whether the log and the output file can be opened. -/
structure Files where
  log : Bool
  output : Bool

/-- What the station has when it starts its pipeline. -/
structure Started where
  options : Options
  health : StationHealthMonitor
  rawQueue : BlockingQueue RawWorkItem
  decodedQueue : BlockingQueue DecodedWorkItem

/-- `selectAutomaticPort`. -/
def selectAutomaticPort (bind : String → UInt16 → LocalPortAvailability) (options : Options) :
    Except Exn Options :=
  match options.autoPortRange with
  | none => .ok options
  | some range =>
      match findFirstAvailableLocalPort (bind options.bindAddress) range with
      | .error exn => .error exn
      | .ok (none, _) => .error (.runtimeError "no bindable port found in --auto-port range")
      | .ok (some port, _) => .ok { options with port }

/-- `run` up to its pipeline, and whether a file was opened by then. -/
def startup (bind : String → UInt16 → LocalPortAvailability) (files : Files) (options : Options) :
    Bool × Except Exn Started :=
  match selectAutomaticPort bind options with
  | .error exn => (false, .error exn)
  | .ok options =>
      match options.logFile, files.log with
      | some path, false => (false, .error (.runtimeError ("failed to open log file: " ++ path)))
      | log, _ =>
          match StationHealthMonitor.create options.healthConfig with
          | .error exn => (log.isSome, .error exn)
          | .ok health =>
              if files.output = false then
                (log.isSome,
                  .error (.runtimeError ("failed to open output file: " ++ options.outputFile)))
              else
                (true, .ok
                  { options
                    health
                    rawQueue := BlockingQueue.create options.queueCapacity
                    decodedQueue := BlockingQueue.create options.queueCapacity })

/-- What is promised of accepted options: the monitor's constructor takes the
thresholds, the filter its window, the two queues are bounded, the search its range;
and no argument is found invalid once a file is open. -/
structure AcceptedDownstream (options : Options) : Prop where
  health : ∃ monitor, StationHealthMonitor.create options.healthConfig = .ok monitor
  filter : ∀ samples, AllFinite samples →
    ∃ filtered, movingAverageFilter samples options.movingAverageWindow = .ok filtered
  queues : ∀ bind files opened started, startup bind files options = (opened, .ok started) →
    0 < started.rawQueue.capacity ∧ 0 < started.decodedQueue.capacity
  ports : ∀ range, options.autoPortRange = some range →
    ∀ bind, ∃ found, findFirstAvailableLocalPort bind range = .ok found
  quiet : ∀ bind files what, startup bind files options ≠ (true, .error (.invalidArgument what))

/-- An automatic port is only another port. -/
theorem selectAutomaticPort_ok {bind : String → UInt16 → LocalPortAvailability}
    {options selected : Options} (ok : selectAutomaticPort bind options = .ok selected) :
    selected.healthConfig = options.healthConfig ∧
      selected.queueCapacity = options.queueCapacity := by
  unfold selectAutomaticPort at ok
  split at ok
  · obtain rfl := Except.ok.inj ok
    exact ⟨rfl, rfl⟩
  · split at ok
    · cases ok
    · cases ok
    · obtain rfl := Except.ok.inj ok
      exact ⟨rfl, rfl⟩

/-- A start that gets through has queues of the given capacity. -/
theorem startup_capacity {bind : String → UInt16 → LocalPortAvailability} {files : Files}
    {options : Options} {opened : Bool} {started : Started}
    (ok : startup bind files options = (opened, .ok started)) :
    started.rawQueue.capacity = options.queueCapacity ∧
      started.decodedQueue.capacity = options.queueCapacity := by
  unfold startup at ok
  cases selection : selectAutomaticPort bind options with
  | error exn => simp [selection] at ok
  | ok selected =>
      have same := (selectAutomaticPort_ok selection).2
      simp only [selection] at ok
      split at ok
      · cases (Prod.mk.inj ok).2
      · split at ok
        · cases (Prod.mk.inj ok).2
        · split at ok
          · cases (Prod.mk.inj ok).2
          · obtain rfl := Except.ok.inj (Prod.mk.inj ok).2
            exact ⟨same, same⟩

/-- A start whose thresholds are accepted finds nothing invalid after a file is open. -/
theorem startup_quiet {bind : String → UInt16 → LocalPortAvailability} {files : Files}
    {options : Options} {monitor : StationHealthMonitor} {what : String}
    (accepted : StationHealthMonitor.create options.healthConfig = .ok monitor) :
    startup bind files options ≠ (true, .error (.invalidArgument what)) := by
  intro late
  unfold startup at late
  cases selection : selectAutomaticPort bind options with
  | error exn => simp [selection] at late
  | ok selected =>
      have same := (selectAutomaticPort_ok selection).1
      simp only [selection, same, accepted] at late
      split at late
      · cases (Prod.mk.inj late).1
      · split at late <;> cases (Prod.mk.inj late).2

/-- What the constructor throws. -/
theorem create_refused {config : StationHealthConfig} {what : String}
    (refused : config.refusal = some what) :
    StationHealthMonitor.create config = .error (.invalidArgument what) := by
  unfold StationHealthMonitor.create
  split
  · rename_i found
    rw [refused] at found
    rw [Option.some.inj found]
  · rename_i accepted
    rw [refused] at accepted
    cases accepted

/-- No string is a number. -/
def noNumber (_ : String) : Strtod := ⟨none, 0, false⟩

/-- A critical count above the window. -/
def lateArguments : List String :=
  ["--udp", "--log", "station.log", "--degraded-critical-count", "200"]

def lateOptions : Options :=
  { transport := some .udp
    logFile := some "station.log"
    healthConfig := { criticalFramesForDegraded := 200 } }

end Stgs.Station
