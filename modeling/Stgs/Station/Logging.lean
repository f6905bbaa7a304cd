/-
# Station.Logging -- the logger and its streams

`Logger` has a mutex around `log` and `setMinLevel`.  A call to `log` compares its level
with the threshold, makes the line and puts it on the console, `std::cerr` from warnings on
and `std::cout` below, and into the log file.  Here each character is a step of its own, the
system clock moves in between, and each stream can fail at any character.  The terminal
writes to standard output at the same time, block by block, without the logger's mutex.

`journal` says what the mutex gives: the calls have an order in which the logger is one
that is called once at a time (`AtomicLogger`), so that standard error and the file hold
its lines one after the other, cut off only where the stream has failed or where a line is
being written.  Standard output is such a text too, but mixed with the terminal's blocks;
a block can stand inside a line (`torn`).
-/
import Stgs.Station.Options
import Stgs.Station.Timestamp
import Stgs.Theory.CriticalSection
import Stgs.Theory.Records

namespace Stgs.Station

open Stgs.Theory.CriticalSection Stgs.Theory.Interleaving Stgs.Theory.Records
  Stgs.Theory.Transition

set_option autoImplicit false

/-! ## Lines -/

/-- The values of the enumerators. -/
def LogLevel.rank : LogLevel → Nat
  | trace => 0
  | debug => 1
  | info => 2
  | warning => 3
  | error => 4

def logLevelToString : LogLevel → List Char
  | .trace => "TRACE".toList
  | .debug => "DEBUG".toList
  | .info => "INFO".toList
  | .warning => "WARN".toList
  | .error => "ERROR".toList

structure LogRecord where
  level : LogLevel
  time : Nat
  message : List Char

def LogRecord.line (record : LogRecord) : List Char :=
  nowIso8601 record.time ++ " [".toList ++ logLevelToString record.level ++ "] ".toList ++
    record.message

/-- The line with its end. -/
def LogRecord.text (record : LogRecord) : List Char := record.line ++ ['\n']

inductive Sink where
  | cout
  | cerr
  | file
deriving DecidableEq

def console (level : LogLevel) : Sink :=
  if LogLevel.warning.rank ≤ level.rank then .cerr else .cout

/-- What a line is put into. -/
def LogRecord.GoesTo (record : LogRecord) (sink : Sink) : Prop :=
  sink = console record.level ∨ sink = .file

instance (record : LogRecord) (sink : Sink) : Decidable (record.GoesTo sink) :=
  inferInstanceAs (Decidable (_ ∨ _))

/-- Every character of a line, on the console first.  A stream that has failed takes none
of them; that is also what `if (file_)` comes to. -/
def LogRecord.writes (record : LogRecord) : List (Sink × Char) :=
  record.text.map (console record.level, ·) ++ record.text.map (.file, ·)

/-! ## Streams -/

structure LogStream where
  opened : Bool
  good : Bool
  text : List Char

inductive Writer where
  | logger
  | terminal
deriving DecidableEq

/-- `shown` lists the blocks of the terminal, and `block` is what is left of the last. -/
structure Console where
  clock : Nat
  streams : Sink → LogStream
  stdout : List (Writer × Char)
  block : List Char
  shown : List (List Char)

def Console.setStream (world : Console) (sink : Sink) (stream : LogStream) : Console :=
  { world with streams := Function.update world.streams sink stream }

/-- One character into a stream. -/
inductive Put (world : Console) : Sink × Char → Console → Prop where
  | console {c : Char} (good : (world.streams .cout).good = true)
      (opened : (world.streams .cout).opened = true) :
      Put world (.cout, c)
        { world.setStream .cout
            { world.streams .cout with text := (world.streams .cout).text ++ [c] } with
          stdout := world.stdout ++ [(.logger, c)] }
  | put {sink : Sink} {c : Char} (other : sink ≠ .cout) (good : (world.streams sink).good = true)
      (opened : (world.streams sink).opened = true) :
      Put world (sink, c)
        (world.setStream sink
          { world.streams sink with text := (world.streams sink).text ++ [c] })
  | fails {sink : Sink} {c : Char} :
      Put world (sink, c) (world.setStream sink { world.streams sink with good := false })
  | skips {sink : Sink} {c : Char} (bad : (world.streams sink).good = false) :
      Put world (sink, c) world

/-- The clock, and the terminal with its `osyncstream`: a block is transferred as a whole
as far as other blocks are concerned. -/
inductive ConsoleMoves (ticks : Nat → Nat → Prop) (world : Console) : Console → Prop where
  | tick {now : Nat} (tick : ticks world.clock now) :
      ConsoleMoves ticks world { world with clock := now }
  | block (block : List Char) (idle : world.block = []) :
      ConsoleMoves ticks world { world with block, shown := world.shown ++ [block] }
  | emit {c : Char} {rest : List Char} (here : world.block = c :: rest) :
      ConsoleMoves ticks world
        { world with stdout := world.stdout ++ [(.terminal, c)], block := rest }

/-! ## Calls -/

inductive LogCall where
  | log (level : LogLevel) (message : List Char)
  | setMinLevel (level : LogLevel)

/-- What happens under the mutex; a line that cannot be allocated leaves no trace. -/
inductive LogRuns (world : Console) :
    LogCall → LogLevel → LogLevel → List (Sink × Char) → Prop where
  | filtered {level minLevel : LogLevel} {message : List Char}
      (below : level.rank < minLevel.rank) :
      LogRuns world (.log level message) minLevel minLevel []
  | line {level minLevel : LogLevel} {message : List Char}
      (reaches : ¬ level.rank < minLevel.rank) :
      LogRuns world (.log level message) minLevel minLevel
        (LogRecord.writes ⟨level, world.clock, message⟩)
  | threw {level minLevel : LogLevel} {message : List Char}
      (reaches : ¬ level.rank < minLevel.rank) :
      LogRuns world (.log level message) minLevel minLevel []
  | setMinLevel {level minLevel : LogLevel} : LogRuns world (.setMinLevel level) minLevel level []

def logger (ticks : Nat → Nat → Prop) : Guarded LogCall LogLevel (Sink × Char) Console where
  runs := LogRuns
  write := Put
  world := ConsoleMoves ticks

/-- Nothing is written yet. -/
structure Console.Fresh (world : Console) : Prop where
  text : ∀ sink, (world.streams sink).text = []
  stdout : world.stdout = []
  block : world.block = []
  shown : world.shown = []

/-! ## The atomic logger -/

/-- A call, when it was made, and whether its line could be allocated. -/
structure LogEvent where
  call : LogCall
  time : Nat
  made : Bool

structure AtomicLogger where
  minLevel : LogLevel
  records : List LogRecord

def AtomicLogger.step (atomic : AtomicLogger) (event : LogEvent) : AtomicLogger :=
  match event.call with
  | .setMinLevel level => { atomic with minLevel := level }
  | .log level message =>
      if level.rank < atomic.minLevel.rank then atomic
      else if event.made then
        { atomic with records := atomic.records ++ [⟨level, event.time, message⟩] }
      else atomic

def AtomicLogger.run (minLevel : LogLevel) (events : List LogEvent) : AtomicLogger :=
  events.foldl step ⟨minLevel, []⟩

/-- The text of a stream that never fails. -/
def streamText (sink : Sink) (records : List LogRecord) : List Char :=
  ((records.filter (·.GoesTo sink)).map LogRecord.text).flatten

/-! ## Refinement -/

theorem part_writes (sink : Sink) (record : LogRecord) :
    part sink record.writes = if record.GoesTo sink then record.text else [] := by
  have marked (other : Sink) (text : List Char) :
      part sink (text.map (other, ·)) = if sink = other then text else [] := by
    by_cases same : sink = other
    · subst same
      simp [part, List.filter_map, Function.comp_def]
    · simp [part, same, Ne.symm same, List.filter_map, Function.comp_def]
  rw [LogRecord.writes, part_append, marked, marked]
  simp only [LogRecord.GoesTo]
  by_cases file : sink = .file
  · have other : sink ≠ console record.level := by
      rw [file, console]
      split
      · intro same
        cases same
      · intro same
        cases same
    simp [file ▸ other, file]
  · simp [file]

theorem part_records (sink : Sink) (records : List LogRecord) :
    part sink (records.flatMap LogRecord.writes) = streamText sink records := by
  induction records with
  | nil => rfl
  | cons record records ih =>
      rw [List.flatMap_cons, part_append, part_writes, ih]
      by_cases goes : record.GoesTo sink
      · simp [streamText, goes]
      · simp [streamText, goes]

/-- What a decided call was. -/
def eventOf (done : Done LogCall LogLevel (Sink × Char) Console) : LogEvent :=
  ⟨done.op, done.world.clock, !done.writes.isEmpty⟩

theorem LogRecord.writes_ne_nil (record : LogRecord) : record.writes ≠ [] := by
  simp [LogRecord.writes, LogRecord.text]

section Refinement

variable {ticks : Nat → Nat → Prop}

/-- One call is one step of the atomic logger. -/
theorem step_eventOf {done : Done LogCall LogLevel (Sink × Char) Console}
    (runs : LogRuns done.world done.op done.before done.after done.writes)
    (records : List LogRecord) :
    ∃ more, AtomicLogger.step ⟨done.before, records⟩ (eventOf done) =
        ⟨done.after, records ++ more⟩ ∧ done.writes = more.flatMap LogRecord.writes := by
  obtain ⟨op, world, before, after, writes⟩ := done
  change LogRuns world op before after writes at runs
  cases runs with
  | filtered below => exact ⟨[], by simp [AtomicLogger.step, eventOf, below], rfl⟩
  | @line level _ message reaches =>
      have made := LogRecord.writes_ne_nil ⟨level, world.clock, message⟩
      exact ⟨[⟨level, world.clock, message⟩], by simp [AtomicLogger.step, eventOf, reaches, made],
        by simp⟩
  | threw reaches => exact ⟨[], by simp [AtomicLogger.step, eventOf, reaches], rfl⟩
  | setMinLevel => exact ⟨[], by simp [AtomicLogger.step, eventOf], rfl⟩

/-- **Calls one after another are a run of the atomic logger.** -/
theorem run_eventOf {done : List (Done LogCall LogLevel (Sink × Char) Console)}
    {minLevel final : LogLevel} (chain : Chain (logger ticks) minLevel done final) :
    (AtomicLogger.run minLevel (done.map eventOf)).minLevel = final ∧
      done.flatMap Done.writes =
        (AtomicLogger.run minLevel (done.map eventOf)).records.flatMap LogRecord.writes := by
  have general (records : List LogRecord) :
      ∃ more, (done.map eventOf).foldl AtomicLogger.step ⟨minLevel, records⟩ =
        ⟨final, records ++ more⟩ ∧ done.flatMap Done.writes = more.flatMap LogRecord.writes := by
    induction done generalizing minLevel records with
    | nil =>
        obtain rfl : final = minLevel := chain
        exact ⟨[], by simp, rfl⟩
    | cons first done ih =>
        obtain ⟨rfl, runs, rest⟩ := chain
        obtain ⟨more, stepped, writes⟩ := step_eventOf runs records
        obtain ⟨others, ran, written⟩ := ih rest (records ++ more)
        refine ⟨more ++ others, ?_, ?_⟩
        · rw [List.map_cons, List.foldl_cons, stepped, ran, List.append_assoc]
        · rw [List.flatMap_cons, writes, written, List.flatMap_append]
  obtain ⟨more, ran, writes⟩ := general []
  rw [List.nil_append] at ran
  rw [AtomicLogger.run, ran]
  exact ⟨rfl, writes⟩

end Refinement

/-! ## What stands in the streams -/

/-- What the steps of the streams and of the terminal keep, for the characters that the
logger has tried to write. -/
structure Poured (world : Console) (written : List (Sink × Char)) : Prop where
  text : ∀ sink, (world.streams sink).text <+: part sink written
  whole : ∀ sink, (world.streams sink).good = true →
    (world.streams sink).text = part sink written
  logger : part .logger world.stdout = (world.streams .cout).text
  terminal : part .terminal world.stdout ++ world.block = world.shown.flatten

theorem Console.Fresh.poured {world : Console} (fresh : world.Fresh) : Poured world [] where
  text sink := by simp [fresh.text sink]
  whole sink _ := by simp [fresh.text sink, part]
  logger := by simp [fresh.text, fresh.stdout, part]
  terminal := by simp [fresh.stdout, fresh.block, fresh.shown, part]

theorem part_concat {sink other : Sink} (written : List (Sink × Char)) (c : Char) :
    part sink (written ++ [(other, c)]) =
      if other = sink then part sink written ++ [c] else part sink written := by
  by_cases same : other = sink
  · simp [part, same]
  · simp [part, same]

namespace Poured

variable {world next : Console} {written : List (Sink × Char)} {sink : Sink} {c : Char}

/-- What a stream has after one more character. -/
theorem streams_text (poured : Poured world written) {stream : LogStream}
    (text : stream.text <+: part sink (written ++ [(sink, c)])) (other : Sink) :
    ((world.setStream sink stream).streams other).text <+: part other (written ++ [(sink, c)]) := by
  by_cases same : other = sink
  · subst same
    simpa [Console.setStream] using text
  · rw [part_concat, if_neg (Ne.symm same)]
    simpa [Console.setStream, Function.update_of_ne same] using poured.text other

theorem streams_whole (poured : Poured world written) {stream : LogStream}
    (whole : stream.good = true → stream.text = part sink (written ++ [(sink, c)])) (other : Sink)
    (good : ((world.setStream sink stream).streams other).good = true) :
    ((world.setStream sink stream).streams other).text = part other (written ++ [(sink, c)]) := by
  by_cases same : other = sink
  · subst same
    simp only [Console.setStream, Function.update_self] at good ⊢
    exact whole good
  · rw [part_concat, if_neg (Ne.symm same)]
    simp only [Console.setStream, Function.update_of_ne same] at good ⊢
    exact poured.whole other good

/-- A stream that takes nothing keeps a front of what it was given. -/
theorem prefix_concat (poured : Poured world written) :
    (world.streams sink).text <+: part sink (written ++ [(sink, c)]) := by
  rw [part_concat, if_pos rfl]
  exact (poured.text sink).trans (List.prefix_append _ _)

theorem put (poured : Poured world written) (put : Put world (sink, c) next) :
    Poured next (written ++ [(sink, c)]) := by
  cases put with
  | console good opened =>
      have exact : (world.streams .cout).text ++ [c] = part .cout (written ++ [(.cout, c)]) := by
        rw [part_concat, if_pos rfl, poured.whole .cout good]
      constructor
      case text => exact poured.streams_text ⟨[], by rw [List.append_nil]; exact exact⟩
      case whole => exact poured.streams_whole fun _ => exact
      case logger =>
        rw [part_append, poured.logger]
        simp [part, Console.setStream]
      case terminal =>
        rw [part_append]
        simpa [part, Console.setStream] using poured.terminal
  | put other good opened =>
      have exact : (world.streams sink).text ++ [c] = part sink (written ++ [(sink, c)]) := by
        rw [part_concat, if_pos rfl, poured.whole sink good]
      constructor
      case text => exact poured.streams_text ⟨[], by rw [List.append_nil]; exact exact⟩
      case whole => exact poured.streams_whole fun _ => exact
      case logger =>
        simpa [Console.setStream, Function.update_of_ne (Ne.symm other)] using poured.logger
      case terminal => exact poured.terminal
  | fails =>
      constructor
      case text => exact poured.streams_text poured.prefix_concat
      case whole =>
        refine poured.streams_whole fun good => ?_
        cases good
      case logger =>
        show part .logger world.stdout = _
        by_cases same : Sink.cout = sink
        · subst same
          simpa [Console.setStream] using poured.logger
        · simpa [Console.setStream, Function.update_of_ne same] using poured.logger
      case terminal => exact poured.terminal
  | skips bad =>
      constructor
      case text =>
        intro other
        rw [part_concat]
        split
        · exact (poured.text other).trans (List.prefix_append _ _)
        · exact poured.text other
      case whole =>
        intro other good
        have different : sink ≠ other := by
          rintro rfl
          rw [bad] at good
          cases good
        rw [part_concat, if_neg different]
        exact poured.whole other good
      case logger => exact poured.logger
      case terminal => exact poured.terminal

theorem moves {ticks : Nat → Nat → Prop} (poured : Poured world written)
    (moves : ConsoleMoves ticks world next) : Poured next written := by
  obtain ⟨text, whole, logger, terminal⟩ := poured
  cases moves with
  | tick ticked => exact ⟨text, whole, logger, terminal⟩
  | block block idle =>
      refine ⟨text, whole, logger, ?_⟩
      rw [idle, List.append_nil] at terminal
      simp [terminal]
  | emit here =>
      refine ⟨text, whole, ?_, ?_⟩
      · rw [part_append, logger]
        simp [part]
      · rw [here] at terminal
        rw [part_append, ← terminal]
        simp [part]

end Poured

section Runs

variable {θ : Type} [DecidableEq θ] {ticks : Nat → Nat → Prop} {program : θ → List LogCall}
  {minLevel : LogLevel} {world : Console}

theorem poured_of_reachable (fresh : world.Fresh)
    {state : State θ LogCall LogLevel (Sink × Char) Console}
    (reachable : (system (logger ticks) program minLevel world).Reachable state) :
    Poured state.world state.written := by
  refine @System.invariant _ _ (fun state => Poured state.world state.written) ?_ ?_ _ reachable
  · rintro _ rfl
    exact fresh.poured
  · intro state next poured stepped
    cases stepped with
    | lock here free next => exact poured
    | perform here runs => exact poured
    | write here wrote => exact poured.put wrote
    | unlock here => exact poured
    | world moved => exact poured.moves moved

/-! ## Reading a log -/

/-- A line that can be told from what follows it. -/
structure LogRecord.Readable (record : LogRecord) : Prop where
  year : FourDigitYear record.time
  message : '\n' ∉ record.message

theorem level_cancel {level other : LogLevel} {rest rest' : List Char}
    (same : logLevelToString level ++ ("] ".toList ++ rest) =
      logLevelToString other ++ ("] ".toList ++ rest')) : level = other ∧ rest = rest' := by
  cases level <;> cases other <;> simp_all [logLevelToString]

/-- **Lines can be told apart.** -/
theorem records_delimited : Delimited LogRecord.text LogRecord.Readable where
  nonempty record _ := by simp [LogRecord.text]
  cancel record other rest rest' readable readable' same := by
    obtain ⟨level, time, message⟩ := record
    obtain ⟨level', time', message'⟩ := other
    simp only [LogRecord.text, LogRecord.line, List.append_assoc] at same
    have lengths : (nowIso8601 time).length = (nowIso8601 time').length := by
      rw [length_nowIso8601 readable.year, length_nowIso8601 readable'.year]
    obtain ⟨stamp, behind⟩ := List.append_inj same lengths
    obtain rfl := nowIso8601_inj readable.year readable'.year stamp
    obtain ⟨rfl, messages⟩ := level_cancel (List.append_cancel_left behind)
    obtain ⟨rfl, rest⟩ := cancel_stop readable.message readable'.message messages
    exact ⟨rfl, rest⟩

/-- Records are in the order of the calls that made them. -/
theorem times_sublist (minLevel : LogLevel) (events : List LogEvent) :
    ((AtomicLogger.run minLevel events).records.map LogRecord.time).Sublist
      (events.map LogEvent.time) := by
  have general (atomic : AtomicLogger) :
      ((events.foldl AtomicLogger.step atomic).records.map LogRecord.time).Sublist
        (atomic.records.map LogRecord.time ++ events.map LogEvent.time) := by
    induction events generalizing atomic with
    | nil => simp
    | cons event events ih =>
        refine (ih (atomic.step event)).trans ?_
        rw [List.map_cons, ← List.singleton_append, ← List.append_assoc]
        refine List.Sublist.append ?_ (List.Sublist.refl _)
        obtain ⟨call, time, made⟩ := event
        cases call with
        | setMinLevel level => exact List.sublist_append_left _ _
        | log level message =>
            by_cases below : level.rank < atomic.minLevel.rank
            · simp [AtomicLogger.step, below]
            · cases made <;> simp [AtomicLogger.step, below]
  simpa [AtomicLogger.run] using general ⟨minLevel, []⟩

/-! ## The journal -/

/-- Who wrote what. -/
def writtenBy (logger terminal : List Char) : Writer → List Char
  | .logger => logger
  | .terminal => terminal

/-- **What the logger has done**, `events` being its calls in the order in which they had
the mutex. -/
structure Journal (ticks : Nat → Nat → Prop) (program : θ → List LogCall) (minLevel : LogLevel)
    (state : State θ LogCall LogLevel (Sink × Char) Console) (events : List (θ × LogEvent)) :
    Prop where
  calls : ∀ thread,
    (part thread events).map LogEvent.call ++ (state.phase thread).begun ++
      state.program thread = program thread
  level : (AtomicLogger.run minLevel (events.map Prod.snd)).minLevel = state.object
  text : ∀ sink, (state.world.streams sink).text <+:
    streamText sink (AtomicLogger.run minLevel (events.map Prod.snd)).records
  whole : state.lock = none → ∀ sink, (state.world.streams sink).good = true →
    (state.world.streams sink).text =
      streamText sink (AtomicLogger.run minLevel (events.map Prod.snd)).records
  stdout : ∃ sent, sent ++ state.world.block = state.world.shown.flatten ∧
    Interleaves (writtenBy (state.world.streams .cout).text sent)
      (state.world.stdout.map Prod.snd)
  read : (∀ record ∈ (AtomicLogger.run minLevel (events.map Prod.snd)).records, record.Readable) →
    ∀ sink (lines : List LogRecord) (rest : List Char), (∀ line ∈ lines, line.Readable) →
      Stuck LogRecord.text LogRecord.Readable rest →
      (state.world.streams sink).text = (lines.map LogRecord.text).flatten ++ rest →
      lines <+:
        (AtomicLogger.run minLevel (events.map Prod.snd)).records.filter (·.GoesTo sink)
  order : (∀ now next, ticks now next → now ≤ next) →
    ((AtomicLogger.run minLevel (events.map Prod.snd)).records.map LogRecord.time).Pairwise (· ≤ ·)

/-- The journal of a reachable state. -/
theorem journal_of_reachable (fresh : world.Fresh)
    {state : State θ LogCall LogLevel (Sink × Char) Console}
    (reachable : (system (logger ticks) program minLevel world).Reachable state) :
    Journal ticks program minLevel state
      (state.performed.map fun entry => (entry.1, eventOf entry.2)) := by
  have serial := serial_of_reachable reachable
  have poured := poured_of_reachable fresh reachable
  obtain ⟨level, writes⟩ := run_eventOf serial.chain
  have events : (state.performed.map fun entry => (entry.1, eventOf entry.2)).map Prod.snd =
      (state.performed.map Prod.snd).map eventOf := by
    rw [List.map_map, List.map_map]
    rfl
  have tried (sink : Sink) : part sink state.written ++ part sink state.pending =
      streamText sink
        (AtomicLogger.run minLevel ((state.performed.map Prod.snd).map eventOf)).records := by
    rw [← part_append, serial.writes, writes, part_records]
  have text (sink : Sink) : (state.world.streams sink).text <+: streamText sink
      (AtomicLogger.run minLevel ((state.performed.map Prod.snd).map eventOf)).records :=
    (poured.text sink).trans ⟨_, tried sink⟩
  constructor
  case calls =>
    intro thread
    rw [← serial.order thread]
    simp [part, List.filter_map, Function.comp_def, eventOf]
  case level =>
    rw [events]
    exact level
  case text =>
    rw [events]
    exact text
  case whole =>
    rw [events]
    intro free sink good
    have nothing : state.pending = [] := by simp [State.pending, free]
    rw [poured.whole sink good, ← tried sink, nothing]
    simp [part]
  case stdout =>
    refine ⟨part .terminal state.world.stdout, poured.terminal, state.world.stdout, rfl, ?_⟩
    intro writer
    cases writer with
    | logger => exact poured.logger
    | terminal => rfl
  case read =>
    rw [events]
    intro readable sink lines rest valid stuck same
    obtain ⟨missing, whole⟩ := text sink
    refine (cut_items records_delimited stuck ?_ valid ⟨missing, ?_⟩).1
    · intro record member
      exact readable record (List.mem_of_mem_filter member)
    · rw [← same]
      exact whole
  case order =>
    rw [events]
    intro forward
    refine List.Pairwise.sublist (times_sublist _ _) ?_
    have recorded : Recorded (fun before after : Console => before.clock ≤ after.clock) state := by
      refine @recorded_of_reachable _ _ _ _ _ _ (logger ticks) program minLevel world
        (fun before after => before.clock ≤ after.clock) (fun _ => Nat.le_refl _)
        (fun _ _ _ => Nat.le_trans) ?_ ?_ _ reachable
      · intro before item after put
        cases put <;> exact Nat.le_refl _
      · intro before after moves
        cases moves with
        | tick ticked => exact forward _ _ ticked
        | block => exact Nat.le_refl _
        | emit => exact Nat.le_refl _
    rw [List.pairwise_map, List.pairwise_map]
    exact recorded.order

/-! ## Standard output -/

/-- Every stream is there and works. -/
def Console.Working (world : Console) : Prop :=
  ∀ sink, (world.streams sink).opened = true ∧ (world.streams sink).good = true

/-- Nobody has anything left to do. -/
structure LogFinished (state : State θ LogCall LogLevel (Sink × Char) Console) : Prop where
  program : ∀ thread, state.program thread = []
  phase : ∀ thread, state.phase thread = .outside
  block : state.world.block = []

/-- From one state a thread can write what it has to, with nothing in between. -/
theorem writes_reachable {thread : θ} {items rest : List (Sink × Char)}
    {state : State θ LogCall LogLevel (Sink × Char) Console}
    (reachable : (system (logger ticks) program minLevel world).Reachable state)
    (working : state.world.Working) (here : state.phase thread = .writing (items ++ rest)) :
    ∃ next, (system (logger ticks) program minLevel world).Reachable next ∧
      next.program = state.program ∧
      next.phase = Function.update state.phase thread (.writing rest) ∧
      next.world.Working ∧ next.world.block = state.world.block ∧
      next.world.stdout =
        state.world.stdout ++ (part .cout items).map (Writer.logger, ·) := by
  induction items generalizing state with
  | nil =>
      refine ⟨state, reachable, rfl, ?_, working, rfl, by simp [part]⟩
      rw [← show state.phase thread = .writing rest from here, Function.update_eq_self]
  | cons item items ih =>
      obtain ⟨sink, c⟩ := item
      obtain ⟨opened, good⟩ := working sink
      have still (stream : LogStream) (works : stream.opened = true ∧ stream.good = true)
          (other : Sink) : ((state.world.setStream sink stream).streams other).opened = true ∧
            ((state.world.setStream sink stream).streams other).good = true := by
        by_cases same : other = sink
        · subst same
          simpa [Console.setStream] using works
        · simpa [Console.setStream, Function.update_of_ne same] using working other
      by_cases console : sink = .cout
      · subst console
        have stepped := reachable.step (Step.write here (Put.console good opened))
        obtain ⟨next, reached, programs, phases, works, block, stdout⟩ :=
          ih stepped (still _ ⟨opened, good⟩) (Function.update_self ..)
        refine ⟨next, reached, programs, ?_, works, block, ?_⟩
        · rw [phases, Function.update_idem]
        · rw [stdout]
          simp [part]
      · have stepped := reachable.step (Step.write here (Put.put console good opened))
        obtain ⟨next, reached, programs, phases, works, block, stdout⟩ :=
          ih stepped (still _ ⟨opened, good⟩) (Function.update_self ..)
        refine ⟨next, reached, programs, ?_, works, block, ?_⟩
        · rw [phases, Function.update_idem]
        · rw [stdout]
          simp [part, console]
          rfl

/-- The terminal can show a block while a thread is in its line. -/
theorem emits_reachable {block : List Char}
    {state : State θ LogCall LogLevel (Sink × Char) Console}
    (reachable : (system (logger ticks) program minLevel world).Reachable state)
    (here : state.world.block = block) :
    ∃ next, (system (logger ticks) program minLevel world).Reachable next ∧
      next.program = state.program ∧ next.phase = state.phase ∧
      next.world.streams = state.world.streams ∧ next.world.block = [] ∧
      next.world.stdout = state.world.stdout ++ block.map (Writer.terminal, ·) := by
  induction block generalizing state with
  | nil => exact ⟨state, reachable, rfl, rfl, rfl, here, by simp⟩
  | cons c block ih =>
      have stepped := reachable.step (Step.world (ConsoleMoves.emit here))
      obtain ⟨next, reached, programs, phases, streams, empty, stdout⟩ := ih stepped rfl
      refine ⟨next, reached, programs, phases, streams, empty, ?_⟩
      rw [stdout]
      simp

/-- One thread logs one line. -/
def logsOnce (thread : θ) (level : LogLevel) (message : List Char) (other : θ) : List LogCall :=
  if other = thread then [.log level message] else []

theorem writes_split {record : LogRecord} (low : console record.level = .cout) :
    record.writes = record.line.map (Sink.cout, ·) ++
      (Sink.cout, '\n') :: record.text.map (Sink.file, ·) := by
  simp [LogRecord.writes, LogRecord.text, low]

/-- **A block can stand inside a line**: between a line and its end standard output is the
terminal's for the taking. -/
theorem torn (fresh : world.Fresh) (working : world.Working) (thread : θ) {level : LogLevel}
    (message block : List Char) (reaches : ¬ level.rank < minLevel.rank)
    (low : console level = .cout) :
    ∃ state,
      (system (logger ticks) (logsOnce thread level message) minLevel world).Reachable state ∧
      LogFinished state ∧
      state.world.stdout.map Prod.snd =
        LogRecord.line ⟨level, world.clock, message⟩ ++ block ++ ['\n'] := by
  have run := System.Reachable.start
    (show (system (logger ticks) (logsOnce thread level message) minLevel world).start _ from rfl)
  have run := run.step (@Step.lock _ _ _ _ _ _ _ _ thread _ _ rfl rfl (if_pos rfl))
  have run := run.step (Step.perform (Function.update_self ..) (LogRuns.line reaches))
  -- the line, without its end
  obtain ⟨first, run, program, phase, works, idle, stdout⟩ := writes_reachable run working
    ((Function.update_self ..).trans (congrArg Phase.writing (writes_split low)))
  -- the terminal's block
  have run := run.step (Step.world (ConsoleMoves.block block (idle.trans fresh.block)))
  obtain ⟨second, run, program', phase', streams, idle', stdout'⟩ := emits_reachable run rfl
  -- the end of the line, and the file
  have here : second.phase thread = .writing
      (((Sink.cout, '\n') :: (LogRecord.text ⟨level, world.clock, message⟩).map (Sink.file, ·)) ++
        []) := by
    rw [phase', List.append_nil]
    show first.phase thread = _
    rw [phase, Function.update_self]
    rfl
  obtain ⟨last, run, program'', phase'', _, idle'', stdout''⟩ := writes_reachable run
    (by rw [Console.Working, streams]; exact works) here
  have run := run.step (Step.unlock (phase'' ▸ Function.update_self ..))
  refine ⟨_, run, ⟨fun other => ?_, fun other => ?_, idle''.trans idle'⟩, ?_⟩
  · show last.program other = []
    rw [program'', program']
    show first.program other = []
    rw [program]
    by_cases same : other = thread
    · subst same
      exact Function.update_self ..
    · simp [initial, logsOnce, same]
  · show Function.update last.phase thread .outside other = .outside
    by_cases same : other = thread
    · subst same
      exact Function.update_self ..
    · rw [Function.update_of_ne same, phase'', Function.update_of_ne same, phase']
      show first.phase other = .outside
      simp [phase, Function.update_of_ne same, initial]
  · show last.world.stdout.map Prod.snd = _
    rw [stdout'', stdout']
    show (first.world.stdout ++ _ ++ _).map Prod.snd = _
    rw [stdout]
    simp [initial, fresh.stdout, part, List.filter_map, Function.comp_def]

/-- **The logger is called once at a time**, whatever its threads and its streams do; but on
standard output a line need not stay in one piece. -/
theorem logger_journal (ticks : Nat → Nat → Prop) (minLevel : LogLevel) {world : Console}
    (fresh : world.Fresh) :
    (∀ (program : θ → List LogCall) state,
      (system (logger ticks) program minLevel world).Reachable state →
      ∃ events, Journal ticks program minLevel state events) ∧
    (world.Working → ∀ (thread : θ) (level : LogLevel) (message block : List Char),
      ¬ level.rank < minLevel.rank → console level = .cout →
      ∃ state,
        (system (logger ticks) (logsOnce thread level message) minLevel world).Reachable state ∧
        LogFinished state ∧
        state.world.stdout.map Prod.snd =
          LogRecord.line ⟨level, world.clock, message⟩ ++ block ++ ['\n']) := by
  refine ⟨fun program state reachable => ⟨_, journal_of_reachable fresh reachable⟩, ?_⟩
  intro working thread level message block reaches low
  exact torn fresh working thread message block reaches low

end Runs

/-- All streams open, at the start of 1970. -/
def quietConsole : Console := ⟨0, fun _ => ⟨true, true, []⟩, [], [], []⟩

theorem logger_journal_torn :
    ∃ state,
      (system (logger (· ≤ ·)) (logsOnce true .info ['u', 'p']) .info quietConsole).Reachable
        state ∧
      LogFinished state ∧
      state.world.stdout.map Prod.snd =
        LogRecord.line ⟨.info, 0, ['u', 'p']⟩ ++ ['\n', '[', ' '] ++ ['\n'] := by
  have fresh : quietConsole.Fresh := ⟨fun _ => rfl, rfl, rfl, rfl⟩
  have working : quietConsole.Working := fun _ => ⟨rfl, rfl⟩
  exact (logger_journal (· ≤ ·) .info fresh).2 working true .info ['u', 'p'] ['\n', '[', ' ']
    (by decide) (by decide)

end Stgs.Station
