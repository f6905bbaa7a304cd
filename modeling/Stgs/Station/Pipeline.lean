/-
# Station.Pipeline -- reception, decoders and writer as one system

The main thread numbers what it receives and pushes it into the raw queue; any
number of decoders pop, decode and push into the decoded queue, in any order; the
writer keeps what arrives in a map until the next expected number is there, and
handles it.  Two shutdowns: `stopWorkers` closes the raw queue, joins the
decoders, closes the decoded queue and joins the writer; `failPipeline`, on the
thread that threw, records the exception and closes both queues.

Each thread is a program counter and its locals; a step is one call on a shared
object.  Any call may throw (`throws`): input, allocation, logging, export.  The
progress monitor, which only reads, is left out; numbers do not wrap.  The last
group of fields of `PipelineState` is history, read by no step.
-/
import Stgs.Concurrent.BlockingQueue
import Stgs.Station.Processing
import Stgs.Theory.Ledger
import Stgs.Theory.Transition

namespace Stgs.Station

open Stgs.Concurrent Stgs.Theory.Transition Stgs.Wire

set_option autoImplicit false

structure RawWorkItem where
  sequence : Nat := 0
  bytes : ByteVector
deriving DecidableEq

structure DecodedWorkItem where
  sequence : Nat := 0
  result : FrameParseResult
deriving DecidableEq

/-- Why a thread throws: something outside, the processing of a payload, or one of
the writer's two checks. -/
inductive Failure where
  | environment (exn : Exn)
  | payload (exn : Exn)
  | duplicateSequence
  | sequenceGap
deriving DecidableEq

/-- The exception. -/
def Failure.exn : Failure → Exn
  | environment exn => exn
  | payload exn => exn
  | duplicateSequence => .runtimeError "duplicate pipeline sequence detected"
  | sequenceGap => .runtimeError "pipeline closed with a sequence gap in decoded results"

/-- The calls of `failPipeline`. -/
inductive FailStage where
  | capturing
  | clearing
  | closingRaw
  | closingDecoded
deriving DecidableEq

/-- `run`, with `submit` and `stopWorkers`. -/
inductive MainPc where
  | receiving
  | pushing (work : RawWorkItem)
  | refused
  | counting
  | failing (exn : Exn) (stage : FailStage)
  | closingRaw
  | joining (next : Nat)
  | closingDecoded
  | joiningWriter
  | rethrowing
  | returned
  | threw (exn : Exn)
deriving DecidableEq

/-- `decoderLoop`. -/
inductive DecoderPc where
  | popping
  | decoding (work : RawWorkItem)
  | pushing (item : DecodedWorkItem)
  | logging
  | failing (exn : Exn) (stage : FailStage)
  | done
deriving DecidableEq

/-- `writerLoop`. -/
inductive WriterPc where
  | popping
  | inserting (item : DecodedWorkItem)
  | finding
  | counting (item : DecodedWorkItem)
  | recording (item : DecodedWorkItem)
  | processing (item : DecodedWorkItem) (frame : TelemetryFrame)
  | writing (item : DecodedWorkItem) (frame : TelemetryFrame)
  | tallying (item : DecodedWorkItem) (frame : TelemetryFrame)
  | logging (item : DecodedWorkItem)
  | erasing (item : DecodedWorkItem)
  | checking
  | storing
  | finishing
  | completed
  | failing (failure : Failure) (stage : FailStage)
  | failed
deriving DecidableEq

/-- A number and what `decodeFrame` says of the bytes with that number. -/
abbrev Entry := Nat × FrameParseResult

def RawWorkItem.entry (work : RawWorkItem) : Entry := (work.sequence, decodeFrame work.bytes)

def DecodedWorkItem.entry (item : DecodedWorkItem) : Entry := (item.sequence, item.result)

structure PipelineState (decoders : Nat) where
  rawQueue : BlockingQueue RawWorkItem
  decodedQueue : BlockingQueue DecodedWorkItem
  failure : Option Failure := none
  running : Bool := true
  nextSequence : Nat := 0
  received : Nat := 0
  applicationErrors : Nat := 0
  main : MainPc := .receiving
  decoder : Fin decoders → DecoderPc := fun _ => .popping
  writer : WriterPc := .popping
  expectedSequence : Nat := 0
  pending : List DecodedWorkItem := []
  work : WriterState
  submitted : List ByteVector := []
  accepted : List ByteVector := []
  delivered : Multiset Entry := 0
  lost : Multiset Entry := 0
  handled : List FrameParseResult := []
  healthUpdates : List HealthUpdate := []

/-- The state after `startWorkers`. -/
def PipelineState.initial (options : Options) (health : StationHealthMonitor) :
    PipelineState options.decoderThreads where
  rawQueue := .create options.queueCapacity
  decodedQueue := .create options.queueCapacity
  work := { health }

section Steps

variable {decoders : Nat}

/-- One call of `failPipeline`; the first exception is kept. -/
def PipelineState.fail (failure : Failure) (stage : FailStage) (state : PipelineState decoders) :
    PipelineState decoders :=
  match stage with
  | .capturing => { state with failure := state.failure.or (some failure) }
  | .clearing => { state with running := false }
  | .closingRaw => { state with rawQueue := state.rawQueue.close }
  | .closingDecoded => { state with decodedQueue := state.decodedQueue.close }

/-- The call after it, if any. -/
def FailStage.next : FailStage → Option FailStage
  | capturing => some clearing
  | clearing => some closingRaw
  | closingRaw => some closingDecoded
  | closingDecoded => none

/-! ## The main thread -/

/-- The calls of `receiveInput` that may throw. -/
def MainPc.MayThrow : MainPc → Prop
  | receiving | pushing _ => True
  | _ => False

/-- A failed input is still followed by `stopWorkers`. -/
def MainPc.afterFail (exn : Exn) (stage : FailStage) : MainPc :=
  match stage.next with
  | some next => failing exn next
  | none => closingRaw

inductive MainStep (state : PipelineState decoders) : PipelineState decoders → Prop where
  | submits (bytes : ByteVector) (receiving : state.main = .receiving) :
      MainStep state
        { state with
          main := .pushing ⟨state.nextSequence, bytes⟩
          nextSequence := state.nextSequence + 1
          submitted := state.submitted ++ [bytes] }
  | pushes {work : RawWorkItem} {queue : BlockingQueue RawWorkItem}
      (pushing : state.main = .pushing work) (pushed : state.rawQueue.push work = some (true, queue)) :
      MainStep state
        { state with rawQueue := queue, main := .counting, accepted := state.accepted ++ [work.bytes] }
  | refuses {work : RawWorkItem} {queue : BlockingQueue RawWorkItem}
      (pushing : state.main = .pushing work) (pushed : state.rawQueue.push work = some (false, queue)) :
      MainStep state { state with rawQueue := queue, main := .refused }
  | stops (refused : state.main = .refused) :
      MainStep state { state with running := false, main := .receiving }
  | counts (counting : state.main = .counting) :
      MainStep state { state with received := state.received + 1, main := .receiving }
  | ends (receiving : state.main = .receiving) : MainStep state { state with main := .closingRaw }
  | throws (exn : Exn) (may : state.main.MayThrow) :
      MainStep state { state with main := .failing exn .capturing }
  | fails {exn : Exn} {stage : FailStage} (failing : state.main = .failing exn stage) :
      MainStep state { state.fail (.environment exn) stage with main := .afterFail exn stage }
  | closesRaw (closing : state.main = .closingRaw) :
      MainStep state { state with rawQueue := state.rawQueue.close, main := .joining 0 }
  | joins {next : Nat} (joining : state.main = .joining next) (below : next < decoders)
      (ended : state.decoder ⟨next, below⟩ = .done) :
      MainStep state { state with main := .joining (next + 1) }
  | joinsAll (joining : state.main = .joining decoders) :
      MainStep state { state with main := .closingDecoded }
  | closesDecoded (closing : state.main = .closingDecoded) :
      MainStep state { state with decodedQueue := state.decodedQueue.close, main := .joiningWriter }
  | joinsWriter (joining : state.main = .joiningWriter)
      (ended : state.writer = .completed ∨ state.writer = .failed) :
      MainStep state { state with main := .rethrowing }
  | returns (rethrowing : state.main = .rethrowing) (clean : state.failure = none) :
      MainStep state { state with main := .returned }
  | rethrows {failure : Failure} (rethrowing : state.main = .rethrowing)
      (caught : state.failure = some failure) :
      MainStep state { state with main := .threw failure.exn }

/-! ## A decoder -/

/-- What a decoder has in hand. -/
def DecoderPc.held : DecoderPc → Multiset Entry
  | decoding work => {work.entry}
  | pushing item => {item.entry}
  | _ => 0

def DecoderPc.MayThrow : DecoderPc → Prop
  | failing _ _ | done => False
  | _ => True

def DecoderPc.afterFail (exn : Exn) (stage : FailStage) : DecoderPc :=
  match stage.next with
  | some next => failing exn next
  | none => done

inductive DecoderStep (i : Fin decoders) (state : PipelineState decoders) :
    PipelineState decoders → Prop where
  | pops {work : RawWorkItem} {queue : BlockingQueue RawWorkItem}
      (popping : state.decoder i = .popping)
      (popped : state.rawQueue.pop = some (some work, queue)) :
      DecoderStep i state
        { state with rawQueue := queue, decoder := Function.update state.decoder i (.decoding work) }
  | finishes {queue : BlockingQueue RawWorkItem} (popping : state.decoder i = .popping)
      (popped : state.rawQueue.pop = some (none, queue)) :
      DecoderStep i state
        { state with rawQueue := queue, decoder := Function.update state.decoder i .done }
  | decodes {work : RawWorkItem} (decoding : state.decoder i = .decoding work) :
      DecoderStep i state
        { state with
          decoder := Function.update state.decoder i
            (.pushing ⟨work.sequence, decodeFrame work.bytes⟩) }
  | pushes {item : DecodedWorkItem} {queue : BlockingQueue DecodedWorkItem}
      (pushing : state.decoder i = .pushing item)
      (pushed : state.decodedQueue.push item = some (true, queue)) :
      DecoderStep i state
        { state with
          decodedQueue := queue
          decoder := Function.update state.decoder i .logging
          delivered := state.delivered + {item.entry} }
  | refuses {item : DecodedWorkItem} {queue : BlockingQueue DecodedWorkItem}
      (pushing : state.decoder i = .pushing item)
      (pushed : state.decodedQueue.push item = some (false, queue)) :
      DecoderStep i state
        { state with
          decodedQueue := queue
          decoder := Function.update state.decoder i .done
          lost := state.lost + {item.entry} }
  | logs (logging : state.decoder i = .logging) :
      DecoderStep i state { state with decoder := Function.update state.decoder i .popping }
  | throws (exn : Exn) (may : (state.decoder i).MayThrow) :
      DecoderStep i state
        { state with
          decoder := Function.update state.decoder i (.failing exn .capturing)
          lost := state.lost + (state.decoder i).held }
  | fails {exn : Exn} {stage : FailStage} (failing : state.decoder i = .failing exn stage) :
      DecoderStep i state
        { state.fail (.environment exn) stage with
          decoder := Function.update state.decoder i (.afterFail exn stage) }

/-! ## The writer -/

/-- The calls of the writer on one result, from `counting` to `erasing`. -/
inductive Handles (options : Options) :
    WriterPc → WriterState → List HealthUpdate → WriterPc → WriterState → List HealthUpdate → Prop where
  | countsDecoded {item : DecodedWorkItem} {frame : TelemetryFrame} {work : WriterState}
      {updates : List HealthUpdate} (result : item.result = .ok frame) :
      Handles options (.counting item) work updates (.recording item) (countDecoded work) updates
  | countsRejected {item : DecodedWorkItem} {error : FrameError} {work : WriterState}
      {updates : List HealthUpdate} (result : item.result = .error error) :
      Handles options (.counting item) work updates (.recording item) (countRejected work) updates
  | recordsDecoded {item : DecodedWorkItem} {frame : TelemetryFrame} {work : WriterState}
      {updates : List HealthUpdate} (result : item.result = .ok frame) :
      Handles options (.recording item) work updates (.processing item frame)
        (recordDecoded frame work) (updates ++ [.decoded frame])
  | recordsRejected {item : DecodedWorkItem} {error : FrameError} {work : WriterState}
      {updates : List HealthUpdate} (result : item.result = .error error) :
      Handles options (.recording item) work updates (.logging item) (recordRejected work)
        (updates ++ [.rejected])
  | processes {item : DecodedWorkItem} {frame : TelemetryFrame} {work next : WriterState}
      {updates : List HealthUpdate}
      (processed : processApplicationPayload options frame work = .ok next) :
      Handles options (.processing item frame) work updates (.writing item frame) next updates
  | writes {item : DecodedWorkItem} {frame : TelemetryFrame} {work : WriterState}
      {updates : List HealthUpdate} :
      Handles options (.writing item frame) work updates (.tallying item frame)
        (exportFrame frame work) updates
  | tallies {item : DecodedWorkItem} {frame : TelemetryFrame} {work : WriterState}
      {updates : List HealthUpdate} :
      Handles options (.tallying item frame) work updates (.logging item) (countWritten work) updates
  | logsDecoded {item : DecodedWorkItem} {frame : TelemetryFrame} {work : WriterState}
      {updates : List HealthUpdate} (result : item.result = .ok frame) :
      Handles options (.logging item) work updates (.erasing item)
        (logDecoded options item.sequence frame work) updates
  | logsRejected {item : DecodedWorkItem} {error : FrameError} {work : WriterState}
      {updates : List HealthUpdate} (result : item.result = .error error) :
      Handles options (.logging item) work updates (.erasing item)
        (logRejected item.sequence error work) updates

def WriterPc.MayThrow : WriterPc → Prop
  | completed | failing _ _ | failed => False
  | _ => True

def WriterPc.afterFail (failure : Failure) (stage : FailStage) : WriterPc :=
  match stage.next with
  | some next => failing failure next
  | none => failed

inductive WriterStep (options : Options) (state : PipelineState decoders) :
    PipelineState decoders → Prop where
  | pops {item : DecodedWorkItem} {queue : BlockingQueue DecodedWorkItem}
      (popping : state.writer = .popping)
      (popped : state.decodedQueue.pop = some (some item, queue)) :
      WriterStep options state { state with decodedQueue := queue, writer := .inserting item }
  | drains {queue : BlockingQueue DecodedWorkItem} (popping : state.writer = .popping)
      (popped : state.decodedQueue.pop = some (none, queue)) :
      WriterStep options state { state with decodedQueue := queue, writer := .checking }
  | inserts {item : DecodedWorkItem} (inserting : state.writer = .inserting item)
      (fresh : ∀ other ∈ state.pending, other.sequence ≠ item.sequence) :
      WriterStep options state { state with pending := item :: state.pending, writer := .finding }
  | duplicates {item other : DecodedWorkItem} (inserting : state.writer = .inserting item)
      (present : other ∈ state.pending) (same : other.sequence = item.sequence) :
      WriterStep options state { state with writer := .failing .duplicateSequence .capturing }
  | finds {item : DecodedWorkItem} (finding : state.writer = .finding)
      (present : item ∈ state.pending) (next : item.sequence = state.expectedSequence) :
      WriterStep options state { state with writer := .counting item }
  | waits (finding : state.writer = .finding)
      (missing : ∀ item ∈ state.pending, item.sequence ≠ state.expectedSequence) :
      WriterStep options state { state with writer := .popping }
  | handles {writer : WriterPc} {work : WriterState} {updates : List HealthUpdate}
      (handling : Handles options state.writer state.work state.healthUpdates writer work updates) :
      WriterStep options state { state with writer, work, healthUpdates := updates }
  | erases {item : DecodedWorkItem} (erasing : state.writer = .erasing item) :
      WriterStep options state
        { state with
          pending := state.pending.erase item
          expectedSequence := state.expectedSequence + 1
          handled := state.handled ++ [item.result]
          writer := .finding }
  | checks (checking : state.writer = .checking) (empty : state.pending = []) :
      WriterStep options state { state with writer := .storing }
  | gap (checking : state.writer = .checking) (left : state.pending ≠ []) :
      WriterStep options state { state with writer := .failing .sequenceGap .capturing }
  | stores (storing : state.writer = .storing) :
      WriterStep options state
        { state with applicationErrors := state.work.applicationErrors, writer := .finishing }
  | finishes (finishing : state.writer = .finishing) :
      WriterStep options state { state with writer := .completed }
  | throwsPayload {item : DecodedWorkItem} {frame : TelemetryFrame} {exn : Exn}
      (processing : state.writer = .processing item frame)
      (processed : processApplicationPayload options frame state.work = .error exn) :
      WriterStep options state { state with writer := .failing (.payload exn) .capturing }
  | throws (exn : Exn) (may : state.writer.MayThrow) :
      WriterStep options state { state with writer := .failing (.environment exn) .capturing }
  | fails {failure : Failure} {stage : FailStage} (failing : state.writer = .failing failure stage) :
      WriterStep options state { state.fail failure stage with writer := .afterFail failure stage }

end Steps

/-- **The pipeline**: any thread may take the next step. -/
def pipeline (options : Options) (health : StationHealthMonitor) :
    System (PipelineState options.decoderThreads) where
  start state := state = PipelineState.initial options health
  step state next :=
    MainStep state next ∨ (∃ i, DecoderStep i state next) ∨ WriterStep options state next

end Stgs.Station
