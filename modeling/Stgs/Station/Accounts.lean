/-
# Station.Accounts -- where every submitted vector is

A vector the raw queue accepted is in that queue, in the hands of a decoder, lost,
or delivered to the decoded queue, under the number of its arrival.  Every step
keeps this account (`accounts`).  Without a failure everything accepted has been
delivered when the decoded queue is closed (`delivered_all`).
-/
import Stgs.Station.Shutdown

namespace Stgs.Station

open Stgs.Concurrent Stgs.Theory.Ledger Stgs.Theory.Transition Stgs.Wire

set_option autoImplicit false

variable {decoders : Nat}

/-! ## The account of the raw side -/

/-- A push not yet counted. -/
def MainPc.uncounted : MainPc → Nat
  | counting => 1
  | _ => 0

namespace PipelineState

/-- What `decodeFrame` says of the accepted vectors. -/
def results (state : PipelineState decoders) : List FrameParseResult :=
  state.accepted.map decodeFrame

def rawEntries (state : PipelineState decoders) : Multiset Entry :=
  ↑(state.rawQueue.queue.map RawWorkItem.entry)

/-- What the decoders have in hand. -/
def inDecoders (state : PipelineState decoders) : Multiset Entry :=
  ∑ i, (state.decoder i).held

/-- A failure closed the raw queue. -/
def RawAborted (state : PipelineState decoders) : Prop :=
  state.rawQueue.closed = true ∧ state.failure.isSome = true

/-- What was submitted was accepted, but for the vector in the main thread's hand
and those after a failure. -/
def SubmitOk (state : PipelineState decoders) : MainPc → Prop
  | .pushing work =>
      (work.sequence = state.accepted.length ∧ state.accepted ++ [work.bytes] = state.submitted) ∨
        state.RawAborted
  | .failing _ _ => True
  | _ => state.accepted = state.submitted ∨ state.RawAborted

end PipelineState

structure Accounts (state : PipelineState decoders) : Prop where
  numbered : state.rawEntries + state.inDecoders + state.lost + state.delivered =
    enumerate state.results
  kept : state.accepted <+: state.submitted
  sequence : state.nextSequence = state.submitted.length
  received : state.received + state.main.uncounted = state.accepted.length
  place : state.SubmitOk state.main

theorem accounts_initial (options : Options) (health : StationHealthMonitor) :
    Accounts (PipelineState.initial options health) where
  numbered := by
    have held : (PipelineState.initial options health).inDecoders = 0 :=
      Finset.sum_eq_zero fun _ _ => rfl
    rw [held]
    rfl
  kept := List.prefix_rfl
  sequence := rfl
  received := rfl
  place := Or.inl rfl

theorem Later.rawAborted {state next : PipelineState decoders} (later : Later state next)
    (aborted : state.RawAborted) : next.RawAborted :=
  ⟨later.raw.closed aborted.1, later.failure aborted.2⟩

/-- What the main thread's place tells of the submissions stays under the others'
steps. -/
theorem Later.submitOk {state next : PipelineState decoders} (later : Later state next)
    (accepted : next.accepted = state.accepted) (submitted : next.submitted = state.submitted)
    {pc : MainPc} (ok : state.SubmitOk pc) : next.SubmitOk pc := by
  cases pc with
  | pushing work =>
      refine ok.imp (fun same => ?_) later.rawAborted
      rwa [accepted, submitted]
  | failing exn stage => trivial
  | _ =>
      refine Or.imp (fun same => ?_) later.rawAborted ok
      rwa [accepted, submitted]

theorem accounts_main {state next : PipelineState decoders} (inv : Shutdown state)
    (accounts : Accounts state) (step : MainStep state next) : Accounts next := by
  have later := mainStep_later step
  have place := accounts.place
  have received := accounts.received
  cases step with
  | submits bytes receiving =>
      rw [receiving] at place received
      refine ⟨accounts.numbered, accounts.kept.trans (List.prefix_append _ _), ?_, received, ?_⟩
      · rw [List.length_append, List.length_singleton, accounts.sequence]
      · refine place.imp (fun same => ?_) later.rawAborted
        exact ⟨by rw [accounts.sequence, same], by rw [same]⟩
  | @pushes work queue pushing pushed =>
      obtain ⟨isOpen, _, queued⟩ := BlockingQueue.push_accepted pushed
      rw [pushing] at place received
      obtain ⟨number, same⟩ := place.resolve_right fun aborted => by
        simp [PipelineState.RawAborted, isOpen] at aborted
      have entry : work.entry = (state.results.length, decodeFrame work.bytes) := by
        rw [RawWorkItem.entry, number, PipelineState.results, List.length_map]
      refine ⟨?_, ?_, accounts.sequence, ?_, Or.inl same⟩
      · simp only [PipelineState.results, List.map_append, List.map_singleton, enumerate_concat,
          PipelineState.rawEntries, queued, ← Multiset.coe_add, Multiset.coe_singleton]
        have before := accounts.numbered
        rw [PipelineState.results] at before entry
        rw [← before, entry, PipelineState.rawEntries, PipelineState.inDecoders,
          PipelineState.inDecoders]
        abel
      · rw [same]
      · rw [List.length_append, List.length_singleton, ← received]
        rfl
  | @refuses work queue pushing pushed =>
      obtain ⟨closed, rfl⟩ := BlockingQueue.push_refused pushed
      have guarded := inv.main
      rw [pushing] at guarded received
      exact ⟨accounts.numbered, accounts.kept, accounts.sequence, received,
        Or.inr ⟨closed, guarded.1 closed⟩⟩
  | throws exn may =>
      refine ⟨accounts.numbered, accounts.kept, accounts.sequence, ?_, trivial⟩
      cases here : state.main with
      | receiving =>
          rw [here] at received
          exact received
      | pushing work =>
          rw [here] at received
          exact received
      | _ =>
          rw [here] at may
          exact may.elim
  | @fails exn stage failing =>
      have stopping := inv.main
      rw [failing] at received stopping
      have uncounted : (MainPc.afterFail exn stage).uncounted = 0 := by cases stage <;> rfl
      have aborted : stage.next = none → (state.fail (.environment exn) stage).RawAborted := by
        intro last
        cases stage with
        | closingDecoded => exact ⟨stopping.2.2, stopping.2.1⟩
        | _ => cases last
      have ok : (state.fail (.environment exn) stage).SubmitOk (.afterFail exn stage) := by
        cases follows : stage.next with
        | some following => simp only [MainPc.afterFail, follows, PipelineState.SubmitOk]
        | none =>
            simp only [MainPc.afterFail, follows]
            exact Or.inr (aborted follows)
      cases stage with
      | _ => exact ⟨accounts.numbered, accounts.kept, accounts.sequence, received, ok⟩
  | closesRaw closing =>
      rw [closing] at place received
      exact ⟨accounts.numbered, accounts.kept, accounts.sequence, received,
        place.imp_right later.rawAborted⟩
  | stops here | counts here | ends here | joins here below ended | joinsAll here
  | closesDecoded here | joinsWriter here ended | returns here clean | rethrows here caught =>
      -- the queue and the records are left alone, and the new place claims no more
      rw [here] at place received
      exact ⟨accounts.numbered, accounts.kept, accounts.sequence, received, place⟩

/-- What a decoder gains, the rest loses. -/
theorem numbered_update {i : Fin decoders} {after : DecoderPc} {state next : PipelineState decoders}
    (update : next.decoder = Function.update state.decoder i after)
    (balance : next.rawEntries + after.held + next.lost + next.delivered =
      state.rawEntries + (state.decoder i).held + state.lost + state.delivered) :
    next.rawEntries + next.inDecoders + next.lost + next.delivered =
      state.rawEntries + state.inDecoders + state.lost + state.delivered := by
  have moved : next.inDecoders + (state.decoder i).held = state.inDecoders + after.held := by
    rw [PipelineState.inDecoders, update]
    exact sum_update DecoderPc.held state.decoder i after
  refine add_right_cancel (b := (state.decoder i).held) ?_
  calc next.rawEntries + next.inDecoders + next.lost + next.delivered + (state.decoder i).held
      = next.rawEntries + next.lost + next.delivered +
          (next.inDecoders + (state.decoder i).held) := by abel
    _ = state.inDecoders + (next.rawEntries + after.held + next.lost + next.delivered) := by
        rw [moved]
        abel
    _ = state.rawEntries + state.inDecoders + state.lost + state.delivered +
          (state.decoder i).held := by
        rw [balance]
        abel

/-- **A decoder moves an entry or leaves it.** -/
theorem decoderStep_numbered {i : Fin decoders} {state next : PipelineState decoders}
    (step : DecoderStep i state next) :
    next.rawEntries + next.inDecoders + next.lost + next.delivered =
      state.rawEntries + state.inDecoders + state.lost + state.delivered := by
  cases step with
  | @pops work queue popping popped =>
      obtain ⟨front, _⟩ := BlockingQueue.pop_value popped
      refine numbered_update rfl ?_
      simp only [PipelineState.rawEntries, front, popping, DecoderPc.held, List.map_cons,
        ← Multiset.cons_coe, ← Multiset.singleton_add]
      abel
  | finishes popping popped =>
      obtain ⟨_, _, rfl⟩ := BlockingQueue.pop_nothing popped
      exact numbered_update rfl (by rw [popping]; rfl)
  | decodes decoding => exact numbered_update rfl (by rw [decoding]; rfl)
  | @pushes item queue pushing pushed =>
      refine numbered_update rfl ?_
      simp only [PipelineState.rawEntries, pushing, DecoderPc.held]
      abel
  | @refuses item queue pushing pushed =>
      refine numbered_update rfl ?_
      simp only [PipelineState.rawEntries, pushing, DecoderPc.held]
      abel
  | logs logging => exact numbered_update rfl (by rw [logging]; rfl)
  | throws exn may =>
      refine numbered_update rfl ?_
      simp only [PipelineState.rawEntries, DecoderPc.held]
      abel
  | @fails exn stage failing =>
      refine numbered_update rfl ?_
      have empty : (DecoderPc.afterFail exn stage).held = 0 := by cases stage <;> rfl
      rw [empty, failing]
      simp only [PipelineState.rawEntries, fail_rawQueue_queue, fail_lost, fail_delivered,
        DecoderPc.held]

/-- A decoder submits nothing. -/
theorem decoderStep_submissions {i : Fin decoders} {state next : PipelineState decoders}
    (step : DecoderStep i state next) :
    next.accepted = state.accepted ∧ next.submitted = state.submitted ∧
      next.nextSequence = state.nextSequence ∧ next.received = state.received := by
  cases step with
  | @fails exn stage failing => cases stage <;> exact ⟨rfl, rfl, rfl, rfl⟩
  | _ => exact ⟨rfl, rfl, rfl, rfl⟩

/-- A step that leaves the submissions alone and loses nothing keeps the accounts. -/
theorem Accounts.outside {state next : PipelineState decoders} (accounts : Accounts state)
    (later : Later state next) (main : next.main = state.main)
    (accepted : next.accepted = state.accepted) (submitted : next.submitted = state.submitted)
    (sequence : next.nextSequence = state.nextSequence) (received : next.received = state.received)
    (balance : next.rawEntries + next.inDecoders + next.lost + next.delivered =
      state.rawEntries + state.inDecoders + state.lost + state.delivered) : Accounts next where
  numbered := by
    rw [balance, PipelineState.results, accepted]
    exact accounts.numbered
  kept := by
    rw [accepted, submitted]
    exact accounts.kept
  sequence := by
    rw [sequence, submitted]
    exact accounts.sequence
  received := by
    rw [received, main, accepted]
    exact accounts.received
  place := by
    rw [main]
    exact later.submitOk accepted submitted accounts.place

theorem accounts_decoder {i : Fin decoders} {state next : PipelineState decoders}
    (accounts : Accounts state) (step : DecoderStep i state next) : Accounts next := by
  obtain ⟨accepted, submitted, sequence, received⟩ := decoderStep_submissions step
  obtain ⟨main, _, _⟩ := decoderStep_frame step
  refine accounts.outside (decoderStep_later step) main accepted submitted sequence received ?_
  exact decoderStep_numbered step

/-- The writer touches nothing on the raw side but, failing, the queue's switch. -/
theorem writerStep_submissions {options : Options} {state next : PipelineState decoders}
    (step : WriterStep options state next) :
    next.accepted = state.accepted ∧ next.submitted = state.submitted ∧
      next.nextSequence = state.nextSequence ∧ next.received = state.received ∧
        next.delivered = state.delivered ∧ next.rawEntries = state.rawEntries := by
  cases step with
  | @fails failure stage failing => cases stage <;> exact ⟨rfl, rfl, rfl, rfl, rfl, rfl⟩
  | _ => exact ⟨rfl, rfl, rfl, rfl, rfl, rfl⟩

theorem accounts_writer {options : Options} {state next : PipelineState decoders}
    (accounts : Accounts state) (step : WriterStep options state next) : Accounts next := by
  obtain ⟨accepted, submitted, sequence, received, delivered, raw⟩ := writerStep_submissions step
  obtain ⟨main, decoder, lost⟩ := writerStep_frame step
  refine accounts.outside (writerStep_later step) main accepted submitted sequence received ?_
  rw [raw, PipelineState.inDecoders, PipelineState.inDecoders, decoder, lost, delivered]

/-- **No vector is lost from sight**: the accounts hold in every reachable state. -/
theorem accounts {options : Options} {health : StationHealthMonitor}
    {state : PipelineState options.decoderThreads}
    (reachable : (pipeline options health).Reachable state) : Accounts state := by
  refine System.invariant_of (fun _ => shutdown) ?_ ?_ reachable
  · rintro _ rfl
    exact accounts_initial options health
  · rintro state next inv accounts (step | ⟨i, step⟩ | step)
    · exact accounts_main inv accounts step
    · exact accounts_decoder accounts step
    · exact accounts_writer accounts step

/-! ## When the decoders are gone -/

/-- Once all decoders left and no failure closed the decoded queue, everything
accepted has been delivered. -/
theorem delivered_of_allDone {state : PipelineState decoders} (workers : 0 < decoders)
    (inv : Shutdown state) (accounts : Accounts state) (done : state.AllDone)
    (clean : ¬ state.Aborted) : state.delivered = enumerate state.results := by
  have first := inv.decoder ⟨0, workers⟩
  rw [done] at first
  have drained : state.rawEntries = 0 := by
    rw [PipelineState.rawEntries, (first.resolve_right clean).2]
    rfl
  have held : state.inDecoders = 0 := by
    refine Finset.sum_eq_zero fun i _ => ?_
    rw [done]
    rfl
  have lost : state.lost = 0 := by
    by_contra some
    rcases inv.lost some with ⟨i, exn, stage, failing⟩ | aborted
    · rw [done] at failing
      cases failing
    · exact clean aborted
  have numbered := accounts.numbered
  rwa [drained, held, lost, zero_add, zero_add, zero_add] at numbered

/-- **Without a failure nothing is missing** behind a closed decoded queue. -/
theorem delivered_all {state : PipelineState decoders} (workers : 0 < decoders)
    (inv : Shutdown state) (accounts : Accounts state) (clean : state.failure = none)
    (closed : state.decodedQueue.closed = true) :
    state.AllDone ∧ state.delivered = enumerate state.results := by
  have unaborted : ¬ state.Aborted := fun aborted => by simp [PipelineState.Aborted, clean] at aborted
  have done : state.AllDone := by
    intro i
    by_contra working
    exact unaborted (inv.aborted_of_closed working closed)
  exact ⟨done, delivered_of_allDone workers inv accounts done unaborted⟩

end Stgs.Station
