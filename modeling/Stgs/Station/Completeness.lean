/-
# Station.Completeness -- a finished export and what it lacks

The writer finishes the export when the decoded queue is closed and drained and its
map is empty.  A hole in the middle leaves something in the map.  A cut at the end
does not: if `failPipeline` closes the decoded queue when what was delivered are
exactly the first results, and not all, the writer takes them for everything
(`CutsPrefix`).

`finish_complete_iff`: in a run without such a step the finished export is complete;
after such a step it is not.  `stopWorkers` never makes one.
-/
import Stgs.Station.Ordering
import Stgs.Wire.Replay

namespace Stgs.Station

open Stgs.Concurrent Stgs.Theory.Ledger Stgs.Theory.Transition Stgs.Wire

set_option autoImplicit false

variable {decoders : Nat}

/-- The step closes the decoded queue on a writer that has not thrown, while what was
delivered are the first of the accepted items and not all of them. -/
structure CutsPrefix (state next : PipelineState decoders) : Prop where
  isOpen : state.decodedQueue.closed = false
  closes : next.decodedQueue.closed = true
  healthy : state.WriterHealthy
  first : ∀ entry ∈ state.delivered, entry.1 < state.delivered.card
  some : state.delivered.card < state.accepted.length

/-- What is delivered was accepted. -/
theorem Accounts.delivered_card_le {state : PipelineState decoders} (raw : Accounts state) :
    state.delivered.card ≤ state.accepted.length := by
  have part : state.delivered ≤ enumerate state.results := by
    rw [← raw.numbered]
    exact Multiset.le_add_left _ _
  have cards := Multiset.card_le_card part
  rwa [card_enumerate, PipelineState.results, List.length_map] at cards

/-! ## Behind a closed decoded queue -/

/-- **A step that leaves the decoded queue closed** accepts and delivers nothing. -/
theorem closed_frozen {options : Options} {health : StationHealthMonitor}
    {state next : PipelineState options.decoderThreads} (inv : Shutdown state)
    (step : (pipeline options health).step state next) (closed : next.decodedQueue.closed = true) :
    next.accepted = state.accepted ∧ next.delivered = state.delivered := by
  rcases step with step | ⟨i, step⟩ | step
  · refine ⟨?_, (mainStep_delivered step).2⟩
    cases step with
    | pushes pushing pushed =>
        obtain ⟨isOpen, _, _⟩ := BlockingQueue.push_accepted pushed
        simp [inv.rawFirst closed] at isOpen
    | @fails exn stage failing => cases stage <;> rfl
    | _ => rfl
  · refine ⟨(decoderStep_submissions step).1, ?_⟩
    rcases decoderStep_delivered step with ⟨_, same⟩ | ⟨_, still, _⟩
    · exact same
    · simp [closed] at still
  · obtain ⟨accepted, _, _, _, delivered, _⟩ := writerStep_submissions step
    exact ⟨accepted, delivered⟩

/-- A step may fail the writer, not heal it. -/
theorem step_healthy {options : Options} {health : StationHealthMonitor}
    {state next : PipelineState options.decoderThreads}
    (step : (pipeline options health).step state next) (healthy : next.WriterHealthy) :
    state.WriterHealthy := by
  rcases step with step | ⟨i, step⟩ | step
  · exact (mainStep_sameWriter step).healthy.mp healthy
  · exact (decoderStep_sameWriter step).healthy.mp healthy
  · exact writerStep_healthy step healthy

/-- What is delivered behind a closed queue is everything, or has a hole. -/
def WholeOrHoled (state : PipelineState decoders) : Prop :=
  state.decodedQueue.closed = true → state.WriterHealthy →
    state.delivered.card = state.accepted.length ∨
      ∃ entry ∈ state.delivered, state.delivered.card ≤ entry.1

theorem wholeOrHoled {options : Options} {health : StationHealthMonitor}
    {state : PipelineState options.decoderThreads}
    (reachable : ((pipeline options health).restrict fun state next =>
      ¬ CutsPrefix state next).Reachable state) : WholeOrHoled state := by
  refine System.invariant_of (fun _ reached => reached.of_restrict) ?_ ?_ reachable
  · rintro _ rfl closed
    cases closed
  · rintro state next reached whole ⟨step, uncut⟩ closed healthy
    obtain ⟨accepted, delivered⟩ := closed_frozen (shutdown reached) step closed
    rw [accepted, delivered]
    have before := step_healthy step healthy
    cases was : state.decodedQueue.closed with
    | true => exact whole was before
    | false =>
        by_cases all : state.accepted.length ≤ state.delivered.card
        · exact Or.inl (Nat.le_antisymm (accounts reached).delivered_card_le all)
        · refine Or.inr ?_
          by_contra hole
          refine uncut ⟨was, closed, before, fun entry member => ?_, Nat.lt_of_not_le all⟩
          by_contra beyond
          exact hole ⟨entry, member, Nat.le_of_not_lt beyond⟩

/-- The queue is closed on a part of the accepted items. -/
def CutShort (state : PipelineState decoders) : Prop :=
  state.decodedQueue.closed = true ∧ state.delivered.card < state.accepted.length

/-- After a cut it stays so. -/
theorem after_cut {options : Options} {health : StationHealthMonitor}
    {state : PipelineState options.decoderThreads}
    (after : (pipeline options health).After CutsPrefix state) : CutShort state := by
  refine System.After.invariant ?_ ?_ after
  · intro state next reached step cut
    obtain ⟨accepted, delivered⟩ := closed_frozen (shutdown reached) step cut.closes
    rw [CutShort, accepted, delivered]
    exact ⟨cut.closes, cut.some⟩
  · rintro state next reached ⟨closed, part⟩ step
    have still : next.decodedQueue.closed = true := by
      rcases step with step | ⟨i, step⟩ | step
      · exact (mainStep_later step).decoded.closed closed
      · exact (decoderStep_later step).decoded.closed closed
      · exact (writerStep_later step).decoded.closed closed
    obtain ⟨accepted, delivered⟩ := closed_frozen (shutdown reached) step still
    rw [CutShort, accepted, delivered]
    exact ⟨still, part⟩

/-- A writer about to finish has handled exactly what was delivered. -/
theorem finishing_handled {options : Options} {health : StationHealthMonitor}
    {state : PipelineState options.decoderThreads}
    (reachable : (pipeline options health).Reachable state) (finishing : state.writer = .finishing) :
    state.decodedQueue.closed = true ∧ state.WriterHealthy ∧
      enumerate state.handled = state.delivered ∧ state.handled <+: state.results := by
  have healthy : state.WriterHealthy := by simp [PipelineState.WriterHealthy, finishing]
  have writer := writerAccounts reachable healthy
  have place := (shutdown reachable).writer
  rw [finishing] at place
  have all := writer.all_handled place.1.2 place.2 (by rw [finishing]; rfl)
  exact ⟨place.1.1, healthy, all, writer.handled_in_order (accounts reachable)⟩

/-- **When a finished export is complete.**  In every run, if the writer comes to
`output_.finish()`: it has handled every accepted item if no step cut the delivered
items short, and it has not if one did. -/
theorem finish_complete_iff (options : Options) (health : StationHealthMonitor)
    (state : PipelineState options.decoderThreads) (finishing : state.writer = .finishing) :
    (((pipeline options health).restrict fun state next => ¬ CutsPrefix state next).Reachable state →
        state.handled = state.accepted.map decodeFrame) ∧
      ((pipeline options health).After CutsPrefix state →
        state.handled ≠ state.accepted.map decodeFrame) := by
  constructor
  · intro uncut
    obtain ⟨closed, healthy, all, ordered⟩ := finishing_handled uncut.of_restrict finishing
    have cards : state.delivered.card = state.handled.length := by rw [← all, card_enumerate]
    refine ordered.eq_of_length ?_
    rw [PipelineState.results, List.length_map, ← cards]
    refine (wholeOrHoled uncut closed healthy).resolve_right ?_
    rintro ⟨entry, member, beyond⟩
    rw [← all] at member
    have inside := lt_length_of_mem member
    omega
  · intro cut complete
    obtain ⟨_, _, all, _⟩ := finishing_handled cut.reachable finishing
    have part := (after_cut cut).2
    rw [← all, card_enumerate, complete, List.length_map] at part
    exact Nat.lt_irrefl _ part

/-- **`stopWorkers` cuts nothing**: it closes the decoded queue when all decoders have
left, and then either everything was delivered or a failure closed it before. -/
theorem closesDecoded_uncut {options : Options} {health : StationHealthMonitor}
    (workers : 0 < options.decoderThreads) {state : PipelineState options.decoderThreads}
    (reachable : (pipeline options health).Reachable state)
    (closing : state.main = .closingDecoded) (next : PipelineState options.decoderThreads) :
    ¬ CutsPrefix state next := by
  intro cut
  have place := (shutdown reachable).main
  rw [closing] at place
  have unaborted : ¬ state.Aborted := by simp [PipelineState.Aborted, cut.isOpen]
  have whole := delivered_of_allDone workers (shutdown reachable) (accounts reachable) place.2.2
    unaborted
  have part := cut.some
  rw [whole, card_enumerate, PipelineState.results, List.length_map] at part
  exact Nat.lt_irrefl _ part

/-- A run with one vector that nothing cuts: its export is complete. -/
theorem finish_complete_one : ∃ state : PipelineState udpOptions.decoderThreads,
    ((pipeline udpOptions freshWriter.health).restrict fun state next =>
      ¬ CutsPrefix state next).Reachable state ∧ state.writer = .finishing ∧
        state.accepted = [[]] ∧ state.handled = state.accepted.map decodeFrame := by
  let item : DecodedWorkItem := ⟨0, decodeFrame []⟩
  have early {state next : PipelineState udpOptions.decoderThreads}
      (isOpen : next.decodedQueue.closed = false) : ¬ CutsPrefix state next :=
    fun cut => Bool.false_ne_true (isOpen.symm.trans cut.closes)
  have late {state next : PipelineState udpOptions.decoderThreads}
      (closed : state.decodedQueue.closed = true) : ¬ CutsPrefix state next :=
    fun cut => Bool.false_ne_true (cut.isOpen.symm.trans closed)
  have run := @System.Reachable.start _ ((pipeline udpOptions freshWriter.health).restrict
    fun state next => ¬ CutsPrefix state next) _ rfl
  -- the main thread pushes the vector and stops
  replace run := run.step ⟨Or.inl (.submits [] rfl), early rfl⟩
  replace run := run.step ⟨Or.inl (.pushes rfl rfl), early rfl⟩
  replace run := run.step ⟨Or.inl (.counts rfl), early rfl⟩
  replace run := run.step ⟨Or.inl (.ends rfl), early rfl⟩
  replace run := run.step ⟨Or.inl (.closesRaw rfl), early rfl⟩
  -- the first decoder decodes it; both leave
  replace run := run.step ⟨Or.inr (Or.inl ⟨⟨0, by decide⟩, .pops rfl rfl⟩), early rfl⟩
  replace run := run.step ⟨Or.inr (Or.inl ⟨⟨0, by decide⟩, .decodes rfl⟩), early rfl⟩
  replace run := run.step ⟨Or.inr (Or.inl ⟨⟨0, by decide⟩, .pushes rfl rfl⟩), early rfl⟩
  replace run := run.step ⟨Or.inr (Or.inl ⟨⟨0, by decide⟩, .logs rfl⟩), early rfl⟩
  replace run := run.step ⟨Or.inr (Or.inl ⟨⟨0, by decide⟩, .finishes rfl rfl⟩), early rfl⟩
  replace run := run.step ⟨Or.inr (Or.inl ⟨⟨1, by decide⟩, .finishes rfl rfl⟩), early rfl⟩
  replace run := run.step ⟨Or.inl (.joins rfl (by decide) rfl), early rfl⟩
  replace run := run.step ⟨Or.inl (.joins rfl (by decide) rfl), early rfl⟩
  replace run := run.step ⟨Or.inl (.joinsAll rfl), early rfl⟩
  replace run := run.step
    ⟨Or.inl (.closesDecoded rfl), closesDecoded_uncut (by decide) run.of_restrict rfl _⟩
  -- the writer
  replace run := run.step ⟨Or.inr (Or.inr (.pops rfl rfl)), late rfl⟩
  replace run := run.step ⟨Or.inr (Or.inr (.inserts rfl nofun)), late rfl⟩
  replace run := run.step ⟨Or.inr (Or.inr (.finds rfl (List.mem_singleton_self _) rfl)), late rfl⟩
  replace run := run.step ⟨Or.inr (Or.inr (.handles (.countsRejected rfl))), late rfl⟩
  replace run := run.step ⟨Or.inr (Or.inr (.handles (.recordsRejected rfl))), late rfl⟩
  replace run := run.step ⟨Or.inr (Or.inr (.handles (.logsRejected rfl))), late rfl⟩
  replace run := run.step ⟨Or.inr (Or.inr (.erases rfl)), late rfl⟩
  -- the map is empty again
  have erased : List.erase [item] item = [] := List.erase_cons_head ..
  have missing (other : DecodedWorkItem) (member : other ∈ List.erase [item] item) (number : Nat) :
      other.sequence ≠ number := by
    rw [erased] at member
    cases member
  replace run := run.step
    ⟨Or.inr (Or.inr (.waits rfl fun other member => missing other member _)), late rfl⟩
  replace run := run.step ⟨Or.inr (Or.inr (.drains rfl rfl)), late rfl⟩
  replace run := run.step ⟨Or.inr (Or.inr (.checks rfl erased)), late rfl⟩
  replace run := run.step ⟨Or.inr (Or.inr (.stores rfl)), late rfl⟩
  exact ⟨_, run, rfl, rfl, (finish_complete_iff _ _ _ rfl).1 run⟩

/-! ## A capture with one record and a piece of another -/

/-- One record of the smallest size. -/
def blankRecord : ByteVector := List.replicate minFrameSize 0

/-- The capture ends within the length of its second record. -/
def truncatedCapture : ByteVector := capture [blankRecord] ++ [0, 0]

def truncation : Exn := .runtimeError "truncated frame length in replay file"

theorem truncatedCapture_read :
    (FrameFileReader.create truncatedCapture).map FrameFileReader.readAll =
      .ok ([blankRecord], some truncation) := by
  decide +kernel

/-- **A truncated capture exports nothing and is finished as complete.**  The main
thread pushes the one record and then throws; it closes both queues before a decoder
has run; the writer finds the decoded queue closed and drained and its map empty. -/
theorem finish_incomplete :
    ¬ ∀ (options : Options) (health : StationHealthMonitor)
      (state : PipelineState options.decoderThreads), 1 ≤ options.decoderThreads →
        (pipeline options health).Reachable state → state.writer = .finishing →
          state.handled = state.accepted.map decodeFrame := by
  intro complete
  have run := @System.Reachable.start _ (pipeline udpOptions freshWriter.health) _ rfl
  replace run := run.step (Or.inl (.submits blankRecord rfl))
  replace run := run.step (Or.inl (.pushes rfl rfl))
  replace run := run.step (Or.inl (.counts rfl))
  replace run := run.step (Or.inl (.throws truncation trivial))
  -- `failPipeline`
  replace run := run.step (Or.inl (.fails rfl))
  replace run := run.step (Or.inl (.fails rfl))
  replace run := run.step (Or.inl (.fails rfl))
  replace run := run.step (Or.inl (.fails rfl))
  -- the writer
  replace run := run.step (Or.inr (Or.inr (.drains rfl rfl)))
  replace run := run.step (Or.inr (Or.inr (.checks rfl rfl)))
  replace run := run.step (Or.inr (Or.inr (.stores rfl)))
  have nothing := complete _ _ _ (by decide) run rfl
  cases nothing

end Stgs.Station
