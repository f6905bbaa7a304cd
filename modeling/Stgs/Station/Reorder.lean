/-
# Station.Reorder -- the map that puts the results back in order

As long as the writer has not thrown, what was delivered to the decoded queue is in
that queue, in the writer's hand, in its map, or handled; and the number the writer
waits for is not in its map (`WriterAccounts`).  So what it handles are the first
results in order, no number reaches it twice, and a gap at the end means that
something was lost to a failure.
-/
import Stgs.Station.Accounts

namespace Stgs.Station

open Stgs.Concurrent Stgs.Theory.Ledger Stgs.Theory.Transition Stgs.Wire

set_option autoImplicit false

variable {decoders : Nat}

/-! ## The account of the writer -/

/-- What the writer took from the queue and has not put in the map. -/
def WriterPc.inHand : WriterPc → Multiset Entry
  | inserting item => {item.entry}
  | _ => 0

namespace PipelineState

def decodedEntries (state : PipelineState decoders) : Multiset Entry :=
  ↑(state.decodedQueue.queue.map DecodedWorkItem.entry)

def pendingEntries (state : PipelineState decoders) : Multiset Entry :=
  ↑(state.pending.map DecodedWorkItem.entry)

/-- The item is the one the writer waited for. -/
def Current (state : PipelineState decoders) (item : DecodedWorkItem) : Prop :=
  item ∈ state.pending ∧ item.sequence = state.expectedSequence

/-- The number the writer waits for is not in its map. -/
def Waiting (state : PipelineState decoders) : Prop :=
  ∀ item ∈ state.pending, item.sequence ≠ state.expectedSequence

/-- What the writer's place tells of its map. -/
def WriterPlace (state : PipelineState decoders) : WriterPc → Prop
  | .popping | .inserting _ | .checking | .storing => state.Waiting
  | .finishing | .completed => state.Waiting ∧ state.applicationErrors = state.work.applicationErrors
  | .counting item | .recording item | .logging item | .erasing item => state.Current item
  | .processing item frame | .writing item frame | .tallying item frame =>
      state.Current item ∧ item.result = .ok frame
  | _ => True

end PipelineState

structure WriterAccounts (state : PipelineState decoders) : Prop where
  numbered : state.decodedEntries + state.writer.inHand + state.pendingEntries +
    enumerate state.handled = state.delivered
  expected : state.expectedSequence = state.handled.length
  place : state.WriterPlace state.writer

theorem writerAccounts_initial (options : Options) (health : StationHealthMonitor) :
    WriterAccounts (PipelineState.initial options health) where
  numbered := rfl
  expected := rfl
  place := nofun

/-! ## Steps of the other threads -/

/-- What only the writer changes. -/
structure SameWriter (state next : PipelineState decoders) : Prop where
  writer : next.writer = state.writer
  expectedSequence : next.expectedSequence = state.expectedSequence
  pending : next.pending = state.pending
  work : next.work = state.work
  handled : next.handled = state.handled
  healthUpdates : next.healthUpdates = state.healthUpdates
  applicationErrors : next.applicationErrors = state.applicationErrors

theorem mainStep_sameWriter {state next : PipelineState decoders} (step : MainStep state next) :
    SameWriter state next := by
  cases step with
  | @fails exn stage failing => cases stage <;> exact ⟨rfl, rfl, rfl, rfl, rfl, rfl, rfl⟩
  | _ => exact ⟨rfl, rfl, rfl, rfl, rfl, rfl, rfl⟩

theorem decoderStep_sameWriter {i : Fin decoders} {state next : PipelineState decoders}
    (step : DecoderStep i state next) : SameWriter state next := by
  cases step with
  | @fails exn stage failing => cases stage <;> exact ⟨rfl, rfl, rfl, rfl, rfl, rfl, rfl⟩
  | _ => exact ⟨rfl, rfl, rfl, rfl, rfl, rfl, rfl⟩

/-- The main thread delivers nothing. -/
theorem mainStep_delivered {state next : PipelineState decoders} (step : MainStep state next) :
    next.decodedEntries = state.decodedEntries ∧ next.delivered = state.delivered := by
  cases step with
  | @fails exn stage failing => cases stage <;> exact ⟨rfl, rfl⟩
  | _ => exact ⟨rfl, rfl⟩

/-- What a decoder delivers is in the decoded queue, and the queue was open. -/
theorem decoderStep_delivered {i : Fin decoders} {state next : PipelineState decoders}
    (step : DecoderStep i state next) :
    (next.decodedEntries = state.decodedEntries ∧ next.delivered = state.delivered) ∨
      (state.decodedQueue.closed = false ∧ next.decodedQueue.closed = false ∧
        ∃ entry, next.decodedEntries = state.decodedEntries + {entry} ∧
          next.delivered = state.delivered + {entry}) := by
  cases step with
  | @pushes item queue pushing pushed =>
      obtain ⟨isOpen, still, queued⟩ := BlockingQueue.push_accepted pushed
      refine Or.inr ⟨isOpen, still, item.entry, ?_, rfl⟩
      simp only [PipelineState.decodedEntries, queued, List.map_append, List.map_singleton,
        ← Multiset.coe_add, Multiset.coe_singleton]
  | refuses pushing pushed =>
      obtain ⟨_, rfl⟩ := BlockingQueue.push_refused pushed
      exact Or.inl ⟨rfl, rfl⟩
  | @fails exn stage failing => cases stage <;> exact Or.inl ⟨rfl, rfl⟩
  | _ => exact Or.inl ⟨rfl, rfl⟩

section SameWriter

variable {state next : PipelineState decoders} (same : SameWriter state next)

include same

theorem SameWriter.healthy : next.WriterHealthy ↔ state.WriterHealthy :=
  PipelineState.healthy_congr same.writer

theorem SameWriter.place {pc : WriterPc} (place : state.WriterPlace pc) : next.WriterPlace pc := by
  have waiting (before : state.Waiting) : next.Waiting := by
    rwa [PipelineState.Waiting, same.pending, same.expectedSequence]
  have current {item : DecodedWorkItem} (before : state.Current item) : next.Current item := by
    rwa [PipelineState.Current, same.pending, same.expectedSequence]
  cases pc with
  | popping => exact waiting place
  | inserting item => exact waiting place
  | checking => exact waiting place
  | storing => exact waiting place
  | finishing => exact ⟨waiting place.1, by rw [same.applicationErrors, same.work, place.2]⟩
  | completed => exact ⟨waiting place.1, by rw [same.applicationErrors, same.work, place.2]⟩
  | counting item => exact current place
  | recording item => exact current place
  | logging item => exact current place
  | erasing item => exact current place
  | processing item frame => exact ⟨current place.1, place.2⟩
  | writing item frame => exact ⟨current place.1, place.2⟩
  | tallying item frame => exact ⟨current place.1, place.2⟩
  | _ => trivial

/-- The writer's account stays, if what is delivered is queued. -/
theorem SameWriter.accounts (new : Multiset Entry)
    (queued : next.decodedEntries = state.decodedEntries + new)
    (delivered : next.delivered = state.delivered + new) (accounts : WriterAccounts state) :
    WriterAccounts next := by
  refine ⟨?_, ?_, ?_⟩
  · rw [queued, delivered, same.writer, PipelineState.pendingEntries, same.pending, same.handled,
      ← accounts.numbered, PipelineState.pendingEntries]
    abel
  · rw [same.expectedSequence, same.handled]
    exact accounts.expected
  · rw [same.writer]
    exact same.place accounts.place

end SameWriter

/-! ## Steps of the writer -/

/-- Between the calls on one result the writer's place stays right. -/
theorem handles_writerPlace {options : Options} {before after : WriterPc} {work next : WriterState}
    {updates later : List HealthUpdate} (handles : Handles options before work updates after next later)
    {state : PipelineState decoders} (place : state.WriterPlace before) :
    { state with writer := after, work := next, healthUpdates := later }.WriterPlace after := by
  cases handles with
  | countsDecoded result => exact place
  | countsRejected result => exact place
  | recordsDecoded result => exact ⟨place, result⟩
  | recordsRejected result => exact place
  | processes processed => exact place
  | writes => exact place
  | tallies => exact place.1
  | logsDecoded result => exact place
  | logsRejected result => exact place

theorem handles_inHand {options : Options} {before after : WriterPc} {work next : WriterState}
    {updates later : List HealthUpdate}
    (handles : Handles options before work updates after next later) : after.inHand = before.inHand := by
  cases handles <;> rfl

theorem writerAccounts_writer {options : Options} {state next : PipelineState decoders}
    (accounts : WriterAccounts state) (step : WriterStep options state next)
    (healthy : next.WriterHealthy) : WriterAccounts next := by
  have numbered := accounts.numbered
  have place := accounts.place
  cases step with
  | @pops item queue popping popped =>
      obtain ⟨front, _⟩ := BlockingQueue.pop_value popped
      rw [popping] at numbered place
      refine ⟨?_, accounts.expected, place⟩
      rw [← numbered]
      simp only [PipelineState.decodedEntries, PipelineState.pendingEntries, front, WriterPc.inHand,
        List.map_cons, ← Multiset.cons_coe, ← Multiset.singleton_add]
      abel
  | drains popping popped =>
      obtain ⟨_, _, rfl⟩ := BlockingQueue.pop_nothing popped
      rw [popping] at numbered place
      exact ⟨numbered, accounts.expected, place⟩
  | @inserts item inserting fresh =>
      rw [inserting] at numbered
      refine ⟨?_, accounts.expected, trivial⟩
      rw [← numbered]
      simp only [PipelineState.decodedEntries, PipelineState.pendingEntries, WriterPc.inHand,
        List.map_cons, ← Multiset.cons_coe, ← Multiset.singleton_add]
      abel
  | finds finding present next =>
      rw [finding] at numbered
      exact ⟨numbered, accounts.expected, present, next⟩
  | waits finding missing =>
      rw [finding] at numbered
      exact ⟨numbered, accounts.expected, missing⟩
  | @handles writer work updates handling =>
      refine ⟨?_, accounts.expected, handles_writerPlace handling place⟩
      rw [handles_inHand handling]
      exact numbered
  | @erases item erasing =>
      rw [erasing] at numbered place
      obtain ⟨present, number⟩ := place
      refine ⟨?_, ?_, trivial⟩
      · -- the item leaves the map and is the next one handled
        have entry : item.entry = (state.handled.length, item.result) := by
          rw [DecodedWorkItem.entry, number, accounts.expected]
        have moved : state.pendingEntries =
            {item.entry} + ↑((state.pending.erase item).map DecodedWorkItem.entry) := by
          rw [PipelineState.pendingEntries,
            Multiset.coe_eq_coe.mpr ((List.perm_cons_erase present).map DecodedWorkItem.entry),
            List.map_cons, ← Multiset.cons_coe, Multiset.singleton_add]
        rw [← numbered, moved, enumerate_concat, ← entry]
        simp only [PipelineState.decodedEntries, PipelineState.pendingEntries, WriterPc.inHand]
        abel
      · rw [accounts.expected, List.length_append, List.length_singleton]
  | checks checking empty =>
      rw [checking] at numbered place
      exact ⟨numbered, accounts.expected, place⟩
  | stores storing =>
      rw [storing] at numbered place
      exact ⟨numbered, accounts.expected, place, rfl⟩
  | finishes finishing =>
      rw [finishing] at numbered place
      exact ⟨numbered, accounts.expected, place⟩
  | duplicates inserting present same => exact absurd rfl (healthy.1 .duplicateSequence .capturing)
  | gap checking left => exact absurd rfl (healthy.1 .sequenceGap .capturing)
  | @throwsPayload item frame exn processing processed =>
      exact absurd rfl (healthy.1 (.payload exn) .capturing)
  | throws exn may => exact absurd rfl (healthy.1 (.environment exn) .capturing)
  | @fails failure stage failing => exact absurd rfl (healthy.not_afterFail failure stage)

/-- **The writer's account** holds as long as it has not thrown. -/
theorem writerAccounts {options : Options} {health : StationHealthMonitor}
    {state : PipelineState options.decoderThreads}
    (reachable : (pipeline options health).Reachable state) (healthy : state.WriterHealthy) :
    WriterAccounts state := by
  have holds : state.WriterHealthy → WriterAccounts state := by
    refine @System.invariant _ _ (fun state => state.WriterHealthy → WriterAccounts state) ?_ ?_ _
      reachable
    · rintro _ rfl _
      exact writerAccounts_initial options health
    · rintro state next accounts (step | ⟨i, step⟩ | step) healthy
      · have same := mainStep_sameWriter step
        obtain ⟨queued, delivered⟩ := mainStep_delivered step
        refine same.accounts 0 ?_ ?_ (accounts (same.healthy.mp healthy))
        · rw [queued, add_zero]
        · rw [delivered, add_zero]
      · have same := decoderStep_sameWriter step
        have before := accounts (same.healthy.mp healthy)
        rcases decoderStep_delivered step with ⟨queued, delivered⟩ | ⟨_, _, entry, queued, delivered⟩
        · refine same.accounts 0 ?_ ?_ before
          · rw [queued, add_zero]
          · rw [delivered, add_zero]
        · exact same.accounts {entry} queued delivered before
      · exact writerAccounts_writer (accounts (writerStep_healthy step healthy)) step healthy
  exact holds healthy

/-! ## What the accounts say together -/

section Consequences

variable {state : PipelineState decoders} (raw : Accounts state) (writer : WriterAccounts state)

include raw writer

/-- What the writer has, it has once. -/
theorem WriterAccounts.part : state.decodedEntries + state.writer.inHand + state.pendingEntries +
    enumerate state.handled ≤ enumerate state.results := by
  rw [writer.numbered, ← raw.numbered]
  exact Multiset.le_add_left _ _

/-- **What is handled are the first results.** -/
theorem WriterAccounts.handled_in_order : state.handled <+: state.results :=
  prefix_of_le ((Multiset.le_add_left _ _).trans (writer.part raw))

/-- **The item at work is the next result.** -/
theorem WriterAccounts.current_in_order {item : DecodedWorkItem} (current : state.Current item) :
    state.handled ++ [item.result] <+: state.results := by
  obtain ⟨present, number⟩ := current
  have entry : (state.handled.length, item.result) = item.entry := by
    rw [DecodedWorkItem.entry, number, writer.expected]
  have pending : {item.entry} ≤ state.pendingEntries :=
    Multiset.singleton_le.mpr (List.mem_map_of_mem present)
  refine prefix_of_le ?_
  calc enumerate (state.handled ++ [item.result])
      = enumerate state.handled + {item.entry} := by rw [enumerate_concat, entry]
    _ ≤ enumerate state.handled + state.pendingEntries := add_le_add_right pending _
    _ = state.pendingEntries + enumerate state.handled := add_comm _ _
    _ ≤ enumerate state.results := by
        refine le_trans ?_ (writer.part raw)
        exact add_le_add_left (Multiset.le_add_left _ _) _

/-- **No number reaches the writer twice.** -/
theorem WriterAccounts.fresh {item : DecodedWorkItem} (inserting : state.writer = .inserting item) :
    ∀ other ∈ state.pending, other.sequence ≠ item.sequence := by
  intro other present
  have part := writer.part raw
  rw [inserting] at part
  have both : {item.entry} + state.pendingEntries ≤ enumerate state.results := by
    refine le_trans ?_ part
    rw [WriterPc.inHand, add_assoc state.decodedEntries]
    exact (Multiset.le_add_left _ _).trans (Multiset.le_add_right _ _)
  exact number_notMem both (List.mem_map_of_mem present : other.entry ∈ state.pendingEntries)

end Consequences

/-- **A gap is a loss**: if everything was delivered and the queue is drained, the map
is empty. -/
theorem WriterAccounts.pending_nil {state : PipelineState decoders} (writer : WriterAccounts state)
    (whole : state.delivered = enumerate state.results)
    (checking : state.writer = .checking) (drained : state.decodedQueue.queue = []) :
    state.pending = [] := by
  have numbered := writer.numbered
  have place := writer.place
  have queued : state.decodedEntries = 0 := by
    rw [PipelineState.decodedEntries, drained]
    rfl
  have hand : WriterPc.checking.inHand = 0 := rfl
  rw [whole, queued, checking, hand, zero_add, zero_add] at numbered
  rw [checking] at place
  by_contra left
  have some : state.pendingEntries ≠ 0 := by
    intro none
    rw [PipelineState.pendingEntries, Multiset.coe_eq_zero, List.map_eq_nil_iff] at none
    exact left none
  obtain ⟨entry, member, next⟩ := next_mem numbered some
  obtain ⟨item, present, rfl⟩ := List.mem_map.mp (Multiset.mem_coe.mp member)
  refine place item present ?_
  rw [writer.expected]
  exact next

/-- When the writer has left its loop, it has handled all that was delivered. -/
theorem WriterAccounts.all_handled {state : PipelineState decoders} (writer : WriterAccounts state)
    (drained : state.decodedQueue.queue = [])
    (empty : state.pending = []) (hand : state.writer.inHand = 0) :
    enumerate state.handled = state.delivered := by
  rw [← writer.numbered, PipelineState.decodedEntries, PipelineState.pendingEntries, drained, empty,
    hand]
  exact (zero_add _).symm

end Stgs.Station
