/-
# Stream.Resync -- how much a spoiled prefix can cost

The extractor over an arbitrary prefix (garbage, corrupted or truncated frames,
false magics with any length) followed by encoded frames.  A false header inside
the prefix announces at most `maxFrameSize` bytes, so what it swallows or waits
for ends before `prefix + maxFrameSize - 1`.  Once the extractor stands past the
prefix, the next magic it finds is the start of a frame, and from there on every
pass is a frame (`stamped_frames`).

`candidatesAt` is the list of candidates with their start offsets in the stream;
`candidatesAt_sound` and `candidatesAt_feedAll` tie it to the extractor.
`recovers` is the invariant of a run from any offset below the bound, and
`bounded_loss` the result.
-/
import Stgs.Stream.Transport

namespace Stgs.Stream

open Stgs.Theory Stgs.Theory.BigEndian Stgs.Theory.Search Stgs.Wire

set_option autoImplicit false

/-! ## Candidates with their offsets -/

/-- A token stamped with its end, as a candidate with its start. -/
def startOf (stamp : Nat × ByteVector) : Nat × ByteVector :=
  (stamp.1 - stamp.2.length, stamp.2)

/-- The candidates a fresh extractor returns on fragments, with the offsets of the
stream at which they start. -/
def candidatesAt (fragments : List ByteVector) : List (Nat × ByteVector) :=
  (extractor.stampedFeeds 0 [] fragments).1.map startOf

theorem candidatesAt_feedAll (fragments : List ByteVector) :
    (candidatesAt fragments).map Prod.snd = (StreamFrameExtractor.feedAll {} fragments).1 := by
  rw [StreamFrameExtractor.feedAll_eq_feeds, ← extractor.stampedFeeds_run 0 [] fragments,
    candidatesAt, List.map_map]
  rfl

theorem candidatesAt_eq (fragments : List ByteVector) :
    candidatesAt fragments = (extractor.stamped 0 fragments.flatten).1.map startOf := by
  rw [candidatesAt, pass_resumable.stampedFeeds_eq StreamFrameExtractor.settled_empty,
    List.nil_append]

/-- A pass that emits cuts the candidate out of the buffer, and what is left
follows it. -/
theorem pass_emit_shape {buffer candidate rest : ByteVector}
    (verdict : pass buffer = .emit candidate rest) :
    ∃ dropped, buffer = dropped ++ candidate ++ rest := by
  obtain ⟨it, _, _, _, rfl, rfl⟩ := pass_emit_inv verdict
  refine ⟨buffer.take it, ?_⟩
  rw [← List.drop_drop, List.append_assoc, List.take_append_drop, List.take_append_drop]

theorem pass_skip_suffix {buffer rest : ByteVector} (verdict : pass buffer = .skip rest) :
    ∃ dropped, buffer = dropped ++ rest := by
  obtain ⟨it, _, _, _, rfl⟩ := pass_skip_inv verdict
  exact ⟨buffer.take (it + 1), (List.take_append_drop _ _).symm⟩

theorem stamped_sound (stream before buffer : ByteVector) (whole : stream = before ++ buffer) :
    ∀ candidate ∈ (extractor.stamped before.length buffer).1.map startOf,
      slice stream candidate.1 candidate.2.length = candidate.2 := by
  induction buffer using extractor.induct generalizing before with
  | wait buffer keep verdict =>
      rw [extractor.stamped_wait _ verdict]
      simp
  | skip buffer rest verdict ih =>
      obtain ⟨dropped, rfl⟩ := pass_skip_suffix verdict
      have position : before.length + ((dropped ++ rest).length - rest.length) =
          (before ++ dropped).length := by
        simp
      rw [extractor.stamped_skip _ verdict, position]
      exact ih (before ++ dropped) (by rw [whole, List.append_assoc])
  | emit buffer token rest verdict ih =>
      obtain ⟨dropped, rfl⟩ := pass_emit_shape verdict
      have position : before.length + ((dropped ++ token ++ rest).length - rest.length) =
          (before ++ dropped ++ token).length := by
        simp
        omega
      rw [extractor.stamped_emit _ verdict, position]
      intro candidate member
      rcases List.mem_cons.mp member with rfl | later
      · have start : (before ++ dropped ++ token).length - token.length =
            (before ++ dropped).length := by
          rw [List.length_append, Nat.add_sub_cancel]
        have shape : stream = before ++ dropped ++ (token ++ rest) := by
          simp only [whole, List.append_assoc]
        have cut := slice_append_right (before ++ dropped) (token ++ rest) 0 token.length
        rw [Nat.add_zero] at cut
        rw [startOf, start, shape, cut, slice_append_left]
      · refine ih (before ++ dropped ++ token) ?_ candidate later
        simp only [whole, List.append_assoc]

/-- Every candidate is the piece of the stream at its offset. -/
theorem candidatesAt_sound (fragments : List ByteVector) :
    ∀ candidate ∈ candidatesAt fragments,
      slice fragments.flatten candidate.1 candidate.2.length = candidate.2 := by
  rw [candidatesAt_eq]
  exact stamped_sound fragments.flatten [] fragments.flatten rfl

/-! ## Frames placed in the stream -/

/-- Byte strings laid end to end from an offset, each with its start. -/
def placed : Nat → List ByteVector → List (Nat × ByteVector)
  | _, [] => []
  | start, bytes :: others => (start, bytes) :: placed (start + bytes.length) others

theorem placed_append (start : Nat) (first second : List ByteVector) :
    placed start (first ++ second) =
      placed start first ++ placed (start + first.flatten.length) second := by
  induction first generalizing start with
  | nil => rfl
  | cons bytes first ih =>
      rw [List.cons_append, placed, placed, ih, List.cons_append, List.flatten_cons,
        List.length_append, Nat.add_assoc]

/-- A start splits the list into what lies before and what starts there. -/
theorem placed_split {start : Nat} {list : List ByteVector} {mark : Nat × ByteVector}
    (member : mark ∈ placed start list) :
    ∃ before after, list = before ++ mark.2 :: after ∧
      mark.1 = start + before.flatten.length := by
  induction list generalizing start with
  | nil => cases member
  | cons bytes others ih =>
      rcases List.mem_cons.mp member with rfl | later
      · exact ⟨[], others, rfl, rfl⟩
      · obtain ⟨before, after, shape, position⟩ := ih later
        refine ⟨bytes :: before, after, by rw [shape, List.cons_append], ?_⟩
        rw [position, List.flatten_cons, List.length_append, Nat.add_assoc]

/-- **From the start of a frame on, every pass is a frame.** -/
theorem stamped_frames {frames : List TelemetryFrame}
    (encodable : ∀ frame ∈ frames, Encodable frame) (start : Nat) :
    (extractor.stamped start (frames.map wire).flatten).1.map startOf =
      placed start (frames.map wire) := by
  induction frames generalizing start with
  | nil =>
      rw [List.map_nil, List.flatten_nil,
        extractor.stamped_wait start StreamFrameExtractor.settled_empty]
      rfl
  | cons frame frames ih =>
      have first := pass_wire (encodable frame (List.mem_cons_self ..)) (frames.map wire).flatten
      have width : (wire frame ++ (frames.map wire).flatten).length -
          (frames.map wire).flatten.length = (wire frame).length := by
        rw [List.length_append, Nat.add_sub_cancel]
      rw [List.map_cons, List.flatten_cons, extractor.stamped_emit start first, width,
        List.map_cons, ih fun frame member => encodable frame (List.mem_cons_of_mem _ member),
        startOf, Nat.add_sub_cancel, placed]

theorem placed_lt {start : Nat} {frames : List TelemetryFrame} {mark : Nat × ByteVector}
    (member : mark ∈ placed start (frames.map wire)) :
    mark.1 < start + (frames.map wire).flatten.length := by
  obtain ⟨before, after, shape, position⟩ := placed_split member
  have isFrame : mark.2 ∈ frames.map wire := by
    rw [shape]
    exact List.mem_append_right _ (List.mem_cons_self ..)
  obtain ⟨frame, _, encoding⟩ := List.mem_map.mp isFrame
  have long := header_le_wire frame
  have : headerSize = 23 := rfl
  rw [encoding] at long
  rw [shape, List.flatten_append, List.flatten_cons, List.length_append, List.length_append]
  omega

/-- A start is an occurrence of the magic. -/
theorem placed_occurs (garbage : ByteVector) {frames : List TelemetryFrame}
    {mark : Nat × ByteVector} (member : mark ∈ placed garbage.length (frames.map wire)) :
    OccursAt magicBytes (garbage ++ (frames.map wire).flatten) mark.1 := by
  obtain ⟨before, after, shape, position⟩ := placed_split member
  have isFrame : mark.2 ∈ frames.map wire := by
    rw [shape]
    exact List.mem_append_right _ (List.mem_cons_self ..)
  obtain ⟨frame, _, encoding⟩ := List.mem_map.mp isFrame
  rw [position, shape, occursAt_append_right, List.flatten_append]
  have starts : OccursAt magicBytes (before.flatten ++ (mark.2 :: after).flatten)
      (before.flatten.length + 0) := by
    rw [occursAt_append_right, List.flatten_cons, ← encoding]
    exact (magic_prefix_wire frame).trans (List.prefix_append _ _)
  exact starts

/-! ## The run over the prefix -/

/-- What is said of the candidates a run returns: those of the prefix, then all
the frames but some that start below the bound. -/
def Recovers (garbage : ByteVector) (encodings : List ByteVector)
    (candidates : List (Nat × ByteVector)) : Prop :=
  ∃ early lost kept, placed garbage.length encodings = lost ++ kept ∧
    candidates = early ++ kept ∧ (∀ candidate ∈ early, candidate.1 < garbage.length) ∧
      ∀ mark ∈ lost, mark.1 < garbage.length + maxFrameSize - 1

theorem Recovers.all_lost {garbage : ByteVector} {encodings : List ByteVector}
    (bound : ∀ mark ∈ placed garbage.length encodings,
      mark.1 < garbage.length + maxFrameSize - 1) : Recovers garbage encodings [] :=
  ⟨[], placed garbage.length encodings, [], (List.append_nil _).symm, rfl, by simp, bound⟩

theorem Recovers.after_early {garbage : ByteVector} {encodings : List ByteVector}
    {candidates : List (Nat × ByteVector)} {candidate : Nat × ByteVector}
    (inside : candidate.1 < garbage.length) (recovers : Recovers garbage encodings candidates) :
    Recovers garbage encodings (candidate :: candidates) := by
  obtain ⟨early, lost, kept, split, shape, before, bound⟩ := recovers
  refine ⟨candidate :: early, lost, kept, split, by rw [shape, List.cons_append], ?_, bound⟩
  intro other member
  rcases List.mem_cons.mp member with rfl | later
  · exact inside
  · exact before other later

section Prefix

variable {garbage : ByteVector} {frames : List TelemetryFrame}
  (encodable : ∀ frame ∈ frames, Encodable frame)
  (only : ∀ position, garbage.length ≤ position →
    (OccursAt magicBytes (garbage ++ (frames.map wire).flatten) position ↔
      position ∈ (placed garbage.length (frames.map wire)).map Prod.fst))

include encodable only

/-- Past the prefix the first magic is a frame, and the frames before it started
before the run did. -/
theorem recovers_at_frame {position it : Nat}
    (reach : position ≤ garbage.length + maxFrameSize - 1)
    (found : search magicBytes ((garbage ++ (frames.map wire).flatten).drop position) = some it)
    (past : garbage.length ≤ position + it) :
    Recovers garbage (frames.map wire) ((extractor.stamped position
      ((garbage ++ (frames.map wire).flatten).drop position)).1.map startOf) := by
  obtain ⟨occurs, first⟩ := (search_eq_some_iff magicBytes_ne_nil _ _).mp found
  have occurs' := (occursAt_drop _ _ _ _).mp occurs
  have inside := occurs'.inside magicBytes_ne_nil
  obtain ⟨mark, member, start⟩ := List.mem_map.mp ((only _ past).mp occurs')
  obtain ⟨before, after, shape, offset⟩ := placed_split member
  obtain ⟨lostFrames, keptFrames, rfl, rfl, kept⟩ := List.map_eq_append_iff.mp shape
  -- at the frame the run is aligned
  have rest : (garbage ++ ((lostFrames ++ keptFrames).map wire).flatten).drop (position + it) =
      (keptFrames.map wire).flatten := by
    rw [List.map_append, List.flatten_append, ← List.append_assoc, ← start, offset,
      ← List.length_append, List.drop_left]
  have looks : extractor.look
        ((garbage ++ ((lostFrames ++ keptFrames).map wire).flatten).drop position) =
      extractor.look (keptFrames.map wire).flatten := by
    have aligned : OccursAt magicBytes (keptFrames.map wire).flatten 0 := by
      rw [← rest]
      exact (occursAt_drop _ _ _ _).mpr occurs'
    change pass _ = pass _
    rw [pass_found found, List.drop_drop, rest, pass_aligned aligned]
  have ends : position +
        ((garbage ++ ((lostFrames ++ keptFrames).map wire).flatten).drop position).length =
      position + it + ((keptFrames.map wire).flatten).length := by
    rw [← rest, List.length_drop, List.length_drop]
    omega
  have keptEncodable : ∀ frame ∈ keptFrames, Encodable frame :=
    fun frame isKept => encodable frame (List.mem_append_right _ isKept)
  have split : placed garbage.length ((lostFrames ++ keptFrames).map wire) =
      placed garbage.length (lostFrames.map wire) ++
        placed (position + it) (keptFrames.map wire) := by
    rw [List.map_append, placed_append, ← offset, start]
  rw [Scanner.stamped_congr looks ends, stamped_frames keptEncodable]
  refine ⟨[], _, _, split, rfl, by simp, fun lost isLost => ?_⟩
  -- a frame between the start of the run and the magic it found would have been found
  have early : lost.1 < position := by
    have below := placed_lt isLost
    rw [← offset, start] at below
    by_contra late
    have lostOccurs := placed_occurs garbage (split ▸ List.mem_append_left _ isLost)
    refine first (lost.1 - position) (by omega) ((occursAt_drop _ _ _ _).mpr ?_)
    rwa [Nat.add_sub_cancel' (Nat.le_of_not_lt late)]
  omega

/-- **The invariant of the run**: from any offset a false header can lead to. -/
theorem recovers (position : Nat) (reach : position ≤ garbage.length + maxFrameSize - 1)
    (inside : position ≤ (garbage ++ (frames.map wire).flatten).length) :
    Recovers garbage (frames.map wire) ((extractor.stamped position
      ((garbage ++ (frames.map wire).flatten).drop position)).1.map startOf) := by
  generalize here : (garbage ++ (frames.map wire).flatten).drop position = buffer
  have width : buffer.length = (garbage ++ (frames.map wire).flatten).length - position := by
    rw [← here, List.length_drop]
  have total : (garbage ++ (frames.map wire).flatten).length =
      garbage.length + (frames.map wire).flatten.length := List.length_append
  have sizes : headerSize = 23 ∧ crcSize = 4 ∧ maxPayloadSize = 4096 ∧ maxFrameSize = 4123 :=
    ⟨rfl, rfl, rfl, rfl⟩
  induction buffer using extractor.induct generalizing position with
  | wait buffer keep verdict =>
      rcases pass_wait_inv verdict with ⟨missing, _⟩ | ⟨it, found, rfl, short⟩
      · rw [extractor.stamped_wait position verdict]
        refine Recovers.all_lost fun mark member => ?_
        have early : mark.1 < position := by
          by_contra late
          refine (search_eq_none_iff magicBytes_ne_nil _).mp missing (mark.1 - position) ?_
          rw [← here, occursAt_drop, Nat.add_sub_cancel' (Nat.le_of_not_lt late)]
          exact placed_occurs garbage member
        omega
      rcases Nat.lt_or_ge (position + it) garbage.length with inGarbage | past
      · rw [extractor.stamped_wait position verdict]
        refine Recovers.all_lost fun mark member => ?_
        have below := placed_lt member
        rw [List.length_drop] at short
        omega
      · rw [← here] at found ⊢
        exact recovers_at_frame encodable only reach found past
  | skip buffer rest verdict ih =>
      obtain ⟨it, found, header, _, rfl⟩ := pass_skip_inv verdict
      rcases Nat.lt_or_ge (position + it) garbage.length with inGarbage | past
      · rw [List.length_drop] at header
        have next : position + (buffer.length - (buffer.drop (it + 1)).length) =
            position + (it + 1) := by
          rw [List.length_drop]
          omega
        rw [extractor.stamped_skip position verdict, next]
        refine ih (position + (it + 1)) (by omega) (by omega) ?_ ?_
        · rw [← here, List.drop_drop]
        · rw [List.length_drop]
          omega
      · rw [← here] at found ⊢
        exact recovers_at_frame encodable only reach found past
  | emit buffer candidate rest verdict ih =>
      obtain ⟨it, found, small, whole, cut, rfl⟩ := pass_emit_inv verdict
      rcases Nat.lt_or_ge (position + it) garbage.length with inGarbage | past
      · let size := announcedSize (buffer.drop it)
        have largest : size ≤ maxFrameSize := by
          change headerSize + announcedLength (buffer.drop it) + crcSize ≤ _
          omega
        have cutLength : candidate.length = size := by
          rw [cut, List.length_take, Nat.min_eq_left whole]
        have inBuffer : it + size ≤ buffer.length := by
          have positive : 0 < size := by
            change 0 < headerSize + announcedLength (buffer.drop it) + crcSize
            omega
          have fits : size ≤ buffer.length - it := List.length_drop ▸ whole
          omega
        have next : position + (buffer.length - (buffer.drop (it + size)).length) =
            position + (it + size) := by
          rw [List.length_drop]
          omega
        rw [extractor.stamped_emit position verdict, next, List.map_cons]
        refine Recovers.after_early ?_ (ih (position + (it + size)) (by omega) (by omega) ?_ ?_)
        · change position + (it + size) - candidate.length < garbage.length
          omega
        · rw [← List.drop_drop, here]
        · rw [List.length_drop]
          omega
      · rw [← here] at found ⊢
        exact recovers_at_frame encodable only reach found past

end Prefix

/-- **Resynchronisation loses boundedly many bytes.**  Whatever precedes the
frames, if no other magic starts past it, the candidates are those that start
inside the prefix and then all the frames but some that start less than
`maxFrameSize - 1` bytes past it. -/
theorem bounded_loss (garbage : ByteVector) {frames : List TelemetryFrame}
    {encodings : List ByteVector} (encoded : Encodings frames encodings)
    (only : ∀ position, garbage.length ≤ position →
      (OccursAt magicBytes (garbage ++ encodings.flatten) position ↔
        position ∈ (placed garbage.length encodings).map Prod.fst))
    (fragments : List ByteVector) (received : fragments.flatten = garbage ++ encodings.flatten) :
    (StreamFrameExtractor.feedAll {} fragments).1 = (candidatesAt fragments).map Prod.snd ∧
      (∀ candidate ∈ candidatesAt fragments,
        slice fragments.flatten candidate.1 candidate.2.length = candidate.2) ∧
      ∃ early lost kept, placed garbage.length encodings = lost ++ kept ∧
        candidatesAt fragments = early ++ kept ∧
          (∀ candidate ∈ early, candidate.1 < garbage.length) ∧
            ∀ mark ∈ lost, mark.1 < garbage.length + maxFrameSize - 1 := by
  refine ⟨(candidatesAt_feedAll fragments).symm, candidatesAt_sound fragments, ?_⟩
  have encodable := encoded.encodable
  obtain rfl := encoded.eq_map_wire
  have run := recovers encodable only 0 (Nat.zero_le _) (Nat.zero_le _)
  rw [List.drop_zero] at run
  rwa [candidatesAt_eq, received]

/-- A frame truncated by two bytes before two frames: its header swallows two bytes
of the first. -/
theorem bounded_loss_truncated :
    ∃ early lost kept, placed 25 [wire {}, wire {}] = lost ++ kept ∧
      candidatesAt [(wire {}).take 25 ++ wire {}, wire {}] = early ++ kept ∧
        (∀ candidate ∈ early, candidate.1 < 25) ∧
          ∀ mark ∈ lost, mark.1 < 25 + maxFrameSize - 1 := by
  have encoded : Encodings [{}, {}] [wire {}, wire {}] :=
    .cons ((encodeFrame_eq_ok_iff _ _).mpr ⟨encodable_default, rfl⟩)
      (encodings_singleton encodable_default)
  have near : ∀ position < 79, 25 ≤ position →
      (OccursAt magicBytes ((wire {}).take 25 ++ [wire {}, wire {}].flatten) position ↔
        position ∈ (placed 25 [wire {}, wire {}]).map Prod.fst) := by
    rw [wire_default]
    decide
  have only : ∀ position, 25 ≤ position →
      (OccursAt magicBytes ((wire {}).take 25 ++ [wire {}, wire {}].flatten) position ↔
        position ∈ (placed 25 [wire {}, wire {}]).map Prod.fst) := by
    intro position past
    rcases Nat.lt_or_ge position 79 with below | beyond
    · exact near position below past
    · refine iff_of_false (fun occurs => ?_) fun member => ?_
      · have inside := occurs.inside magicBytes_ne_nil
        have total : ((wire {}).take 25 ++ [wire {}, wire {}].flatten).length = 79 := by
          rw [wire_default]
          rfl
        have : magicBytes.length = 4 := rfl
        omega
      · have starts : (placed 25 [wire {}, wire {}]).map Prod.fst = [25, 52] := by
          rw [wire_default]
          rfl
        rw [starts] at member
        simp at member
        omega
  have width : ((wire {}).take 25).length = 25 := by
    rw [wire_default]
    rfl
  have shown := (bounded_loss ((wire {}).take 25) encoded (by rwa [width])
    [(wire {}).take 25 ++ wire {}, wire {}] (by simp)).2.2
  rwa [width] at shown

end Stgs.Stream
