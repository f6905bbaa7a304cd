/-
# Stream.Framing -- what the extractor returns and keeps, on any stream

Whatever bytes are fed, the candidates are slices of the stream that lie one behind
the other (`Cutting`), each with the structure of a frame (`Framed`), so that the
decoder finds fault with a candidate only in what the structure does not fix.  The
buffer is what follows them, settled and shorter than the largest frame
(`Reachable.bounded`).  `Returns` is the loop of one call without a bound on its
passes.
-/
import Stgs.Stream.Resync

namespace Stgs.Stream

open Stgs.Theory Stgs.Theory.BigEndian Stgs.Theory.Search Stgs.Wire

set_option autoImplicit false

/-- The structure of a frame: the magic, a length within the maximum, and a size that is
what the length announces. -/
structure Framed (candidate : ByteVector) : Prop where
  magic : magicBytes <+: candidate
  bounded : announcedLength candidate ≤ maxPayloadSize
  exact : candidate.length = headerSize + announcedLength candidate + crcSize

/-- The errors of the structural checks. -/
def structuralErrors : List FrameErrorCode := [.tooShort, .badMagic, .payloadTooLarge, .lengthMismatch]

theorem Framed.readU32BE {candidate : ByteVector} (framed : Framed candidate) :
    readU32BE candidate magicOffset = frameMagic := by
  obtain ⟨rest, rfl⟩ := framed.magic
  refine readU32BE_of_slice ?_ ?_
  · show 0 + 4 ≤ _
    rw [List.length_append, length_magicBytes]
    exact Nat.le_add_right _ _
  · exact (slice_append_left magicBytes rest).trans (by decide)

/-- **A framed candidate passes the structural checks.** -/
theorem Framed.decodeFrame_error {candidate : ByteVector} (framed : Framed candidate)
    {error : FrameError} (decoded : decodeFrame candidate = .error error) :
    error.code ∉ structuralErrors := by
  have long : minFrameSize ≤ candidate.length := by
    rw [framed.exact, minFrameSize]
    omega
  have code {other : FrameErrorCode} {message : String}
      (made : makeError other message = .error error) (plain : other ∉ structuralErrors) :
      error.code ∉ structuralErrors := by
    cases made
    exact plain
  rw [decodeFrame, if_neg (Nat.not_lt.mpr long), if_neg (not_not.mpr framed.readU32BE)] at decoded
  split at decoded
  · exact code decoded (by decide)
  rw [if_neg (Nat.not_lt.mpr framed.bounded), if_neg (not_not.mpr framed.exact)] at decoded
  dsimp only at decoded
  split at decoded
  · exact code decoded (by decide)
  split at decoded
  · exact code decoded (by decide)
  split at decoded
  · exact code decoded (by decide)
  split at decoded
  · exact code decoded (by decide)
  · cases decoded

/-! ## One pass -/

theorem framed_of_emit {buffer candidate rest : ByteVector}
    (verdict : pass buffer = .emit candidate rest) : Framed candidate := by
  obtain ⟨it, found, small, whole, rfl, _⟩ := pass_emit_inv verdict
  generalize aligned : buffer.drop it = framed at small whole ⊢
  have occurs := ((search_eq_some_iff magicBytes_ne_nil _ _).mp found).1
  have starts : magicBytes <+: framed := aligned ▸ occurs
  have size : (framed.take (announcedSize framed)).length = announcedSize framed :=
    List.length_take_of_le whole
  have header : headerSize ≤ (framed.take (announcedSize framed)).length := by
    rw [size, announcedSize]
    omega
  -- the cut is behind the length field
  have same : announcedLength (framed.take (announcedSize framed)) = announcedLength framed := by
    have grown := announcedLength_append header (framed.drop (announcedSize framed))
    rw [List.take_append_drop] at grown
    exact grown.symm
  refine ⟨?_, by rwa [same], by rw [same, size, announcedSize]⟩
  refine List.prefix_take_iff.mpr ⟨starts, ?_⟩
  have : magicSize ≤ headerSize := by decide
  rw [length_magicBytes, announcedSize]
  omega

/-- The extractor cuts its candidates out of the stream. -/
theorem extractor_cutting : extractor.Cutting where
  wait := by
    intro buffer keep verdict
    rcases pass_wait_inv verdict with ⟨_, rfl⟩ | ⟨it, _, rfl, _⟩
    · exact List.drop_suffix _ _
    · exact List.drop_suffix _ _
  skip := by
    intro buffer rest verdict
    obtain ⟨dropped, rfl⟩ := pass_skip_suffix verdict
    exact List.suffix_append _ _
  emit := pass_emit_shape

namespace StreamFrameExtractor

/-- **What is kept between two calls** is shorter than the largest frame. -/
theorem Reachable.bounded {self : StreamFrameExtractor} (reachable : Reachable self) :
    self.buffer.length ≤ maxFrameSize - 1 := by
  have largest : magicSize - 1 ≤ maxFrameSize - 1 := by decide
  rcases pass_wait_inv reachable.settled with ⟨_, keep⟩ | ⟨_, _, _, short⟩
  · have length := congrArg List.length keep
    rw [List.length_drop] at length
    omega
  · omega

theorem Reachable.feed_nil {self : StreamFrameExtractor} (reachable : Reachable self) :
    self.feed [] = ([], self) := by
  rw [StreamFrameExtractor.feed, List.append_nil, extractor.run_wait reachable.settled]

theorem Reachable.feedAll {self : StreamFrameExtractor} (reachable : Reachable self)
    (fragments : List ByteVector) : Reachable (self.feedAll fragments).2 := by
  induction fragments generalizing self with
  | nil => exact reachable
  | cons fragment fragments ih => exact ih (.feed fragment reachable)

/-- On a fresh extractor calls are one run over the stream. -/
theorem feedAll_run (fragments : List ByteVector) :
    StreamFrameExtractor.feedAll {} fragments =
      ((extractor.run fragments.flatten).1, ⟨(extractor.run fragments.flatten).2⟩) := by
  rw [feedAll_flatten .fresh]
  rfl

end StreamFrameExtractor

/-! ## Every stream -/

theorem startOf_mem {fragments : List ByteVector} {place : Nat × ByteVector}
    (member : place ∈ candidatesAt fragments) :
    place.1 + place.2.length + (StreamFrameExtractor.feedAll {} fragments).2.buffer.length ≤
      fragments.flatten.length := by
  rw [candidatesAt_eq] at member
  obtain ⟨stamp, stamped, rfl⟩ := List.mem_map.mp member
  have inside := extractor_cutting.stamped_inside 0 fragments.flatten stamp stamped
  rw [StreamFrameExtractor.feedAll_run]
  show stamp.1 - stamp.2.length + stamp.2.length + (extractor.run fragments.flatten).2.length ≤ _
  omega

theorem candidatesAt_ordered (fragments : List ByteVector) :
    (candidatesAt fragments).Pairwise fun first second =>
      first.1 + first.2.length ≤ second.1 := by
  rw [candidatesAt_eq, List.pairwise_map]
  have ordered := extractor_cutting.stamped_ordered 0 fragments.flatten
  refine ordered.imp_of_mem ?_
  intro first second memberFirst _ behind
  have inside := extractor_cutting.stamped_inside 0 fragments.flatten first memberFirst
  show first.1 - first.2.length + first.2.length ≤ second.1 - second.2.length
  omega

/-- **Framing is sound and bounded in memory**, for every sequence of calls of `feed` on
a fresh extractor: where the candidates lie in the stream, what they are, what is kept
behind them, and that the loop of the next call returns. -/
theorem framing_sound (fragments : List ByteVector) :
    let stream := fragments.flatten
    let fed := StreamFrameExtractor.feedAll {} fragments
    (∃ places : List (Nat × ByteVector),
      places.map Prod.snd = fed.1 ∧
      (∀ place ∈ places, place.1 + place.2.length ≤ stream.length ∧
        slice stream place.1 place.2.length = place.2) ∧
      places.Pairwise fun first second => first.1 + first.2.length ≤ second.1) ∧
    (∀ candidate ∈ fed.1,
      magicBytes <+: candidate ∧ announcedLength candidate ≤ maxPayloadSize ∧
      candidate.length = headerSize + announcedLength candidate + crcSize ∧
      ∀ error, decodeFrame candidate = .error error → error.code ∉ structuralErrors) ∧
    (fed.2.buffer <:+ stream ∧ fed.2.buffer.length ≤ maxFrameSize - 1 ∧
      fed.2.feed [] = ([], fed.2)) ∧
    ∀ bytes : ByteVector, ∃ passes, passes ≤ (fed.2.buffer ++ bytes).length + 1 ∧
      extractor.Returns passes (fed.2.buffer ++ bytes) (fed.2.feed bytes).1
        (fed.2.feed bytes).2.buffer := by
  intro stream fed
  have reachable : StreamFrameExtractor.Reachable fed.2 :=
    StreamFrameExtractor.Reachable.fresh.feedAll fragments
  refine ⟨⟨candidatesAt fragments, candidatesAt_feedAll fragments, ?_, ?_⟩, ?_, ⟨?_, ?_, ?_⟩, ?_⟩
  · intro place member
    exact ⟨(Nat.le_add_right _ _).trans (startOf_mem member), candidatesAt_sound fragments place member⟩
  · exact candidatesAt_ordered fragments
  · intro candidate member
    have run : fed.1 = (extractor.run stream).1 := by
      rw [show fed = _ from StreamFrameExtractor.feedAll_run fragments]
    have framed : Framed candidate :=
      @Theory.Scanner.mem_run _ _ extractor Framed framed_of_emit stream candidate (run ▸ member)
    exact ⟨framed.magic, framed.bounded, framed.exact, fun _ => framed.decodeFrame_error⟩
  · rw [show fed = _ from StreamFrameExtractor.feedAll_run fragments]
    exact extractor_cutting.run_suffix stream
  · exact reachable.bounded
  · exact reachable.feed_nil
  · exact fun bytes => extractor.run_returns (fed.2.buffer ++ bytes)

end Stgs.Stream
