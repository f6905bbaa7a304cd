/-
# Stream.Extractor -- the TCP frame extractor

`StreamFrameExtractor` keeps the bytes of one TCP connection that are not yet
part of a returned candidate.  `feed` appends a fragment and then repeats one
pass: find the magic, drop what precedes it, read the announced length, and
either wait, drop one byte, or cut a candidate off.  `pass` is that loop body and
`feed` its `Scanner` run.

`pass_resumable` is what makes fragments irrelevant: a pass that cut or dropped
would do the same with more bytes behind, and the bytes kept by a pass that waits
(the last three when there is no magic, all from the magic on otherwise) decide
like the whole buffer.  `feed_fragments` is the consequence.
-/
import Stgs.Theory.Scanner
import Stgs.Theory.Search
import Stgs.Wire.CodecBijection

namespace Stgs.Stream

open Stgs.Theory Stgs.Theory.BigEndian Stgs.Theory.Search Stgs.Wire

set_option autoImplicit false

/-- `magicBytes()`. -/
def magicBytes : ByteVector := appendU32BE [] frameMagic

example : magicBytes = [0x53, 0x54, 0x47, 0x53] := by decide

theorem magicBytes_ne_nil : magicBytes ≠ [] := by decide

theorem length_magicBytes : magicBytes.length = magicSize := rfl

/-- The size of the frame a header announces. -/
def announcedSize (bytes : ByteVector) : Nat :=
  headerSize + announcedLength bytes + crcSize

/-- The decision on a buffer that starts with the magic. -/
def passAligned (buffer : ByteVector) : Verdict UInt8 ByteVector :=
  if buffer.length < headerSize then .wait buffer
  else if announcedLength buffer > maxPayloadSize then .skip (buffer.drop 1)
  else if buffer.length < announcedSize buffer then .wait buffer
  else .emit (buffer.take (announcedSize buffer)) (buffer.drop (announcedSize buffer))

/-- One pass of the loop of `feed`. -/
def pass (buffer : ByteVector) : Verdict UInt8 ByteVector :=
  match search magicBytes buffer with
  | none =>
      if buffer.length > magicSize - 1 then .wait (buffer.drop (buffer.length - (magicSize - 1)))
      else .wait buffer
  | some it => passAligned (buffer.drop it)

/-! ## One pass makes progress -/

theorem passAligned_wait {buffer keep : ByteVector} (verdict : passAligned buffer = .wait keep) :
    keep = buffer := by
  unfold passAligned at verdict
  split at verdict
  · exact (Verdict.wait.inj verdict).symm
  split at verdict
  · cases verdict
  split at verdict
  · exact (Verdict.wait.inj verdict).symm
  · cases verdict

/-- It waits for a header, or for the rest of a frame. -/
theorem passAligned_wait_inv {buffer keep : ByteVector} (verdict : passAligned buffer = .wait keep) :
    buffer.length < headerSize ∨
      (announcedLength buffer ≤ maxPayloadSize ∧ buffer.length < announcedSize buffer) := by
  unfold passAligned at verdict
  split at verdict
  · rename_i header
    exact Or.inl header
  split at verdict
  · cases verdict
  · rename_i large
    split at verdict
    · rename_i whole
      exact Or.inr ⟨Nat.le_of_not_lt large, whole⟩
    · cases verdict

theorem passAligned_skip_iff (buffer rest : ByteVector) :
    passAligned buffer = .skip rest ↔
      headerSize ≤ buffer.length ∧ maxPayloadSize < announcedLength buffer ∧
        rest = buffer.drop 1 := by
  unfold passAligned
  constructor
  · intro verdict
    split at verdict
    · cases verdict
    · rename_i header
      split at verdict
      · rename_i large
        exact ⟨Nat.le_of_not_lt header, large, (Verdict.skip.inj verdict).symm⟩
      · split at verdict <;> cases verdict
  · rintro ⟨header, large, rfl⟩
    rw [if_neg (Nat.not_lt.mpr header), if_pos large]

theorem passAligned_emit_iff (buffer candidate rest : ByteVector) :
    passAligned buffer = .emit candidate rest ↔
      announcedLength buffer ≤ maxPayloadSize ∧ announcedSize buffer ≤ buffer.length ∧
        candidate = buffer.take (announcedSize buffer) ∧
          rest = buffer.drop (announcedSize buffer) := by
  unfold passAligned
  constructor
  · intro verdict
    split at verdict
    · cases verdict
    · split at verdict
      · cases verdict
      · rename_i large
        split at verdict
        · cases verdict
        · rename_i whole
          obtain ⟨cut, left⟩ := Verdict.emit.inj verdict
          exact ⟨Nat.le_of_not_lt large, Nat.le_of_not_lt whole, cut.symm, left.symm⟩
  · rintro ⟨small, whole, rfl, rfl⟩
    have header : headerSize ≤ buffer.length := by
      unfold announcedSize at whole
      omega
    rw [if_neg (Nat.not_lt.mpr header), if_neg (Nat.not_lt.mpr small),
      if_neg (Nat.not_lt.mpr whole)]

/-- With a magic in the buffer the pass is about what follows it. -/
theorem pass_found {buffer : ByteVector} {it : Nat}
    (found : search magicBytes buffer = some it) : pass buffer = passAligned (buffer.drop it) := by
  rw [pass, found]

/-- Without one it keeps the last three bytes. -/
theorem pass_missing {buffer : ByteVector} (missing : search magicBytes buffer = none) :
    pass buffer = .wait (buffer.drop (buffer.length - (magicSize - 1))) := by
  rw [pass, missing]
  simp only
  split
  · rfl
  · have short : buffer.length - (magicSize - 1) = 0 := by omega
    rw [short, List.drop_zero]

/-- A buffer that starts with the magic is its own aligned buffer. -/
theorem pass_aligned {buffer : ByteVector} (starts : OccursAt magicBytes buffer 0) :
    pass buffer = passAligned buffer := by
  have found : search magicBytes buffer = some 0 :=
    (search_eq_some_iff magicBytes_ne_nil buffer 0).mpr
      ⟨starts, fun earlier below => absurd below (Nat.not_lt_zero _)⟩
  rw [pass_found found, List.drop_zero]

/-- **What a pass that waits keeps**: the tail of a buffer without a magic, or an
incomplete candidate, which is shorter than the largest frame. -/
theorem pass_wait_inv {buffer keep : ByteVector} (verdict : pass buffer = .wait keep) :
    (search magicBytes buffer = none ∧
        keep = buffer.drop (buffer.length - (magicSize - 1))) ∨
      ∃ it, search magicBytes buffer = some it ∧ keep = buffer.drop it ∧
        keep.length < maxFrameSize := by
  cases found : search magicBytes buffer with
  | none =>
      rw [pass_missing found] at verdict
      exact Or.inl ⟨rfl, (Verdict.wait.inj verdict).symm⟩
  | some it =>
      rw [pass_found found] at verdict
      obtain rfl := passAligned_wait verdict
      refine Or.inr ⟨it, rfl, rfl, ?_⟩
      have header : headerSize ≤ maxFrameSize := by decide
      have largest : headerSize + maxPayloadSize + crcSize = maxFrameSize := rfl
      unfold passAligned announcedSize at verdict
      split at verdict
      · omega
      split at verdict
      · cases verdict
      split at verdict
      · omega
      · cases verdict

theorem pass_skip_inv {buffer rest : ByteVector} (verdict : pass buffer = .skip rest) :
    ∃ it, search magicBytes buffer = some it ∧ headerSize ≤ (buffer.drop it).length ∧
      maxPayloadSize < announcedLength (buffer.drop it) ∧ rest = buffer.drop (it + 1) := by
  cases found : search magicBytes buffer with
  | none =>
      rw [pass_missing found] at verdict
      cases verdict
  | some it =>
      rw [pass_found found] at verdict
      obtain ⟨header, large, rfl⟩ := (passAligned_skip_iff _ _).mp verdict
      exact ⟨it, rfl, header, large, List.drop_drop⟩

theorem pass_emit_inv {buffer candidate rest : ByteVector}
    (verdict : pass buffer = .emit candidate rest) :
    ∃ it, search magicBytes buffer = some it ∧
      announcedLength (buffer.drop it) ≤ maxPayloadSize ∧
        announcedSize (buffer.drop it) ≤ (buffer.drop it).length ∧
          candidate = (buffer.drop it).take (announcedSize (buffer.drop it)) ∧
            rest = buffer.drop (it + announcedSize (buffer.drop it)) := by
  cases found : search magicBytes buffer with
  | none =>
      rw [pass_missing found] at verdict
      cases verdict
  | some it =>
      rw [pass_found found] at verdict
      obtain ⟨small, whole, cut, rfl⟩ := (passAligned_emit_iff _ _ _).mp verdict
      exact ⟨it, rfl, small, whole, cut, List.drop_drop⟩

theorem pass_wait_le {buffer keep : ByteVector} (verdict : pass buffer = .wait keep) :
    keep.length ≤ buffer.length := by
  rcases pass_wait_inv verdict with ⟨_, rfl⟩ | ⟨it, _, rfl, _⟩
  · rw [List.length_drop]
    exact Nat.sub_le _ _
  · rw [List.length_drop]
    exact Nat.sub_le _ _

theorem pass_skip_lt {buffer rest : ByteVector} (verdict : pass buffer = .skip rest) :
    rest.length < buffer.length := by
  obtain ⟨it, _, header, _, rfl⟩ := pass_skip_inv verdict
  have : 0 < headerSize := by decide
  rw [List.length_drop] at *
  omega

theorem pass_emit_lt {buffer candidate rest : ByteVector}
    (verdict : pass buffer = .emit candidate rest) : rest.length < buffer.length := by
  obtain ⟨it, _, _, whole, _, rfl⟩ := pass_emit_inv verdict
  have : 0 < announcedSize (buffer.drop it) := by
    have : 0 < headerSize := by decide
    unfold announcedSize
    omega
  rw [List.length_drop] at *
  omega

/-- The extractor's loop body as a scanner. -/
def extractor : Scanner UInt8 ByteVector where
  look := pass
  wait_le := pass_wait_le
  skip_lt := pass_skip_lt
  emit_lt := pass_emit_lt

/-! ## The class -/

structure StreamFrameExtractor where
  buffer : ByteVector := []
deriving DecidableEq, Repr

namespace StreamFrameExtractor

/-- `feed`: the candidates returned and the extractor afterwards. -/
def feed (self : StreamFrameExtractor) (bytes : ByteVector) :
    List ByteVector × StreamFrameExtractor :=
  let scanned := extractor.run (self.buffer ++ bytes)
  (scanned.1, ⟨scanned.2⟩)

def clear (_self : StreamFrameExtractor) : StreamFrameExtractor := ⟨[]⟩

/-- Feed fragments one after the other; the candidates concatenated. -/
def feedAll (self : StreamFrameExtractor) : List ByteVector → List ByteVector × StreamFrameExtractor
  | [] => ([], self)
  | fragment :: fragments =>
      let first := self.feed fragment
      let others := first.2.feedAll fragments
      (first.1 ++ others.1, others.2)

/-- The states a program can bring an extractor into. -/
inductive Reachable : StreamFrameExtractor → Prop where
  | fresh : Reachable {}
  | feed {self : StreamFrameExtractor} (bytes : ByteVector) :
      Reachable self → Reachable (self.feed bytes).2
  | clear {self : StreamFrameExtractor} : Reachable self → Reachable self.clear

theorem feedAll_eq_feeds (self : StreamFrameExtractor) (fragments : List ByteVector) :
    self.feedAll fragments =
      ((extractor.feeds self.buffer fragments).1, ⟨(extractor.feeds self.buffer fragments).2⟩) := by
  induction fragments generalizing self with
  | nil => rfl
  | cons fragment fragments ih => simp only [feedAll, ih, feed, Scanner.feeds]

end StreamFrameExtractor

/-! ## Input in pieces -/

/-- Header fields are read below any later growth. -/
theorem announcedLength_append {buffer : ByteVector} (header : headerSize ≤ buffer.length)
    (more : ByteVector) : announcedLength (buffer ++ more) = announcedLength buffer := by
  have size : headerSize = 23 := rfl
  have offset : payloadLengthOffset = 21 := rfl
  have kept (i : Nat) (low : i < 23) : byteAt (buffer ++ more) i = byteAt buffer i :=
    byteAt_append_left (by omega) more
  rw [announcedLength, announcedLength, readU16BE, readU16BE, kept _ (by omega),
    kept _ (by omega)]

theorem announcedSize_append {buffer : ByteVector} (header : headerSize ≤ buffer.length)
    (more : ByteVector) : announcedSize (buffer ++ more) = announcedSize buffer := by
  rw [announcedSize, announcedSize, announcedLength_append header more]

theorem passAligned_append_skip {buffer rest : ByteVector} (more : ByteVector)
    (verdict : passAligned buffer = .skip rest) :
    passAligned (buffer ++ more) = .skip (rest ++ more) := by
  obtain ⟨header, large, rfl⟩ := (passAligned_skip_iff _ _).mp verdict
  have positive : 1 ≤ headerSize := by decide
  refine (passAligned_skip_iff _ _).mpr ⟨?_, ?_, ?_⟩
  · rw [List.length_append]
    omega
  · rwa [announcedLength_append header]
  · rw [List.drop_append_of_le_length (by omega)]

theorem passAligned_append_emit {buffer candidate rest : ByteVector} (more : ByteVector)
    (verdict : passAligned buffer = .emit candidate rest) :
    passAligned (buffer ++ more) = .emit candidate (rest ++ more) := by
  obtain ⟨small, whole, rfl, rfl⟩ := (passAligned_emit_iff _ _ _).mp verdict
  have header : headerSize ≤ buffer.length := by
    unfold announcedSize at whole
    omega
  refine (passAligned_emit_iff _ _ _).mpr ⟨?_, ?_, ?_, ?_⟩
  · rwa [announcedLength_append header]
  · rw [announcedSize_append header, List.length_append]
    omega
  · rw [announcedSize_append header, List.take_append_of_le_length whole]
  · rw [announcedSize_append header, List.drop_append_of_le_length whole]

/-- The magic that was found is found when more has arrived. -/
theorem pass_append_found {buffer : ByteVector} {it : Nat}
    (found : search magicBytes buffer = some it) (more : ByteVector) :
    pass (buffer ++ more) = passAligned (buffer.drop it ++ more) := by
  have inside := (((search_eq_some_iff magicBytes_ne_nil _ _).mp found).1).inside magicBytes_ne_nil
  rw [pass_found (search_append magicBytes_ne_nil found more),
    List.drop_append_of_le_length (by omega)]

/-- **A pass can be resumed.** -/
theorem pass_resumable : extractor.Resumable where
  skip := by
    intro buffer rest more verdict
    change pass buffer = .skip rest at verdict
    change pass (buffer ++ more) = .skip (rest ++ more)
    cases found : search magicBytes buffer with
    | none =>
        rw [pass_missing found] at verdict
        cases verdict
    | some it =>
        rw [pass_found found] at verdict
        rw [pass_append_found found]
        exact passAligned_append_skip more verdict
  emit := by
    intro buffer candidate rest more verdict
    change pass buffer = .emit candidate rest at verdict
    change pass (buffer ++ more) = .emit candidate (rest ++ more)
    cases found : search magicBytes buffer with
    | none =>
        rw [pass_missing found] at verdict
        cases verdict
    | some it =>
        rw [pass_found found] at verdict
        rw [pass_append_found found]
        exact passAligned_append_emit more verdict
  wait := by
    intro buffer keep more verdict
    change pass buffer = .wait keep at verdict
    change pass (keep ++ more) = pass (buffer ++ more)
    cases found : search magicBytes buffer with
    | none =>
        rw [pass_missing found] at verdict
        obtain rfl := Verdict.wait.inj verdict
        -- what is dropped is too far from the end to start a magic
        have size : magicSize = 4 := rfl
        have pattern : magicBytes.length = 4 := rfl
        cases short : decide (buffer.length ≤ 3) with
        | true =>
            have := of_decide_eq_true short
            have zero : buffer.length - (magicSize - 1) = 0 := by omega
            rw [zero, List.drop_zero]
        | false =>
            have long := of_decide_eq_false short
            have shift := search_drop_append magicBytes_ne_nil found
              (buffer.length - (magicSize - 1)) (by omega) more
            have drops (count : Nat) :
                (buffer.drop (buffer.length - (magicSize - 1)) ++ more).drop count =
                  (buffer ++ more).drop (buffer.length - (magicSize - 1) + count) := by
              rw [← List.drop_append_of_le_length (Nat.sub_le _ _), List.drop_drop]
            cases found' : search magicBytes
                (buffer.drop (buffer.length - (magicSize - 1)) ++ more) with
            | none =>
                rw [found', Option.map_none] at shift
                rw [pass_missing found', pass_missing shift, drops]
                congr 2
                simp only [List.length_append, List.length_drop]
                omega
            | some it =>
                rw [found', Option.map_some] at shift
                rw [pass_found found', pass_found shift, drops]
    | some it =>
        have occurs := ((search_eq_some_iff magicBytes_ne_nil _ _).mp found).1
        have inside := occurs.inside magicBytes_ne_nil
        rw [pass_found found] at verdict
        obtain rfl := passAligned_wait verdict
        have starts : OccursAt magicBytes (buffer.drop it) 0 := (occursAt_drop _ _ _ _).mpr occurs
        rw [pass_aligned (starts.append magicBytes_ne_nil more),
          pass_found (search_append magicBytes_ne_nil found more),
          List.drop_append_of_le_length (by omega)]

namespace StreamFrameExtractor

theorem settled_empty : pass [] = .wait [] := rfl

-- from here on a pass is known by the lemmas above; unification must not search a buffer
attribute [irreducible] pass

/-- A reachable buffer has nothing left to decide. -/
theorem Reachable.settled {self : StreamFrameExtractor} (reachable : Reachable self) :
    extractor.look self.buffer = .wait self.buffer := by
  cases reachable with
  | fresh => exact settled_empty
  | feed bytes _ => exact pass_resumable.run_keep _
  | clear _ => exact settled_empty

theorem feedAll_flatten {self : StreamFrameExtractor} (reachable : Reachable self)
    (fragments : List ByteVector) : self.feedAll fragments = self.feed fragments.flatten := by
  rw [feedAll_eq_feeds, pass_resumable.feeds_eq reachable.settled, feed]

/-- **Fragments do not matter**: from a reachable state, any way of cutting a
byte string returns what one feed of it returns, and leaves the same buffer. -/
theorem feed_fragments {self : StreamFrameExtractor} (reachable : Reachable self)
    (bytes : ByteVector) (fragments : List ByteVector) (cut : fragments.flatten = bytes) :
    self.feedAll fragments = self.feed bytes := by
  rw [feedAll_flatten reachable, cut]

/-- A magic cut in two, with an empty fragment between. -/
theorem feed_fragments_magic :
    StreamFrameExtractor.feedAll {} [[0x53, 0x54], [], [0x47, 0x53]] =
      StreamFrameExtractor.feed {} [0x53, 0x54, 0x47, 0x53] :=
  feed_fragments .fresh _ _ rfl

end StreamFrameExtractor

end Stgs.Stream
