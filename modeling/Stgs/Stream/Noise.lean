/-
# Stream.Noise -- bytes before the first frame

Bytes that contain no magic can still spoil the first frame: the magic `STGS`
ends with the letter it starts with, so noise that ends in `STG` makes a false
header three bytes early (`occursAt_border`: that is the only one).  Its length
field then lies on the last temperature byte and the battery byte of the frame
(`falseLength`).  If that is an impossible length the extractor drops one byte and
finds the frame; otherwise it waits for, or returns, a candidate that is not a
frame.  `noise_harmless_iff` is the exact condition.
-/
import Stgs.Stream.Transport

namespace Stgs.Stream

open Stgs.Theory Stgs.Theory.BigEndian Stgs.Theory.Search Stgs.Wire

set_option autoImplicit false

/-- The byte string contains no magic. -/
def NoMagic (bytes : ByteVector) : Prop :=
  ∀ position, ¬ OccursAt magicBytes bytes position

/-- `STG`, all but the last byte of the magic. -/
def magicHead : ByteVector := magicBytes.take 3

/-- The payload length that a header three bytes early announces. -/
def falseLength (frame : TelemetryFrame) : Nat :=
  256 * (frame.temperatureC.bits.toNat % 256) + frame.batteryPercent.toNat

/-! ## The border between noise and frame -/

/-- Across the border of noise and a magic, the magic occurs only three bytes
early, after `STG`. -/
theorem occursAt_border {noise stream : ByteVector} (quiet : NoMagic noise)
    (starts : magicBytes <+: stream) {position : Nat} (before : position < noise.length) :
    OccursAt magicBytes (noise ++ stream) position ↔
      position + 3 = noise.length ∧ magicHead <:+ noise := by
  have size : magicBytes.length = 4 := rfl
  have first : stream[0]? = some 0x53 := by
    obtain ⟨rest, rfl⟩ := starts
    rfl
  constructor
  · intro occurs
    have outside : noise.length < position + 4 :=
      Nat.lt_of_not_le fun inside => quiet position (occurs.of_append inside)
    have overlap (i : Nat) (below : i < magicBytes.length) (at0 : position + i = noise.length) :
        magicBytes[i] = 0x53 := by
      have entry := occurs.getElem? i below
      rw [at0, List.getElem?_append_right le_rfl, Nat.sub_self, first] at entry
      exact (Option.some.inj entry).symm
    have three : position + 3 = noise.length := by
      have place : position + 1 = noise.length ∨ position + 2 = noise.length ∨
          position + 3 = noise.length := by omega
      rcases place with one | two | three
      · exact absurd (overlap 1 (by decide) one) (by decide)
      · exact absurd (overlap 2 (by decide) two) (by decide)
      · exact three
    refine ⟨three, ?_⟩
    have tail : noise.drop position = magicHead := by
      obtain ⟨rest, shape⟩ := occurs
      rw [List.drop_append_of_le_length before.le] at shape
      have taken := congrArg (List.take 3) shape
      have short : (noise.drop position).length = 3 := by
        rw [List.length_drop]
        omega
      rw [List.take_append_of_le_length (by decide), List.take_append_of_le_length short.ge,
        List.take_of_length_le short.le] at taken
      exact taken.symm
    exact tail ▸ List.drop_suffix position noise
  · rintro ⟨three, front, rfl⟩
    obtain ⟨rest, rfl⟩ := starts
    have place : position = front.length := by
      have : magicHead.length = 3 := rfl
      rw [List.length_append] at three
      omega
    rw [OccursAt, List.append_assoc, place, List.drop_left]
    exact ⟨_, rfl⟩

/-- Noise that does not end in `STG` is skipped. -/
theorem pass_noise {noise stream : ByteVector} (quiet : NoMagic noise)
    (apart : ¬ magicHead <:+ noise) (starts : magicBytes <+: stream) :
    pass (noise ++ stream) = pass stream := by
  have found : search magicBytes (noise ++ stream) = some noise.length := by
    refine (search_eq_some_iff magicBytes_ne_nil _ _).mpr ⟨?_, fun earlier below occurs => ?_⟩
    · have := (occursAt_append_right magicBytes noise stream 0).mpr starts
      rwa [Nat.add_zero] at this
    · exact apart ((occursAt_border quiet starts below).mp occurs).2
  rw [pass_found found, List.drop_left, pass_aligned starts]

/-- Noise that ends in `STG` is a false header. -/
theorem pass_false_header {front stream : ByteVector} (quiet : NoMagic (front ++ magicHead))
    (starts : magicBytes <+: stream) :
    pass (front ++ magicHead ++ stream) = passAligned (magicHead ++ stream) := by
  have width : (front ++ magicHead).length = front.length + 3 := List.length_append ..
  have found : search magicBytes (front ++ magicHead ++ stream) = some front.length := by
    refine (search_eq_some_iff magicBytes_ne_nil _ _).mpr ⟨?_, fun earlier below occurs => ?_⟩
    · exact (occursAt_border quiet starts (by omega)).mpr ⟨width.symm, List.suffix_append _ _⟩
    · have := ((occursAt_border quiet starts (by omega)).mp occurs).1
      omega
  rw [pass_found found, List.append_assoc, List.drop_left]

/-! ## The false header -/

theorem announcedLength_false (frame : TelemetryFrame) (rest : ByteVector) :
    announcedLength (magicHead ++ (wire frame ++ rest)) = falseLength frame := by
  have long := header_le_wire frame
  have size : headerSize = 23 := rfl
  have shifted (i : Nat) (low : i < 20) :
      byteAt (magicHead ++ (wire frame ++ rest)) (3 + i) = byteAt (wire frame) i := by
    have skip := byteAt_append_right magicHead (wire frame ++ rest) i
    rw [byteAt_append_left (by omega) rest] at skip
    exact skip
  have temperature : byteAt (wire frame) 18 = frame.temperatureC.bits.toUInt8 := by
    rw [← readU32BE_low (wire frame) 15, ← wire_temperatureC frame]
    rfl
  have inside : 21 + 2 ≤ (magicHead ++ (wire frame ++ rest)).length := by
    have : magicHead.length = 3 := rfl
    simp only [List.length_append]
    omega
  have offset : payloadLengthOffset = 21 := rfl
  rw [announcedLength, offset, readU16BE_toNat inside, slice_eq_map inside]
  simp only [List.range_succ, List.range_zero, List.nil_append, List.map_cons, List.map_nil,
    List.cons_append]
  rw [shifted 18 (by omega), shifted 19 (by omega), temperature,
    show byteAt (wire frame) 19 = frame.batteryPercent from wire_batteryPercent frame]
  simp only [beNat_cons, beNat_nil, List.length_cons, List.length_nil, UInt32.toNat_toUInt8,
    falseLength]
  omega

theorem noMagic_of_short {bytes : ByteVector} (short : bytes.length < 4) : NoMagic bytes := by
  intro position occurs
  have := occurs.inside magicBytes_ne_nil
  have : magicBytes.length = 4 := rfl
  omega

/-- An impossible length costs one byte. -/
theorem passAligned_false_large {frame : TelemetryFrame}
    (large : maxPayloadSize < falseLength frame) (rest : ByteVector) :
    passAligned (magicHead ++ (wire frame ++ rest)) =
      .skip ([0x54, 0x47] ++ (wire frame ++ rest)) := by
  refine (passAligned_skip_iff _ _).mpr ⟨?_, ?_, rfl⟩
  · have := header_le_wire frame
    simp only [List.length_append]
    omega
  · rwa [announcedLength_false]

/-- A possible one never gives the frame: a candidate cut there has `T` where the
frame has its version. -/
theorem passAligned_false_small {frame : TelemetryFrame} (encodable : Encodable frame)
    (small : falseLength frame ≤ maxPayloadSize) (rest : ByteVector) :
    passAligned (magicHead ++ (wire frame ++ rest)) =
        .wait (magicHead ++ (wire frame ++ rest)) ∨
      ∃ candidate left, passAligned (magicHead ++ (wire frame ++ rest)) = .emit candidate left ∧
        candidate ≠ wire frame := by
  cases verdict : passAligned (magicHead ++ (wire frame ++ rest)) with
  | wait keep => exact Or.inl (congrArg Verdict.wait (passAligned_wait verdict))
  | skip left =>
      obtain ⟨_, large, _⟩ := (passAligned_skip_iff _ _).mp verdict
      rw [announcedLength_false] at large
      omega
  | emit candidate left =>
      refine Or.inr ⟨candidate, left, rfl, fun same => ?_⟩
      obtain ⟨_, whole, cut, _⟩ := (passAligned_emit_iff _ _ _).mp verdict
      have version : byteAt (wire frame) 4 = 1 :=
        (wire_version frame).trans encodable.version
      have early : byteAt candidate 4 = 0x54 := by
        obtain ⟨tail, shape⟩ := magic_prefix_wire frame
        have size : 4 < announcedSize (magicHead ++ (wire frame ++ rest)) := by
          have : headerSize = 23 := rfl
          unfold announcedSize
          omega
        rw [cut, byteAt_take size, ← shape]
        rfl
      rw [same, version] at early
      exact absurd early (by decide)

/-! ## Noise, then encoded frames -/

theorem magic_prefix_wires (first : TelemetryFrame) (others : List TelemetryFrame) :
    magicBytes <+: ((first :: others).map wire).flatten := by
  rw [List.map_cons, List.flatten_cons]
  exact (magic_prefix_wire first).trans (List.prefix_append _ _)

section Frames

variable {first : TelemetryFrame} {others : List TelemetryFrame}
  (encodable : ∀ frame ∈ first :: others, Encodable frame)

include encodable

theorem run_frames : (extractor.run ((first :: others).map wire).flatten).1 =
    (first :: others).map wire := by
  have cut := run_wires encodable []
  have empty : extractor.run [] = ([], []) :=
    extractor.run_wait StreamFrameExtractor.settled_empty
  rw [List.append_nil, empty, List.append_nil] at cut
  rw [cut]

theorem run_noise_apart {noise : ByteVector} (quiet : NoMagic noise)
    (apart : ¬ magicHead <:+ noise) :
    (extractor.run (noise ++ ((first :: others).map wire).flatten)).1 =
      (first :: others).map wire := by
  rw [extractor.run_congr (pass_noise quiet apart (magic_prefix_wires first others)), run_frames encodable]

theorem run_noise_large {front : ByteVector} (quiet : NoMagic (front ++ magicHead))
    (large : maxPayloadSize < falseLength first) :
    (extractor.run (front ++ magicHead ++ ((first :: others).map wire).flatten)).1 =
      (first :: others).map wire := by
  have falseHeader := pass_false_header quiet (magic_prefix_wires first others)
  have skipped := falseHeader.trans (passAligned_false_large large _)
  -- the byte dropped leaves `TG`, which is noise that does not end in `STG`
  have half : NoMagic [0x54, 0x47] := noMagic_of_short (by decide)
  have found := run_noise_apart encodable half (by decide)
  rw [extractor.run_skip skipped]
  exact found

theorem run_noise_small {front : ByteVector} (quiet : NoMagic (front ++ magicHead))
    (small : falseLength first ≤ maxPayloadSize) :
    (extractor.run (front ++ magicHead ++ ((first :: others).map wire).flatten)).1 ≠
      (first :: others).map wire := by
  intro same
  have falseHeader := pass_false_header quiet (magic_prefix_wires first others)
  rcases passAligned_false_small (encodable first (List.mem_cons_self ..)) small
    (others.map wire).flatten with waits | ⟨candidate, left, cut, differs⟩
  · rw [extractor.run_wait (falseHeader.trans waits)] at same
    cases same
  · rw [extractor.run_emit (falseHeader.trans cut)] at same
    exact differs (List.cons.inj same).1

end Frames

theorem feedAll_fresh {fragments : List ByteVector} {bytes : ByteVector}
    (received : fragments.flatten = bytes) :
    (StreamFrameExtractor.feedAll {} fragments).1 = (extractor.run bytes).1 := by
  rw [StreamFrameExtractor.feedAll_flatten .fresh, received]
  rfl

/-- **Noise without a magic costs no frame**, except when it ends in `STG` and the
first frame's last temperature byte and battery byte spell a possible length. -/
theorem noise_harmless_iff {noise : ByteVector} (quiet : NoMagic noise)
    {first : TelemetryFrame} {others : List TelemetryFrame} {encodings : List ByteVector}
    (encoded : Encodings (first :: others) encodings) (fragments : List ByteVector)
    (received : fragments.flatten = noise ++ encodings.flatten) :
    (StreamFrameExtractor.feedAll {} fragments).1 = encodings ↔
      ¬ (magicHead <:+ noise ∧ falseLength first ≤ maxPayloadSize) := by
  have encodable := encoded.encodable
  rw [feedAll_fresh received, encoded.eq_map_wire]
  by_cases ends : magicHead <:+ noise
  · obtain ⟨front, rfl⟩ := ends
    rcases Nat.lt_or_ge maxPayloadSize (falseLength first) with large | small
    · exact iff_of_true (run_noise_large encodable quiet large)
        fun both => absurd both.2 (Nat.not_le_of_lt large)
    · exact iff_of_false (run_noise_small encodable quiet small)
        fun harmless => harmless ⟨List.suffix_append _ _, small⟩
  · exact iff_of_true (run_noise_apart encodable quiet ends) fun both => ends both.1

/-- Three bytes of noise unrelated to the magic. -/
theorem noise_harmless_unrelated :
    (StreamFrameExtractor.feedAll {} [[0x00, 0x11, 0x22], wire {}]).1 = [wire {}] :=
  have quiet : NoMagic [0x00, 0x11, 0x22] := noMagic_of_short (by decide)
  (noise_harmless_iff quiet (encodings_singleton encodable_default) _ rfl).mpr
    fun both => absurd both.1 (by decide)

/-- **Three bytes of noise that lose a frame**: `STG` before the default frame. -/
theorem noise_loses_frame :
    ¬ ∀ (noise : ByteVector) (frames : List TelemetryFrame) (encodings fragments : List ByteVector),
      NoMagic noise → frames ≠ [] → Encodings frames encodings →
        fragments.flatten = noise ++ encodings.flatten →
          (StreamFrameExtractor.feedAll {} fragments).1 = encodings := by
  intro harmless
  have encodable : ∀ frame ∈ [({} : TelemetryFrame)], Encodable frame := by
    simpa using encodable_default
  have quiet : NoMagic ([] ++ magicHead) := noMagic_of_short (by decide)
  have kept := harmless magicHead [{}] [wire {}] [magicHead ++ [wire {}].flatten] quiet
    (List.cons_ne_nil _ _) (encodings_singleton encodable_default) (by simp)
  rw [feedAll_fresh (List.append_nil _)] at kept
  exact run_noise_small encodable quiet (by decide) kept

end Stgs.Stream
