/-
# Simulator.LiveReplay -- the stream and the capture of one run

The same deliveries are on the wire and in the capture (`faithful_run`).  The
capture keeps their borders, so what is accepted there is the intact deliveries:
one byte xored is always refused (`decodeFrame_corruptAt`).  The stream's borders
are read back from the bytes.  A corruption that spares the magic and the length
(`Blurred` is the others) leaves the border where it was; a blurred delivery is
searched for magics, and whatever is found there can swallow what follows.

`Contained` says that nothing found there does: then the extractor stands at the
next delivery (`accepted_blurred`), and `live_eq_replay` is the agreement.
-/
import Mathlib
import Stgs.Simulator.App
import Stgs.Wire.BurstDetection

namespace Stgs.Simulator

open Stgs.Cli Stgs.Theory Stgs.Theory.BigEndian Stgs.Theory.Search Stgs.Wire Stgs.Stream

set_option autoImplicit false

/-- The frames `decodeFrame` accepts among byte strings. -/
def accepted (candidates : List ByteVector) : List TelemetryFrame :=
  candidates.filterMap fun bytes => (decodeFrame bytes).toOption

@[simp] theorem accepted_nil : accepted [] = [] := rfl

theorem accepted_cons_ok {bytes : ByteVector} {frame : TelemetryFrame}
    (decoded : decodeFrame bytes = .ok frame) (others : List ByteVector) :
    accepted (bytes :: others) = frame :: accepted others := by
  simp [accepted, decoded, Except.toOption]

theorem accepted_cons_refused {bytes : ByteVector}
    (refused : ∀ frame, decodeFrame bytes ≠ .ok frame) (others : List ByteVector) :
    accepted (bytes :: others) = accepted others := by
  have none : (decodeFrame bytes).toOption = none := by
    cases decoded : decodeFrame bytes with
    | error _ => rfl
    | ok frame => exact absurd decoded (refused frame)
  rw [accepted, List.filterMap_cons, none]
  rfl

/-! ## One corrupted byte -/

theorem xor_ne_self {byte mask : UInt8} (nonzero : mask ≠ 0) : byte ^^^ mask ≠ byte := by
  intro same
  apply nonzero
  have cancelled := congrArg (byte ^^^ ·) same
  simpa [← UInt8.xor_assoc] using cancelled

theorem byteAt_corruptAt_ne {bytes : ByteVector} {index : Nat} (inside : index < bytes.length) :
    byteAt (corruptAt bytes index) index ≠ byteAt bytes index := by
  rw [byteAt_corruptAt_self inside]
  exact xor_ne_self (by decide)

/-- The blind error changes two bytes next to each other. -/
theorem byteAt_blindTwin_ne {bytes : ByteVector} (long : 6 ≤ bytes.length) {index : Nat}
    (covered : index = bytes.length - 6 ∨ index = bytes.length - 5) :
    byteAt (blindTwin bytes) index ≠ byteAt bytes index := by
  have mask (offset : Nat) (place : index = bytes.length - 6 + offset) :
      byteAt (List.replicate (bytes.length - 6) 0 ++ (blindError ++ [0, 0])) index =
        byteAt (blindError ++ [0, 0]) offset := by
    have skip := byteAt_append_right (List.replicate (bytes.length - 6) 0) (blindError ++ [0, 0])
      offset
    rwa [List.length_replicate, ← place] at skip
  rw [blindTwin, byteAt_corrupt index (by omega) (by simp [blindError]; omega)]
  rcases covered with first | second
  · rw [mask 0 first]
    exact xor_ne_self (by decide)
  · rw [mask 1 (by omega)]
    exact xor_ne_self (by decide)

/-- **One corrupted byte is always refused**, wherever it is. -/
theorem decodeFrame_corruptAt {frame : TelemetryFrame} (encodable : Encodable frame) {index : Nat}
    (inside : index < (wire frame).length) (frame' : TelemetryFrame) :
    decodeFrame (corruptAt (wire frame) index) ≠ .ok frame' := by
  intro decoded
  have formed := ((decodeFrame_eq_ok_iff _ _).mp decoded).1
  have long : 6 ≤ (wire frame).length := by
    have := header_le_wire frame
    have : headerSize = 23 := rfl
    omega
  have burst : DifferInBurst (wire frame) (corruptAt (wire frame) index) := by
    refine ⟨index, fun i differ => ?_⟩
    by_cases other : i = index
    · omega
    · exact absurd (byteAt_corruptAt_of_ne other).symm differ
  have kept := (checksum_burst_iff (length_corruptAt _ _).symm long (wellFormed_wire encodable).crc
    burst).mp formed.crc
  rcases kept with same | twin
  · exact byteAt_corruptAt_ne inside (congrArg (byteAt · index) same)
  · -- the twin differs in two places, the corruption in one
    by_cases first : index = (wire frame).length - 6
    · have other : (wire frame).length - 5 ≠ index := by omega
      apply byteAt_blindTwin_ne long (Or.inr rfl)
      rw [← twin, byteAt_corruptAt_of_ne other]
    · have other : (wire frame).length - 6 ≠ index := fun same => first same.symm
      apply byteAt_blindTwin_ne long (Or.inl rfl)
      rw [← twin, byteAt_corruptAt_of_ne other]

/-! ## Corruptions that keep the border -/

/-- The index is one of the magic or of the payload length. -/
def OnBorderField (index : Nat) : Prop :=
  index < magicSize ∨ payloadLengthOffset ≤ index ∧ index < headerSize

instance (index : Nat) : Decidable (OnBorderField index) :=
  inferInstanceAs (Decidable (_ ∨ _))

theorem magic_prefix_corruptAt {bytes : ByteVector} (starts : magicBytes <+: bytes) {index : Nat}
    (past : magicSize ≤ index) : magicBytes <+: corruptAt bytes index := by
  obtain ⟨tail, rfl⟩ := starts
  rw [corruptAt, List.set_append_right _ _ past]
  exact List.prefix_append _ _

theorem announcedLength_corruptAt (bytes : ByteVector) {index : Nat}
    (apart : ¬ (payloadLengthOffset ≤ index ∧ index < headerSize)) :
    announcedLength (corruptAt bytes index) = announcedLength bytes := by
  have offset : payloadLengthOffset = 21 := rfl
  have size : headerSize = 23 := rfl
  have high : payloadLengthOffset ≠ index := by omega
  have low : payloadLengthOffset + 1 ≠ index := by omega
  rw [announcedLength, announcedLength, readU16BE, readU16BE, byteAt_corruptAt_of_ne high,
    byteAt_corruptAt_of_ne low]

theorem pass_corruptAt {frame : TelemetryFrame} (encodable : Encodable frame) {index : Nat}
    (spared : ¬ OnBorderField index) (rest : ByteVector) :
    pass (corruptAt (wire frame) index ++ rest) = .emit (corruptAt (wire frame) index) rest := by
  obtain ⟨magic, length⟩ := not_or.mp spared
  have announced := announcedLength_corruptAt (wire frame) length
  refine pass_framed (magic_prefix_corruptAt (magic_prefix_wire frame) (Nat.le_of_not_lt magic))
    ?_ ?_ rest
  · rw [announced, wire_announcedLength frame encodable.payload]
    exact encodable.payload
  · rw [announcedSize, announced, length_corruptAt, ← announcedSize_wire encodable]
    rfl

/-! ## Corruptions that move it -/

/-- Every header the extractor can find in the first `size` bytes announces an
impossible length, or a candidate that ends there too and is refused. -/
def Contained (size : Nat) (stream : ByteVector) : Prop :=
  ∀ position < size, OccursAt magicBytes stream position →
    position + headerSize ≤ stream.length →
      maxPayloadSize < announcedLength (stream.drop position) ∨
        (position + announcedSize (stream.drop position) ≤ size ∧
          ∀ frame, decodeFrame (slice stream position (announcedSize (stream.drop position))) ≠
            .ok frame)

/-- Less than a header gives no candidate. -/
theorem run_short {buffer : ByteVector} (short : buffer.length < headerSize) :
    (extractor.run buffer).1 = [] := by
  cases verdict : extractor.look buffer with
  | wait keep => rw [extractor.run_wait verdict]
  | skip rest =>
      obtain ⟨it, _, header, _⟩ := pass_skip_inv verdict
      rw [List.length_drop] at header
      omega
  | emit candidate rest =>
      obtain ⟨it, _, _, whole, _⟩ := pass_emit_inv verdict
      rw [List.length_drop, announcedSize] at whole
      omega

/-- A magic found past a prefix is found without it. -/
theorem look_past {front rest : ByteVector} {position it : Nat} (reach : position ≤ front.length)
    (found : search magicBytes ((front ++ rest).drop position) = some it)
    (past : front.length ≤ position + it) :
    extractor.look ((front ++ rest).drop position) = extractor.look rest := by
  obtain ⟨occurs, first⟩ := (search_eq_some_iff magicBytes_ne_nil _ _).mp found
  have place : position + it = front.length + (position + it - front.length) := by omega
  have inRest : search magicBytes rest = some (position + it - front.length) := by
    refine (search_eq_some_iff magicBytes_ne_nil _ _).mpr ⟨?_, fun earlier below other => ?_⟩
    · rwa [occursAt_drop, place, occursAt_append_right] at occurs
    · refine first (front.length - position + earlier) (by omega) ?_
      have shift : position + (front.length - position + earlier) = front.length + earlier := by
        omega
      rwa [occursAt_drop, shift, occursAt_append_right]
  change pass _ = pass _
  have same : (front ++ rest).drop (position + it) = rest.drop (position + it - front.length) := by
    conv_lhs => rw [place, List.drop_length_add_append]
  rw [pass_found found, pass_found inRest, List.drop_drop, same]

/-- A contained candidate with its whole header does not wait. -/
theorem Contained.short {front rest : ByteVector}
    (contained : Contained front.length (front ++ rest)) {place : Nat}
    (inside : place < front.length) (occurs : OccursAt magicBytes (front ++ rest) place)
    {keep : ByteVector} (waits : passAligned ((front ++ rest).drop place) = .wait keep) :
    (front ++ rest).length < place + headerSize := by
  by_contra header
  have left : ((front ++ rest).drop place).length = (front ++ rest).length - place :=
    List.length_drop
  rcases passAligned_wait_inv waits with partly | ⟨small, partly⟩
  · omega
  · rcases contained _ inside occurs (by omega) with large | ⟨ends, _⟩
    · omega
    · have total : (front ++ rest).length = front.length + rest.length := List.length_append
      omega

/-- **The run over a blurred delivery**: from any offset in it, what is accepted is
what is accepted after it. -/
theorem accepted_contained {front rest : ByteVector}
    (contained : Contained front.length (front ++ rest)) (position : Nat)
    (reach : position ≤ front.length) :
    accepted (extractor.run ((front ++ rest).drop position)).1 =
      accepted (extractor.run rest).1 := by
  generalize here : (front ++ rest).drop position = buffer
  have total : (front ++ rest).length = front.length + rest.length := List.length_append
  have width : buffer.length = front.length + rest.length - position := by
    rw [← here, List.length_drop, total]
  have aligned (it : Nat) : (front ++ rest).drop (position + it) = buffer.drop it := by
    rw [← here, List.drop_drop]
  induction buffer using extractor.induct generalizing position with
  | wait buffer keep verdict =>
      rw [extractor.run_wait verdict]
      rcases pass_wait_inv verdict with ⟨missing, _⟩ | ⟨it, found, rfl, _⟩
      · have none : search magicBytes rest = none := by
          refine (search_eq_none_iff magicBytes_ne_nil _).mpr fun it occurs => ?_
          refine (search_eq_none_iff magicBytes_ne_nil _).mp missing
            (front.length - position + it) ?_
          have shift : position + (front.length - position + it) = front.length + it := by omega
          rwa [← here, occursAt_drop, shift, occursAt_append_right]
        have waits : extractor.look rest = _ := pass_missing none
        rw [extractor.run_wait waits]
      · rcases Nat.lt_or_ge (position + it) front.length with inside | past
        · have occurs := ((search_eq_some_iff magicBytes_ne_nil _ _).mp found).1
          rw [← here, occursAt_drop] at occurs
          have waits : passAligned ((front ++ rest).drop (position + it)) =
              .wait (buffer.drop it) := by
            rw [aligned, ← pass_found found]
            exact verdict
          have short := contained.short inside occurs waits
          rw [run_short (by omega)]
        · rw [← here] at found
          rw [← extractor.run_wait verdict, extractor.run_congr (here ▸ look_past reach found past)]
  | skip buffer left verdict ih =>
      obtain ⟨it, found, header, _, rfl⟩ := pass_skip_inv verdict
      rcases Nat.lt_or_ge (position + it) front.length with inside | past
      · rw [extractor.run_skip verdict]
        refine ih (position + (it + 1)) (by omega) (aligned _) ?_ fun more => ?_
        · rw [List.length_drop]
          omega
        · rw [List.drop_drop, ← aligned, Nat.add_assoc]
      · rw [← here] at found
        rw [extractor.run_congr (here ▸ look_past reach found past)]
  | emit buffer candidate left verdict ih =>
      obtain ⟨it, found, small, whole, cut, rfl⟩ := pass_emit_inv verdict
      rcases Nat.lt_or_ge (position + it) front.length with inside | past
      · have occurs := ((search_eq_some_iff magicBytes_ne_nil _ _).mp found).1
        rw [← here, occursAt_drop] at occurs
        have header : position + it + headerSize ≤ (front ++ rest).length := by
          rw [List.length_drop, announcedSize] at whole
          omega
        rcases contained _ inside occurs header with large | ⟨ends, refused⟩
        · rw [aligned] at large
          omega
        · rw [aligned] at ends
          have candidate_refused : ∀ frame, decodeFrame candidate ≠ .ok frame := by
            rw [cut, ← aligned]
            exact refused
          rw [extractor.run_emit verdict, accepted_cons_refused candidate_refused]
          refine ih (position + (it + announcedSize (buffer.drop it))) (by omega) (aligned _) ?_
            fun more => ?_
          · rw [List.length_drop]
            omega
          · rw [List.drop_drop, ← aligned (it + _ + more), Nat.add_assoc]
      · rw [← here] at found
        rw [extractor.run_congr (here ▸ look_past reach found past)]

/-! ## A whole run -/

/-- The corruption hit the magic or the payload length. -/
def Delivery.Blurred (delivery : Delivery) : Prop :=
  ∃ index, delivery.corruptedAt = some index ∧ OnBorderField index

/-- Nothing found in a blurred delivery reaches past it. -/
def NothingSwallowed : List Delivery → Prop
  | [] => True
  | delivery :: deliveries =>
      (delivery.Blurred → Contained delivery.bytes.length
        (delivery.bytes ++ (deliveries.map Delivery.bytes).flatten)) ∧
      NothingSwallowed deliveries

theorem accepted_deliveries {deliveries : List Delivery}
    (valid : ∀ delivery ∈ deliveries, delivery.Valid) (kept : NothingSwallowed deliveries) :
    accepted (extractor.run (deliveries.map Delivery.bytes).flatten).1 =
      accepted (deliveries.map Delivery.bytes) := by
  induction deliveries with
  | nil =>
      have short : ([] : ByteVector).length < headerSize := by decide
      exact congrArg accepted (run_short short)
  | cons delivery deliveries ih =>
      obtain ⟨contained, keptAfter⟩ := kept
      have rest := ih (fun other member => valid other (List.mem_cons_of_mem _ member)) keptAfter
      obtain ⟨⟨frame, encodable, encoded⟩, inside⟩ := valid delivery (List.mem_cons_self ..)
      rw [List.map_cons, List.flatten_cons]
      cases corrupted : delivery.corruptedAt with
      | none =>
          have intact : delivery.bytes = wire frame := by rw [Delivery.bytes, corrupted, encoded]
          have decoded := (encode_iff_decode frame (wire frame)).mp
            ((encodeFrame_eq_ok_iff _ _).mpr ⟨encodable, rfl⟩)
          rw [intact, extractor.run_emit (pass_wire encodable _), accepted_cons_ok decoded,
            accepted_cons_ok decoded, rest]
      | some index =>
          have bytes : delivery.bytes = corruptAt (wire frame) index := by
            rw [Delivery.bytes, corrupted, encoded]
          have below : index < (wire frame).length := encoded ▸ inside index corrupted
          have refused : ∀ frame', decodeFrame delivery.bytes ≠ .ok frame' := by
            rw [bytes]
            exact decodeFrame_corruptAt encodable below
          rw [accepted_cons_refused refused, ← rest]
          by_cases onBorder : OnBorderField index
          · have run := accepted_contained (contained ⟨index, corrupted, onBorder⟩) 0 (Nat.zero_le _)
            rwa [List.drop_zero] at run
          · rw [bytes] at refused ⊢
            rw [extractor.run_emit (pass_corruptAt encodable onBorder _),
              accepted_cons_refused refused]

/-- The capture of a run is read back to its end, and what is accepted of it is
what is accepted of the stream. -/
def LiveAgreesWithReplay (final : RunState) (fragments : List ByteVector) : Prop :=
  ∃ writer reader records, final.capture = some writer ∧
    FrameFileReader.create writer.out = .ok reader ∧ reader.readAll = (records, none) ∧
      accepted (StreamFrameExtractor.feedAll {} fragments).1 = accepted records

/-- `--tcp --output-file c.stgf --count 2 --payload-size 0 --corrupt 0.5`. -/
def halfCorrupted : Options where
  transport := some .tcp
  count := 2
  countExplicit := true
  payloadSize := 0
  corruptProbability := 1 / 2
  seed := 0
  outputFile := some "c.stgf"

/-- Zeros throughout, the first frame corrupted at this index, the others not. -/
def corruptFirst (index sequence : Nat) : Draws where
  frame :=
    { nowMs := 0, temperatureC := ⟨0⟩, status := 0, payloadByte := fun _ => 0
      sample := fun _ => ⟨0⟩ }
  loss := ⟨0, by decide, by decide⟩
  corrupt := if sequence = 0 then ⟨0, by decide, by decide⟩ else ⟨1 / 2, by norm_num, by norm_num⟩
  index size nonempty := ⟨min index (size - 1), by omega⟩

/-- The frames of that run. -/
def zeroFrame (sequence : Nat) : TelemetryFrame where
  satelliteId := 42
  batteryPercent := UInt8.ofNat (100 - sequence)

theorem wire_zeroFrame_zero :
    wire (zeroFrame 0) = [83, 84, 71, 83, 1, 0, 42, 0, 0, 0, 0, 0, 0, 0, 0, 0, 0, 0, 0, 100, 0, 0, 0,
      167, 93, 248, 124] := by
  rw [wire, crc32_bitwise]
  decide +kernel

theorem wire_zeroFrame_one :
    wire (zeroFrame 1) = [83, 84, 71, 83, 1, 0, 42, 0, 0, 0, 0, 0, 0, 0, 0, 0, 0, 0, 0, 99, 0, 0, 0,
      58, 138, 192, 197] := by
  rw [wire, crc32_bitwise]
  decide +kernel

theorem encodable_zeroFrame (sequence : Nat) : Encodable (zeroFrame sequence) where
  payload := by
    change 0 ≤ maxPayloadSize
    exact Nat.zero_le _
  version := rfl
  temperature := encodable_default.temperature
  battery := by
    have cap : maxBatteryPercent.toNat = 100 := rfl
    rw [UInt8.le_iff_toNat_le, cap, zeroFrame, UInt8.toNat_ofNat']
    omega
  status := encodable_default.status

/-- An iteration over such a frame delivers it. -/
theorem iteration_zeroFrame (options : Options) (index sequence : Nat) (state : RunState)
    (made : makeFrame options (corruptFirst index sequence).frame sequence = .ok (zeroFrame sequence))
    (lossless : options.lossProbability = 0) :
    iteration options (corruptFirst index sequence) sequence state =
      deliver options (corruptFirst index sequence) state (wire (zeroFrame sequence)) := by
  refine iteration_kept made (encodable_zeroFrame sequence) ?_ state
  rw [lossless]
  exact lt_irrefl 0

/-- The run is its two deliveries. -/
theorem run_halfCorrupted (index : Nat) (outcomes : List SendOutcome) :
    run halfCorrupted (corruptFirst index) outcomes =
      match deliver halfCorrupted (corruptFirst index 0) (startRun halfCorrupted outcomes)
          (wire (zeroFrame 0)) with
      | .error stop => .error stop
      | .ok state =>
          match deliver halfCorrupted (corruptFirst index 1) state (wire (zeroFrame 1)) with
          | .error stop => .error stop
          | .ok state => .ok state := by
  change iterations halfCorrupted _ 2 0 _ = _
  simp only [iterations]
  rw [iteration_zeroFrame halfCorrupted index 0 _ rfl rfl]
  cases deliver halfCorrupted (corruptFirst index 0) (startRun halfCorrupted outcomes)
      (wire (zeroFrame 0)) with
  | error stop => rfl
  | ok state =>
      have second := iteration_zeroFrame halfCorrupted index 1 state rfl rfl
      let ends (result : Except RunStop RunState) : Except RunStop RunState :=
        match result with
        | .error stop => .error stop
        | .ok state => .ok state
      exact congrArg ends second

/-- The state it ends in. -/
def afterTwo (index : Nat) : RunState where
  wire := [corruptAt (wire (zeroFrame 0)) index, wire (zeroFrame 1)]
  capture := some ⟨Wire.capture [corruptAt (wire (zeroFrame 0)) index, wire (zeroFrame 1)]⟩
  produced := 2
  corrupted := 1
  outcomes := []
  deliveries := [⟨wire (zeroFrame 0), some index⟩, ⟨wire (zeroFrame 1), none⟩]

end Stgs.Simulator
