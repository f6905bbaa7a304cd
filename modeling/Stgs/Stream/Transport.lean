/-
# Stream.Transport -- encoded frames over TCP

`sendAll` writes a byte vector with as many `send` calls as the kernel makes it
take; a run of it is a list of the outcomes of those calls.  Whatever they are, a
run that returns has put exactly the vector on the wire (`sendAll_flatten`).

On the other side an encoded frame at the head of the buffer is one pass of the
extractor (`pass_wire`), whatever follows and whatever its payload contains: the
magic is found at once and the announced size is the frame's own.  So a stream of
encoded frames is cut where it was joined (`run_wires`), and `tcp_lossless`
composes the two.
-/
import Stgs.Stream.Extractor

namespace Stgs.Stream

open Stgs.Theory Stgs.Theory.BigEndian Stgs.Theory.Search Stgs.Wire

set_option autoImplicit false

/-! ## sendAll -/

/-- What one call of `::send` does.  The kernel takes no more than it is given. -/
inductive SendOutcome where
  | accepted (count : Nat)
  | interrupted
  | failed (reason : String)
deriving DecidableEq, Repr

/-- A run of sends: the pieces on the wire, and how it ended. -/
inductive SendResult where
  | returned (pieces : List ByteVector) (unused : List SendOutcome)
  | threw (exn : Exn) (pieces : List ByteVector)
  | blocked (pieces : List ByteVector)
deriving DecidableEq, Repr

/-- One more piece on the wire, before the others. -/
def SendResult.after (piece : ByteVector) : SendResult → SendResult
  | returned pieces unused => returned (piece :: pieces) unused
  | threw exn pieces => threw exn (piece :: pieces)
  | blocked pieces => blocked (piece :: pieces)

/-- The loop of `sendAll`, with `sent` bytes behind it. -/
def sendLoop (bytes : ByteVector) (sent : Nat) : List SendOutcome → SendResult
  | [] => if sent < bytes.length then .blocked [] else .returned [] []
  | outcome :: outcomes =>
      if sent < bytes.length then
        match outcome with
        | .interrupted => sendLoop bytes sent outcomes
        | .failed reason => .threw (.runtimeError ("send() failed: " ++ reason)) []
        | .accepted count =>
            let count := min count (bytes.length - sent)
            if count = 0 then
              .threw (.runtimeError "send() returned zero before the frame was fully transmitted") []
            else (sendLoop bytes (sent + count) outcomes).after (slice bytes sent count)
      else .returned [] (outcome :: outcomes)

def sendAll (bytes : ByteVector) (outcomes : List SendOutcome) : SendResult :=
  sendLoop bytes 0 outcomes

/-- Byte vectors sent one after the other on one socket. -/
def sendEach : List ByteVector → List SendOutcome → SendResult
  | [], outcomes => .returned [] outcomes
  | bytes :: others, outcomes =>
      match sendAll bytes outcomes with
      | .returned pieces unused =>
          match sendEach others unused with
          | .returned pieces' unused' => .returned (pieces ++ pieces') unused'
          | .threw exn pieces' => .threw exn (pieces ++ pieces')
          | .blocked pieces' => .blocked (pieces ++ pieces')
      | stopped => stopped

theorem SendResult.after_eq_returned {piece : ByteVector} {result : SendResult}
    {pieces : List ByteVector} {unused : List SendOutcome}
    (ended : result.after piece = .returned pieces unused) :
    ∃ others, pieces = piece :: others ∧ result = .returned others unused := by
  cases result with
  | returned others left =>
      obtain ⟨rfl, rfl⟩ := SendResult.returned.inj ended
      exact ⟨others, rfl, rfl⟩
  | threw _ _ => cases ended
  | blocked _ => cases ended

theorem sendLoop_flatten {bytes : ByteVector} {sent : Nat} {outcomes unused : List SendOutcome}
    {pieces : List ByteVector} (ended : sendLoop bytes sent outcomes = .returned pieces unused) :
    pieces.flatten = bytes.drop sent := by
  have finished (past : ¬ sent < bytes.length) : bytes.drop sent = [] :=
    List.drop_eq_nil_of_le (Nat.le_of_not_lt past)
  induction outcomes generalizing sent pieces with
  | nil =>
      unfold sendLoop at ended
      split at ended
      · cases ended
      · rename_i past
        obtain ⟨rfl, _⟩ := SendResult.returned.inj ended
        rw [finished past, List.flatten_nil]
  | cons outcome outcomes ih =>
      unfold sendLoop at ended
      split at ended
      · cases outcome with
        | interrupted => exact ih ended finished
        | failed reason => cases ended
        | accepted count =>
            simp only at ended
            split at ended
            · cases ended
            · obtain ⟨others, rfl, rest⟩ := SendResult.after_eq_returned ended
              rw [List.flatten_cons, ih rest fun past =>
                List.drop_eq_nil_of_le (Nat.le_of_not_lt past), slice, ← List.drop_drop,
                List.take_append_drop]
      · rename_i past
        obtain ⟨rfl, _⟩ := SendResult.returned.inj ended
        rw [finished past, List.flatten_nil]

/-- **`sendAll` loses and repeats nothing**, whatever the kernel takes at a time. -/
theorem sendAll_flatten {bytes : ByteVector} {outcomes unused : List SendOutcome}
    {pieces : List ByteVector} (ended : sendAll bytes outcomes = .returned pieces unused) :
    pieces.flatten = bytes :=
  sendLoop_flatten ended

theorem sendEach_flatten {vectors : List ByteVector} {outcomes unused : List SendOutcome}
    {pieces : List ByteVector} (ended : sendEach vectors outcomes = .returned pieces unused) :
    pieces.flatten = vectors.flatten := by
  induction vectors generalizing outcomes pieces with
  | nil =>
      obtain ⟨rfl, _⟩ := SendResult.returned.inj ended
      rfl
  | cons bytes others ih =>
      rw [sendEach] at ended
      cases first : sendAll bytes outcomes with
      | returned head left =>
          rw [first] at ended
          cases rest : sendEach others left with
          | returned tail left' =>
              simp only [rest] at ended
              obtain ⟨rfl, rfl⟩ := SendResult.returned.inj ended
              rw [List.flatten_append, List.flatten_cons, sendAll_flatten first, ih rest]
          | threw _ _ =>
              simp only [rest] at ended
              cases ended
          | blocked _ =>
              simp only [rest] at ended
              cases ended
      | threw _ _ =>
          rw [first] at ended
          cases ended
      | blocked _ =>
          rw [first] at ended
          cases ended

/-! ## Encoded frames at the head of the buffer -/

theorem magic_prefix_wire (frame : TelemetryFrame) : magicBytes <+: wire frame := by
  rw [wire_eq_flatten]
  exact ⟨_, rfl⟩

theorem header_le_wire (frame : TelemetryFrame) : headerSize ≤ (wire frame).length := by
  rw [length_wire]
  omega

theorem announcedSize_wire {frame : TelemetryFrame} (encodable : Encodable frame) :
    announcedSize (wire frame) = (wire frame).length := by
  rw [announcedSize, wire_announcedLength frame encodable.payload, length_wire]

theorem wire_length_le {frame : TelemetryFrame} (encodable : Encodable frame) :
    (wire frame).length ≤ maxFrameSize := by
  have := encodable.payload
  rw [length_wire, maxFrameSize]
  omega

/-- A byte string that announces its own size is one pass, whatever follows. -/
theorem pass_framed {bytes : ByteVector} (starts : magicBytes <+: bytes)
    (small : announcedLength bytes ≤ maxPayloadSize) (whole : announcedSize bytes = bytes.length)
    (rest : ByteVector) : pass (bytes ++ rest) = .emit bytes rest := by
  have header : headerSize ≤ bytes.length := by
    rw [← whole, announcedSize]
    omega
  have starts' : OccursAt magicBytes (bytes ++ rest) 0 := starts.trans (List.prefix_append _ _)
  rw [pass_aligned starts']
  refine (passAligned_emit_iff _ _ _).mpr ⟨?_, ?_, ?_, ?_⟩
  · rwa [announcedLength_append header]
  · rw [announcedSize_append header, whole, List.length_append]
    omega
  · rw [announcedSize_append header, whole, List.take_left]
  · rw [announcedSize_append header, whole, List.drop_left]

/-- **An encoded frame at the head of the buffer is one pass.** -/
theorem pass_wire {frame : TelemetryFrame} (encodable : Encodable frame) (rest : ByteVector) :
    pass (wire frame ++ rest) = .emit (wire frame) rest := by
  refine pass_framed (magic_prefix_wire frame) ?_ (announcedSize_wire encodable) rest
  rw [wire_announcedLength frame encodable.payload]
  exact encodable.payload

/-- The encodings of a list of frames. -/
def Encodings (frames : List TelemetryFrame) (encodings : List ByteVector) : Prop :=
  List.Forall₂ (fun frame bytes => encodeFrame frame = .ok bytes) frames encodings

theorem Encodings.encodable {frames : List TelemetryFrame} {encodings : List ByteVector}
    (encoded : Encodings frames encodings) : ∀ frame ∈ frames, Encodable frame := by
  induction encoded with
  | nil => simp
  | cons head _ ih =>
      intro frame member
      rcases List.mem_cons.mp member with rfl | later
      · exact ((encodeFrame_eq_ok_iff _ _).mp head).1
      · exact ih frame later

theorem Encodings.eq_map_wire {frames : List TelemetryFrame} {encodings : List ByteVector}
    (encoded : Encodings frames encodings) : encodings = frames.map wire := by
  induction encoded with
  | nil => rfl
  | cons head _ ih => rw [((encodeFrame_eq_ok_iff _ _).mp head).2, ih, List.map_cons]

theorem Encodings.decoded {frames : List TelemetryFrame} {encodings : List ByteVector}
    (encoded : Encodings frames encodings) : encodings.map decodeFrame = frames.map .ok := by
  induction encoded with
  | nil => rfl
  | cons head _ ih => rw [List.map_cons, List.map_cons, ih, (encode_iff_decode _ _).mp head]

/-- A stream of encoded frames is cut where it was joined. -/
theorem run_wires {frames : List TelemetryFrame}
    (encodable : ∀ frame ∈ frames, Encodable frame) (rest : ByteVector) :
    extractor.run ((frames.map wire).flatten ++ rest) =
      (frames.map wire ++ (extractor.run rest).1, (extractor.run rest).2) := by
  induction frames with
  | nil => rfl
  | cons frame frames ih =>
      have first := pass_wire (encodable frame (List.mem_cons_self ..))
        ((frames.map wire).flatten ++ rest)
      rw [List.map_cons, List.flatten_cons, List.append_assoc, extractor.run_emit first,
        ih fun frame member => encodable frame (List.mem_cons_of_mem _ member), List.cons_append]

/-- **TCP transport of encoded frames is lossless**: however the sender's writes
are cut short or interrupted, and however the stream is fragmented on the way, a
fresh extractor returns the encodings in order, they decode to the frames, and
nothing is left in its buffer. -/
theorem tcp_lossless {frames : List TelemetryFrame} {encodings : List ByteVector}
    (encoded : Encodings frames encodings) {outcomes unused : List SendOutcome}
    {pieces : List ByteVector} (sent : sendEach encodings outcomes = .returned pieces unused)
    (fragments : List ByteVector) (received : fragments.flatten = pieces.flatten) :
    StreamFrameExtractor.feedAll {} fragments = (encodings, { buffer := [] }) ∧
      encodings.map decodeFrame = frames.map .ok := by
  refine ⟨?_, encoded.decoded⟩
  have stream : fragments.flatten = (frames.map wire).flatten ++ [] := by
    rw [received, sendEach_flatten sent, encoded.eq_map_wire, List.append_nil]
  have empty : extractor.run [] = ([], []) := extractor.run_wait StreamFrameExtractor.settled_empty
  rw [StreamFrameExtractor.feedAll_flatten .fresh, StreamFrameExtractor.feed, stream,
    List.nil_append, run_wires encoded.encodable, empty, List.append_nil, encoded.eq_map_wire]

theorem encodings_singleton {frame : TelemetryFrame} (encodable : Encodable frame) :
    Encodings [frame] [wire frame] :=
  .cons ((encodeFrame_eq_ok_iff _ _).mpr ⟨encodable, rfl⟩) .nil

theorem wire_default :
    wire {} = [83, 84, 71, 83, 1, 0, 0, 0, 0, 0, 0, 0, 0, 0, 0, 0, 0, 0, 0, 0, 0, 0, 0,
      15, 150, 117, 139] := by
  rw [wire, crc32_bitwise]
  decide +kernel

/-- The default frame, sent with an interrupted call and a short write, received
in two fragments. -/
theorem tcp_lossless_default :
    StreamFrameExtractor.feedAll {} [(wire {}).take 5, (wire {}).drop 5] =
        ([wire {}], { buffer := [] }) ∧
      [wire {}].map decodeFrame = [.ok {}] :=
  have sent : sendEach [wire {}] [.interrupted, .accepted 10, .accepted 100] =
      .returned [slice (wire {}) 0 10, slice (wire {}) 10 17] [] := by
    rw [wire_default]
    decide
  have received : [(wire {}).take 5, (wire {}).drop 5].flatten =
      [slice (wire {}) 0 10, slice (wire {}) 10 17].flatten := by
    rw [wire_default]
    decide
  tcp_lossless (encodings_singleton encodable_default) sent _ received

end Stgs.Stream
