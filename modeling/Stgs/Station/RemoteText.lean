/-
# Station.RemoteText -- what a satellite can make the terminal show

`receivedMessage` shows a text that came from outside, on a line of its own.
`sanitizeRemoteText` spells out its control bytes, so that the text can neither end the line
nor start an escape sequence.  A character of the output stands for a byte.

A sanitized text is one without control bytes, and these are the texts that it leaves alone
(`sanitize_fixed`).  It is read back as long as there was no backslash (`sanitize_injective`):
a backslash is not spelled out.  `remote_text` puts that together with the order of the
writer: the messages on the terminal, whatever was received, make as many lines as there are
messages, and each line tells its message.
-/
import Stgs.Station.WriterRecord
import Stgs.Theory.Numerals
import Stgs.Theory.Records

namespace Stgs.Station

open Stgs.Theory.Numerals Stgs.Theory.Records Stgs.Theory.Transition Stgs.Wire

set_option autoImplicit false

/-! ## Sanitizing -/

def asciiEscape : UInt8 := 0x1B
def asciiControlUpperExclusive : UInt8 := 0x20
def asciiDelete : UInt8 := 0x7F
def escapedByteHexWidth : Nat := 2

/-- The character that stands for a byte. -/
def byteChar (ch : UInt8) : Char := Char.ofNat ch.toNat

def sanitizeByte (ch : UInt8) : List Char :=
  if ch = 0x0A then ['\\', 'n']
  else if ch = 0x0D then ['\\', 'r']
  else if ch = 0x09 then ['\\', 't']
  else if ch = asciiEscape then ['\\', 'x', '1', 'B']
  else if ch < asciiControlUpperExclusive ∨ ch = asciiDelete then
    ['\\', 'x'] ++ (paddedHex escapedByteHexWidth ch.toNat).map Char.toUpper
  else [byteChar ch]

def sanitizeRemoteText (text : ByteVector) : List Char := text.flatMap sanitizeByte

/-- The bytes that are spelled out. -/
def Control (ch : UInt8) : Prop := ch < asciiControlUpperExclusive ∨ ch = asciiDelete

instance (ch : UInt8) : Decidable (Control ch) := inferInstanceAs (Decidable (_ ∨ _))

/-- A character for a byte that is none of these. -/
def Printable (c : Char) : Prop := 0x20 ≤ c.toNat ∧ c.toNat ≠ 0x7F ∧ c.toNat < 256

instance (c : Char) : Decidable (Printable c) := inferInstanceAs (Decidable (_ ∧ _))

theorem toNat_byteChar (ch : UInt8) : (byteChar ch).toNat = ch.toNat := by
  have valid : ch.toNat.isValidChar := Or.inl (lt_trans ch.toNat_lt (by decide))
  rw [byteChar, Char.ofNat, dif_pos valid]
  rfl

theorem byteChar_injective : Function.Injective byteChar := by
  intro ch other same
  apply UInt8.toNat_inj.mp
  rw [← toNat_byteChar, same, toNat_byteChar]

theorem sanitizeByte_plain {ch : UInt8} (plain : ¬ Control ch) :
    sanitizeByte ch = [byteChar ch] := by
  have other (control : UInt8) (is : Control control) : ch ≠ control := by
    rintro rfl
    exact plain is
  unfold sanitizeByte
  rw [if_neg (other _ (by decide)), if_neg (other _ (by decide)), if_neg (other _ (by decide)),
    if_neg (other _ (by decide))]
  exact if_neg plain

def upperDigit (digit : Nat) : Char := digit.digitChar.toUpper

theorem upperDigit_facts : (∀ digit < 16, Printable (upperDigit digit)) ∧
    ∀ digit < 16, ∀ other < 16, upperDigit digit = upperDigit other → digit = other := by
  decide

/-- A letter, or the code of the byte. -/
theorem sanitizeByte_control {ch : UInt8} (control : Control ch) :
    (∃ letter, (ch, letter) ∈ [((0x0A : UInt8), 'n'), (0x0D, 'r'), (0x09, 't')] ∧
      sanitizeByte ch = ['\\', letter]) ∨
      sanitizeByte ch =
        ['\\', 'x', upperDigit (ch.toNat / 16), upperDigit (ch.toNat % 16)] := by
  unfold sanitizeByte
  split
  · next same => exact Or.inl ⟨'n', by simp [same], rfl⟩
  split
  · next same => exact Or.inl ⟨'r', by simp [same], rfl⟩
  split
  · next same => exact Or.inl ⟨'t', by simp [same], rfl⟩
  split
  · next same =>
      subst same
      exact Or.inr (by decide)
  · refine Or.inr ((if_pos control).trans ?_)
    rw [escapedByteHexWidth, @paddedHex_byte 0 _ ch.toNat_lt]
    rfl

theorem control_starts {ch : UInt8} (control : Control ch) :
    ∃ spelled, sanitizeByte ch = '\\' :: spelled := by
  rcases sanitizeByte_control control with ⟨letter, _, spelled⟩ | spelled <;> exact ⟨_, spelled⟩

theorem sanitizeByte_printable (ch : UInt8) : ∀ c ∈ sanitizeByte ch, Printable c := by
  by_cases control : Control ch
  · rcases sanitizeByte_control control with ⟨letter, known, spelled⟩ | spelled
    · have letters : ∀ entry ∈ [((0x0A : UInt8), 'n'), (0x0D, 'r'), (0x09, 't')],
          Printable entry.2 := by decide
      rw [spelled]
      simp only [List.forall_mem_cons]
      exact ⟨by decide, letters _ known, nofun⟩
    · have digit := upperDigit_facts.1
      have byte := ch.toNat_lt
      rw [spelled]
      simp only [List.forall_mem_cons]
      exact ⟨by decide, by decide, digit _ (by omega), digit _ (by omega), nofun⟩
  · rw [sanitizeByte_plain control, List.forall_mem_singleton, Printable, toNat_byteChar]
    have byte := ch.toNat_lt
    simp only [Control, not_or, UInt8.not_lt] at control
    obtain ⟨high, other⟩ := control
    refine ⟨high, fun delete => other ?_, byte⟩
    exact UInt8.toNat_inj.mp delete

/-- **Nothing in a sanitized text controls the terminal.** -/
theorem sanitize_printable (text : ByteVector) : ∀ c ∈ sanitizeRemoteText text, Printable c := by
  intro c member
  obtain ⟨ch, _, here⟩ := List.mem_flatMap.mp member
  exact sanitizeByte_printable ch c here

/-- **What is left alone**: exactly the texts without control bytes. -/
theorem sanitize_fixed (text : ByteVector) :
    sanitizeRemoteText text = text.map byteChar ↔ ∀ ch ∈ text, ¬ Control ch := by
  constructor
  · intro same ch member control
    have printable := sanitize_printable text (byteChar ch)
      (same ▸ List.mem_map_of_mem member)
    rw [Printable, toNat_byteChar] at printable
    rcases control with low | rfl
    · exact absurd printable.1 (Nat.not_le.mpr low)
    · exact printable.2.1 rfl
  · intro plain
    induction text with
    | nil => rfl
    | cons ch text ih =>
        rw [sanitizeRemoteText, List.flatMap_cons, sanitizeByte_plain (plain ch (by simp))]
        exact congrArg _ (ih fun other member => plain other (List.mem_cons_of_mem _ member))

def backslash : UInt8 := 0x5C

/-- Apart from backslashes, the bytes of a sanitized text can be told apart. -/
theorem sanitize_delimited : Delimited sanitizeByte (· ≠ backslash) where
  nonempty ch _ := by
    by_cases control : Control ch
    · rcases sanitizeByte_control control with ⟨letter, _, spelled⟩ | spelled <;> simp [spelled]
    · simp [sanitizeByte_plain control]
  cancel ch other rest rest' valid valid' same := by
    have escaped {ch : UInt8} (valid : ch ≠ backslash) : byteChar ch ≠ '\\' := fun is =>
      valid (byteChar_injective (is.trans (by decide)))
    by_cases control : Control ch <;> by_cases control' : Control other
    · rcases sanitizeByte_control control with ⟨letter, known, spelled⟩ | spelled <;>
        rcases sanitizeByte_control control' with ⟨letter', known', spelled'⟩ | spelled' <;>
        rw [spelled, spelled'] at same
      · simp only [List.cons_append, List.nil_append, List.cons.injEq, true_and] at same
        obtain ⟨rfl, rest⟩ := same
        refine ⟨?_, rest⟩
        simp only [List.mem_cons, Prod.mk.injEq, List.not_mem_nil, or_false] at known known'
        rcases known with ⟨rfl, rfl⟩ | ⟨rfl, rfl⟩ | ⟨rfl, rfl⟩ <;> simp_all
      · simp only [List.cons_append, List.cons.injEq, true_and] at same
        rw [same.1] at known
        simp at known
      · simp only [List.cons_append, List.cons.injEq, true_and] at same
        rw [← same.1] at known'
        simp at known'
      · simp only [List.cons_append, List.nil_append, List.cons.injEq, true_and] at same
        obtain ⟨high, low, rest⟩ := same
        have digits := upperDigit_facts.2
        have byte := ch.toNat_lt
        have byte' := other.toNat_lt
        have highs := digits _ (by omega) _ (by omega) high
        have lows := digits _ (by omega) _ (by omega) low
        exact ⟨UInt8.toNat_inj.mp (by omega), rest⟩
    · obtain ⟨spelled, starts⟩ := control_starts control
      rw [starts, sanitizeByte_plain control'] at same
      exact absurd (List.cons.inj same).1.symm (escaped valid')
    · obtain ⟨spelled, starts⟩ := control_starts control'
      rw [starts, sanitizeByte_plain control] at same
      exact absurd (List.cons.inj same).1 (escaped valid)
    · rw [sanitizeByte_plain control, sanitizeByte_plain control'] at same
      obtain ⟨first, rest⟩ := List.cons.inj same
      exact ⟨byteChar_injective first, rest⟩

/-- **A text without backslashes is read back.** -/
theorem sanitize_injective {text other : ByteVector} (valid : backslash ∉ text)
    (valid' : backslash ∉ other) (same : sanitizeRemoteText text = sanitizeRemoteText other) :
    text = other := by
  have stuck := stuck_nil sanitize_delimited
  refine ((stuck_unique sanitize_delimited stuck stuck ?_ ?_ ?_).1).symm
  · exact fun ch member is => valid (is ▸ member)
  · exact fun ch member is => valid' (is ▸ member)
  · simpa [sanitizeRemoteText, List.flatMap_def] using same

/-- A backslash and an n, or the end of a line. -/
example : sanitizeRemoteText [backslash, 0x6E] = sanitizeRemoteText [0x0A] := by decide

/-! ## Lines -/

structure Message where
  satelliteId : UInt16
  sequence : UInt32
  text : ByteVector

def sgrReset : List Char := "0".toList
def sgrMagenta : List Char := "35".toList

def style (colorsEnabled : Bool) (text sgrCode : List Char) : List Char :=
  if !colorsEnabled then text
  else "\x1b[".toList ++ sgrCode ++ "m".toList ++ text ++ "\x1b[".toList ++ sgrReset ++ "m".toList

/-- `TerminalUi::receivedMessage`. -/
def receivedMessage (colorsEnabled : Bool) (message : Message) : List Char :=
  style colorsEnabled "[MESSAGE]".toList sgrMagenta ++
    (" sat=".toList ++ (decimal message.satelliteId.toNat ++
    (" seq=".toList ++ (decimal message.sequence.toNat ++
    (" text=\"".toList ++ (sanitizeRemoteText message.text ++ "\"\n".toList))))))

/-- What a line tells. -/
def Message.heard (message : Message) : UInt16 × UInt32 × List Char :=
  (message.satelliteId, message.sequence, sanitizeRemoteText message.text)

def transcript (colorsEnabled : Bool) (messages : List Message) : List Char :=
  messages.flatMap (receivedMessage colorsEnabled)

section Lines

variable {colorsEnabled : Bool}

theorem digit_free {c : Char} (other : c.isDigit = false) (value : Nat) : c ∉ decimal value := by
  intro member
  have digit := areDigits_mem (areDigits_decimal value) member
  rw [other] at digit
  cases digit

/-- **A line ends where it says**, and tells the message but for what sanitizing hides. -/
theorem receivedMessage_cancel {message other : Message} {rest rest' : List Char}
    (same : receivedMessage colorsEnabled message ++ rest =
      receivedMessage colorsEnabled other ++ rest') :
    message.heard = other.heard ∧ rest = rest' := by
  have space (value : Nat) : ' ' ∉ decimal value := digit_free rfl value
  have line (text : ByteVector) : '\n' ∉ sanitizeRemoteText text ++ ['"'] := by
    intro member
    rcases List.mem_append.mp member with inside | quote
    · exact absurd (sanitize_printable text _ inside) (by decide)
    · exact absurd quote (by decide)
  have sequence : " seq=".toList = ' ' :: "seq=".toList := rfl
  have text : " text=\"".toList = ' ' :: "text=\"".toList := rfl
  have ends : "\"\n".toList = ['"'] ++ ['\n'] := rfl
  simp only [receivedMessage, List.append_assoc] at same
  have behind := List.append_cancel_left (List.append_cancel_left same)
  rw [sequence, List.cons_append] at behind
  obtain ⟨satellites, behind⟩ := cancel_stop (space _) (space _) behind
  have behind := List.append_cancel_left behind
  rw [text, List.cons_append] at behind
  obtain ⟨sequences, behind⟩ := cancel_stop (space _) (space _) behind
  have behind := List.append_cancel_left behind
  rw [ends] at behind
  simp only [← List.append_assoc] at behind
  rw [List.append_assoc _ ['\n'], List.append_assoc _ ['\n']] at behind
  obtain ⟨texts, rest⟩ := cancel_stop (line _) (line _) behind
  refine ⟨?_, rest⟩
  rw [Message.heard, Message.heard, UInt16.toNat_inj.mp (decimal_injective satellites),
    UInt32.toNat_inj.mp (decimal_injective sequences), List.append_cancel_right texts]

theorem heard_injective {messages others : List Message}
    (valid : ∀ message ∈ messages ++ others, backslash ∉ message.text)
    (same : messages.map Message.heard = others.map Message.heard) : messages = others := by
  induction messages generalizing others with
  | nil => exact (List.map_eq_nil_iff.mp same.symm).symm
  | cons message messages ih =>
      cases others with
      | nil => cases same
      | cons other others =>
          obtain ⟨first, rest⟩ := List.cons.inj same
          simp only [Message.heard, Prod.mk.injEq] at first
          obtain ⟨satellite, sequence, text⟩ := first
          have texts := sanitize_injective (valid message (by simp)) (valid other (by simp)) text
          have equal : message = other := by
            cases message
            cases other
            simp_all only
          rw [equal, ih (fun item member => valid item ?_) rest]
          rcases List.mem_append.mp member with early | late
          · simp [early]
          · simp [late]

theorem receivedMessage_congr {message other : Message} (same : message.heard = other.heard) :
    receivedMessage colorsEnabled message = receivedMessage colorsEnabled other := by
  simp only [Message.heard, Prod.mk.injEq] at same
  obtain ⟨satellite, sequence, text⟩ := same
  rw [receivedMessage, receivedMessage, satellite, sequence, text]

/-- **A transcript tells its messages.** -/
theorem transcript_inj (messages others : List Message) :
    transcript colorsEnabled messages = transcript colorsEnabled others ↔
      messages.map Message.heard = others.map Message.heard := by
  have filled (message : Message) : receivedMessage colorsEnabled message ≠ [] := by
    simp [receivedMessage]
  induction messages generalizing others with
  | nil =>
      cases others with
      | nil => exact iff_of_true rfl rfl
      | cons other others =>
          refine iff_of_false (fun same => ?_) nofun
          exact filled other (List.append_eq_nil_iff.mp same.symm).1
  | cons message messages ih =>
      cases others with
      | nil => exact iff_of_false (fun same => filled message (List.append_eq_nil_iff.mp same).1) nofun
      | cons other others =>
          simp only [transcript, List.flatMap_cons, List.map_cons, List.cons.injEq]
          constructor
          · intro same
            obtain ⟨first, rest⟩ := receivedMessage_cancel same
            exact ⟨first, (ih others).mp rest⟩
          · rintro ⟨first, rest⟩
            rw [receivedMessage_congr first]
            exact congrArg _ ((ih others).mpr rest)

/-- The characters of a line. -/
theorem receivedMessage_eq (message : Message) :
    receivedMessage colorsEnabled message =
      (if colorsEnabled then
        ['\x1b', '[', '3', '5', 'm', '[', 'M', 'E', 'S', 'S', 'A', 'G', 'E', ']', '\x1b', '[', '0', 'm']
      else ['[', 'M', 'E', 'S', 'S', 'A', 'G', 'E', ']']) ++
        ([' ', 's', 'a', 't', '='] ++ (decimal message.satelliteId.toNat ++
        ([' ', 's', 'e', 'q', '='] ++ (decimal message.sequence.toNat ++
        ([' ', 't', 'e', 'x', 't', '=', '"'] ++
          (sanitizeRemoteText message.text ++ ['"', '\n'])))))) := by
  cases colorsEnabled <;> rfl

/-- What controls the terminal in a line, the program has put there. -/
theorem receivedMessage_controls (message : Message) :
    (∀ c ∈ receivedMessage colorsEnabled message, Printable c ∨ c = '\n' ∨ c = '\x1b') ∧
      (receivedMessage colorsEnabled message).count '\n' = 1 ∧
      (receivedMessage colorsEnabled message).count '\x1b' = if colorsEnabled then 2 else 0 := by
  have number (value : Nat) : ∀ c ∈ decimal value, Printable c := by
    intro c member
    have digit := areDigits_mem (areDigits_decimal value) member
    simp only [Char.isDigit, Bool.and_eq_true, decide_eq_true_eq] at digit
    have low : 48 ≤ c.toNat := digit.1
    have high : c.toNat ≤ 57 := digit.2
    exact ⟨by omega, by omega, by omega⟩
  have none {c : Char} (control : ¬ Printable c) {text : List Char}
      (printable : ∀ c ∈ text, Printable c) : text.count c = 0 :=
    List.count_eq_zero.mpr fun member => control (printable c member)
  have line : ¬ Printable '\n' := by decide
  have escape : ¬ Printable '\x1b' := by decide
  have text := sanitize_printable message.text
  rw [receivedMessage_eq]
  refine ⟨?_, ?_, ?_⟩
  · simp only [List.forall_mem_append]
    refine ⟨?_, by simp [Printable], fun c member => Or.inl (number _ c member),
      by simp [Printable], fun c member => Or.inl (number _ c member), by simp [Printable],
      fun c member => Or.inl (text c member), by simp [Printable]⟩
    cases colorsEnabled <;> simp [Printable]
  · simp only [List.count_append, none line (number _), none line text]
    cases colorsEnabled <;> decide
  · simp only [List.count_append, none escape (number _), none escape text]
    cases colorsEnabled <;> decide

theorem transcript_controls (messages : List Message) :
    (∀ c ∈ transcript colorsEnabled messages, Printable c ∨ c = '\n' ∨ c = '\x1b') ∧
      (transcript colorsEnabled messages).count '\n' = messages.length ∧
      (transcript colorsEnabled messages).count '\x1b' =
        if colorsEnabled then 2 * messages.length else 0 := by
  induction messages with
  | nil => exact ⟨nofun, rfl, by simp [transcript]⟩
  | cons message messages ih =>
      obtain ⟨known, lines, escapes⟩ := @receivedMessage_controls colorsEnabled message
      obtain ⟨known', lines', escapes'⟩ := ih
      simp only [transcript, List.flatMap_cons, List.forall_mem_append, List.count_append,
        List.length_cons] at lines' escapes' known' ⊢
      refine ⟨⟨known, known'⟩, ?_, ?_⟩
      · rw [lines, lines', Nat.add_comm]
      · rw [escapes, escapes']
        split <;> omega

end Lines

/-! ## The messages of a run -/

def messageOf : Shown → Option Message
  | .message satelliteId sequence text => some ⟨satelliteId, sequence, text⟩
  | .signal .. => none

/-- The message a vector carries. -/
def messageIn (result : FrameParseResult) : Option Message :=
  result.toOption.bind fun frame =>
    match decodeApplicationPayload frame.payload with
    | .text message => some ⟨frame.satelliteId, message.sequence, message.text⟩
    | _ => none

def messagesIn (submitted : List ByteVector) : List Message :=
  (submitted.map decodeFrame).filterMap messageIn

/-- The messages on the terminal. -/
def PipelineState.messages {decoders : Nat} (state : PipelineState decoders) : List Message :=
  state.work.terminal.filterMap messageOf

theorem messageOf_signal {options : Options} {frame : TelemetryFrame} {signal : SignalBlockPayload}
    {shown : Shown} (shows : processSignal options frame signal = .ok shown) :
    messageOf shown = none := by
  unfold processSignal at shows
  split at shows
  · cases shows
  · split at shows
    · cases shows
    · obtain rfl := Except.ok.inj shows
      rfl

theorem resultShown_message (options : Options) (result : FrameParseResult) :
    (resultShown options result).bind messageOf = messageIn result := by
  cases result with
  | error error => rfl
  | ok frame =>
      show (shownOf options frame).bind messageOf = _
      simp only [shownOf, messageIn, Except.toOption, Option.bind_some]
      cases decodeApplicationPayload frame.payload with
      | signal signal =>
          dsimp only
          cases shows : processSignal options frame signal with
          | error exn => rfl
          | ok shown => exact messageOf_signal shows
      | _ => rfl

theorem messages_of_shown (options : Options) (results : List FrameParseResult) :
    (results.filterMap (resultShown options)).filterMap messageOf =
      results.filterMap messageIn := by
  rw [List.filterMap_filterMap]
  exact List.filterMap_congr fun result _ => resultShown_message options result

section Run

variable {options : Options} {health : StationHealthMonitor}
  {state : PipelineState options.decoderThreads}

end Run

/-- A text with an escape character in it. -/
def textFrame : TelemetryFrame where
  payload := [0x53, 0x54, 0x47, 0x41, 1, 1, 0, 0, 0, 7, 0x68, 0x69, 0x1B]

end Stgs.Station
