/-
# Wire.ApplicationBijection -- the STGA format is decoded exactly

Both encoders write a list of fields (`textFields`, `signalFields`); the decoder
reads the same fields back.  `encodeText_iff_decode` and `encodeSignal_iff_decode`
say that a value encodes to a payload exactly when the payload decodes to it.
A payload that carries the magic and is no encoding is an error
(`application_exact`).
-/
import Stgs.Wire.ApplicationPayload

namespace Stgs.Wire

open Stgs.Theory.BigEndian

set_option autoImplicit false

/-! ## The payloads as fields -/

/-- What every STGA payload starts with. -/
def commonFields (kind : ApplicationPayloadKind) : List ByteVector :=
  [beBytes 4 applicationPayloadMagic.toNat, beBytes 1 applicationPayloadVersion.toNat,
    beBytes 1 kind.raw.toNat]

def textFields (message : TextMessagePayload) : List ByteVector :=
  commonFields .textMessage ++ [beBytes 4 message.sequence.toNat, message.text]

/-- The header of a signal block. -/
def signalHeader (signal : SignalBlockPayload) : List ByteVector :=
  commonFields .signalBlock ++
    [beBytes 2 signal.sampleRateHz.toNat, beBytes 4 signal.frequencyHz.bits.toNat,
      beBytes 4 signal.nominalAmplitude.bits.toNat, beBytes 4 signal.startSampleIndex.toNat,
      beBytes 2 (UInt16.ofNat signal.samples.length).toNat]

def sampleFields (samples : List Binary32) : List ByteVector :=
  samples.map fun sample => beBytes 4 sample.bits.toNat

theorem appendCommonHeader_eq (out : ByteVector) (kind : ApplicationPayloadKind) :
    appendCommonHeader out kind = out ++ (commonFields kind).flatten := by
  simp only [appendCommonHeader, commonFields, appendU8_eq, appendU32BE_eq, List.flatten_cons,
    List.flatten_nil, List.append_nil, List.append_assoc]

theorem foldl_appendFloatBE (samples : List Binary32) (out : ByteVector) :
    samples.foldl appendFloatBE out = out ++ (sampleFields samples).flatten := by
  induction samples generalizing out with
  | nil => simp [sampleFields]
  | cons sample samples ih =>
      rw [List.foldl_cons, ih, appendFloatBE_eq, sampleFields, sampleFields, List.map_cons,
        List.flatten_cons, List.append_assoc]

theorem encodeTextMessagePayload_eq_ok_iff (message : TextMessagePayload) (payload : ByteVector) :
    encodeTextMessagePayload message = .ok payload ↔
      message.text.length ≤ maxTextMessageBytes ∧ payload = (textFields message).flatten := by
  have written : appendU32BE (appendCommonHeader [] .textMessage) message.sequence ++ message.text =
      (textFields message).flatten := by
    simp only [appendU32BE_eq, appendCommonHeader_eq, textFields, List.flatten_append,
      List.flatten_cons, List.flatten_nil, List.nil_append, List.append_nil, List.append_assoc]
  unfold encodeTextMessagePayload
  dsimp only
  rw [written]
  split
  · rename_i long
    exact iff_of_false nofun fun encoded => absurd encoded.1 (Nat.not_le_of_lt long)
  · rename_i fits
    constructor
    · intro encoded
      exact ⟨Nat.le_of_not_lt fits, (Except.ok.inj encoded).symm⟩
    · rintro ⟨_, rfl⟩
      rfl

/-- A block the encoder accepts. -/
structure SignalEncodable (signal : SignalBlockPayload) : Prop where
  checked : SignalChecked signal
  short : signal.samples.length ≤ maxSignalSamplesPerPayload

theorem encodeSignalBlockPayload_eq_ok_iff (signal : SignalBlockPayload) (payload : ByteVector) :
    encodeSignalBlockPayload signal = .ok payload ↔
      SignalEncodable signal ∧
        payload = (signalHeader signal).flatten ++ (sampleFields signal.samples).flatten := by
  have limit : maxSignalSamplesPerPayload ≤ UInt16.size - 1 := by decide
  have written : signal.samples.foldl appendFloatBE
      (appendU16BE (appendU32BE (appendFloatBE (appendFloatBE (appendU16BE
        (appendCommonHeader [] .signalBlock) signal.sampleRateHz) signal.frequencyHz)
          signal.nominalAmplitude) signal.startSampleIndex) (UInt16.ofNat signal.samples.length)) =
      (signalHeader signal).flatten ++ (sampleFields signal.samples).flatten := by
    rw [foldl_appendFloatBE]
    simp only [appendU16BE_eq, appendU32BE_eq, appendFloatBE_eq, appendCommonHeader_eq,
      signalHeader, List.flatten_append, List.flatten_cons, List.flatten_nil, List.nil_append,
      List.append_nil, List.append_assoc]
  unfold encodeSignalBlockPayload
  dsimp only
  rw [written]
  split
  · rename_i metadata
    refine iff_of_false nofun fun encoded => ?_
    have valid := ((signalChecked_iff signal).mp encoded.1.checked).1
    rw [metadata] at valid
    cases valid
  rename_i metadata
  split
  · rename_i long
    refine iff_of_false nofun fun encoded => ?_
    have short := encoded.1.short
    omega
  rename_i short
  split
  · rename_i infinite
    refine iff_of_false nofun fun encoded => ?_
    have finite := ((signalChecked_iff signal).mp encoded.1.checked).2
    rw [infinite] at finite
    cases finite
  rename_i finite
  constructor
  · intro encoded
    have checked := (signalChecked_iff signal).mpr ⟨by simpa using metadata, by simpa using finite⟩
    exact ⟨⟨checked, by omega⟩, (Except.ok.inj encoded).symm⟩
  · rintro ⟨_, rfl⟩
    rfl

/-! ## What the decoder accepts -/

/-- The common header, with the kind. -/
structure Headed (kind : ApplicationPayloadKind) (payload : ByteVector) : Prop where
  long : applicationCommonHeaderSize ≤ payload.length
  magic : readU32BE payload appMagicOffset = applicationPayloadMagic
  version : byteAt payload appVersionOffset = applicationPayloadVersion
  kind : byteAt payload appKindOffset = kind.raw

/-- The text a payload spells. -/
def textOf (payload : ByteVector) : TextMessagePayload where
  sequence := readU32BE payload textSequenceOffset
  text := payload.drop textBodyOffset

def sampleCount (payload : ByteVector) : Nat := (readU16BE payload signalSampleCountOffset).toNat

theorem hasApplicationMagic_iff (payload : ByteVector) :
    hasApplicationMagic payload = true ↔
      u32WireSize ≤ payload.length ∧ readU32BE payload appMagicOffset = applicationPayloadMagic := by
  rw [hasApplicationMagic, Bool.and_eq_true, decide_eq_true_eq, beq_iff_eq]

/-- After the common header the kind decides. -/
theorem decode_headed {kind : ApplicationPayloadKind} {payload : ByteVector}
    (headed : Headed kind payload) :
    decodeApplicationPayload payload =
      match kind with
      | .textMessage => decodeTextMessage payload
      | .signalBlock => decodeSignalBlock payload := by
  have present : hasApplicationMagic payload = true := by
    refine (hasApplicationMagic_iff payload).mpr ⟨?_, headed.magic⟩
    exact le_trans (by decide) headed.long
  rw [decodeApplicationPayload, if_neg (by simp [present]), if_neg (Nat.not_lt_of_le headed.long),
    if_neg (by simp [headed.version])]
  dsimp only
  rw [headed.kind]
  cases kind with
  | textMessage => rw [if_pos rfl]
  | signalBlock => rw [if_neg (by decide), if_pos rfl]

/-- Nothing else becomes a value. -/
theorem decode_cases (payload : ByteVector) :
    (hasApplicationMagic payload = false ∧ decodeApplicationPayload payload = .monostate) ∨
      (hasApplicationMagic payload = true ∧
        ((∃ error, decodeApplicationPayload payload = .error error) ∨
          ∃ kind, Headed kind payload)) := by
  unfold decodeApplicationPayload makeApplicationError
  split
  · rename_i absent
    exact Or.inl ⟨absent, rfl⟩
  rename_i present
  have present : hasApplicationMagic payload = true := by simpa using present
  refine Or.inr ⟨present, ?_⟩
  split
  · exact Or.inl ⟨_, rfl⟩
  rename_i long
  split
  · exact Or.inl ⟨_, rfl⟩
  rename_i version
  have headed {kind : ApplicationPayloadKind} (raw : byteAt payload appKindOffset = kind.raw) :
      Headed kind payload :=
    { long := Nat.le_of_not_lt long
      magic := ((hasApplicationMagic_iff payload).mp present).2
      version := not_not.mp version
      kind := raw }
  dsimp only
  split
  · rename_i raw
    exact Or.inr ⟨_, headed raw⟩
  · split
    · rename_i raw
      exact Or.inr ⟨_, headed raw⟩
    · exact Or.inl ⟨_, rfl⟩

theorem decodeTextMessage_eq_iff (payload : ByteVector) (message : TextMessagePayload) :
    decodeTextMessage payload = .text message ↔
      textBodyOffset ≤ payload.length ∧ message = textOf payload := by
  unfold decodeTextMessage makeApplicationError
  split
  · rename_i short
    exact iff_of_false nofun fun formed => absurd formed.1 (Nat.not_le_of_lt short)
  · rename_i long
    constructor
    · intro decoded
      exact ⟨Nat.le_of_not_lt long, (ApplicationPayloadParseResult.text.inj decoded).symm⟩
    · rintro ⟨_, rfl⟩
      rfl

theorem decodeSignalBlock_eq_iff (payload : ByteVector) (signal : SignalBlockPayload) :
    decodeSignalBlock payload = .signal signal ↔
      payload.length = signalSamplesOffset + sampleCount payload * signalSampleWireSize ∧
        SignalChecked (signalOf payload) ∧ signal = signalOf payload := by
  rw [signalChecked_iff]
  unfold decodeSignalBlock makeApplicationError sampleCount
  dsimp only
  split
  · rename_i short
    refine iff_of_false nofun fun formed => ?_
    have exact := formed.1
    omega
  split
  · rename_i other
    exact iff_of_false nofun fun formed => other formed.1
  rename_i exact
  split
  · rename_i metadata
    refine iff_of_false nofun fun formed => ?_
    have valid := formed.2.1.1
    rw [metadata] at valid
    cases valid
  rename_i metadata
  split
  · rename_i infinite
    refine iff_of_false nofun fun formed => ?_
    have finite := formed.2.1.2
    rw [infinite] at finite
    cases finite
  rename_i finite
  constructor
  · intro decoded
    exact ⟨not_not.mp exact, ⟨by simpa using metadata, by simpa using finite⟩,
      (ApplicationPayloadParseResult.signal.inj decoded).symm⟩
  · rintro ⟨_, _, rfl⟩
    rfl

/-- What is neither opaque nor an error has a common header. -/
theorem headed_of_decode {payload : ByteVector} {result : ApplicationPayloadParseResult}
    (decoded : decodeApplicationPayload payload = result) (some : result ≠ .monostate)
    (right : ∀ error, result ≠ .error error) : ∃ kind, Headed kind payload := by
  rcases decode_cases payload with ⟨_, other⟩ | ⟨_, ⟨error, refused⟩ | headed⟩
  · exact absurd (decoded.symm.trans other) some
  · exact absurd (decoded.symm.trans refused) (right error)
  · exact headed

/-- A text comes from a headed payload. -/
theorem decode_text_iff (payload : ByteVector) (message : TextMessagePayload) :
    decodeApplicationPayload payload = .text message ↔
      Headed .textMessage payload ∧ textBodyOffset ≤ payload.length ∧ message = textOf payload := by
  constructor
  · intro decoded
    obtain ⟨kind, headed⟩ := headed_of_decode decoded nofun nofun
    rw [decode_headed headed] at decoded
    cases kind with
    | textMessage => exact ⟨headed, (decodeTextMessage_eq_iff payload message).mp decoded⟩
    | signalBlock =>
        unfold decodeSignalBlock makeApplicationError at decoded
        dsimp only at decoded
        split at decoded <;> [cases decoded; skip]
        split at decoded <;> [cases decoded; skip]
        split at decoded <;> [cases decoded; skip]
        split at decoded <;> cases decoded
  · rintro ⟨headed, formed⟩
    rw [decode_headed headed]
    exact (decodeTextMessage_eq_iff payload message).mpr formed

/-- A signal comes from a headed payload of the announced size. -/
theorem decode_signal_iff (payload : ByteVector) (signal : SignalBlockPayload) :
    decodeApplicationPayload payload = .signal signal ↔
      Headed .signalBlock payload ∧
        payload.length = signalSamplesOffset + sampleCount payload * signalSampleWireSize ∧
        SignalChecked (signalOf payload) ∧ signal = signalOf payload := by
  constructor
  · intro decoded
    obtain ⟨kind, headed⟩ := headed_of_decode decoded nofun nofun
    rw [decode_headed headed] at decoded
    cases kind with
    | signalBlock => exact ⟨headed, (decodeSignalBlock_eq_iff payload signal).mp decoded⟩
    | textMessage =>
        unfold decodeTextMessage makeApplicationError at decoded
        dsimp only at decoded
        split at decoded <;> cases decoded
  · rintro ⟨headed, formed⟩
    rw [decode_headed headed]
    exact (decodeSignalBlock_eq_iff payload signal).mpr formed

/-! ## The common header, written and read -/

theorem length_commonFields (kind : ApplicationPayloadKind) :
    (commonFields kind).flatten.length = applicationCommonHeaderSize := by
  simp [commonFields, applicationCommonHeaderSize, u8WireSize, u32WireSize]

theorem headed_written (kind : ApplicationPayloadKind) (rest : List ByteVector) :
    Headed kind (commonFields kind ++ rest).flatten := by
  have long : 6 ≤ (commonFields kind ++ rest).flatten.length := by
    rw [List.flatten_append, List.length_append, length_commonFields]
    exact Nat.le_add_right _ _
  have bound {i : Nat} (below : i < 3) : i < (commonFields kind ++ rest).length :=
    lt_of_lt_of_le below (by simp [commonFields])
  exact
    { long
      magic := readU32BE_of_slice (le_trans (by decide) long)
        (slice_flatten (commonFields kind ++ rest) 0 (bound (by decide)))
      version := byteAt_of_slice (le_trans (by decide) long)
        (slice_flatten (commonFields kind ++ rest) 1 (bound (by decide)))
      kind := byteAt_of_slice (le_trans (by decide) long)
        (slice_flatten (commonFields kind ++ rest) 2 (bound (by decide))) }

/-- The common header read is the one written. -/
theorem Headed.fields {kind : ApplicationPayloadKind} {payload : ByteVector}
    (headed : Headed kind payload) :
    commonFields kind = [slice payload 0 4, slice payload 4 1, slice payload 5 1] := by
  have long : 6 ≤ payload.length := headed.long
  have magic : applicationPayloadMagic.toNat = beNat (slice payload 0 4) := by
    rw [← headed.magic]
    exact readU32BE_toNat (le_trans (by decide) long)
  have version : applicationPayloadVersion.toNat = beNat (slice payload 4 1) := by
    rw [← headed.version]
    exact byteAt_toNat (le_trans (by decide) long)
  have kind' : kind.raw.toNat = beNat (slice payload 5 1) := by
    rw [← headed.kind]
    exact byteAt_toNat (le_trans (by decide) long)
  rw [commonFields, beBytes_of_slice (by omega) magic, beBytes_of_slice (by omega) version,
    beBytes_of_slice (by omega) kind']

/-! ## Text messages -/

theorem length_textFields (message : TextMessagePayload) :
    (textFields message).flatten.length = textBodyOffset + message.text.length := by
  simp [textFields, commonFields, textBodyOffset, textSequenceOffset, applicationCommonHeaderSize,
    u8WireSize, u32WireSize]
  omega

theorem textOf_written (message : TextMessagePayload) :
    textOf (textFields message).flatten = message := by
  have sequence : readU32BE (textFields message).flatten textSequenceOffset = message.sequence := by
    refine readU32BE_of_slice ?_ (slice_flatten (textFields message) 3 (show 3 < 5 by decide))
    rw [length_textFields]
    exact Nat.le_add_right _ _
  have text : (textFields message).flatten.drop textBodyOffset = message.text := by
    have split : (textFields message).flatten =
        (commonFields .textMessage ++ [beBytes 4 message.sequence.toNat]).flatten ++
          message.text := by
      simp [textFields]
    rw [split, List.drop_left']
    simp [commonFields, textBodyOffset, textSequenceOffset, applicationCommonHeaderSize,
      u8WireSize, u32WireSize]
  rw [textOf, sequence, text]

theorem textFields_textOf {payload : ByteVector} (headed : Headed .textMessage payload)
    (long : textBodyOffset ≤ payload.length) : (textFields (textOf payload)).flatten = payload := by
  have inside : 6 + 4 ≤ payload.length := long
  have sequence : (textOf payload).sequence.toNat = beNat (slice payload 6 4) :=
    readU32BE_toNat long
  have glue : slice payload 0 4 ++ slice payload 4 1 ++ slice payload 5 1 ++ slice payload 6 4 ++
      payload.drop 10 = payload := by
    simp only [slice_append_slice payload 0, Nat.reduceAdd]
    exact List.take_append_drop 10 payload
  rw [textFields, headed.fields, beBytes_of_slice inside sequence]
  simp only [List.cons_append, List.nil_append, List.flatten_cons, List.flatten_nil,
    List.append_nil]
  simp only [← List.append_assoc]
  exact glue

/-- A text encodes to a payload exactly when the payload decodes to it. -/
theorem encodeText_iff_decode {payload : ByteVector} (fits : payload.length ≤ maxPayloadSize)
    (message : TextMessagePayload) :
    encodeTextMessagePayload message = .ok payload ↔
      decodeApplicationPayload payload = .text message := by
  rw [encodeTextMessagePayload_eq_ok_iff, decode_text_iff]
  constructor
  · rintro ⟨_, rfl⟩
    refine ⟨headed_written _ _, ?_, (textOf_written message).symm⟩
    rw [length_textFields]
    exact Nat.le_add_right _ _
  · rintro ⟨headed, long, rfl⟩
    refine ⟨?_, (textFields_textOf headed long).symm⟩
    show (payload.drop textBodyOffset).length ≤ maxPayloadSize - textBodyOffset
    rw [List.length_drop]
    exact Nat.sub_le_sub_right fits _

/-! ## Signal blocks -/

theorem length_signalHeader (signal : SignalBlockPayload) :
    (signalHeader signal).flatten.length = signalSamplesOffset := by
  simp [signalHeader, commonFields, signalSamplesOffset, signalSampleCountOffset,
    signalStartIndexOffset, signalAmplitudeOffset, signalFrequencyOffset, signalSampleRateOffset,
    applicationCommonHeaderSize, u8WireSize, u16WireSize, u32WireSize, float32WireSize]

theorem length_sampleFields {samples : List Binary32} {field : ByteVector}
    (member : field ∈ sampleFields samples) : field.length = signalSampleWireSize := by
  obtain ⟨sample, _, rfl⟩ := List.mem_map.mp member
  exact length_beBytes 4 _

/-- A block as bytes. -/
def signalWire (signal : SignalBlockPayload) : ByteVector :=
  (signalHeader signal).flatten ++ (sampleFields signal.samples).flatten

theorem length_signalWire (signal : SignalBlockPayload) :
    (signalWire signal).length =
      signalSamplesOffset + signal.samples.length * signalSampleWireSize := by
  have widths : (sampleFields signal.samples).map List.length =
      List.replicate signal.samples.length signalSampleWireSize := by
    refine List.eq_replicate_iff.mpr ⟨by simp [sampleFields], ?_⟩
    intro length member
    obtain ⟨field, among, rfl⟩ := List.mem_map.mp member
    exact length_sampleFields among
  rw [signalWire, List.length_append, length_signalHeader, List.length_flatten, widths,
    List.sum_replicate_nat]

/-- Header field `i` of a block. -/
theorem slice_signalWire (signal : SignalBlockPayload) (i : Nat) (bound : i < 8) :
    slice (signalWire signal) (((signalHeader signal).take i).map List.length).sum
      ((signalHeader signal).get ⟨i, bound⟩).length = (signalHeader signal).get ⟨i, bound⟩ := by
  have whole : signalWire signal =
      (signalHeader signal ++ sampleFields signal.samples).flatten := by
    rw [signalWire, List.flatten_append]
  have early : i < (signalHeader signal ++ sampleFields signal.samples).length :=
    lt_of_lt_of_le bound (by simp [signalHeader, commonFields])
  have field := slice_flatten _ i early
  have inside : i < (signalHeader signal).length := bound
  rw [List.getElem_append_left inside, List.take_append_of_le_length inside.le] at field
  rw [whole]
  exact field

/-- Sample `i` of a block. -/
theorem readFloatBE_signalWire (signal : SignalBlockPayload) (i : Nat)
    (bound : i < signal.samples.length) :
    readFloatBE (signalWire signal) (signalSamplesOffset + i * signalSampleWireSize) =
      signal.samples[i] := by
  have inside : i < (sampleFields signal.samples).length := by
    rw [sampleFields, List.length_map]
    exact bound
  have field := slice_flatten_of_width (fun _ => length_sampleFields) i inside
  refine readFloatBE_of_slice ?_ ?_
  · rw [length_signalWire, Nat.add_assoc]
    have next := Nat.mul_le_mul_right signalSampleWireSize (Nat.succ_le_of_lt bound)
    rw [Nat.succ_mul] at next
    exact Nat.add_le_add_left next _
  · rw [signalWire, ← length_signalHeader signal, slice_append_right]
    refine Eq.trans field ?_
    simp [sampleFields]

theorem sampleCount_signalWire {signal : SignalBlockPayload}
    (short : signal.samples.length ≤ maxSignalSamplesPerPayload) :
    sampleCount (signalWire signal) = signal.samples.length := by
  have read : readU16BE (signalWire signal) signalSampleCountOffset =
      UInt16.ofNat signal.samples.length := by
    refine readU16BE_of_slice ?_ (slice_signalWire signal 7 (by decide))
    rw [length_signalWire]
    exact Nat.le_add_right _ _
  have small : signal.samples.length < UInt16.size := lt_of_le_of_lt short (by decide)
  rw [sampleCount, read, UInt16.toNat_ofNat', Nat.mod_eq_of_lt small]

theorem signalOf_signalWire {signal : SignalBlockPayload}
    (short : signal.samples.length ≤ maxSignalSamplesPerPayload) :
    signalOf (signalWire signal) = signal := by
  have inside {offset width : Nat} (low : offset + width ≤ signalSamplesOffset) :
      offset + width ≤ (signalWire signal).length := by
    rw [length_signalWire]
    exact le_trans low (Nat.le_add_right _ _)
  have rate : readU16BE (signalWire signal) signalSampleRateOffset = signal.sampleRateHz :=
    readU16BE_of_slice (inside (by decide)) (slice_signalWire signal 3 (by decide))
  have frequency : readFloatBE (signalWire signal) signalFrequencyOffset = signal.frequencyHz :=
    readFloatBE_of_slice (inside (by decide)) (slice_signalWire signal 4 (by decide))
  have amplitude : readFloatBE (signalWire signal) signalAmplitudeOffset =
      signal.nominalAmplitude :=
    readFloatBE_of_slice (inside (by decide)) (slice_signalWire signal 5 (by decide))
  have start : readU32BE (signalWire signal) signalStartIndexOffset = signal.startSampleIndex :=
    readU32BE_of_slice (inside (by decide)) (slice_signalWire signal 6 (by decide))
  have samples : (List.range (sampleCount (signalWire signal))).map (fun i =>
      readFloatBE (signalWire signal) (signalSamplesOffset + i * signalSampleWireSize)) =
      signal.samples := by
    rw [sampleCount_signalWire short]
    refine List.ext_getElem (by simp) fun i low high => ?_
    rw [List.getElem_map, List.getElem_range, readFloatBE_signalWire signal i high]
  rw [sampleCount] at samples
  rw [signalOf, rate, frequency, amplitude, start, samples]

theorem signalWire_signalOf {payload : ByteVector} (headed : Headed .signalBlock payload)
    (exact : payload.length = signalSamplesOffset + sampleCount payload * signalSampleWireSize) :
    signalWire (signalOf payload) = payload := by
  have long : 22 ≤ payload.length := by
    rw [exact]
    exact Nat.le_add_right _ _
  have length : (signalOf payload).samples.length = sampleCount payload := by
    simp [signalOf, sampleCount]
  have count : (UInt16.ofNat (signalOf payload).samples.length).toNat =
      beNat (slice payload 20 2) := by
    rw [length, sampleCount, UInt16.ofNat_toNat]
    exact readU16BE_toNat (le_trans (by decide) long)
  have rate : (signalOf payload).sampleRateHz.toNat = beNat (slice payload 6 2) :=
    readU16BE_toNat (le_trans (by decide) long)
  have frequency : (signalOf payload).frequencyHz.bits.toNat = beNat (slice payload 8 4) :=
    readFloatBE_toNat (le_trans (by decide) long)
  have amplitude : (signalOf payload).nominalAmplitude.bits.toNat = beNat (slice payload 12 4) :=
    readFloatBE_toNat (le_trans (by decide) long)
  have start : (signalOf payload).startSampleIndex.toNat = beNat (slice payload 16 4) :=
    readU32BE_toNat (le_trans (by decide) long)
  have header : (signalHeader (signalOf payload)).flatten = slice payload 0 22 := by
    have glue : slice payload 0 4 ++ slice payload 4 1 ++ slice payload 5 1 ++ slice payload 6 2 ++
        slice payload 8 4 ++ slice payload 12 4 ++ slice payload 16 4 ++ slice payload 20 2 =
        slice payload 0 22 := by
      simp only [slice_append_slice payload 0, Nat.reduceAdd]
    rw [signalHeader, headed.fields, beBytes_of_slice (by omega) rate,
      beBytes_of_slice (by omega) frequency, beBytes_of_slice (by omega) amplitude,
      beBytes_of_slice (by omega) start, beBytes_of_slice (by omega) count, ← glue]
    simp only [List.cons_append, List.nil_append, List.flatten_cons, List.flatten_nil,
      List.append_nil, List.append_assoc]
  have samples : sampleFields (signalOf payload).samples =
      (List.range (sampleCount payload)).map fun i =>
        slice payload (22 + i * signalSampleWireSize) signalSampleWireSize := by
    refine List.ext_getElem (by simp [sampleFields, signalOf, sampleCount]) fun i low high => ?_
    have below : i < sampleCount payload := by simpa using high
    have next := Nat.mul_le_mul_right signalSampleWireSize (Nat.succ_le_of_lt below)
    have inside : 22 + i * signalSampleWireSize + 4 ≤ payload.length := by
      rw [Nat.succ_mul] at next
      rw [exact, Nat.add_assoc]
      exact Nat.add_le_add_left next 22
    have field := beBytes_of_slice inside (readFloatBE_toNat inside)
    simp only [sampleFields, signalOf, List.getElem_map, List.getElem_range]
    exact field
  rw [signalWire, header, samples, flatten_slices]
  have whole := slice_append_slice payload 0 22 (sampleCount payload * signalSampleWireSize)
  rw [Nat.zero_add] at whole
  have size : 22 + sampleCount payload * signalSampleWireSize = payload.length := exact.symm
  rw [whole, size, slice_all]

/-- A block encodes to a payload exactly when the payload decodes to it. -/
theorem encodeSignal_iff_decode {payload : ByteVector} (fits : payload.length ≤ maxPayloadSize)
    (signal : SignalBlockPayload) :
    encodeSignalBlockPayload signal = .ok payload ↔
      decodeApplicationPayload payload = .signal signal := by
  rw [encodeSignalBlockPayload_eq_ok_iff, decode_signal_iff]
  constructor
  · rintro ⟨encodable, rfl⟩
    have short := encodable.short
    have same := signalOf_signalWire short
    have headed : Headed .signalBlock (signalWire signal) := by
      rw [signalWire, signalHeader, ← List.flatten_append, List.append_assoc]
      exact headed_written _ _
    have count := sampleCount_signalWire short
    refine ⟨headed, ?_, ?_, same.symm⟩
    · show (signalWire signal).length =
        signalSamplesOffset + sampleCount (signalWire signal) * signalSampleWireSize
      rw [length_signalWire, count]
    · show SignalChecked (signalOf (signalWire signal))
      rw [same]
      exact encodable.checked
  · rintro ⟨headed, exact, checked, rfl⟩
    have length : (signalOf payload).samples.length = sampleCount payload := by
      simp [signalOf, sampleCount]
    refine ⟨⟨checked, ?_⟩, (signalWire_signalOf headed exact).symm⟩
    rw [length]
    refine (Nat.le_div_iff_mul_le (by decide)).mpr ?_
    have bound : signalSamplesOffset + sampleCount payload * signalSampleWireSize ≤
        maxPayloadSize := exact ▸ fits
    exact Nat.le_sub_of_add_le' bound

/-! ## Every payload -/

/-- The magic, as bytes. -/
def applicationMagicBytes : ByteVector := beBytes 4 applicationPayloadMagic.toNat

theorem hasApplicationMagic_eq_false_iff (payload : ByteVector) :
    hasApplicationMagic payload = false ↔
      payload.length < 4 ∨ payload.take 4 ≠ applicationMagicBytes := by
  have present : hasApplicationMagic payload = true ↔
      4 ≤ payload.length ∧ payload.take 4 = applicationMagicBytes := by
    rw [hasApplicationMagic_iff]
    refine and_congr_right fun long => ?_
    constructor
    · intro magic
      have inside : 0 + 4 ≤ payload.length := long
      have read : applicationPayloadMagic.toNat = beNat (slice payload 0 4) := by
        rw [← magic]
        exact readU32BE_toNat inside
      exact (beBytes_of_slice inside read).symm
    · intro start
      exact readU32BE_of_slice long start
  rw [← Bool.not_eq_true, present, not_and_or, Nat.not_le]

/-- A payload with the magic is not opaque. -/
theorem Headed.ne_monostate {kind : ApplicationPayloadKind} {payload : ByteVector}
    (headed : Headed kind payload) : decodeApplicationPayload payload ≠ .monostate := by
  rw [decode_headed headed]
  cases kind with
  | textMessage =>
      show decodeTextMessage payload ≠ .monostate
      unfold decodeTextMessage makeApplicationError
      split <;> simp
  | signalBlock =>
      show decodeSignalBlock payload ≠ .monostate
      unfold decodeSignalBlock makeApplicationError
      dsimp only
      split <;> [simp; skip]
      split <;> [simp; skip]
      split <;> [simp; skip]
      split <;> simp

theorem decode_monostate_iff (payload : ByteVector) :
    decodeApplicationPayload payload = .monostate ↔
      payload.length < 4 ∨ payload.take 4 ≠ applicationMagicBytes := by
  rw [← hasApplicationMagic_eq_false_iff]
  constructor
  · intro decoded
    rcases decode_cases payload with ⟨absent, _⟩ | ⟨_, ⟨error, other⟩ | ⟨kind, headed⟩⟩
    · exact absent
    · rw [other] at decoded
      cases decoded
    · exact absurd decoded headed.ne_monostate
  · intro absent
    rw [decodeApplicationPayload, if_pos absent]

/-- An encoding fits into a frame. -/
theorem encodeText_fits {message : TextMessagePayload} {payload : ByteVector}
    (encoded : encodeTextMessagePayload message = .ok payload) :
    payload.length ≤ maxPayloadSize := by
  obtain ⟨short, rfl⟩ := (encodeTextMessagePayload_eq_ok_iff message payload).mp encoded
  have room : textBodyOffset + maxTextMessageBytes = maxPayloadSize := by decide
  rw [length_textFields]
  omega

theorem encodeSignal_fits {signal : SignalBlockPayload} {payload : ByteVector}
    (encoded : encodeSignalBlockPayload signal = .ok payload) :
    payload.length ≤ maxPayloadSize := by
  obtain ⟨encodable, rfl⟩ := (encodeSignalBlockPayload_eq_ok_iff signal payload).mp encoded
  have size := length_signalWire signal
  have most := Nat.mul_le_mul_right signalSampleWireSize encodable.short
  have room : signalSamplesOffset + maxSignalSamplesPerPayload * signalSampleWireSize ≤
      maxPayloadSize := by decide
  rw [signalWire] at size
  omega

/-- **The STGA format is decoded exactly.**  What an encoder accepts comes back; and
of the payloads that fit into a frame those without the magic are opaque, the
encodings of a value are that value, and all others are errors. -/
theorem application_exact :
    (∀ message payload, encodeTextMessagePayload message = .ok payload →
      decodeApplicationPayload payload = .text message) ∧
    (∀ signal payload, encodeSignalBlockPayload signal = .ok payload →
      decodeApplicationPayload payload = .signal signal) ∧
    ∀ payload : ByteVector, payload.length ≤ maxPayloadSize →
      (decodeApplicationPayload payload = .monostate ↔
        payload.length < 4 ∨ payload.take 4 ≠ applicationMagicBytes) ∧
      (∀ message, decodeApplicationPayload payload = .text message ↔
        encodeTextMessagePayload message = .ok payload) ∧
      (∀ signal, decodeApplicationPayload payload = .signal signal ↔
        encodeSignalBlockPayload signal = .ok payload) ∧
      ((∃ error, decodeApplicationPayload payload = .error error) ↔
        ¬ (payload.length < 4 ∨ payload.take 4 ≠ applicationMagicBytes) ∧
          (∀ message, encodeTextMessagePayload message ≠ .ok payload) ∧
          ∀ signal, encodeSignalBlockPayload signal ≠ .ok payload) := by
  refine ⟨?_, ?_, fun payload fits => ?_⟩
  · intro message payload encoded
    exact (encodeText_iff_decode (encodeText_fits encoded) message).mp encoded
  · intro signal payload encoded
    exact (encodeSignal_iff_decode (encodeSignal_fits encoded) signal).mp encoded
  refine ⟨decode_monostate_iff payload, fun message => (encodeText_iff_decode fits message).symm,
    fun signal => (encodeSignal_iff_decode fits signal).symm, ?_⟩
  rw [← decode_monostate_iff]
  constructor
  · rintro ⟨error, decoded⟩
    refine ⟨by simp [decoded], fun message encoded => ?_, fun signal encoded => ?_⟩
    · rw [encodeText_iff_decode fits, decoded] at encoded
      cases encoded
    · rw [encodeSignal_iff_decode fits, decoded] at encoded
      cases encoded
  · rintro ⟨present, noText, noSignal⟩
    cases decoded : decodeApplicationPayload payload with
    | monostate => exact absurd decoded present
    | text message => exact absurd ((encodeText_iff_decode fits message).mpr decoded) (noText _)
    | signal signal => exact absurd ((encodeSignal_iff_decode fits signal).mpr decoded) (noSignal _)
    | error error => exact ⟨error, rfl⟩

end Stgs.Wire
