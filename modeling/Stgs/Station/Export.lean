/-
# Station.Export -- the export is well formed and loses nothing

A JSON export is one array with an object for each frame, a CSV export a header and a
line for each frame; both in the order of the frames, and after any positive number of
calls of `finish`.  `Record` is what an entry says of a frame: `readObject` and
`readRow` read it back from the syntax tree of an entry, and `recordOf_injective` says
that a frame the decoder can return is determined by it.
-/
import Stgs.Station.TelemetryOutput
import Stgs.Wire.CodecBijection

namespace Stgs.Station

open Stgs.Theory Stgs.Theory.Numerals Stgs.Wire

set_option autoImplicit false

/-! ## Reading entries -/

/-- What an entry says of a frame. -/
structure Record where
  timestampMs : Nat
  satelliteId : Nat
  temperature : List Char
  batteryPercent : Nat
  status : Status
  payloadLength : Nat
  payload : ByteVector

namespace Record

def numeral : Json → Option (List Char)
  | .number text => some text
  | _ => none

def characters : Json → Option (List Char)
  | .string value => some value
  | _ => none

/-- The value of a member. -/
def valueOf (name : List Char) (members : List (List Char × Json)) : Option Json :=
  (members.find? fun member => member.1 = name).map Prod.snd

/-- The record of an object. -/
def readObject : Json → Option Record
  | .object members => do
      let timestamp ← numeral (← valueOf "timestamp_ms".toList members)
      let satellite ← numeral (← valueOf "satellite_id".toList members)
      let temperature ← numeral (← valueOf "temperature_c".toList members)
      let battery ← numeral (← valueOf "battery_percent".toList members)
      let status ← characters (← valueOf "status".toList members)
      let length ← numeral (← valueOf "payload_len".toList members)
      let payload ← characters (← valueOf "payload_hex".toList members)
      return {
        timestampMs := ← readDecimal timestamp
        satelliteId := ← readDecimal satellite
        temperature := temperature
        batteryPercent := ← readDecimal battery
        status := ← readStatus status
        payloadLength := ← readDecimal length
        payload := ← readPayload payload }
  | _ => none

/-- The record of a line. -/
def readRow : List (List Char) → Option Record
  | [timestamp, satellite, temperature, battery, status, length, payload] => do
      return {
        timestampMs := ← readDecimal timestamp
        satelliteId := ← readDecimal satellite
        temperature := temperature
        batteryPercent := ← readDecimal battery
        status := ← readStatus status
        payloadLength := ← readDecimal length
        payload := ← readPayload payload }
  | _ => none

end Record

open Record

variable (render : FloatRendering)

def recordOf (frame : TelemetryFrame) : Record where
  timestampMs := frame.timestampMs.toNat
  satelliteId := frame.satelliteId.toNat
  temperature := render.text frame.temperatureC
  batteryPercent := frame.batteryPercent.toNat
  status := frame.status
  payloadLength := frame.payload.length
  payload := frame.payload

/-- **A frame is determined by its record.** -/
theorem recordOf_injective {frame other : TelemetryFrame} (encodable : Wire.Encodable frame)
    (encodableOther : Wire.Encodable other) (same : recordOf render frame = recordOf render other) :
    frame = other := by
  simp only [recordOf, Record.mk.injEq, UInt64.toNat_inj, UInt16.toNat_inj, UInt8.toNat_inj] at same
  obtain ⟨timestamp, satellite, temperature, battery, status, -, payload⟩ := same
  have float := render.injective _ _ encodable.temperature encodableOther.temperature temperature
  have version := encodable.version.trans encodableOther.version.symm
  cases frame
  cases other
  simp_all only

/-! ## One frame -/

/-- The object of a frame. -/
def objectOf (frame : TelemetryFrame) : Json :=
  .object [
    ("timestamp_ms".toList, .number (decimal frame.timestampMs.toNat)),
    ("satellite_id".toList, .number (decimal frame.satelliteId.toNat)),
    ("temperature_c".toList, .number (render.text frame.temperatureC)),
    ("battery_percent".toList, .number (decimal frame.batteryPercent.toNat)),
    ("status".toList, .string (statusToString frame.status)),
    ("payload_len".toList, .number (decimal frame.payload.length)),
    ("payload_hex".toList, .string (payloadToHex frame.payload frame.payload.length))]

/-- The fields of a frame. -/
def rowOf (frame : TelemetryFrame) : List (List Char) :=
  [decimal frame.timestampMs.toNat, decimal frame.satelliteId.toNat,
    render.text frame.temperatureC, decimal frame.batteryPercent.toNat,
    statusToString frame.status, decimal frame.payload.length,
    payloadToHex frame.payload frame.payload.length]

theorem readRow_rowOf {frame : TelemetryFrame} (encodable : Wire.Encodable frame) :
    readRow (rowOf render frame) = some (recordOf render frame) := by
  simp only [rowOf, readRow, readDecimal_decimal, readStatus_statusToString encodable.status,
    readPayload_payloadToHex]
  rfl

theorem readObject_objectOf {frame : TelemetryFrame} (encodable : Wire.Encodable frame) :
    readObject (objectOf render frame) = some (recordOf render frame) := by
  have row := readRow_rowOf render encodable
  exact row

theorem isNumber_decimal (value : Nat) : Json.isNumber (decimal value) = true := by
  refine Json.isNumber_of_digits (areDigits_decimal value) ?_
  exact (head_decimal value).imp_left fun zero => by subst zero; rfl

/-- The characters of an object. -/
def objectText (frame : TelemetryFrame) : List Char :=
  '{' ::
    ("\"timestamp_ms\":".toList ++ decimal frame.timestampMs.toNat ++ ',' ::
    ("\"satellite_id\":".toList ++ decimal frame.satelliteId.toNat ++ ',' ::
    ("\"temperature_c\":".toList ++ render.text frame.temperatureC ++ ',' ::
    ("\"battery_percent\":".toList ++ decimal frame.batteryPercent.toNat ++ ',' ::
    ("\"status\":".toList ++
      ('"' :: TelemetryOutput.jsonEscape (statusToString frame.status) ++ ['"']) ++ ',' ::
    ("\"payload_len\":".toList ++ decimal frame.payload.length ++ ',' ::
    ("\"payload_hex\":".toList ++
      ('"' :: TelemetryOutput.jsonEscape
        (payloadToHex frame.payload frame.payload.length) ++ ['"'])))))))) ++ ['}']

theorem reads_objectText {frame : TelemetryFrame} (encodable : Wire.Encodable frame) :
    Json.Reads 10 (objectText render frame) (objectOf render frame) := by
  have name (text : List Char) : Json.Spells (TelemetryOutput.jsonEscape text) text :=
    TelemetryOutput.spells_jsonEscape text
  have number (value : Nat) := Json.reads_number (isNumber_decimal value)
  have temperature := Json.reads_number (render.number _ encodable.temperature)
  -- the names of the members need no escape, so each is its own spelling
  have status := Json.reads_string (name (statusToString frame.status))
  have payload := Json.reads_string (name (payloadToHex frame.payload frame.payload.length))
  refine @Json.reads_object 9 _ _ ?_
  exact
    Json.membersRead_more (name "timestamp_ms".toList) (number _) <|
    Json.membersRead_more (name "satellite_id".toList) (number _) <|
    Json.membersRead_more (name "temperature_c".toList) temperature <|
    Json.membersRead_more (name "battery_percent".toList) (number _) <|
    Json.membersRead_more (name "status".toList) status <|
    Json.membersRead_more (name "payload_len".toList) (number _) <|
    Json.membersRead_last (name "payload_hex".toList) payload

/-! ## The whole document -/

section Run

open TelemetryOutput

/-- The text of an item, from the line break before it. -/
def itemText (frame : TelemetryFrame) : List Char := '\n' :: ' ' :: ' ' :: objectText render frame

/-- The text of the items of the array; an empty line when there are none. -/
def itemsText : List TelemetryFrame → List Char
  | [] => ['\n']
  | frame :: frames => itemText render frame ++ frames.flatMap fun frame => ',' :: itemText render frame

/-- The characters of a line. -/
def lineText (frame : TelemetryFrame) : List Char :=
  decimal frame.timestampMs.toNat ++ ',' ::
    (decimal frame.satelliteId.toNat ++ ',' ::
    (render.text frame.temperatureC ++ ',' ::
    (decimal frame.batteryPercent.toNat ++ ',' ::
    (statusToString frame.status ++ ',' ::
    (decimal frame.payload.length ++ ',' ::
    csvEscape (payloadToHex frame.payload frame.payload.length))))))

def headerText : List Char :=
  "timestamp_ms,satellite_id,temperature_c,battery_percent,status,payload_len,payload_hex".toList

/-- The object of a frame, after the comma that parts it from the one before. -/
theorem writeFrameJson_eq (output : TelemetryOutput) (frame : TelemetryFrame) :
    writeFrameJson render output frame =
      { (if output.firstJsonFrame = false then output.put ",\n".toList else output).put
          (' ' :: ' ' :: objectText render frame) with
        firstJsonFrame := false } := by
  have indent : "  \x7b".toList = _ := String.toList_ofList
  have status : "\"status\":".toList = _ := String.toList_ofList
  have opened : "\"status\":\"".toList = _ := String.toList_ofList
  have payload : "\"payload_hex\":".toList = _ := String.toList_ofList
  have hex : "\"payload_hex\":\"".toList = _ := String.toList_ofList
  have next : "\",".toList = _ := String.toList_ofList
  have closed : "\"".toList = _ := String.toList_ofList
  simp only [writeFrameJson, put, objectText, indent, status, opened, payload, hex, next, closed,
    List.append_assoc, List.cons_append, List.nil_append]

theorem write_first (out : List Char) (frame : TelemetryFrame) :
    write render ⟨out, .json, true, false⟩ frame =
      ⟨out ++ ' ' :: ' ' :: objectText render frame, .json, false, false⟩ := by
  rw [write, if_pos rfl, writeFrameJson_eq]
  rfl

theorem write_later (out : List Char) (frame : TelemetryFrame) :
    write render ⟨out, .json, false, false⟩ frame =
      ⟨out ++ ',' :: itemText render frame, .json, false, false⟩ := by
  have comma : ",\n".toList = [',', '\n'] := String.toList_ofList
  rw [write, if_pos rfl, writeFrameJson_eq, if_pos rfl, put, put, comma, List.append_assoc]
  rfl

theorem write_line {format : OutputFormat} (csv : format ≠ .json) (out : List Char)
    (frame : TelemetryFrame) :
    write render ⟨out, format, true, false⟩ frame =
      ⟨out ++ (lineText render frame ++ ['\n']), format, true, false⟩ := by
  rw [write, if_neg csv]
  simp only [writeFrameCsv, put, lineText, List.append_assoc, List.cons_append, List.nil_append]

theorem foldl_write_json (out : List Char) (frames : List TelemetryFrame) :
    frames.foldl (write render) ⟨out, .json, false, false⟩ =
      ⟨out ++ frames.flatMap fun frame => ',' :: itemText render frame, .json, false, false⟩ := by
  induction frames generalizing out with
  | nil => rw [List.flatMap_nil, List.append_nil, List.foldl_nil]
  | cons frame frames ih =>
      rw [List.foldl_cons, write_later, ih, List.flatMap_cons, List.append_assoc]

theorem foldl_write_csv {format : OutputFormat} (csv : format ≠ .json) (out : List Char)
    (frames : List TelemetryFrame) :
    frames.foldl (write render) ⟨out, format, true, false⟩ =
      ⟨out ++ frames.flatMap fun frame => lineText render frame ++ ['\n'],
        format, true, false⟩ := by
  induction frames generalizing out with
  | nil => rw [List.flatMap_nil, List.append_nil, List.foldl_nil]
  | cons frame frames ih =>
      rw [List.foldl_cons, write_line render csv, ih, List.flatMap_cons, List.append_assoc]

theorem finish_finish (output : TelemetryOutput) : finish (finish output) = finish output := by
  by_cases done : output.finished
  · have same : finish output = output := if_pos done
    rw [same, same]
  · have marked : (finish output).finished = true := by rw [finish, if_neg done]
    exact if_pos marked

/-- Any positive number of calls of `finish` is one. -/
theorem document_calls (format : OutputFormat) (frames : List TelemetryFrame) {calls : Nat}
    (positive : 0 < calls) :
    document render format frames calls =
      (finish (frames.foldl (write render) (construct format))).out := by
  obtain ⟨more, rfl⟩ := Nat.exists_eq_add_of_le' positive
  rw [document, Function.iterate_add_apply, Function.iterate_one,
    Function.iterate_fixed (finish_finish _)]

/-- **The JSON document**, character by character. -/
theorem document_json (frames : List TelemetryFrame) {calls : Nat} (positive : 0 < calls) :
    document render .json frames calls =
      ('[' :: (itemsText render frames ++ ['\n']) ++ [']']) ++ ['\n'] := by
  have opened : construct .json = ⟨['[', '\n'], .json, true, false⟩ := rfl
  rw [document_calls render .json frames positive, opened]
  cases frames with
  | nil => simp [finish, put, itemsText]
  | cons frame frames =>
      rw [List.foldl_cons, write_first, foldl_write_json]
      simp [finish, put, itemsText, itemText]

/-- **The CSV document**, line by line. -/
theorem document_csv {format : OutputFormat} (csv : format ≠ .json)
    (frames : List TelemetryFrame) {calls : Nat} (positive : 0 < calls) :
    document render format frames calls =
      (headerText :: frames.map (lineText render)).flatMap fun line => line ++ ['\n'] := by
  have opened : construct format = ⟨headerText ++ ['\n'], format, true, false⟩ := by
    have first : "timestamp_ms,satellite_id,temperature_c,battery_percent,status,".toList = _ :=
      String.toList_ofList
    have second : "payload_len,payload_hex\n".toList = _ := String.toList_ofList
    have written : headerText = _ := String.toList_ofList
    rw [construct, if_neg csv, written]
    simp only [writeCsvHeader, put, first, second]
    rfl
  rw [document_calls render format frames positive, opened, foldl_write_csv render csv,
    List.flatMap_cons, List.flatMap_map]
  simp [finish, csv]

theorem length_itemText (frame : TelemetryFrame) : 19 ≤ (itemText render frame).length := by
  have label : "\"timestamp_ms\":".toList.length = 15 := rfl
  simp only [itemText, objectText, List.cons_append, List.length_cons, List.append_assoc,
    List.length_append, label]
  omega

theorem length_laterItems (frames : List TelemetryFrame) :
    frames.length ≤ (frames.flatMap fun frame => ',' :: itemText render frame).length := by
  induction frames with
  | nil => exact Nat.le_refl _
  | cons frame frames ih =>
      simp only [List.flatMap_cons, List.length_append, List.length_cons]
      omega

theorem reads_itemText {frame : TelemetryFrame} (encodable : Wire.Encodable frame) :
    Json.Reads 10 (itemText render frame) (objectOf render frame) :=
  (((reads_objectText render encodable).space rfl).space rfl).space rfl

theorem itemsRead_itemsText (frame : TelemetryFrame) (frames : List TelemetryFrame)
    (encodable : ∀ other ∈ frame :: frames, Wire.Encodable other) :
    Json.ItemsRead (11 + frames.length) (itemsText render (frame :: frames) ++ ['\n'])
      ((frame :: frames).map (objectOf render)) := by
  have first := reads_itemText render (encodable frame (List.mem_cons_self ..))
  induction frames generalizing frame with
  | nil =>
      have text : itemsText render [frame] = itemText render frame := by simp [itemsText]
      rw [text]
      exact Json.itemsRead_last first (by simp [Json.isSpace])
  | cons next frames ih =>
      have others := ih next (fun other member => encodable other (List.mem_cons_of_mem _ member))
        (reads_itemText render (encodable next (by simp)))
      have text : itemsText render (frame :: next :: frames) ++ ['\n'] =
          itemText render frame ++ ',' :: (itemsText render (next :: frames) ++ ['\n']) := by
        simp [itemsText]
      have depth : max (10 + 1) (11 + frames.length + 1) = 11 + (next :: frames).length := by
        rw [List.length_cons]
        omega
      rw [text, ← depth]
      exact Json.itemsRead_more first others

/-- **The JSON document is an array** with the object of each frame, in order. -/
theorem parse_json (frames : List TelemetryFrame)
    (encodable : ∀ frame ∈ frames, Wire.Encodable frame) {calls : Nat} (positive : 0 < calls) :
    Json.parse (document render .json frames calls) =
      some (.array (frames.map (objectOf render))) := by
  rw [document_json render frames positive]
  cases frames with
  | nil =>
      exact Json.parse_of_reads (@Json.reads_empty ['\n', '\n'] (by simp [Json.isSpace]))
        (Nat.le_add_left 1 _) (by simp [Json.isSpace])
  | cons frame frames =>
      have read := itemsRead_itemsText render frame frames encodable
      have filled (rest : List Char) :
          (Json.skipSpace (itemsText render (frame :: frames) ++ ['\n'] ++ rest)).head? ≠
            some ']' := by
        have brace : ∀ c ∈ (Json.skipSpace (itemsText render (frame :: frames) ++ ['\n'] ++ rest)).head?,
            c = '{' := by rintro _ ⟨⟩; rfl
        exact fun bracket => absurd (brace _ bracket) (by decide)
      refine Json.parse_of_reads (Json.reads_array read filled) ?_ (by simp [Json.isSpace])
      have first := length_itemText render frame
      have later := length_laterItems render frames
      simp only [itemsText, List.length_append, List.length_cons, List.length_nil]
      omega

/-- The characters of a number need no quotes. -/
theorem bare_of_number {text : List Char} (number : Json.isNumber text = true) {c : Char}
    (member : c ∈ text) : Csv.Bare c := by
  have mine := Json.isNumber_mem number member
  have other (d : Char) (letter : Json.isNumberChar d = false) : c ≠ d := by
    rintro rfl
    rw [mine] at letter
    cases letter
  exact ⟨other '"' rfl, other ',' rfl, other '\n' rfl⟩

theorem bare_status {status : Status} (valid : status.raw ≤ Status.safeMode.raw) {c : Char}
    (member : c ∈ statusToString status) : Csv.Bare c := by
  have nominal : statusToString .nominal = _ := String.toList_ofList
  have warning : statusToString .warning = _ := String.toList_ofList
  have critical : statusToString .critical = _ := String.toList_ofList
  have safeMode : statusToString .safeMode = _ := String.toList_ofList
  rw [Csv.Bare]
  revert c
  rcases valid_status valid with rfl | rfl | rfl | rfl
  · rw [nominal]
    simp
  · rw [warning]
    simp
  · rw [critical]
    simp
  · rw [safeMode]
    simp

/-- **Every line is read as the fields of its frame.** -/
theorem rowReads_lineText {frame : TelemetryFrame} (encodable : Wire.Encodable frame) :
    Csv.RowReads (lineText render frame) (rowOf render frame) := by
  have number (value : Nat) : Csv.FieldReads (decimal value) (decimal value) :=
    Csv.fieldReads_bare fun _ member => bare_of_number (isNumber_decimal value) member
  have temperature : Csv.FieldReads (render.text frame.temperatureC) (render.text frame.temperatureC) :=
    Csv.fieldReads_bare fun _ member =>
      bare_of_number (render.number _ encodable.temperature) member
  have status : Csv.FieldReads (statusToString frame.status) (statusToString frame.status) :=
    Csv.fieldReads_bare fun _ member => bare_status encodable.status member
  exact
    Csv.rowReads_more (number _) <|
    Csv.rowReads_more (number _) <|
    Csv.rowReads_more temperature <|
    Csv.rowReads_more (number _) <|
    Csv.rowReads_more status <|
    Csv.rowReads_more (number _) <|
    Csv.rowReads_last (reads_csvEscape _)

theorem headerText_line : '\n' ∉ headerText := by
  have written : headerText = _ := String.toList_ofList
  rw [written]
  decide

theorem lineText_line {frame : TelemetryFrame} (encodable : Wire.Encodable frame) :
    '\n' ∉ lineText render frame := by
  have number (value : Nat) : '\n' ∉ decimal value := fun member =>
    (bare_of_number (isNumber_decimal value) member).2.2 rfl
  have temperature : '\n' ∉ render.text frame.temperatureC := fun member =>
    (bare_of_number (render.number _ encodable.temperature) member).2.2 rfl
  have status : '\n' ∉ statusToString frame.status := fun member =>
    (bare_status encodable.status member).2.2 rfl
  have payload : '\n' ∉ csvEscape (payloadToHex frame.payload frame.payload.length) :=
    csvEscape_line (payloadToHex_line frame.payload)
  simp [lineText, number, temperature, status, payload]

def headerRow : List (List Char) :=
  ["timestamp_ms".toList, "satellite_id".toList, "temperature_c".toList,
    "battery_percent".toList, "status".toList, "payload_len".toList, "payload_hex".toList]

theorem rowReads_headerText : Csv.RowReads headerText headerRow := by
  have timestamp : "timestamp_ms".toList = _ := String.toList_ofList
  have satellite : "satellite_id".toList = _ := String.toList_ofList
  have temperature : "temperature_c".toList = _ := String.toList_ofList
  have battery : "battery_percent".toList = _ := String.toList_ofList
  have status : "status".toList = _ := String.toList_ofList
  have length : "payload_len".toList = _ := String.toList_ofList
  have payload : "payload_hex".toList = _ := String.toList_ofList
  have bare : ∀ name ∈ headerRow, ∀ c ∈ name, c ≠ '"' ∧ c ≠ ',' ∧ c ≠ '\n' := by
    rw [headerRow, timestamp, satellite, temperature, battery, status, length, payload]
    simp
  have split : headerText =
      "timestamp_ms".toList ++ ',' :: ("satellite_id".toList ++ ',' ::
        ("temperature_c".toList ++ ',' :: ("battery_percent".toList ++ ',' ::
          ("status".toList ++ ',' :: ("payload_len".toList ++ ',' :: "payload_hex".toList))))) := by
    rw [timestamp, satellite, temperature, battery, status, length, payload]
    exact String.toList_ofList
  have name {text : List Char} (member : text ∈ headerRow) : Csv.FieldReads text text :=
    Csv.fieldReads_bare (bare text member)
  rw [split, headerRow]
  exact
    Csv.rowReads_more (name (by simp [headerRow])) <|
    Csv.rowReads_more (name (by simp [headerRow])) <|
    Csv.rowReads_more (name (by simp [headerRow])) <|
    Csv.rowReads_more (name (by simp [headerRow])) <|
    Csv.rowReads_more (name (by simp [headerRow])) <|
    Csv.rowReads_more (name (by simp [headerRow])) <|
    Csv.rowReads_last (name (by simp [headerRow]))

/-- **The CSV document is the header and a record for each frame**, in order. -/
theorem parse_csv {format : OutputFormat} (csv : format ≠ .json) (frames : List TelemetryFrame)
    (encodable : ∀ frame ∈ frames, Wire.Encodable frame) {calls : Nat} (positive : 0 < calls) :
    Csv.parse (document render format frames calls) =
      some (headerRow :: frames.map (rowOf render)) := by
  have rows := Csv.parse_rows fun frame member => rowReads_lineText render (encodable frame member)
  have first := rowReads_headerText []
    (frames.flatMap fun frame => lineText render frame ++ ['\n'])
  rw [document_csv render csv frames positive, List.flatMap_cons, List.flatMap_map,
    List.append_assoc]
  rw [rows] at first
  exact first

/-- Entries that can be read back determine the frames. -/
theorem frames_of_entries {α : Type} {entry : TelemetryFrame → α} {read : α → Option Record}
    (reads : ∀ frame, Wire.Encodable frame → read (entry frame) = some (recordOf render frame))
    {frames others : List TelemetryFrame} (encodable : ∀ frame ∈ frames, Wire.Encodable frame)
    (encodableOthers : ∀ frame ∈ others, Wire.Encodable frame)
    (same : frames.map entry = others.map entry) : frames = others := by
  induction frames generalizing others with
  | nil => exact (List.map_eq_nil_iff.mp same.symm).symm
  | cons frame frames ih =>
      cases others with
      | nil => cases same
      | cons other others =>
          simp only [List.map_cons, List.cons.injEq] at same
          have mine := encodable frame (List.mem_cons_self ..)
          have theirs := encodableOthers other (List.mem_cons_self ..)
          have records : recordOf render frame = recordOf render other := by
            have read := reads frame mine
            rw [same.1, reads other theirs] at read
            exact (Option.some.inj read).symm
          rw [recordOf_injective render mine theirs records,
            ih (fun frame member => encodable frame (List.mem_cons_of_mem _ member))
              (fun frame member => encodableOthers frame (List.mem_cons_of_mem _ member)) same.2]

/-! ## The export -/

/-- A JSON array with one object for each record, in order. -/
def IsJsonExport (text : List Char) (records : List Record) : Prop :=
  ∃ entries, Json.parse text = some (.array entries) ∧
    List.Forall₂ (fun entry record =>
      (∃ members, entry = .object members) ∧ readObject entry = some record) entries records

/-- A header line and one line of seven fields for each record, in order. -/
def IsCsvExport (text : List Char) (records : List Record) : Prop :=
  ∃ header lines, text = (header :: lines).flatMap (fun line => line ++ ['\n']) ∧ '\n' ∉ header ∧
    List.Forall₂ (fun line record =>
      '\n' ∉ line ∧ ∃ row, Csv.parse (line ++ ['\n']) = some [row] ∧ row.length = 7 ∧
        readRow row = some record) lines records

/-- The frames the decoder can return. -/
def Decodable (frame : TelemetryFrame) : Prop := ∃ bytes, decodeFrame bytes = .ok frame

theorem Decodable.encodable {frame : TelemetryFrame} (decodable : Decodable frame) :
    Wire.Encodable frame := by
  obtain ⟨bytes, decoded⟩ := decodable
  obtain ⟨formed, rfl⟩ := (decodeFrame_eq_ok_iff bytes frame).mp decoded
  exact encodable_frameOf formed

theorem decodable_of_encodable {frame : TelemetryFrame} (encodable : Wire.Encodable frame) :
    Decodable frame :=
  ⟨wire frame, (decodeFrame_eq_ok_iff _ _).mpr
    ⟨wellFormed_wire encodable, (frameOf_wire encodable).symm⟩⟩

/-- **The export is well formed and lossless**, for every sequence of frames the decoder
can return and any positive number of calls of `finish`. -/
theorem export_lossless (format : OutputFormat) (frames : List TelemetryFrame)
    (decodable : ∀ frame ∈ frames, Decodable frame) {calls : Nat} (positive : 0 < calls) :
    (format = .json → IsJsonExport (document render format frames calls)
      (frames.map (recordOf render))) ∧
    (format ≠ .json → IsCsvExport (document render format frames calls)
      (frames.map (recordOf render))) ∧
    ∀ (others : List TelemetryFrame) (otherCalls : Nat),
      (∀ frame ∈ others, Decodable frame) → 0 < otherCalls →
      document render format frames calls = document render format others otherCalls →
      frames = others := by
  have encodable : ∀ frame ∈ frames, Wire.Encodable frame := fun frame member =>
    (decodable frame member).encodable
  refine ⟨?json, ?csv, ?lossless⟩
  case json =>
    rintro rfl
    refine ⟨_, parse_json render frames encodable positive, ?_⟩
    rw [List.forall₂_map_left_iff, List.forall₂_map_right_iff, List.forall₂_same]
    exact fun frame member => ⟨⟨_, rfl⟩, readObject_objectOf render (encodable frame member)⟩
  case csv =>
    intro csv
    refine ⟨_, _, document_csv render csv frames positive, headerText_line, ?_⟩
    rw [List.forall₂_map_left_iff, List.forall₂_map_right_iff, List.forall₂_same]
    intro frame member
    have mine := encodable frame member
    exact ⟨lineText_line render mine, rowOf render frame, rowReads_lineText render mine [] [], rfl,
      readRow_rowOf render mine⟩
  case lossless =>
    intro others otherCalls decodableOthers positiveOther same
    have encodableOthers : ∀ frame ∈ others, Wire.Encodable frame := fun frame member =>
      (decodableOthers frame member).encodable
    by_cases json : format = .json
    · subst json
      have parsed := parse_json render frames encodable positive
      rw [same, parse_json render others encodableOthers positiveOther] at parsed
      exact frames_of_entries render (fun _ => readObject_objectOf render) encodable
        encodableOthers (Json.array.inj (Option.some.inj parsed)).symm
    · have parsed := parse_csv render json frames encodable positive
      rw [same, parse_csv render json others encodableOthers positiveOther] at parsed
      exact frames_of_entries render (fun _ => readRow_rowOf render) encodable encodableOthers
        (List.cons.inj (Option.some.inj parsed)).2.symm

end Run

/-- The decimal numeral of the pattern: as the standard library writes positive zero. -/
def patternRendering : FloatRendering where
  text float := decimal float.bits.toNat
  number float _ := isNumber_decimal float.bits.toNat
  injective float other _ _ same := by
    have bits := UInt32.toNat_inj.mp (decimal_injective same)
    cases float
    cases other
    exact congrArg Binary32.mk bits

theorem export_lossless_two :
    IsJsonExport
      (TelemetryOutput.document patternRendering .json [{}, { payload := [0, 255] }] 2)
      ([{}, { payload := [0, 255] }].map (recordOf patternRendering)) := by
  have encodable : Wire.Encodable { payload := [0, 255] } :=
    { encodable_default with payload := by decide }
  refine (@export_lossless patternRendering .json [{}, { payload := [0, 255] }] ?_ 2
    (by decide)).1 rfl
  simp [decodable_of_encodable encodable_default, decodable_of_encodable encodable]

end Stgs.Station
