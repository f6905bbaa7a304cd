/-
# Station.TelemetryOutput -- the export of the station

`TelemetryOutput` writes frames into a CSV or a JSON document: the header when it is
built, one entry for each `write`, the end of the document at the first `finish`.  The
document is what the stream has taken, as characters; the stream does not fail.

A float is written by the standard library, with the nine digits of `max_digits10`.
`FloatRendering` is what the export takes from it: a number in the syntax of JSON, and
another one for another finite float.
-/
import Stgs.Theory.Csv
import Stgs.Theory.Json
import Stgs.Station.Options
import Stgs.Wire.FrameText

namespace Stgs.Station

open Stgs.Theory Stgs.Theory.Numerals Stgs.Wire

set_option autoImplicit false

/-- `operator<<` of a float behind `std::setprecision(max_digits10)`. -/
structure FloatRendering where
  text : Binary32 → List Char
  number : ∀ float, float.isFinite = true → Json.isNumber (text float) = true
  injective : ∀ float other, float.isFinite = true → other.isFinite = true →
    text float = text other → float = other

structure TelemetryOutput where
  out : List Char
  format : OutputFormat
  firstJsonFrame : Bool := true
  finished : Bool := false

namespace TelemetryOutput

def jsonControlUpperExclusive : Nat := 0x20
def jsonUnicodeEscapeHexWidth : Nat := 4

/-! ## Escapes -/

def csvEscape (value : List Char) : List Char :=
  ['"'] ++ (value.flatMap fun ch => if ch = '"' then ['"', '"'] else [ch]) ++ ['"']

def jsonEscapeChar (ch : Char) : List Char :=
  if ch = '"' then ['\\', '"']
  else if ch = '\\' then ['\\', '\\']
  else if ch = '\x08' then ['\\', 'b']
  else if ch = '\x0c' then ['\\', 'f']
  else if ch = '\n' then ['\\', 'n']
  else if ch = '\r' then ['\\', 'r']
  else if ch = '\t' then ['\\', 't']
  else if ch.toNat < jsonControlUpperExclusive then
    ['\\', 'u'] ++ paddedHex jsonUnicodeEscapeHexWidth ch.toNat
  else [ch]

def jsonEscape (value : List Char) : List Char := value.flatMap jsonEscapeChar

/-- An escape of one letter, the code of a control character, or the character. -/
theorem jsonEscapeChar_cases (ch : Char) :
    (∃ letter, letter ≠ 'u' ∧ Json.escaped letter = some ch ∧ jsonEscapeChar ch = ['\\', letter]) ∨
    (ch.toNat < jsonControlUpperExclusive ∧
      jsonEscapeChar ch = ['\\', 'u'] ++ paddedHex jsonUnicodeEscapeHexWidth ch.toNat) ∨
    (ch ≠ '"' ∧ ch ≠ '\\' ∧ ¬ ch.toNat < jsonControlUpperExclusive ∧ jsonEscapeChar ch = [ch]) := by
  unfold jsonEscapeChar
  iterate 7
    split
    · rename_i same
      subst same
      exact Or.inl ⟨_, by decide, rfl, rfl⟩
  rename_i quote backslash _ _ _ _ _
  split
  · rename_i control
    exact Or.inr (Or.inl ⟨control, rfl⟩)
  · rename_i printed
    exact Or.inr (Or.inr ⟨quote, backslash, printed, rfl⟩)

/-- **What is escaped for JSON is read as it was**, whatever its characters. -/
theorem spells_jsonEscape (value : List Char) : Json.Spells (jsonEscape value) value := by
  induction value with
  | nil => exact Json.spells_nil
  | cons ch value ih =>
      show Json.Spells (jsonEscapeChar ch ++ jsonEscape value) (ch :: value)
      rcases jsonEscapeChar_cases ch with
        ⟨letter, short, stands, written⟩ | ⟨control, written⟩ | ⟨quote, backslash, printed, written⟩
      · rw [written]
        exact Json.spells_escape short stands ih
      · have byte : ch.toNat < 256 := Nat.lt_trans control (by decide)
        have code := readHex_paddedHex 2 byte
        rw [paddedHex_byte 2 byte] at code
        rw [written, jsonUnicodeEscapeHexWidth, paddedHex_byte 2 byte]
        have spells := Json.spells_code code ih
        rw [Char.ofNat_toNat] at spells
        exact spells
      · rw [written]
        exact Json.spells_cons quote backslash (fun control => printed (Char.lt_def.mp control)) ih

/-- What is escaped for CSV is read as it was. -/
theorem reads_csvEscape (value : List Char) : Csv.FieldReads (csvEscape value) value := by
  refine Csv.fieldReads_quoted ?_
  induction value with
  | nil => exact Csv.spells_nil
  | cons ch value ih =>
      rw [List.flatMap_cons]
      split
      · rename_i quote
        subst quote
        exact Csv.spells_quote ih
      · rename_i plain
        exact Csv.spells_cons plain ih

theorem csvEscape_line {value : List Char} (line : '\n' ∉ value) : '\n' ∉ csvEscape value := by
  intro member
  simp only [csvEscape, List.mem_append, List.mem_singleton, List.mem_flatMap] at member
  rcases member with (opening | ⟨ch, inside, written⟩) | closing
  · cases opening
  · split at written
    · cases written with
      | tail _ second => cases second with | tail _ none => cases none
    · rw [List.mem_singleton] at written
      exact line (written ▸ inside)
  · cases closing

/-! ## The document -/

def put (output : TelemetryOutput) (text : List Char) : TelemetryOutput :=
  { output with out := output.out ++ text }

def writeCsvHeader (output : TelemetryOutput) : TelemetryOutput :=
  output.put ("timestamp_ms,satellite_id,temperature_c,battery_percent,status,".toList ++
    "payload_len,payload_hex\n".toList)

def writeJsonHeader (output : TelemetryOutput) : TelemetryOutput := output.put "[\n".toList

/-- The constructor, on a file that could be opened. -/
def construct (format : OutputFormat) : TelemetryOutput :=
  let output : TelemetryOutput := { out := [], format := format }
  if format = .json then writeJsonHeader output else writeCsvHeader output

variable (render : FloatRendering)

def writeFrameCsv (output : TelemetryOutput) (frame : TelemetryFrame) : TelemetryOutput :=
  output.put <|
    decimal frame.timestampMs.toNat ++ [','] ++
    decimal frame.satelliteId.toNat ++ [','] ++
    render.text frame.temperatureC ++ [','] ++
    decimal frame.batteryPercent.toNat ++ [','] ++
    statusToString frame.status ++ [','] ++
    decimal frame.payload.length ++ [','] ++
    csvEscape (payloadToHex frame.payload frame.payload.length) ++ ['\n']

def writeFrameJson (output : TelemetryOutput) (frame : TelemetryFrame) : TelemetryOutput :=
  let output := if output.firstJsonFrame = false then output.put ",\n".toList else output
  let output := output.put <| "  \x7b".toList ++
    "\"timestamp_ms\":".toList ++ decimal frame.timestampMs.toNat ++ [','] ++
    "\"satellite_id\":".toList ++ decimal frame.satelliteId.toNat ++ [','] ++
    "\"temperature_c\":".toList ++
    render.text frame.temperatureC ++ [','] ++
    "\"battery_percent\":".toList ++ decimal frame.batteryPercent.toNat ++ [','] ++
    "\"status\":\"".toList ++ jsonEscape (statusToString frame.status) ++ "\",".toList ++
    "\"payload_len\":".toList ++ decimal frame.payload.length ++ [','] ++
    "\"payload_hex\":\"".toList ++
      jsonEscape (payloadToHex frame.payload frame.payload.length) ++ "\"".toList ++
    ['}']
  { output with firstJsonFrame := false }

def write (output : TelemetryOutput) (frame : TelemetryFrame) : TelemetryOutput :=
  if output.format = .json then writeFrameJson render output frame
  else writeFrameCsv render output frame

def finish (output : TelemetryOutput) : TelemetryOutput :=
  if output.finished then output
  else
    let output := if output.format = .json then output.put "\n]\n".toList else output
    { output with finished := true }

/-- The document after these frames and this many calls of `finish`. -/
def document (format : OutputFormat) (frames : List TelemetryFrame) (calls : Nat) : List Char :=
  (finish^[calls] (frames.foldl (write render) (construct format))).out

end TelemetryOutput

end Stgs.Station
