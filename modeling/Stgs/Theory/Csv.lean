/-
# Theory.Csv -- comma-separated values

Records are lines, fields are separated by commas, and a field that holds a comma, a
quote or the end of a line is quoted, its quotes doubled.  `parse` reads a document
character by character; the lemmas say what a bare field, a quoted field, a record
and a list of records are read as.
-/
import Mathlib.Data.List.Basic

namespace Stgs.Theory.Csv

set_option autoImplicit false

/-- Where the reader is: at the start of a field, inside a bare one, inside quotes, or
behind a quote that closes or is the first of two. -/
inductive Place where
  | start
  | bare
  | quoted
  | closed

/-- The records of a document, from the middle of one on. -/
def parseFrom (fields : List (List Char)) (field : List Char) :
    Place → List Char → Option (List (List (List Char)))
  | .start, [] => if fields = [] then some [] else some [fields ++ [field]]
  | .bare, [] => some [fields ++ [field]]
  | .quoted, [] => none
  | .closed, [] => some [fields ++ [field]]
  | .quoted, c :: rest =>
      if c = '"' then parseFrom fields field .closed rest
      else parseFrom fields (field ++ [c]) .quoted rest
  | .start, c :: rest =>
      if c = '"' then parseFrom fields [] .quoted rest
      else if c = ',' then parseFrom (fields ++ [field]) [] .start rest
      else if c = '\n' then (parseFrom [] [] .start rest).map fun rows => (fields ++ [field]) :: rows
      else parseFrom fields (field ++ [c]) .bare rest
  | .bare, c :: rest =>
      if c = '"' then none
      else if c = ',' then parseFrom (fields ++ [field]) [] .start rest
      else if c = '\n' then (parseFrom [] [] .start rest).map fun rows => (fields ++ [field]) :: rows
      else parseFrom fields (field ++ [c]) .bare rest
  | .closed, c :: rest =>
      if c = '"' then parseFrom fields (field ++ ['"']) .quoted rest
      else if c = ',' then parseFrom (fields ++ [field]) [] .start rest
      else if c = '\n' then (parseFrom [] [] .start rest).map fun rows => (fields ++ [field]) :: rows
      else none

/-- **A document**: its records, each the list of its fields. -/
def parse (text : List Char) : Option (List (List (List Char))) := parseFrom [] [] .start text

example : parse "a,\"b,\"\"c\"\n,d\n".toList =
    some [["a".toList, "b,\"c".toList], [[], "d".toList]] := by decide

/-! ## What a text is read as -/

/-- A text is read as a field, whether another one or the next record follows. -/
structure FieldReads (text meant : List Char) : Prop where
  more : ∀ fields rest, parseFrom fields [] .start (text ++ ',' :: rest) =
    parseFrom (fields ++ [meant]) [] .start rest
  last : ∀ fields rest, parseFrom fields [] .start (text ++ '\n' :: rest) =
    (parse rest).map fun rows => (fields ++ [meant]) :: rows

/-- The characters of a bare field. -/
def Bare (c : Char) : Prop := c ≠ '"' ∧ c ≠ ',' ∧ c ≠ '\n'

theorem parseFrom_bare {text : List Char} (bare : ∀ c ∈ text, Bare c) (fields : List (List Char))
    (field rest : List Char) :
    parseFrom fields field .bare (text ++ rest) = parseFrom fields (field ++ text) .bare rest := by
  induction text generalizing field with
  | nil => rw [List.nil_append, List.append_nil]
  | cons c text ih =>
      obtain ⟨quote, comma, line⟩ := bare c (List.mem_cons_self ..)
      rw [List.cons_append, parseFrom, if_neg quote, if_neg comma, if_neg line,
        ih fun c member => bare c (List.mem_cons_of_mem _ member), List.append_assoc]
      rfl

theorem fieldReads_bare {text : List Char} (bare : ∀ c ∈ text, Bare c) : FieldReads text text := by
  cases text with
  | nil => exact ⟨fun _ _ => rfl, fun _ _ => rfl⟩
  | cons c text =>
      obtain ⟨quote, comma, line⟩ := bare c (List.mem_cons_self ..)
      have others : ∀ c ∈ text, Bare c := fun c member => bare c (List.mem_cons_of_mem _ member)
      refine ⟨fun fields rest => ?_, fun fields rest => ?_⟩
      · rw [List.cons_append, parseFrom, if_neg quote, if_neg comma, if_neg line,
          parseFrom_bare others]
        rfl
      · rw [List.cons_append, parseFrom, if_neg quote, if_neg comma, if_neg line,
          parseFrom_bare others]
        rfl

/-- A text between quotes stands for these characters. -/
def Spells (text meant : List Char) : Prop :=
  ∀ fields field rest, parseFrom fields field .quoted (text ++ '"' :: rest) =
    parseFrom fields (field ++ meant) .closed rest

theorem spells_nil : Spells [] [] := by
  intro fields field rest
  rw [List.append_nil]
  rfl

theorem spells_cons {c : Char} {text meant : List Char} (plain : c ≠ '"')
    (spells : Spells text meant) : Spells (c :: text) (c :: meant) := by
  intro fields field rest
  rw [List.cons_append, parseFrom, if_neg plain, spells, List.append_assoc]
  rfl

/-- A quote is doubled. -/
theorem spells_quote {text meant : List Char} (spells : Spells text meant) :
    Spells ('"' :: '"' :: text) ('"' :: meant) := by
  intro fields field rest
  have twice : parseFrom fields field .quoted ('"' :: '"' :: text ++ '"' :: rest) =
      parseFrom fields (field ++ ['"']) .quoted (text ++ '"' :: rest) := rfl
  rw [twice, spells, List.append_assoc]
  rfl

theorem fieldReads_quoted {text meant : List Char} (spells : Spells text meant) :
    FieldReads ('"' :: text ++ ['"']) meant := by
  refine ⟨fun fields rest => ?_, fun fields rest => ?_⟩
  · have opened : parseFrom fields [] .start ('"' :: text ++ ['"'] ++ ',' :: rest) =
        parseFrom fields [] .quoted (text ++ '"' :: (',' :: rest)) := by
      rw [List.append_assoc]
      rfl
    rw [opened, spells]
    rfl
  · have opened : parseFrom fields [] .start ('"' :: text ++ ['"'] ++ '\n' :: rest) =
        parseFrom fields [] .quoted (text ++ '"' :: ('\n' :: rest)) := by
      rw [List.append_assoc]
      rfl
    rw [opened, spells]
    rfl

/-- A line is read as a record. -/
def RowReads (text : List Char) (row : List (List Char)) : Prop :=
  ∀ fields rest, parseFrom fields [] .start (text ++ '\n' :: rest) =
    (parse rest).map fun rows => (fields ++ row) :: rows

theorem rowReads_last {text meant : List Char} (reads : FieldReads text meant) :
    RowReads text [meant] := reads.last

theorem rowReads_more {text meant following : List Char} {row : List (List Char)}
    (reads : FieldReads text meant) (more : RowReads following row) :
    RowReads (text ++ ',' :: following) (meant :: row) := by
  intro fields rest
  rw [List.append_assoc, List.cons_append, reads.more, more, List.append_assoc]
  rfl

/-- **Lines are read as records**, in order. -/
theorem parse_rows {α : Type} {text : α → List Char} {row : α → List (List Char)}
    {entries : List α} (reads : ∀ entry ∈ entries, RowReads (text entry) (row entry)) :
    parse (entries.flatMap fun entry => text entry ++ ['\n']) = some (entries.map row) := by
  induction entries with
  | nil => rfl
  | cons entry entries ih =>
      have first := reads entry (List.mem_cons_self ..)
        [] (entries.flatMap fun entry => text entry ++ ['\n'])
      rw [ih fun entry member => reads entry (List.mem_cons_of_mem _ member)] at first
      rw [List.flatMap_cons, List.append_assoc]
      exact first

end Stgs.Theory.Csv
