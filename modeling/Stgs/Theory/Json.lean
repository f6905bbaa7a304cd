/-
# Theory.Json -- JSON texts

The syntax of RFC 8259, as a parser of the characters of a text: white space,
literals, numbers, strings with their escapes, arrays and objects.  A number is kept
as it is written, a string as the characters it stands for (an escape `\u` as the
code it names), and `parse` accepts a text when one value and white space are all of
it.

The depth argument of `value` bounds the nesting and the items of a list; the lemmas
say what each production does when it is large enough.
-/
import Stgs.Theory.Numerals

namespace Stgs.Theory

set_option autoImplicit false

inductive Json where
  | null
  | bool (value : Bool)
  | number (text : List Char)
  | string (value : List Char)
  | array (items : List Json)
  | object (members : List (List Char × Json))

namespace Json

open Numerals

/-! ## Tokens -/

def isSpace (c : Char) : Bool := c = ' ' || c = '\t' || c = '\n' || c = '\r'

def skipSpace (input : List Char) : List Char := input.dropWhile isSpace

/-- The characters of a number. -/
def isNumberChar (c : Char) : Bool :=
  c.isDigit || c = '-' || c = '+' || c = '.' || c = 'e' || c = 'E'

/-- `int`: zero, or digits that do not start with it. -/
def isWhole (text : List Char) : Bool := areDigits text && (text = ['0'] || text.head? != some '0')

/-- What follows the sign of an exponent. -/
def unsigned : List Char → List Char
  | '+' :: rest => rest
  | '-' :: rest => rest
  | text => text

/-- `[ exp ]`. -/
def isExponent : List Char → Bool
  | [] => true
  | c :: rest => (c = 'e' || c = 'E') && areDigits (unsigned rest)

/-- `[ frac ] [ exp ]`. -/
def isFraction : List Char → Bool
  | '.' :: rest => areDigits (rest.takeWhile Char.isDigit) && isExponent (rest.dropWhile Char.isDigit)
  | rest => isExponent rest

/-- What follows the sign of a number. -/
def magnitude : List Char → List Char
  | '-' :: rest => rest
  | text => text

def isNumber (text : List Char) : Bool :=
  isWhole ((magnitude text).takeWhile Char.isDigit) &&
    isFraction ((magnitude text).dropWhile Char.isDigit)

/-- The escapes of one letter. -/
def escaped : Char → Option Char
  | '"' => some '"'
  | '\\' => some '\\'
  | '/' => some '/'
  | 'b' => some '\x08'
  | 'f' => some '\x0c'
  | 'n' => some '\n'
  | 'r' => some '\r'
  | 't' => some '\t'
  | _ => none

/-- Where the reader of a string is: between characters, behind a backslash, or inside the
code of an escape. -/
inductive Inside where
  | plain
  | escape
  | code (digits : List Char)

/-- The characters up to the closing quote, and what follows it. -/
def stringFrom : Inside → List Char → Option (List Char × List Char)
  | _, [] => none
  | .plain, c :: rest =>
      if c = '"' then some ([], rest)
      else if c = '\\' then stringFrom .escape rest
      else if c < ' ' then none
      else (stringFrom .plain rest).map fun read => (c :: read.1, read.2)
  | .escape, c :: rest =>
      if c = 'u' then stringFrom (.code []) rest
      else
        match escaped c with
        | none => none
        | some meant => (stringFrom .plain rest).map fun read => (meant :: read.1, read.2)
  | .code digits, c :: rest =>
      if digits.length < 3 then stringFrom (.code (digits ++ [c])) rest
      else
        match readHex (digits ++ [c]) with
        | none => none
        | some code =>
            (stringFrom .plain rest).map fun read => (Char.ofNat code :: read.1, read.2)

def stringRest (input : List Char) : Option (List Char × List Char) := stringFrom .plain input

/-- The words of the syntax. -/
def word (text : List Char) (meant : Json) (input : List Char) : Option (Json × List Char) :=
  if text <+: input then some (meant, input.drop text.length) else none

def readNumber (input : List Char) : Option (Json × List Char) :=
  if isNumber (input.takeWhile isNumberChar) then
    some (.number (input.takeWhile isNumberChar), input.dropWhile isNumberChar)
  else none

/-! ## Values -/

mutual

/-- One value, and what follows it. -/
def value : Nat → List Char → Option (Json × List Char)
  | 0, _ => none
  | depth + 1, input =>
      match skipSpace input with
      | [] => none
      | c :: rest =>
          if c = '"' then (stringRest rest).map fun read => (.string read.1, read.2)
          else if c = '[' then
            if (skipSpace rest).head? = some ']' then some (.array [], (skipSpace rest).tail)
            else (items depth rest).map fun read => (.array read.1, read.2)
          else if c = '{' then
            if (skipSpace rest).head? = some '}' then some (.object [], (skipSpace rest).tail)
            else (members depth rest).map fun read => (.object read.1, read.2)
          else if c = 'n' then word ['n', 'u', 'l', 'l'] .null (c :: rest)
          else if c = 't' then word ['t', 'r', 'u', 'e'] (.bool true) (c :: rest)
          else if c = 'f' then word ['f', 'a', 'l', 's', 'e'] (.bool false) (c :: rest)
          else readNumber (c :: rest)

/-- The values of an array up to its end. -/
def items : Nat → List Char → Option (List Json × List Char)
  | 0, _ => none
  | depth + 1, input =>
      match value depth input with
      | none => none
      | some (first, rest) =>
          match skipSpace rest with
          | [] => none
          | c :: rest =>
              if c = ']' then some ([first], rest)
              else if c = ',' then
                (items depth rest).map fun read => (first :: read.1, read.2)
              else none

/-- One member of an object, and what follows it. -/
def member : Nat → List Char → Option ((List Char × Json) × List Char)
  | 0, _ => none
  | depth + 1, input =>
      match skipSpace input with
      | [] => none
      | quote :: rest =>
          if quote ≠ '"' then none
          else
            match stringRest rest with
            | none => none
            | some (name, rest) =>
                match skipSpace rest with
                | [] => none
                | colon :: rest =>
                    if colon ≠ ':' then none
                    else (value depth rest).map fun read => ((name, read.1), read.2)

/-- The members of an object up to its end. -/
def members : Nat → List Char → Option (List (List Char × Json) × List Char)
  | 0, _ => none
  | depth + 1, input =>
      match member depth input with
      | none => none
      | some (first, rest) =>
          match skipSpace rest with
          | [] => none
          | c :: rest =>
              if c = '}' then some ([first], rest)
              else if c = ',' then
                (members depth rest).map fun read => (first :: read.1, read.2)
              else none

end

/-- **A JSON text**: one value, and white space around it. -/
def parse (text : List Char) : Option Json :=
  match value (text.length + 1) text with
  | some (json, rest) => if skipSpace rest = [] then some json else none
  | none => none

example : (parse "\x7b\"a\": [1, -2.5e+3, \"\\u0041\\n\"]\x7d ".toList).isSome = true := by decide +kernel

example : (parse "[1, 2,]".toList).isSome = false := by decide +kernel

/-! ## What a token is read as -/

@[simp] theorem skipSpace_nil : skipSpace [] = [] := rfl

theorem skipSpace_space {c : Char} (space : isSpace c = true) (rest : List Char) :
    skipSpace (c :: rest) = skipSpace rest := List.dropWhile_cons_of_pos space

theorem skipSpace_token {c : Char} (token : isSpace c = false) (rest : List Char) :
    skipSpace (c :: rest) = c :: rest :=
  List.dropWhile_cons_of_neg (by simp [token])

/-- Where the characters of a number end. -/
def Delimits (rest : List Char) : Prop := ∀ c ∈ rest.head?, isNumberChar c = false

theorem takeWhile_append_of_head {p : Char → Bool} {text rest : List Char}
    (inside : ∀ c ∈ text, p c = true) (outside : ∀ c ∈ rest.head?, p c = false) :
    (text ++ rest).takeWhile p = text ∧ (text ++ rest).dropWhile p = rest := by
  induction text with
  | nil =>
      cases rest with
      | nil => exact ⟨rfl, rfl⟩
      | cons c rest => simp [outside c rfl]
  | cons c text ih =>
      have tail := ih fun c member => inside c (List.mem_cons_of_mem _ member)
      simp [inside c (List.mem_cons_self ..), tail.1, tail.2]

theorem isNumberChar_of_isDigit {c : Char} (digit : c.isDigit = true) : isNumberChar c = true := by
  simp [isNumberChar, digit]

theorem mem_unsigned {text : List Char} {c : Char} (member : c ∈ text) :
    c = '+' ∨ c = '-' ∨ c ∈ unsigned text := by
  unfold unsigned
  split
  · exact (List.mem_cons.mp member).imp_right Or.inr
  · rcases List.mem_cons.mp member with sign | rest
    · exact Or.inr (Or.inl sign)
    · exact Or.inr (Or.inr rest)
  · exact Or.inr (Or.inr member)

theorem isExponent_mem {text : List Char} (exponent : isExponent text = true) {c : Char}
    (member : c ∈ text) : isNumberChar c = true := by
  cases text with
  | nil => cases member
  | cons letter rest =>
      simp only [isExponent, Bool.and_eq_true, Bool.or_eq_true, decide_eq_true_eq] at exponent
      rcases List.mem_cons.mp member with rfl | later
      · rcases exponent.1 with rfl | rfl <;> rfl
      · rcases mem_unsigned later with rfl | rfl | digit
        · rfl
        · rfl
        · exact isNumberChar_of_isDigit (areDigits_mem exponent.2 digit)

theorem isFraction_mem {text : List Char} (fraction : isFraction text = true) {c : Char}
    (member : c ∈ text) : isNumberChar c = true := by
  unfold isFraction at fraction
  split at fraction
  · rename_i rest
    rw [Bool.and_eq_true] at fraction
    rcases List.mem_cons.mp member with rfl | later
    · rfl
    · rw [← List.takeWhile_append_dropWhile (p := Char.isDigit) (l := rest), List.mem_append]
        at later
      rcases later with digit | exponent
      · exact isNumberChar_of_isDigit (areDigits_mem fraction.1 digit)
      · exact isExponent_mem fraction.2 exponent
  · exact isExponent_mem fraction member

/-- A number is made of the characters of numbers. -/
theorem isNumber_mem {text : List Char} (number : isNumber text = true) {c : Char}
    (member : c ∈ text) : isNumberChar c = true := by
  rw [isNumber, Bool.and_eq_true, isWhole, Bool.and_eq_true] at number
  have behind (inside : c ∈ magnitude text) : isNumberChar c = true := by
    rw [← List.takeWhile_append_dropWhile (p := Char.isDigit) (l := magnitude text),
      List.mem_append] at inside
    rcases inside with digit | fraction
    · exact isNumberChar_of_isDigit (areDigits_mem number.1.1 digit)
    · exact isFraction_mem number.2 fraction
  by_cases sign : ∃ rest, text = '-' :: rest
  · obtain ⟨rest, rfl⟩ := sign
    rcases List.mem_cons.mp member with rfl | later
    · rfl
    · exact behind later
  · refine behind ?_
    unfold magnitude
    split
    · exact absurd ⟨_, rfl⟩ sign
    · exact member

/-- **A number is read back as it was written.** -/
theorem readNumber_append {text rest : List Char} (number : isNumber text = true)
    (delimits : Delimits rest) : readNumber (text ++ rest) = some (.number text, rest) := by
  obtain ⟨taken, left⟩ :=
    takeWhile_append_of_head (fun _ member => isNumber_mem number member) delimits
  rw [readNumber, taken, left, if_pos number]

/-- Digits without a leading zero are a number. -/
theorem isNumber_of_digits {text : List Char} (digits : areDigits text = true)
    (whole : text = ['0'] ∨ text.head? ≠ some '0') : isNumber text = true := by
  have all : ∀ c ∈ text, c.isDigit = true := fun _ => areDigits_mem digits
  have plain : magnitude text = text := by
    unfold magnitude
    split
    · exact absurd (all '-' (List.mem_cons_self ..)) (by decide)
    · rfl
  have taken : text.takeWhile Char.isDigit = text ∧ text.dropWhile Char.isDigit = [] := by
    have := @takeWhile_append_of_head Char.isDigit text [] all nofun
    simpa using this
  rw [isNumber, plain, taken.1, taken.2, isWhole, digits]
  simp only [isFraction, isExponent, Bool.true_and, Bool.and_true, Bool.or_eq_true,
    decide_eq_true_eq, bne_iff_ne]
  exact whole

/-! ## What a text is read as -/

/-- A text between quotes stands for these characters. -/
def Spells (text meant : List Char) : Prop :=
  ∀ rest, stringRest (text ++ '"' :: rest) = some (meant, rest)

/-- A text is read as a value, at this depth and above, whatever delimits it. -/
def Reads (least : Nat) (text : List Char) (json : Json) : Prop :=
  ∀ depth, least ≤ depth → ∀ rest, Delimits rest → value depth (text ++ rest) = some (json, rest)

/-- A text is read as the members of an object, up to its brace. -/
def MembersRead (least : Nat) (text : List Char) (named : List (List Char × Json)) : Prop :=
  ∀ depth, least ≤ depth → ∀ rest, members depth (text ++ '}' :: rest) = some (named, rest)

/-- A text is read as the items of an array, up to its bracket. -/
def ItemsRead (least : Nat) (text : List Char) (listed : List Json) : Prop :=
  ∀ depth, least ≤ depth → ∀ rest, items depth (text ++ ']' :: rest) = some (listed, rest)

theorem spells_nil : Spells [] [] := fun _ => rfl

/-- A character that needs no escape. -/
theorem spells_cons {c : Char} {text meant : List Char} (quote : c ≠ '"') (escape : c ≠ '\\')
    (printed : ¬ c < ' ') (spells : Spells text meant) : Spells (c :: text) (c :: meant) := by
  intro rest
  have body := spells rest
  unfold stringRest at body ⊢
  rw [List.cons_append, stringFrom, if_neg quote, if_neg escape, if_neg printed, body]
  rfl

/-- An escape of one letter. -/
theorem spells_escape {letter c : Char} {text meant : List Char} (short : letter ≠ 'u')
    (stands : escaped letter = some c) (spells : Spells text meant) :
    Spells ('\\' :: letter :: text) (c :: meant) := by
  intro rest
  have body := spells rest
  have quote : '\\' ≠ '"' := by decide
  unfold stringRest at body ⊢
  simp only [List.cons_append, stringFrom, if_neg quote, if_true, if_neg short, stands, body,
    Option.map_some]

/-- An escape by a code. -/
theorem spells_code {first second third fourth : Char} {code : Nat} {text meant : List Char}
    (read : readHex [first, second, third, fourth] = some code) (spells : Spells text meant) :
    Spells ('\\' :: 'u' :: first :: second :: third :: fourth :: text)
      (Char.ofNat code :: meant) := by
  intro rest
  have body := spells rest
  unfold stringRest at body ⊢
  simp [stringFrom, read, body]

theorem reads_string {text meant : List Char} (spells : Spells text meant) :
    Reads 1 ('"' :: text ++ ['"']) (.string meant) := by
  intro depth enough rest _
  obtain ⟨depth, rfl⟩ := Nat.exists_eq_add_of_le' enough
  have body := spells rest
  simp only [List.cons_append, List.append_assoc, List.nil_append, value,
    skipSpace_token (by decide : isSpace '"' = false), if_true, body, Option.map_some]

theorem reads_number {text : List Char} (number : isNumber text = true) :
    Reads 1 text (.number text) := by
  intro depth enough rest delimits
  obtain ⟨depth, rfl⟩ := Nat.exists_eq_add_of_le' enough
  have whole := readNumber_append number delimits
  cases text with
  | nil => cases number
  | cons c text =>
      have mine := isNumber_mem number (List.mem_cons_self ..)
      have token : isSpace c = false := by
        cases space : isSpace c with
        | false => rfl
        | true =>
            simp only [isSpace, Bool.or_eq_true, decide_eq_true_eq] at space
            rcases space with ((rfl | rfl) | rfl) | rfl <;> cases mine
      have other (d : Char) (letter : isNumberChar d = false) : c ≠ d := by
        rintro rfl
        rw [mine] at letter
        cases letter
      simp only [List.cons_append, value, skipSpace_token token, if_neg (other '"' rfl),
        if_neg (other '[' rfl), if_neg (other '{' rfl), if_neg (other 'n' rfl),
        if_neg (other 't' rfl), if_neg (other 'f' rfl)]
      exact whole

theorem Reads.space {least : Nat} {c : Char} {text : List Char} {json : Json}
    (reads : Reads least text json) (space : isSpace c = true) : Reads least (c :: text) json := by
  intro depth enough rest delimits
  have same := reads depth enough rest delimits
  cases depth with
  | zero => exact same
  | succ depth =>
      rw [List.cons_append]
      unfold value at same ⊢
      rw [skipSpace_space space]
      exact same

/-- One member. -/
theorem member_reads {least depth : Nat} {name spelled text : List Char} {json : Json}
    (spells : Spells spelled name) (reads : Reads least text json) (enough : least < depth)
    {rest : List Char} (delimits : Delimits rest) :
    member depth (('"' :: spelled ++ '"' :: ':' :: text) ++ rest) = some ((name, json), rest) := by
  obtain ⟨depth, rfl⟩ := Nat.exists_eq_add_of_le' (Nat.lt_of_le_of_lt (Nat.zero_le _) enough)
  have named := spells (':' :: (text ++ rest))
  have valued := reads depth (Nat.le_of_lt_succ enough) rest delimits
  simp only [List.cons_append, List.append_assoc, member,
    skipSpace_token (by decide : isSpace '"' = false), ne_eq, not_true_eq_false, if_false, named,
    skipSpace_token (by decide : isSpace ':' = false), valued, Option.map_some]

theorem membersRead_last {least : Nat} {name spelled text : List Char} {json : Json}
    (spells : Spells spelled name) (reads : Reads least text json) :
    MembersRead (least + 2) ('"' :: spelled ++ '"' :: ':' :: text) [(name, json)] := by
  intro depth enough rest
  obtain ⟨depth, rfl⟩ := Nat.exists_eq_add_of_le' (Nat.le_of_add_left_le enough)
  have first := @member_reads _ (depth + 1) _ _ _ _ spells reads (by omega) ('}' :: rest)
    (by rintro _ ⟨⟩; rfl)
  simp only [members, first, skipSpace_token (by decide : isSpace '}' = false), if_true]

theorem membersRead_more {least others : Nat} {name spelled text following : List Char} {json : Json}
    {named : List (List Char × Json)} (spells : Spells spelled name) (reads : Reads least text json)
    (more : MembersRead others following named) :
    MembersRead (max (least + 2) (others + 1)) ('"' :: spelled ++ '"' :: ':' :: text ++ ',' :: following)
      ((name, json) :: named) := by
  intro depth enough rest
  obtain ⟨depth, rfl⟩ := Nat.exists_eq_add_of_le' (Nat.le_of_add_left_le (Nat.max_le.mp enough).2)
  have first := @member_reads _ depth _ _ _ _ spells reads (by omega)
    (',' :: (following ++ '}' :: rest)) (by rintro _ ⟨⟩; rfl)
  have later := more depth (by omega) rest
  rw [List.append_assoc]
  simp only [List.cons_append, members] at first ⊢
  simp only [first, skipSpace_token (by decide : isSpace ',' = false), later, Option.map_some]
  rfl

theorem reads_object {least : Nat} {text : List Char} {named : List (List Char × Json)}
    (read : MembersRead least ('"' :: text) named) :
    Reads (least + 1) ('{' :: '"' :: text ++ ['}']) (.object named) := by
  intro depth enough rest _
  obtain ⟨depth, rfl⟩ := Nat.exists_eq_add_of_le' (Nat.le_of_add_left_le enough)
  have inner := read depth (by omega) rest
  rw [List.cons_append] at inner
  have quote : (some '"' : Option Char) ≠ some '}' := by decide
  simp only [List.cons_append, List.append_assoc, List.nil_append, value,
    skipSpace_token (by decide : isSpace '{' = false),
    skipSpace_token (by decide : isSpace '"' = false), List.head?_cons, if_neg quote, inner,
    Option.map_some]
  rfl

/-- White space delimits. -/
theorem delimits_spaces {spaces rest : List Char} (space : ∀ c ∈ spaces, isSpace c = true)
    (delimits : Delimits rest) : Delimits (spaces ++ rest) := by
  cases spaces with
  | nil => exact delimits
  | cons c spaces =>
      rintro _ ⟨⟩
      have white := space c (List.mem_cons_self ..)
      simp only [isSpace, Bool.or_eq_true, decide_eq_true_eq] at white
      rcases white with ((rfl | rfl) | rfl) | rfl <;> rfl

theorem skipSpace_append {spaces : List Char} (space : ∀ c ∈ spaces, isSpace c = true)
    (rest : List Char) : skipSpace (spaces ++ rest) = skipSpace rest :=
  List.dropWhile_append_of_pos space

theorem itemsRead_last {least : Nat} {text spaces : List Char} {json : Json}
    (reads : Reads least text json) (space : ∀ c ∈ spaces, isSpace c = true) :
    ItemsRead (least + 1) (text ++ spaces) [json] := by
  intro depth enough rest
  obtain ⟨depth, rfl⟩ := Nat.exists_eq_add_of_le' (Nat.le_of_add_left_le enough)
  have first := reads depth (by omega) (spaces ++ ']' :: rest)
    (delimits_spaces space (by rintro _ ⟨⟩; rfl))
  rw [List.append_assoc]
  simp only [items, first, skipSpace_append space, skipSpace_token (by decide : isSpace ']' = false),
    if_true]

theorem itemsRead_more {least others : Nat} {text following : List Char} {json : Json}
    {listed : List Json} (reads : Reads least text json) (more : ItemsRead others following listed) :
    ItemsRead (max (least + 1) (others + 1)) (text ++ ',' :: following) (json :: listed) := by
  intro depth enough rest
  obtain ⟨depth, rfl⟩ := Nat.exists_eq_add_of_le' (Nat.le_of_add_left_le (Nat.max_le.mp enough).2)
  have first := reads depth (by omega) (',' :: (following ++ ']' :: rest)) (by rintro _ ⟨⟩; rfl)
  have later := more depth (by omega) rest
  rw [List.append_assoc]
  simp only [List.cons_append, items, first, skipSpace_token (by decide : isSpace ',' = false), later,
    Option.map_some]
  rfl

theorem reads_array {least : Nat} {text : List Char} {listed : List Json}
    (read : ItemsRead least text listed)
    (filled : ∀ rest, (skipSpace (text ++ rest)).head? ≠ some ']') :
    Reads (least + 1) ('[' :: text ++ [']']) (.array listed) := by
  intro depth enough rest _
  obtain ⟨depth, rfl⟩ := Nat.exists_eq_add_of_le' (Nat.le_of_add_left_le enough)
  have inner := read depth (by omega) rest
  have bracket : '[' ≠ '"' := by decide
  simp only [List.cons_append, List.append_assoc, List.nil_append, value, if_neg bracket,
    skipSpace_token (by decide : isSpace '[' = false), if_true, if_neg (filled (']' :: rest)), inner,
    Option.map_some]

/-- The array without items. -/
theorem reads_empty {spaces : List Char} (space : ∀ c ∈ spaces, isSpace c = true) :
    Reads 1 ('[' :: spaces ++ [']']) (.array []) := by
  intro depth enough rest _
  obtain ⟨depth, rfl⟩ := Nat.exists_eq_add_of_le' enough
  have bracket : '[' ≠ '"' := by decide
  simp only [List.cons_append, List.append_assoc, List.nil_append, value, if_neg bracket,
    skipSpace_token (by decide : isSpace '[' = false), if_true, skipSpace_append space,
    skipSpace_token (by decide : isSpace ']' = false), List.head?_cons, List.tail_cons]

/-- **A text that is read as a value is a JSON text.** -/
theorem parse_of_reads {least : Nat} {text spaces : List Char} {json : Json}
    (reads : Reads least text json) (enough : least ≤ text.length + 1)
    (space : ∀ c ∈ spaces, isSpace c = true) : parse (text ++ spaces) = some json := by
  have whole := reads ((text ++ spaces).length + 1) (by rw [List.length_append]; omega) spaces
    (by simpa using @delimits_spaces spaces [] space nofun)
  have nothing : skipSpace spaces = [] := by simpa using skipSpace_append space []
  rw [parse, whole]
  exact if_pos nothing

end Json

end Stgs.Theory
