/-
# Cli.CliParsing -- strict parsing of command-line values

The parsers shared by both programs: each consumes a whole value or refuses it
with the message the source gives.  Integers are read in decimal; a finite double
is the rational it stands for.  What `strtod` makes of a string is a parameter,
`Strtod`: its value (absent for a NaN or an infinity), how much it consumed and
whether it reported a range error.
-/
import Mathlib.Data.Rat.Defs
import Stgs.Wire.FrameCodec

namespace Stgs.Cli

open Stgs.Wire

set_option autoImplicit false

/-- How parsing a command line ends early: `std::exit`, or an exception. -/
inductive CliStop where
  | exited (code : Nat)
  | threw (exn : Exn)
deriving DecidableEq, Repr

def fail {α : Type} (what : String) : Except CliStop α :=
  .error (.threw (.runtimeError what))

/-- Two computations in a row return if the first does and the second does on its
value. -/
theorem bind_eq_ok {ε α β : Type} {first : Except ε α} {next : α → Except ε β} {result : β} :
    (first >>= next) = .ok result ↔ ∃ value, first = .ok value ∧ next value = .ok result := by
  cases first with
  | error stop => simp [bind, Except.bind]
  | ok value => simp [bind, Except.bind]

/-! ## Integers -/

def minimumNetworkPort : Nat := 1
def maximumNetworkPort : Nat := UInt16.size - 1

/-- The decimal number a string of digits spells. -/
def decimal (digits : List Char) : Nat :=
  digits.foldl (fun value digit => 10 * value + (digit.toNat - '0'.toNat)) 0

/-- `parseUnsigned<UInt>`; `limit` is `std::numeric_limits<UInt>::max()`.
`std::from_chars` reads an `unsigned long long`. -/
def parseUnsigned (limit : Nat) (value name : String) (minimum maximum : Nat) :
    Except CliStop Nat :=
  if value.isEmpty then fail (name ++ " requires a decimal integer")
  else
    let parsed := decimal value.toList
    if value.toList.all Char.isDigit = false ∨ UInt64.size ≤ parsed then
      fail (name ++ " contains an invalid integer: " ++ value)
    else if parsed > limit then fail (name ++ " exceeds the target integer range")
    else if parsed < minimum ∨ parsed > maximum then
      fail (name ++ " is outside the allowed range")
    else .ok parsed

def maxU16 : Nat := UInt16.size - 1
def maxU32 : Nat := UInt32.size - 1
def maxSize : Nat := UInt64.size - 1

theorem parseUnsigned_bounds {limit minimum maximum parsed : Nat} {value name : String}
    (ok : parseUnsigned limit value name minimum maximum = .ok parsed) :
    minimum ≤ parsed ∧ parsed ≤ maximum ∧ parsed ≤ limit := by
  unfold parseUnsigned fail at ok
  split at ok <;> [cases ok; skip]
  dsimp only at ok
  split at ok <;> [cases ok; skip]
  split at ok <;> [cases ok; skip]
  rename_i target
  split at ok <;> [cases ok; skip]
  rename_i range
  obtain rfl := Except.ok.inj ok
  omega

/-- The value is the number the digits spell. -/
theorem parseUnsigned_decimal {limit minimum maximum parsed : Nat} {value name : String}
    (ok : parseUnsigned limit value name minimum maximum = .ok parsed) :
    parsed = decimal value.toList := by
  unfold parseUnsigned fail at ok
  split at ok <;> [cases ok; skip]
  dsimp only at ok
  split at ok <;> [cases ok; skip]
  split at ok <;> [cases ok; skip]
  split at ok <;> [cases ok; skip]
  exact (Except.ok.inj ok).symm

/-! ## Floating point -/

/-- What `std::strtod` reports about a string. -/
structure Strtod where
  value : Option ℚ
  consumed : Nat
  outOfRange : Bool

def parseFiniteDouble (strtod : String → Strtod) (value name : String) : Except CliStop ℚ :=
  if value.isEmpty then fail (name ++ " requires a number")
  else
    let parsed := strtod value
    match parsed.value with
    | some number =>
        if parsed.outOfRange ∨ parsed.consumed = 0 ∨ parsed.consumed ≠ value.length then
          fail (name ++ " contains an invalid finite number: " ++ value)
        else .ok number
    | none => fail (name ++ " contains an invalid finite number: " ++ value)

def parseProbability (strtod : String → Strtod) (value name : String) : Except CliStop ℚ :=
  match parseFiniteDouble strtod value name with
  | .error stop => .error stop
  | .ok parsed =>
      if parsed < 0 ∨ parsed > 1 then fail (name ++ " must be between 0 and 1") else .ok parsed

theorem parseFiniteDouble_value {strtod : String → Strtod} {value name : String} {parsed : ℚ}
    (ok : parseFiniteDouble strtod value name = .ok parsed) : (strtod value).value = some parsed := by
  unfold parseFiniteDouble fail at ok
  split at ok <;> [cases ok; skip]
  dsimp only at ok
  split at ok
  · rename_i number found
    split at ok
    · cases ok
    · obtain rfl := Except.ok.inj ok
      exact found
  · cases ok

theorem parseProbability_value {strtod : String → Strtod} {value name : String} {parsed : ℚ}
    (ok : parseProbability strtod value name = .ok parsed) : (strtod value).value = some parsed := by
  unfold parseProbability fail at ok
  split at ok <;> [cases ok; skip]
  rename_i number found
  split at ok <;> [cases ok; skip]
  obtain rfl := Except.ok.inj ok
  exact parseFiniteDouble_value found

theorem parseProbability_bounds {strtod : String → Strtod} {value name : String} {parsed : ℚ}
    (ok : parseProbability strtod value name = .ok parsed) : 0 ≤ parsed ∧ parsed ≤ 1 := by
  unfold parseProbability fail at ok
  split at ok <;> [cases ok; skip]
  split at ok <;> [cases ok; skip]
  rename_i range
  obtain rfl := Except.ok.inj ok
  exact ⟨not_lt.mp fun low => range (Or.inl low), not_lt.mp fun high => range (Or.inr high)⟩

/-! ## Transports and ports -/

inductive Transport where
  | udp
  | tcp
deriving DecidableEq, Repr

def defaultTelemetryPort : UInt16 := 9000
def maxDiagnosticPortCount : Nat := 256

structure PortRange where
  first : UInt16 := 0
  last : UInt16 := 0
deriving DecidableEq, Repr

namespace PortRange

def valid (range : PortRange) : Bool :=
  decide (minimumNetworkPort ≤ range.first.toNat ∧ range.first ≤ range.last)

def count (range : PortRange) : Nat :=
  if range.valid then range.last.toNat - range.first.toNat + 1 else 0

end PortRange

def parsePort (value name : String) : Except CliStop UInt16 :=
  match parseUnsigned maxU16 value name minimumNetworkPort maximumNetworkPort with
  | .error stop => .error stop
  | .ok port => .ok (UInt16.ofNat port)

def parsePortRange (value name : String) : Except CliStop PortRange :=
  let before := value.toList.takeWhile (· ≠ ':')
  match value.toList.dropWhile (· ≠ ':') with
  | [] => do
      let port ← parsePort value name
      pure ⟨port, port⟩
  | _ :: after =>
      if ':' ∈ after then fail (name ++ " must use start:end syntax")
      else do
        let first ← parsePort (String.ofList before) name
        let last ← parsePort (String.ofList after) name
        if first > last then fail (name ++ " start port cannot exceed end port")
        else pure ⟨first, last⟩

/-! ## Hosts -/

def ipv4LoopbackPrefix : Nat := 127

/-- One octet of a dotted quad: digits, at most 255, no leading zero. -/
def octet? (digits : List Char) : Option Nat :=
  if digits = [] ∨ digits.all Char.isDigit = false ∨ 255 < decimal digits ∨
      (1 < digits.length ∧ digits.head? = some '0') then none
  else some (decimal digits)

/-- `inet_pton(AF_INET, ...)`: the four octets, or nothing. -/
def inetPton (host : String) : Option (List Nat) :=
  let parts := host.toList.splitOn '.'
  if parts.length = 4 then parts.mapM octet? else none

def isLoopbackIpv4 (host : String) : Bool :=
  if host = "localhost" then true
  else
    match inetPton host with
    | some (first :: _) => first == ipv4LoopbackPrefix
    | _ => false

/-- The values after an option, and the arguments after that. -/
def requireValue (arg : String) : List String → Except CliStop (String × List String)
  | [] => fail ("missing value after " ++ arg)
  | value :: rest => .ok (value, rest)

theorem requireValue_ok {arg value : String} {rest left : List String}
    (ok : requireValue arg rest = .ok (value, left)) : rest = value :: left := by
  cases rest with
  | nil => cases ok
  | cons first others =>
      obtain ⟨rfl, rfl⟩ := Prod.mk.inj (Except.ok.inj ok)
      rfl

theorem parsePort_ok {value name : String} {port : UInt16}
    (ok : parsePort value name = .ok port) : minimumNetworkPort ≤ port.toNat := by
  unfold parsePort at ok
  cases parsed : parseUnsigned maxU16 value name minimumNetworkPort maximumNetworkPort with
  | error stop => simp [parsed] at ok
  | ok number =>
      rw [parsed] at ok
      obtain rfl := Except.ok.inj ok
      obtain ⟨low, _, high⟩ := parseUnsigned_bounds parsed
      have small : number < 65536 := Nat.lt_succ_of_le high
      rw [UInt16.toNat_ofNat', Nat.mod_eq_of_lt small]
      exact low

/-- A parsed range is ordered and without port zero. -/
theorem parsePortRange_ok {value name : String} {range : PortRange}
    (ok : parsePortRange value name = .ok range) : range.valid = true := by
  unfold parsePortRange fail at ok
  dsimp only at ok
  split at ok
  · obtain ⟨port, parsed, ok⟩ := bind_eq_ok.mp ok
    obtain rfl := Except.ok.inj ok
    exact decide_eq_true ⟨parsePort_ok parsed, UInt16.le_refl _⟩
  · split at ok <;> [cases ok; skip]
    obtain ⟨first, parsed, ok⟩ := bind_eq_ok.mp ok
    obtain ⟨last, _, ok⟩ := bind_eq_ok.mp ok
    split at ok <;> [cases ok; skip]
    rename_i ordered
    obtain rfl := Except.ok.inj ok
    exact decide_eq_true ⟨parsePort_ok parsed, UInt16.not_lt.mp ordered⟩

end Stgs.Cli
