/-
# Cli.PortDiagnostics -- the search for a free local port

`findFirstAvailableLocalPort` checks its range again and then tries its ports in
order.  What `bind` says of a port is a parameter.
-/
import Stgs.Cli.CliParsing

namespace Stgs.Cli

open Stgs.Wire

set_option autoImplicit false

structure LocalPortAvailability where
  port : UInt16 := 0
  available : Bool := false
  detail : String := ""
deriving DecidableEq, Repr

def validateDiagnosticPort (port : UInt16) : Except Exn Unit :=
  if port.toNat < minimumNetworkPort then
    .error (.invalidArgument "diagnostic port must be in the user network-port range")
  else .ok ()

def validateDiagnosticRange (range : PortRange) : Except Exn Unit :=
  if range.first.toNat < minimumNetworkPort ∨ range.last.toNat < minimumNetworkPort ∨
      range.first > range.last then
    .error (.invalidArgument "diagnostic port range is invalid")
  else if range.count > maxDiagnosticPortCount then
    .error (.invalidArgument "port diagnostic range exceeds MaxDiagnosticPortCount")
  else .ok ()

/-- One port: checked, then bound. -/
def checkLocalPortAvailability (bind : UInt16 → LocalPortAvailability) (port : UInt16) :
    Except Exn LocalPortAvailability :=
  match validateDiagnosticPort port with
  | .error exn => .error exn
  | .ok () => .ok (bind port)

/-- The loop over the ports; the report so far. -/
def searchPorts (bind : UInt16 → LocalPortAvailability) :
    List UInt16 → List LocalPortAvailability → Except Exn (Option UInt16 × List LocalPortAvailability)
  | [], report => .ok (none, report)
  | port :: rest, report =>
      match checkLocalPortAvailability bind port with
      | .error exn => .error exn
      | .ok result =>
          if result.available then .ok (some port, report ++ [result])
          else searchPorts bind rest (report ++ [result])

/-- The ports of a range in order; the loop's counter is wider than a port. -/
def PortRange.ports (range : PortRange) : List UInt16 :=
  (List.range' range.first.toNat (range.last.toNat + 1 - range.first.toNat)).map UInt16.ofNat

def findFirstAvailableLocalPort (bind : UInt16 → LocalPortAvailability) (range : PortRange) :
    Except Exn (Option UInt16 × List LocalPortAvailability) :=
  match validateDiagnosticRange range with
  | .error exn => .error exn
  | .ok () => searchPorts bind range.ports []

/-- A search over ports that pass the check throws nothing. -/
theorem searchPorts_ok (bind : UInt16 → LocalPortAvailability) {ports : List UInt16}
    (checked : ∀ port ∈ ports, minimumNetworkPort ≤ port.toNat)
    (report : List LocalPortAvailability) : ∃ found, searchPorts bind ports report = .ok found := by
  induction ports generalizing report with
  | nil => exact ⟨_, rfl⟩
  | cons port rest ih =>
      have own : validateDiagnosticPort port = .ok () :=
        if_neg (Nat.not_lt_of_le (checked port List.mem_cons_self))
      rw [searchPorts, checkLocalPortAvailability, own]
      dsimp only
      split
      · exact ⟨_, rfl⟩
      · exact ih (fun other member => checked other (List.mem_cons_of_mem _ member)) _

/-- **Which ranges are accepted**: ordered, without port zero, and short. -/
theorem findFirstAvailableLocalPort_ok (bind : UInt16 → LocalPortAvailability) {range : PortRange}
    (valid : range.valid = true) (short : range.count ≤ maxDiagnosticPortCount) :
    ∃ found, findFirstAvailableLocalPort bind range = .ok found := by
  simp only [PortRange.valid, decide_eq_true_eq] at valid
  obtain ⟨low, ordered⟩ := valid
  have ordered' : range.first.toNat ≤ range.last.toNat := UInt16.le_iff_toNat_le.mp ordered
  have accepted : validateDiagnosticRange range = .ok () := by
    rw [validateDiagnosticRange, if_neg, if_neg (Nat.not_lt_of_le short)]
    rintro (zero | zero | reversed)
    · omega
    · omega
    · have less : range.last.toNat < range.first.toNat := UInt16.lt_iff_toNat_lt.mp reversed
      omega
  rw [findFirstAvailableLocalPort, accepted]
  refine searchPorts_ok bind (fun port member => ?_) []
  obtain ⟨number, inRange, rfl⟩ := List.mem_map.mp member
  obtain ⟨above, below⟩ := List.mem_range'_1.mp inRange
  have last := range.last.toNat_lt
  have small : number < 65536 := by omega
  rw [UInt16.toNat_ofNat', Nat.mod_eq_of_lt small]
  omega

end Stgs.Cli
