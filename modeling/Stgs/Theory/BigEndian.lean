/-
# Theory.BigEndian -- fixed-width big-endian words inside a byte string

A wire format is read at offsets and written by appending words.  This module
gives both sides one vocabulary:

* `beBytes w n` -- the low `w` bytes of `n`, most significant first, and
  `beNat`, the natural a byte string denotes;
* `beNat_beBytes` / `beBytes_beNat` -- the two are inverse on words of one width;
* `slice b i w` -- the `w` bytes of `b` at offset `i`; `slice_append_slice`
  glues adjacent fields, so a byte string is the concatenation of its fields.
-/
import Mathlib.Tactic.Ring
import Mathlib.Data.List.Basic

namespace Stgs.Theory.BigEndian

set_option autoImplicit false

/-! ## Words -/

/-- The low `width` bytes of `value`, most significant byte first. -/
def beBytes : Nat → Nat → List UInt8
  | 0, _ => []
  | width + 1, value => UInt8.ofNat (value / 256 ^ width) :: beBytes width value

/-- The natural number a byte string denotes, most significant byte first. -/
def beNat (bytes : List UInt8) : Nat :=
  bytes.foldl (fun value byte => value * 256 + byte.toNat) 0

@[simp] theorem length_beBytes (width value : Nat) :
    (beBytes width value).length = width := by
  induction width with
  | zero => rfl
  | succ width ih => simp [beBytes, ih]

@[simp] theorem beNat_nil : beNat [] = 0 := rfl

theorem foldl_beNat (bytes : List UInt8) (start : Nat) :
    bytes.foldl (fun value byte => value * 256 + byte.toNat) start =
      start * 256 ^ bytes.length + beNat bytes := by
  induction bytes generalizing start with
  | nil => simp
  | cons byte rest ih =>
      have first : beNat (byte :: rest) = byte.toNat * 256 ^ rest.length + beNat rest := by
        simp only [beNat, List.foldl_cons, Nat.zero_mul, Nat.zero_add]
        exact ih _
      rw [List.foldl_cons, ih, first, List.length_cons, pow_succ]
      ring

theorem beNat_cons (byte : UInt8) (rest : List UInt8) :
    beNat (byte :: rest) = byte.toNat * 256 ^ rest.length + beNat rest := by
  simp only [beNat, List.foldl_cons, Nat.zero_mul, Nat.zero_add]
  exact foldl_beNat rest _

theorem beNat_lt (bytes : List UInt8) : beNat bytes < 256 ^ bytes.length := by
  induction bytes with
  | nil => simp
  | cons byte rest ih =>
      have small : byte.toNat + 1 ≤ 256 := byte.toNat_lt
      have room := Nat.mul_le_mul_right (256 ^ rest.length) small
      rw [beNat_cons, List.length_cons, pow_succ, Nat.mul_comm (256 ^ rest.length)]
      rw [Nat.add_mul, Nat.one_mul] at room
      omega

/-- Reading back a written word: only the bits above the width are lost. -/
theorem beNat_beBytes (width value : Nat) :
    beNat (beBytes width value) = value % 256 ^ width := by
  induction width with
  | zero => simp [beBytes, Nat.mod_one]
  | succ width ih =>
      have top : (UInt8.ofNat (value / 256 ^ width)).toNat = value / 256 ^ width % 256 := by
        simp
      rw [beBytes, beNat_cons, length_beBytes, ih, top, pow_succ, Nat.mod_mul,
        Nat.mul_comm, Nat.add_comm]

theorem beBytes_congr {width a b : Nat} (same : a % 256 ^ width = b % 256 ^ width) :
    beBytes width a = beBytes width b := by
  induction width with
  | zero => rfl
  | succ width ih =>
      have low : a % 256 ^ width = b % 256 ^ width := by
        have := congrArg (· % 256 ^ width) same
        simpa [pow_succ, Nat.mod_mul_right_mod] using this
      have high : a / 256 ^ width % 256 = b / 256 ^ width % 256 := by
        have := congrArg (· / 256 ^ width) same
        simpa [pow_succ, Nat.mod_mul_right_div_self] using this
      have byte : UInt8.ofNat (a / 256 ^ width) = UInt8.ofNat (b / 256 ^ width) :=
        UInt8.toNat_inj.mp (by simpa using high)
      rw [beBytes, beBytes, ih low, byte]

/-- Writing back a read word gives the bytes it was read from. -/
theorem beBytes_beNat (bytes : List UInt8) : beBytes bytes.length (beNat bytes) = bytes := by
  induction bytes with
  | nil => rfl
  | cons byte rest ih =>
      have small := beNat_lt rest
      have pos : 0 < 256 ^ rest.length := Nat.pow_pos (by decide)
      have top : (byte.toNat * 256 ^ rest.length + beNat rest) / 256 ^ rest.length =
          byte.toNat := by
        rw [Nat.mul_comm, Nat.mul_add_div pos, Nat.div_eq_of_lt small, Nat.add_zero]
      have tail : beBytes rest.length (byte.toNat * 256 ^ rest.length + beNat rest) =
          beBytes rest.length (beNat rest) :=
        beBytes_congr (by simp [Nat.add_mod])
      rw [List.length_cons, beBytes, beNat_cons, top, tail, ih, UInt8.ofNat_toNat]

/-! ## Fields -/

/-- The `width` bytes of `bytes` at `offset`. -/
def slice (bytes : List UInt8) (offset width : Nat) : List UInt8 :=
  (bytes.drop offset).take width

theorem length_slice {bytes : List UInt8} {offset width : Nat}
    (inside : offset + width ≤ bytes.length) : (slice bytes offset width).length = width := by
  simp only [slice, List.length_take, List.length_drop]
  omega

/-- Adjacent fields glue. -/
theorem slice_append_slice (bytes : List UInt8) (offset first second : Nat) :
    slice bytes offset first ++ slice bytes (offset + first) second =
      slice bytes offset (first + second) := by
  simp only [slice, List.take_add, List.drop_drop]

theorem slice_all (bytes : List UInt8) : slice bytes 0 bytes.length = bytes := by
  simp [slice]

/-- A field that lies in the second part of a concatenation. -/
theorem slice_append_right (before after : List UInt8) (offset width : Nat) :
    slice (before ++ after) (before.length + offset) width = slice after offset width := by
  rw [slice, slice, List.drop_append, List.drop_eq_nil_of_le (by omega), List.nil_append,
    Nat.add_sub_cancel_left]

/-- The field at the front of a concatenation. -/
theorem slice_append_left (field after : List UInt8) :
    slice (field ++ after) 0 field.length = field := by
  simp [slice]

/-- Field `i` of a concatenation starts where the fields before it end. -/
theorem slice_flatten (fields : List (List UInt8)) (i : Nat) (bound : i < fields.length) :
    slice fields.flatten ((fields.take i).map List.length).sum fields[i].length = fields[i] := by
  have split : fields.flatten =
      (fields.take i).flatten ++ (fields[i] ++ (fields.drop (i + 1)).flatten) := by
    rw [← List.flatten_cons, ← List.drop_eq_getElem_cons bound, ← List.flatten_append,
      List.take_append_drop]
  rw [split, ← List.length_flatten]
  exact (slice_append_right _ _ 0 _).trans (slice_append_left _ _)

/-- Fields of one width: field `i` starts after `i` widths. -/
theorem slice_flatten_of_width {fields : List (List UInt8)} {width : Nat}
    (same : ∀ field ∈ fields, field.length = width) (i : Nat) (bound : i < fields.length) :
    slice fields.flatten (i * width) width = fields[i] := by
  have widths : (fields.take i).map List.length = List.replicate i width := by
    refine List.eq_replicate_iff.mpr ⟨?_, ?_⟩
    · rw [List.length_map, List.length_take, Nat.min_eq_left bound.le]
    · intro length member
      obtain ⟨field, taken, rfl⟩ := List.mem_map.mp member
      exact same field (List.mem_of_mem_take taken)
  have field := slice_flatten fields i bound
  rwa [widths, List.sum_replicate_nat, same _ (List.getElem_mem bound)] at field

/-- Adjacent fields of one width glue. -/
theorem flatten_slices (bytes : List UInt8) (offset width count : Nat) :
    ((List.range count).map fun i => slice bytes (offset + i * width) width).flatten =
      slice bytes offset (count * width) := by
  induction count with
  | zero => simp [slice]
  | succ count ih =>
      rw [List.range_succ, List.map_append, List.flatten_append, ih, List.map_singleton,
        List.flatten_singleton, slice_append_slice, Nat.succ_mul]

/-- A word read from a field and written back is that field. -/
theorem beBytes_of_slice {bytes : List UInt8} {offset width value : Nat}
    (inside : offset + width ≤ bytes.length) (read : value = beNat (slice bytes offset width)) :
    beBytes width value = slice bytes offset width := by
  have back := beBytes_beNat (slice bytes offset width)
  rwa [length_slice inside, ← read] at back

end Stgs.Theory.BigEndian
