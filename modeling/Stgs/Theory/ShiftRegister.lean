/-
# Theory.ShiftRegister -- feedback shift registers over GF(2)

A cyclic redundancy check is a right-shifting register with feedback.  Nothing
here knows a polynomial or a frame: `poly` is any word, bytes are absorbed low
bit first.

* `XorLinear` -- maps between bit vectors that respect exclusive or; two of them
  agree everywhere once they agree on the powers of two (`ext_basis`), so a
  statement about all words is settled by the basis.
* `shift`, `shifts`, `absorb`, `absorbAll` -- the register, one bit, `n` bits,
  one byte and a byte string at a time, all linear (`absorbAll_xor`).
* `shifts_eq_zero` -- with the top feedback bit set the register is reversible,
  so it never forgets a difference.
* `absorbAll_eq_shifts` -- a string no wider than the register is absorbed as one
  word: this is what detects a burst.
* `shifts_eight` -- the byte step by one table lookup.
-/
import Mathlib.Tactic.Linarith
import Mathlib.Data.List.Basic

namespace Stgs.Theory.ShiftRegister

set_option autoImplicit false

variable {u v w : Nat}

/-! ## Linear maps of bit vectors -/

/-- A map of words that respects exclusive or. -/
def XorLinear (f : BitVec w → BitVec v) : Prop :=
  ∀ x y, f (x ^^^ y) = f x ^^^ f y

namespace XorLinear

variable {f g : BitVec w → BitVec v}

theorem map_zero (linear : XorLinear f) : f 0#w = 0#v := by
  have := linear 0#w 0#w
  simpa using this

theorem comp {h : BitVec v → BitVec u} (outer : XorLinear h) (inner : XorLinear f) :
    XorLinear (h ∘ f) := by
  intro x y
  rw [Function.comp_apply, inner x y]
  exact outer _ _

theorem id : XorLinear (fun x : BitVec w => x) := fun _ _ => rfl

theorem xor (first : XorLinear f) (second : XorLinear g) :
    XorLinear fun x => f x ^^^ g x := by
  intro x y
  simp only [first x y, second x y]
  ac_rfl

/-- A chosen bit switches a constant word on. -/
theorem ifBit (i : Nat) (word : BitVec v) :
    XorLinear fun x : BitVec w => if x.getLsbD i then word else 0#v := by
  intro x y
  simp only [BitVec.getLsbD_xor]
  cases x.getLsbD i <;> cases y.getLsbD i <;> simp

theorem setWidth (v : Nat) : XorLinear fun x : BitVec w => x.setWidth v :=
  fun _ _ => BitVec.setWidth_xor

theorem ushiftRight (n : Nat) : XorLinear fun x : BitVec w => x >>> n :=
  fun x y => BitVec.ushiftRight_xor_distrib x y n

/-- The words whose bits from `n` up are clear, by induction on `n`: the top bit
of such a word is split off as a power of two. -/
theorem ext_below (linear : XorLinear f) (linear' : XorLinear g)
    (basis : ∀ i < w, f (BitVec.twoPow w i) = g (BitVec.twoPow w i)) :
    ∀ n (x : BitVec w), (∀ i, n ≤ i → x.getLsbD i = false) → f x = g x
  | 0, x, clear => by
      have zero : x = 0#w := BitVec.eq_of_getLsbD_eq fun i _ => by
        simp [clear i (Nat.zero_le i)]
      rw [zero, linear.map_zero, linear'.map_zero]
  | n + 1, x, clear => by
      by_cases top : x.getLsbD n = true
      · have bound : n < w := BitVec.lt_of_getLsbD top
        have split : x = BitVec.twoPow w n ^^^ (BitVec.twoPow w n ^^^ x) := by
          rw [← BitVec.xor_assoc, BitVec.xor_self, BitVec.zero_xor]
        have rest : f (BitVec.twoPow w n ^^^ x) = g (BitVec.twoPow w n ^^^ x) := by
          refine ext_below linear linear' basis n _ fun i above => ?_
          rcases Nat.lt_or_eq_of_le above with higher | rfl
          · have other : n ≠ i := Nat.ne_of_lt higher
            simp [BitVec.getLsbD_twoPow, clear i higher, other]
          · simp [bound, top]
        rw [split, linear, linear', rest, basis n bound]
      · refine ext_below linear linear' basis n x fun i above => ?_
        rcases Nat.lt_or_eq_of_le above with higher | rfl
        · exact clear i higher
        · simpa using top

/-- **Linear maps are determined by the powers of two.** -/
theorem ext_basis (linear : XorLinear f) (linear' : XorLinear g)
    (basis : ∀ i < w, f (BitVec.twoPow w i) = g (BitVec.twoPow w i)) (x : BitVec w) :
    f x = g x :=
  ext_below linear linear' basis w x fun i above => BitVec.getLsbD_of_ge x i above

end XorLinear

/-- The exclusive or of the columns a word selects, lowest bit first. -/
def xorColumns : List (BitVec v) → BitVec w → BitVec v
  | [], _ => 0#v
  | column :: rest, x => (if x.getLsbD 0 then column else 0#v) ^^^ xorColumns rest (x >>> 1)

theorem xorColumns_linear (columns : List (BitVec v)) :
    XorLinear (xorColumns (w := w) columns) := by
  induction columns with
  | nil => intro x y; simp [xorColumns]
  | cons column rest ih => exact (XorLinear.ifBit 0 column).xor (ih.comp (XorLinear.ushiftRight 1))

/-! ## The register -/

section Register

variable (poly : BitVec w)

/-- One step: the bit that falls out feeds the polynomial back. -/
def shift (c : BitVec w) : BitVec w :=
  if c.getLsbD 0 then (c >>> 1) ^^^ poly else c >>> 1

def shifts : Nat → BitVec w → BitVec w
  | 0, c => c
  | n + 1, c => shifts n (shift poly c)

theorem shift_eq (c : BitVec w) :
    shift poly c = (c >>> 1) ^^^ (if c.getLsbD 0 then poly else 0#w) := by
  unfold shift
  split <;> simp

theorem shift_linear : XorLinear (shift poly) := by
  have := (XorLinear.ushiftRight (w := w) 1).xor (XorLinear.ifBit 0 poly)
  intro x y
  simpa only [shift_eq] using this x y

theorem shifts_linear (n : Nat) : XorLinear (shifts poly n) := by
  induction n with
  | zero => exact XorLinear.id
  | succ n ih => exact ih.comp (shift_linear poly)

theorem shifts_add (m n : Nat) (c : BitVec w) :
    shifts poly (m + n) c = shifts poly n (shifts poly m c) := by
  induction m generalizing c with
  | zero => simp [shifts]
  | succ m ih => rw [Nat.succ_add, shifts, ih, shifts]

/-- With its top bit in the feedback the register never loses a difference: a
step that ends at zero started there. -/
theorem shift_eq_zero {c : BitVec w} (top : poly.msb = true) (zero : shift poly c = 0#w) :
    c = 0#w := by
  have width : 0 < w := by
    by_contra none
    obtain rfl : w = 0 := by omega
    simp [BitVec.msb, BitVec.getMsbD] at top
  have low : c.getLsbD 0 = false := by
    by_contra odd
    have bit := congrArg (fun x : BitVec w => x.getLsbD (w - 1)) zero
    rw [BitVec.msb_eq_getLsbD_last] at top
    have above : 1 + (w - 1) = w := by omega
    simp [shift_eq, odd, top, above] at bit
  have high : c >>> 1 = 0#w := by simpa [shift_eq, low] using zero
  refine BitVec.eq_of_getLsbD_eq fun i _ => ?_
  cases i with
  | zero => simpa using low
  | succ i =>
      have bit := congrArg (fun x : BitVec w => x.getLsbD i) high
      simpa [Nat.add_comm] using bit

theorem shifts_eq_zero {n : Nat} {c : BitVec w} (top : poly.msb = true)
    (zero : shifts poly n c = 0#w) : c = 0#w := by
  induction n generalizing c with
  | zero => exact zero
  | succ n ih => exact shift_eq_zero poly top (ih zero)

/-- Clear low bits only move down. -/
theorem shifts_of_low_clear (n : Nat) (c : BitVec w)
    (clear : ∀ i < n, c.getLsbD i = false) : shifts poly n c = c >>> n := by
  induction n generalizing c with
  | zero => simp [shifts]
  | succ n ih =>
      have step : shift poly c = c >>> 1 := by simp [shift_eq, clear 0 (by omega)]
      rw [shifts, step, ih, ← BitVec.shiftRight_add, Nat.add_comm]
      intro i below
      simpa using clear (1 + i) (by omega)

theorem shifts_shiftLeft (n : Nat) (c : BitVec w) (fits : ∀ i, w ≤ i + n → c.getLsbD i = false) :
    shifts poly n (c <<< n) = c := by
  rw [shifts_of_low_clear poly n _ fun i below => by simp [below]]
  refine BitVec.eq_of_getLsbD_eq fun i _ => ?_
  by_cases inside : n + i < w
  · simp [inside, BitVec.getLsbD_eq_getElem, show i < w by omega]
  · simp [inside, fits i (by omega)]

/-! ## Bytes -/

/-- Absorb a byte: low bit first, eight steps. -/
def absorb (c : BitVec w) (byte : BitVec 8) : BitVec w :=
  shifts poly 8 (c ^^^ byte.setWidth w)

def absorbAll (c : BitVec w) (bytes : List (BitVec 8)) : BitVec w :=
  bytes.foldl (absorb poly) c

@[simp] theorem absorbAll_nil (c : BitVec w) : absorbAll poly c [] = c := rfl

@[simp] theorem absorbAll_cons (c : BitVec w) (byte : BitVec 8) (rest : List (BitVec 8)) :
    absorbAll poly c (byte :: rest) = absorbAll poly (absorb poly c byte) rest := rfl

theorem absorbAll_append (c : BitVec w) (first second : List (BitVec 8)) :
    absorbAll poly c (first ++ second) = absorbAll poly (absorbAll poly c first) second :=
  List.foldl_append

theorem absorb_xor (c d : BitVec w) (a b : BitVec 8) :
    absorb poly (c ^^^ d) (a ^^^ b) = absorb poly c a ^^^ absorb poly d b := by
  have gather : c ^^^ d ^^^ (a ^^^ b).setWidth w =
      (c ^^^ a.setWidth w) ^^^ (d ^^^ b.setWidth w) := by
    rw [BitVec.setWidth_xor]
    ac_rfl
  rw [absorb, gather, shifts_linear]
  rfl

/-- **The register is linear in its start and its input**: what two runs differ
by is a run on the differences. -/
theorem absorbAll_xor (c d : BitVec w) {a b : List (BitVec 8)} (same : a.length = b.length) :
    absorbAll poly (c ^^^ d) (List.zipWith (· ^^^ ·) a b) =
      absorbAll poly c a ^^^ absorbAll poly d b := by
  induction a generalizing b c d with
  | nil =>
      cases b with
      | nil => rfl
      | cons _ _ => simp at same
  | cons x a ih =>
      cases b with
      | nil => simp at same
      | cons y b =>
          simp only [List.zipWith_cons_cons, absorbAll_cons, absorb_xor]
          exact ih _ _ (by simpa using same)

theorem absorbAll_zeros (c : BitVec w) (n : Nat) :
    absorbAll poly c (List.replicate n 0#8) = shifts poly (8 * n) c := by
  induction n generalizing c with
  | zero => simp [shifts]
  | succ n ih =>
      have step : absorb poly c 0#8 = shifts poly 8 c := by simp [absorb]
      rw [List.replicate_succ, absorbAll_cons, ih, step, ← shifts_add]
      congr 1
      omega

/-- The word a byte string spells, first byte lowest. -/
def word : List (BitVec 8) → BitVec w
  | [] => 0#w
  | byte :: rest => byte.setWidth w ^^^ (word rest <<< 8)

/-- Bit `i` of the word is bit `i % 8` of byte `i / 8`, whatever the width. -/
theorem word_bit (bytes : List (BitVec 8)) (fits : 8 * bytes.length ≤ w) (i : Nat) :
    (word bytes : BitVec w).getLsbD i = (bytes.getD (i / 8) 0#8).getLsbD (i % 8) := by
  induction bytes generalizing i with
  | nil => simp [word]
  | cons byte rest ih =>
      rw [List.length_cons] at fits
      by_cases low : i < 8
      · have first : i / 8 = 0 := Nat.div_eq_of_lt low
        simp [word, low, first, Nat.mod_eq_of_lt low, show i < w by omega]
      · have next : i / 8 = (i - 8) / 8 + 1 := by omega
        have same : i % 8 = (i - 8) % 8 := by omega
        have outside : byte.getLsbD i = false := BitVec.getLsbD_of_ge byte i (by omega)
        have tail := ih (by omega) (i - 8)
        by_cases inside : i < w
        · simp only [word, BitVec.getLsbD_xor, BitVec.getLsbD_setWidth, outside,
            BitVec.getLsbD_shiftLeft, inside, low, next, same, tail, List.getD_cons_succ]
          simp
        · have short : rest.length ≤ (i - 8) / 8 := by omega
          simp [word, inside, next, List.getElem?_eq_none short]

theorem word_high (bytes : List (BitVec 8)) (fits : 8 * bytes.length ≤ w) (i : Nat)
    (above : 8 * bytes.length ≤ i) : (word bytes : BitVec w).getLsbD i = false := by
  rw [word_bit bytes fits, List.getD_eq_getElem?_getD, List.getElem?_eq_none (by omega)]
  simp

/-- Words spelled by strings of one length differ when the strings do. -/
theorem word_injective {a b : List (BitVec 8)} (same : a.length = b.length)
    (fits : 8 * a.length ≤ w) (equal : (word a : BitVec w) = word b) : a = b := by
  refine List.ext_getElem same fun j left right => BitVec.eq_of_getLsbD_eq fun t below => ?_
  have quotient : (8 * j + t) / 8 = j := by omega
  have remainder : (8 * j + t) % 8 = t := by omega
  have bitA := word_bit a fits (8 * j + t)
  have bitB := word_bit b (same ▸ fits) (8 * j + t)
  rw [equal, bitB, quotient, remainder] at bitA
  simpa [List.getD_eq_getElem?_getD, left, right] using bitA.symm

theorem word_replicate_zero (n : Nat) : (word (List.replicate n 0#8) : BitVec w) = 0#w := by
  induction n with
  | zero => rfl
  | succ n ih => simp [List.replicate_succ, word, ih]

theorem word_eq_zero {bytes : List (BitVec 8)} (fits : 8 * bytes.length ≤ w)
    (zero : (word bytes : BitVec w) = 0#w) : ∀ byte ∈ bytes, byte = 0#8 := by
  have zeros : bytes = List.replicate bytes.length 0#8 :=
    word_injective (by simp) fits (by rw [zero, word_replicate_zero])
  intro byte member
  rw [zeros] at member
  exact List.eq_of_mem_replicate member

theorem word_setWidth (bytes : List (BitVec 8)) (v : Nat) (fits : 8 * bytes.length ≤ v)
    (fits' : 8 * bytes.length ≤ w) : (word bytes : BitVec v).setWidth w = word bytes := by
  refine BitVec.eq_of_getLsbD_eq fun i below => ?_
  rw [BitVec.getLsbD_setWidth, word_bit bytes fits, word_bit bytes fits']
  simp [below]

/-- Spelling is linear. -/
theorem word_xor {a b : List (BitVec 8)} (same : a.length = b.length) :
    (word (List.zipWith (· ^^^ ·) a b) : BitVec w) = word a ^^^ word b := by
  induction a generalizing b with
  | nil =>
      cases b with
      | nil => simp [word]
      | cons _ _ => simp at same
  | cons x a ih =>
      cases b with
      | nil => simp at same
      | cons y b =>
          rw [List.zipWith_cons_cons, word, word, word, ih (by simpa using same),
            BitVec.setWidth_xor, BitVec.shiftLeft_xor_distrib]
          ac_rfl

/-- **A string no wider than the register is absorbed as one word.** -/
theorem absorbAll_eq_shifts (c : BitVec w) (bytes : List (BitVec 8))
    (fits : 8 * bytes.length ≤ w) :
    absorbAll poly c bytes = shifts poly (8 * bytes.length) (c ^^^ word bytes) := by
  induction bytes generalizing c with
  | nil => simp [shifts, word]
  | cons byte rest ih =>
      rw [List.length_cons] at fits
      have back : shifts poly 8 (word rest <<< 8) = word rest :=
        shifts_shiftLeft poly 8 _ fun i above => word_high rest (by omega) i (by omega)
      have count : 8 * (byte :: rest).length = 8 + 8 * rest.length := by
        rw [List.length_cons]
        omega
      have step : shifts poly 8 (c ^^^ byte.setWidth w ^^^ (word rest <<< 8)) =
          absorb poly c byte ^^^ word rest := by
        rw [shifts_linear, back]
        rfl
      calc absorbAll poly c (byte :: rest)
          = shifts poly (8 * rest.length) (absorb poly c byte ^^^ word rest) := by
            rw [absorbAll_cons, ih _ (by omega)]
        _ = shifts poly (8 * rest.length)
              (shifts poly 8 (c ^^^ byte.setWidth w ^^^ (word rest <<< 8))) := by
            rw [step]
        _ = shifts poly (8 * (byte :: rest).length) (c ^^^ word (byte :: rest)) := by
            rw [← shifts_add, count, word, BitVec.xor_assoc]

/-- Eight steps by one table lookup: the low byte selects, the rest moves down. -/
theorem shifts_eight (c : BitVec w) :
    shifts poly 8 c = (c >>> 8) ^^^ shifts poly 8 ((c.setWidth 8).setWidth w) := by
  have split : c = (c >>> 8 <<< 8) ^^^ (c.setWidth 8).setWidth w := by
    refine BitVec.eq_of_getLsbD_eq fun i below => ?_
    by_cases low : i < 8
    · simp [low, below]
    · have back : 8 + (i - 8) = i := by omega
      simp [low, below, back]
  have down : shifts poly 8 (c >>> 8 <<< 8) = c >>> 8 :=
    shifts_shiftLeft poly 8 _ fun i above => by
      simpa using BitVec.getLsbD_of_ge c (8 + i) (by omega)
  conv_lhs => rw [split, shifts_linear, down]

end Register

end Stgs.Theory.ShiftRegister
