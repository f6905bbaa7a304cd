/-
# Theory.Scanner -- a tokenizer over a buffer that grows at its end

A `Scanner` looks at a buffer and decides one of three things: wait for more
input keeping part of the buffer, skip to a shorter rest, or emit a token and go
on with a shorter rest.  `run` repeats the look until it waits.

`Resumable` is what one look must satisfy for the input to arrive in pieces:
a decision other than waiting survives more input, and the part kept while
waiting decides, with more input, as the whole buffer would.  Then a run on
`buffer ++ more` is a run on `buffer` continued on what it kept
(`run_append`), so feeding fragments is feeding their concatenation
(`feeds_eq`).

`stamped` is `run` with the end offset of every token in the whole input; it is
the same run (`stamped_run`), and its offsets do not depend on the fragments
either (`stamped_append`).
-/
import Mathlib.Data.Nat.Init

namespace Stgs.Theory

set_option autoImplicit false

universe u v w

/-- A loop that ends, or goes on with something smaller and works on what that returns,
returns the same with every bound above its size. -/
theorem bounded_loop {σ : Type u} {β : Type w} (loop : Nat → σ → β) (size : σ → Nat)
    (look : ∀ state, (∃ result, ∀ fuel, loop (fuel + 1) state = result) ∨
      ∃ (rest : σ) (work : β → β), size rest < size state ∧
        ∀ fuel, loop (fuel + 1) state = work (loop fuel rest))
    (state : σ) {fuel fuel' : Nat} (enough : size state < fuel) (enough' : size state < fuel') :
    loop fuel state = loop fuel' state := by
  induction measure : size state using Nat.strongRecOn generalizing state fuel fuel' with
  | _ bound ih =>
      obtain ⟨fuel, rfl⟩ := Nat.exists_eq_add_of_lt enough
      obtain ⟨fuel', rfl⟩ := Nat.exists_eq_add_of_lt enough'
      rcases look state with ⟨result, ends⟩ | ⟨rest, work, smaller, goes⟩
      · rw [ends, ends]
      · have same : loop (size state + fuel) rest = loop (size state + fuel') rest :=
          ih (size rest) (by omega) rest (by omega) (by omega) rfl
        rw [goes, goes, same]

/-- What one look at the buffer decides. -/
inductive Verdict (α : Type u) (τ : Type v) where
  | wait (keep : List α)
  | skip (rest : List α)
  | emit (token : τ) (rest : List α)

/-- A look that makes progress unless it waits. -/
structure Scanner (α : Type u) (τ : Type v) where
  look : List α → Verdict α τ
  wait_le : ∀ {buffer keep}, look buffer = .wait keep → keep.length ≤ buffer.length
  skip_lt : ∀ {buffer rest}, look buffer = .skip rest → rest.length < buffer.length
  emit_lt : ∀ {buffer token rest}, look buffer = .emit token rest → rest.length < buffer.length

namespace Scanner

variable {α : Type u} {τ : Type v} (scanner : Scanner α τ)

/-! ## Runs -/

def loop : Nat → List α → List τ × List α
  | 0, buffer => ([], buffer)
  | fuel + 1, buffer =>
      match scanner.look buffer with
      | .wait keep => ([], keep)
      | .skip rest => loop fuel rest
      | .emit token rest => (token :: (loop fuel rest).1, (loop fuel rest).2)

/-- Look until the verdict is to wait.  Every other look shortens the buffer, so
one look more than its length is enough. -/
def run (buffer : List α) : List τ × List α :=
  scanner.loop (buffer.length + 1) buffer

/-- **Induction along a run.** -/
theorem induct {motive : List α → Prop}
    (wait : ∀ buffer keep, scanner.look buffer = .wait keep → motive buffer)
    (skip : ∀ buffer rest, scanner.look buffer = .skip rest → motive rest → motive buffer)
    (emit : ∀ buffer token rest, scanner.look buffer = .emit token rest → motive rest →
      motive buffer)
    (buffer : List α) : motive buffer := by
  induction size : buffer.length using Nat.strongRecOn generalizing buffer with
  | _ size ih =>
      cases verdict : scanner.look buffer with
      | wait keep => exact wait buffer keep verdict
      | skip rest =>
          have shorter := scanner.skip_lt verdict
          exact skip buffer rest verdict (ih rest.length (by omega) rest rfl)
      | emit token rest =>
          have shorter := scanner.emit_lt verdict
          exact emit buffer token rest verdict (ih rest.length (by omega) rest rfl)

/-- More fuel than the buffer is long changes nothing. -/
theorem loop_fuel (buffer : List α) :
    ∀ fuel, buffer.length < fuel → scanner.loop fuel buffer = scanner.run buffer := by
  intro fuel enough
  refine bounded_loop scanner.loop List.length ?_ buffer enough (Nat.lt_succ_self _)
  intro buffer
  cases verdict : scanner.look buffer with
  | wait keep =>
      refine Or.inl ⟨([], keep), fun fuel => ?_⟩
      rw [loop, verdict]
  | skip rest =>
      refine Or.inr ⟨rest, id, scanner.skip_lt verdict, fun fuel => ?_⟩
      rw [loop, verdict, id]
  | emit token rest =>
      refine Or.inr ⟨rest, fun result => (token :: result.1, result.2), scanner.emit_lt verdict,
        fun fuel => ?_⟩
      rw [loop, verdict]

theorem run_wait {buffer keep : List α} (verdict : scanner.look buffer = .wait keep) :
    scanner.run buffer = ([], keep) := by
  rw [run, loop, verdict]

theorem run_skip {buffer rest : List α} (verdict : scanner.look buffer = .skip rest) :
    scanner.run buffer = scanner.run rest := by
  rw [run, loop, verdict]
  exact scanner.loop_fuel rest _ (scanner.skip_lt verdict)

theorem run_emit {buffer rest : List α} {token : τ}
    (verdict : scanner.look buffer = .emit token rest) :
    scanner.run buffer = (token :: (scanner.run rest).1, (scanner.run rest).2) := by
  rw [run, loop, verdict]
  simp only [scanner.loop_fuel rest _ (scanner.emit_lt verdict)]

/-- A run depends on its buffer through the first look alone. -/
theorem run_congr {buffer buffer' : List α}
    (looks : scanner.look buffer = scanner.look buffer') :
    scanner.run buffer = scanner.run buffer' := by
  cases verdict : scanner.look buffer with
  | wait keep => rw [scanner.run_wait verdict, scanner.run_wait (looks.symm.trans verdict)]
  | skip rest => rw [scanner.run_skip verdict, scanner.run_skip (looks.symm.trans verdict)]
  | emit token rest => rw [scanner.run_emit verdict, scanner.run_emit (looks.symm.trans verdict)]

/-- The loop without a bound: it returns these tokens and this buffer at its `looks`-th
look. -/
inductive Returns : Nat → List α → List τ → List α → Prop where
  | wait {buffer keep} : scanner.look buffer = .wait keep → Returns 1 buffer [] keep
  | skip {buffer rest looks tokens keep} : scanner.look buffer = .skip rest →
      Returns looks rest tokens keep → Returns (looks + 1) buffer tokens keep
  | emit {buffer token rest looks tokens keep} : scanner.look buffer = .emit token rest →
      Returns looks rest tokens keep → Returns (looks + 1) buffer (token :: tokens) keep

/-- **The loop terminates**, and a run is what it returns. -/
theorem run_returns (buffer : List α) : ∃ looks, looks ≤ buffer.length + 1 ∧
    scanner.Returns looks buffer (scanner.run buffer).1 (scanner.run buffer).2 := by
  induction buffer using scanner.induct with
  | wait buffer keep verdict =>
      rw [scanner.run_wait verdict]
      exact ⟨1, Nat.le_add_left 1 _, .wait verdict⟩
  | skip buffer rest verdict ih =>
      obtain ⟨looks, few, returns⟩ := ih
      have shorter := scanner.skip_lt verdict
      rw [scanner.run_skip verdict]
      exact ⟨looks + 1, by omega, .skip verdict returns⟩
  | emit buffer token rest verdict ih =>
      obtain ⟨looks, few, returns⟩ := ih
      have shorter := scanner.emit_lt verdict
      rw [scanner.run_emit verdict]
      exact ⟨looks + 1, by omega, .emit verdict returns⟩

/-- Feed fragments one after the other. -/
def feeds (buffer : List α) : List (List α) → List τ × List α
  | [] => ([], buffer)
  | fragment :: fragments =>
      let first := scanner.run (buffer ++ fragment)
      let others := feeds first.2 fragments
      (first.1 ++ others.1, others.2)

/-! ## Runs with offsets -/

def stampedLoop : Nat → Nat → List α → List (Nat × τ) × List α
  | 0, _, buffer => ([], buffer)
  | fuel + 1, position, buffer =>
      match scanner.look buffer with
      | .wait keep => ([], keep)
      | .skip rest => stampedLoop fuel (position + (buffer.length - rest.length)) rest
      | .emit token rest =>
          let next := position + (buffer.length - rest.length)
          ((next, token) :: (stampedLoop fuel next rest).1, (stampedLoop fuel next rest).2)

/-- A run on a buffer that starts at a known offset of the input: every token
comes with the offset at which it ends. -/
def stamped (position : Nat) (buffer : List α) : List (Nat × τ) × List α :=
  scanner.stampedLoop (buffer.length + 1) position buffer

theorem stampedLoop_fuel (buffer : List α) (position : Nat) :
    ∀ fuel, buffer.length < fuel →
      scanner.stampedLoop fuel position buffer = scanner.stamped position buffer := by
  intro fuel enough
  refine bounded_loop (fun fuel (place : Nat × List α) => scanner.stampedLoop fuel place.1 place.2)
    (fun place => place.2.length) ?_ (position, buffer) enough (Nat.lt_succ_self _)
  rintro ⟨position, buffer⟩
  cases verdict : scanner.look buffer with
  | wait keep =>
      refine Or.inl ⟨([], keep), fun fuel => ?_⟩
      rw [stampedLoop, verdict]
  | skip rest =>
      refine Or.inr ⟨(position + (buffer.length - rest.length), rest), id,
        scanner.skip_lt verdict, fun fuel => ?_⟩
      rw [stampedLoop, verdict, id]
  | emit token rest =>
      let next := position + (buffer.length - rest.length)
      refine Or.inr ⟨(next, rest), fun result => ((next, token) :: result.1, result.2),
        scanner.emit_lt verdict, fun fuel => ?_⟩
      rw [stampedLoop, verdict]

theorem stamped_wait {buffer keep : List α} (position : Nat)
    (verdict : scanner.look buffer = .wait keep) :
    scanner.stamped position buffer = ([], keep) := by
  rw [stamped, stampedLoop, verdict]

theorem stamped_skip {buffer rest : List α} (position : Nat)
    (verdict : scanner.look buffer = .skip rest) :
    scanner.stamped position buffer =
      scanner.stamped (position + (buffer.length - rest.length)) rest := by
  rw [stamped, stampedLoop, verdict]
  exact scanner.stampedLoop_fuel rest _ _ (scanner.skip_lt verdict)

theorem stamped_emit {buffer rest : List α} {token : τ} (position : Nat)
    (verdict : scanner.look buffer = .emit token rest) :
    scanner.stamped position buffer =
      ((position + (buffer.length - rest.length), token) ::
        (scanner.stamped (position + (buffer.length - rest.length)) rest).1,
        (scanner.stamped (position + (buffer.length - rest.length)) rest).2) := by
  rw [stamped, stampedLoop, verdict]
  simp only [scanner.stampedLoop_fuel rest _ _ (scanner.emit_lt verdict)]

/-- The offsets are an annotation of the run. -/
theorem stamped_run (position : Nat) (buffer : List α) :
    ((scanner.stamped position buffer).1.map Prod.snd, (scanner.stamped position buffer).2) =
      scanner.run buffer := by
  induction buffer using scanner.induct generalizing position with
  | wait buffer keep verdict =>
      rw [scanner.stamped_wait position verdict, scanner.run_wait verdict, List.map_nil]
  | skip buffer rest verdict ih =>
      rw [scanner.stamped_skip position verdict, scanner.run_skip verdict, ih]
  | emit buffer token rest verdict ih =>
      rw [scanner.stamped_emit position verdict, scanner.run_emit verdict,
        ← ih (position + (buffer.length - rest.length)), List.map_cons]

theorem keep_le (buffer : List α) : (scanner.run buffer).2.length ≤ buffer.length := by
  induction buffer using scanner.induct with
  | wait buffer keep verdict =>
      rw [scanner.run_wait verdict]
      exact scanner.wait_le verdict
  | skip buffer rest verdict ih =>
      rw [scanner.run_skip verdict]
      exact Nat.le_trans ih (Nat.le_of_lt (scanner.skip_lt verdict))
  | emit buffer token rest verdict ih =>
      rw [scanner.run_emit verdict]
      exact Nat.le_trans ih (Nat.le_of_lt (scanner.emit_lt verdict))

/-- Feed fragments one after the other, the buffer starting at a known offset. -/
def stampedFeeds (position : Nat) (buffer : List α) :
    List (List α) → List (Nat × τ) × List α
  | [] => ([], buffer)
  | fragment :: fragments =>
      let input := buffer ++ fragment
      let first := scanner.stamped position input
      let others := stampedFeeds (position + (input.length - first.2.length)) first.2 fragments
      (first.1 ++ others.1, others.2)

theorem stampedFeeds_run (position : Nat) (buffer : List α) (fragments : List (List α)) :
    ((scanner.stampedFeeds position buffer fragments).1.map Prod.snd,
        (scanner.stampedFeeds position buffer fragments).2) = scanner.feeds buffer fragments := by
  induction fragments generalizing position buffer with
  | nil => rfl
  | cons fragment fragments ih =>
      have first := scanner.stamped_run position (buffer ++ fragment)
      have others := ih (position + ((buffer ++ fragment).length -
        (scanner.stamped position (buffer ++ fragment)).2.length))
        (scanner.stamped position (buffer ++ fragment)).2
      simp only [stampedFeeds, feeds, List.map_append, ← first, ← others]

/-! ## Input in pieces -/

/-- What a look must satisfy for the input to arrive in pieces. -/
structure Resumable : Prop where
  skip : ∀ {buffer rest} (more : List α), scanner.look buffer = .skip rest →
    scanner.look (buffer ++ more) = .skip (rest ++ more)
  emit : ∀ {buffer token rest} (more : List α), scanner.look buffer = .emit token rest →
    scanner.look (buffer ++ more) = .emit token (rest ++ more)
  wait : ∀ {buffer keep} (more : List α), scanner.look buffer = .wait keep →
    scanner.look (keep ++ more) = scanner.look (buffer ++ more)

variable {scanner}

/-- A stamped run depends on its buffer through the first look and its end. -/
theorem stamped_congr {position position' : Nat} {buffer buffer' : List α}
    (looks : scanner.look buffer = scanner.look buffer')
    (ends : position + buffer.length = position' + buffer'.length) :
    scanner.stamped position buffer = scanner.stamped position' buffer' := by
  cases verdict : scanner.look buffer with
  | wait keep =>
      have verdict' := looks.symm.trans verdict
      rw [scanner.stamped_wait _ verdict, scanner.stamped_wait _ verdict']
  | skip rest =>
      have verdict' := looks.symm.trans verdict
      have shorter := scanner.skip_lt verdict
      have shorter' := scanner.skip_lt verdict'
      have next : position + (buffer.length - rest.length) =
          position' + (buffer'.length - rest.length) := by omega
      rw [scanner.stamped_skip _ verdict, scanner.stamped_skip _ verdict', next]
  | emit token rest =>
      have verdict' := looks.symm.trans verdict
      have shorter := scanner.emit_lt verdict
      have shorter' := scanner.emit_lt verdict'
      have next : position + (buffer.length - rest.length) =
          position' + (buffer'.length - rest.length) := by omega
      rw [scanner.stamped_emit _ verdict, scanner.stamped_emit _ verdict', next]

/-- **A run on a longer input** is the run on the shorter one, continued on what
it kept. -/
theorem Resumable.stamped_append (resumable : scanner.Resumable) (position : Nat)
    (buffer more : List α) :
    scanner.stamped position (buffer ++ more) =
      let first := scanner.stamped position buffer
      let others := scanner.stamped (position + (buffer.length - first.2.length)) (first.2 ++ more)
      (first.1 ++ others.1, others.2) := by
  have kept (position : Nat) (buffer : List α) :
      (scanner.stamped position buffer).2.length ≤ buffer.length := by
    have := scanner.keep_le buffer
    rwa [← scanner.stamped_run position buffer] at this
  induction buffer using scanner.induct generalizing position with
  | wait buffer keep verdict =>
      have shorter := scanner.wait_le verdict
      simp only [scanner.stamped_wait position verdict, List.nil_append]
      refine stamped_congr (resumable.wait more verdict).symm ?_
      simp only [List.length_append]
      omega
  | skip buffer rest verdict ih =>
      have shorter := scanner.skip_lt verdict
      rw [scanner.stamped_skip _ (resumable.skip more verdict),
        scanner.stamped_skip position verdict]
      have step : position + ((buffer ++ more).length - (rest ++ more).length) =
          position + (buffer.length - rest.length) := by
        simp only [List.length_append]
        omega
      rw [step, ih]
      have := kept (position + (buffer.length - rest.length)) rest
      have offset : position + (buffer.length - rest.length) + (rest.length -
          (scanner.stamped (position + (buffer.length - rest.length)) rest).2.length) =
          position + (buffer.length -
            (scanner.stamped (position + (buffer.length - rest.length)) rest).2.length) := by
        omega
      simp only [offset]
  | emit buffer token rest verdict ih =>
      have shorter := scanner.emit_lt verdict
      rw [scanner.stamped_emit _ (resumable.emit more verdict),
        scanner.stamped_emit position verdict]
      have step : position + ((buffer ++ more).length - (rest ++ more).length) =
          position + (buffer.length - rest.length) := by
        simp only [List.length_append]
        omega
      rw [step, ih]
      have := kept (position + (buffer.length - rest.length)) rest
      have offset : position + (buffer.length - rest.length) + (rest.length -
          (scanner.stamped (position + (buffer.length - rest.length)) rest).2.length) =
          position + (buffer.length -
            (scanner.stamped (position + (buffer.length - rest.length)) rest).2.length) := by
        omega
      simp only [offset, List.cons_append]

theorem Resumable.run_append (resumable : scanner.Resumable) (buffer more : List α) :
    scanner.run (buffer ++ more) =
      let first := scanner.run buffer
      let others := scanner.run (first.2 ++ more)
      (first.1 ++ others.1, others.2) := by
  have whole := resumable.stamped_append 0 buffer more
  have first := scanner.stamped_run 0 buffer
  have others := scanner.stamped_run
    (0 + (buffer.length - (scanner.stamped 0 buffer).2.length))
    ((scanner.stamped 0 buffer).2 ++ more)
  rw [← scanner.stamped_run 0 (buffer ++ more), whole, ← first]
  simp only [List.map_append, ← others]

/-- What a run keeps is settled: looking again changes nothing. -/
theorem Resumable.run_keep (resumable : scanner.Resumable) (buffer : List α) :
    scanner.look (scanner.run buffer).2 = .wait (scanner.run buffer).2 := by
  induction buffer using scanner.induct with
  | wait buffer keep verdict =>
      have again := resumable.wait [] verdict
      rw [List.append_nil, List.append_nil] at again
      rw [scanner.run_wait verdict, again, verdict]
  | skip buffer rest verdict ih => rwa [scanner.run_skip verdict]
  | emit buffer token rest verdict ih => rwa [scanner.run_emit verdict]

/-- **Feeding fragments is feeding their concatenation**, from a settled buffer. -/
theorem Resumable.feeds_eq (resumable : scanner.Resumable) {buffer : List α}
    (settled : scanner.look buffer = .wait buffer) (fragments : List (List α)) :
    scanner.feeds buffer fragments = scanner.run (buffer ++ fragments.flatten) := by
  induction fragments generalizing buffer with
  | nil => rw [List.flatten_nil, List.append_nil, scanner.run_wait settled, feeds]
  | cons fragment fragments ih =>
      rw [feeds, List.flatten_cons, ← List.append_assoc,
        resumable.run_append (buffer ++ fragment)]
      simp only [ih (resumable.run_keep (buffer ++ fragment))]

/-- The same for the offsets. -/
theorem Resumable.stampedFeeds_eq (resumable : scanner.Resumable) {buffer : List α}
    (settled : scanner.look buffer = .wait buffer) (position : Nat)
    (fragments : List (List α)) :
    scanner.stampedFeeds position buffer fragments =
      scanner.stamped position (buffer ++ fragments.flatten) := by
  induction fragments generalizing position buffer with
  | nil =>
      rw [List.flatten_nil, List.append_nil, scanner.stamped_wait position settled, stampedFeeds]
  | cons fragment fragments ih =>
      have keep : (scanner.stamped position (buffer ++ fragment)).2 =
          (scanner.run (buffer ++ fragment)).2 := by
        rw [← scanner.stamped_run position]
      have again := resumable.run_keep (buffer ++ fragment)
      rw [← keep] at again
      rw [stampedFeeds, List.flatten_cons, ← List.append_assoc,
        resumable.stamped_append position (buffer ++ fragment)]
      simp only [ih again]

/-! ## Tokens cut out of the input -/

/-- A scanner of pieces: a token is cut out of the buffer, and what is left follows it. -/
structure Cutting (scanner : Scanner α (List α)) : Prop where
  wait : ∀ {buffer keep}, scanner.look buffer = .wait keep → keep <:+ buffer
  skip : ∀ {buffer rest}, scanner.look buffer = .skip rest → rest <:+ buffer
  emit : ∀ {buffer token rest}, scanner.look buffer = .emit token rest →
    ∃ dropped, buffer = dropped ++ token ++ rest

section Cutting

variable {scanner : Scanner α (List α)}

theorem Cutting.run_suffix (cutting : scanner.Cutting) (buffer : List α) :
    (scanner.run buffer).2 <:+ buffer := by
  induction buffer using scanner.induct with
  | wait buffer keep verdict =>
      rw [scanner.run_wait verdict]
      exact cutting.wait verdict
  | skip buffer rest verdict ih =>
      rw [scanner.run_skip verdict]
      exact ih.trans (cutting.skip verdict)
  | emit buffer token rest verdict ih =>
      obtain ⟨dropped, shape⟩ := cutting.emit verdict
      rw [scanner.run_emit verdict]
      exact ih.trans (shape ▸ List.suffix_append _ rest)

/-- A token lies between the start of the buffer and what is kept of it. -/
theorem Cutting.stamped_inside (cutting : scanner.Cutting) (position : Nat) (buffer : List α) :
    ∀ stamp ∈ (scanner.stamped position buffer).1,
      position + stamp.2.length ≤ stamp.1 ∧
        stamp.1 + (scanner.run buffer).2.length ≤ position + buffer.length := by
  induction buffer using scanner.induct generalizing position with
  | wait buffer keep verdict =>
      rw [scanner.stamped_wait position verdict]
      intro stamp member
      cases member
  | skip buffer rest verdict ih =>
      have shorter := scanner.skip_lt verdict
      rw [scanner.stamped_skip position verdict, scanner.run_skip verdict]
      intro stamp member
      have inside := ih _ stamp member
      omega
  | emit buffer token rest verdict ih =>
      obtain ⟨dropped, rfl⟩ := cutting.emit verdict
      rw [scanner.stamped_emit position verdict, scanner.run_emit verdict]
      have kept := scanner.keep_le rest
      simp only [List.length_append] at ih ⊢
      intro stamp member
      rcases List.mem_cons.mp member with rfl | later
      · show position + token.length ≤ position + _ ∧ position + _ + _ ≤ _
        omega
      · have inside := ih _ stamp later
        omega

/-- **The tokens lie one behind the other.** -/
theorem Cutting.stamped_ordered (cutting : scanner.Cutting) (position : Nat) (buffer : List α) :
    (scanner.stamped position buffer).1.Pairwise fun first second =>
      first.1 + second.2.length ≤ second.1 := by
  induction buffer using scanner.induct generalizing position with
  | wait buffer keep verdict =>
      rw [scanner.stamped_wait position verdict]
      exact List.Pairwise.nil
  | skip buffer rest verdict ih =>
      rw [scanner.stamped_skip position verdict]
      exact ih _
  | emit buffer token rest verdict ih =>
      rw [scanner.stamped_emit position verdict]
      exact List.Pairwise.cons (fun stamp later => (cutting.stamped_inside _ rest stamp later).1)
        (ih _)

end Cutting

/-- What holds of every token a look emits holds of every token of a run. -/
theorem mem_run (scanner : Scanner α τ) {property : τ → Prop}
    (each : ∀ {buffer token rest}, scanner.look buffer = .emit token rest → property token)
    (buffer : List α) : ∀ token ∈ (scanner.run buffer).1, property token := by
  induction buffer using scanner.induct with
  | wait buffer keep verdict =>
      rw [scanner.run_wait verdict]
      intro token member
      cases member
  | skip buffer rest verdict ih => rwa [scanner.run_skip verdict]
  | emit buffer token rest verdict ih =>
      rw [scanner.run_emit verdict]
      intro other member
      rcases List.mem_cons.mp member with rfl | later
      · exact each verdict
      · exact ih other later

end Scanner

end Stgs.Theory
