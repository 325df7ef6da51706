import RunnerAtlas.Proofs.Pattern.Excess
import RunnerAtlas.Proofs.Pattern.Literal

set_option relaxedAutoImplicit false
set_option autoImplicit false

/-!
# Bounds that are too large

A text in which a bound of a repetition is too large, or has too many digits, is refused for that
bound whatever follows it, as soon as the pieces before it stand for characters.

## Main results

* `RunnerAtlas.Pattern.run_takeUpTo` — taking a run of characters up to a piece that ends it.
* `RunnerAtlas.Pattern.run_readBraces_of_large` — reading a bound that is too large.
* `RunnerAtlas.Pattern.compile_of_large_bound` — the error of such a text.
-/

namespace RunnerAtlas.Pattern

open Decimal

variable {r : Reader}

/-- Taking characters of a list stops at a character that is none of them.

**Proof sketch.** Induction on the characters, each of which is the next piece when its turn
comes. -/
lemma run_takeUpTo {allowed cs : List Char} (h : ∀ c ∈ cs, c ∈ allowed) {stop : Char}
    (hstop : stop ∉ allowed) {rest : List Lexeme}
    (hr : r.rest = cs.map .plain ++ .plain stop :: rest) {n : Nat} (hn : cs.length ≤ n) :
    ∃ position, (takeUpTo allowed n).run r =
      .ok (cs, { r with rest := .plain stop :: rest, position := position }) := by
  induction cs generalizing r n with
  | nil =>
    have hstate : { r with rest := .plain stop :: rest } = r := by cases r; cases hr; rfl
    refine ⟨r.position, ?_⟩
    rw [hstate]
    cases n with
    | zero => rfl
    | succ n =>
      have hhead : r.rest.head? = some (.plain stop) := by rw [hr]; rfl
      rw [takeUpTo, run_bind_of_ok (run_peek r), hhead]
      simp only [List.contains_iff_mem, hstop, ↓reduceIte]
      rfl
  | cons c cs ih =>
    obtain ⟨n, rfl⟩ : ∃ m, n = m + 1 := ⟨n - 1, by simp at hn; omega⟩
    have hhead : r.rest.head? = some (.plain c) := by rw [hr]; rfl
    have hc : c ∈ allowed := h c (by simp)
    have hd : cs.map .plain ++ .plain stop :: rest ≠ [.dangling] := by cases cs <;> simp
    obtain ⟨position, hrun⟩ := ih (fun d hd => h d (by simp [hd])) (n := n)
      (r := { r with
        rest := cs.map .plain ++ .plain stop :: rest
        position := r.position + (Lexeme.plain c).length }) rfl (by simpa using hn)
    refine ⟨position, ?_⟩
    rw [List.map_cons, List.cons_append] at hr
    rw [takeUpTo, run_bind_of_ok (run_peek r), hhead]
    simp only [List.contains_iff_mem, hc, ↓reduceIte]
    rw [run_bind_of_ok (run_next hr hd), run_bind_of_ok hrun]
    rfl

/-- The error for a bound that cannot be kept. -/
def boundError (bound : List Char) : PatternError :=
  if maxDigits < bound.length then .number (.tooManyDigits bound.length) else .repetitionTooLarge

/-- A bound with too many digits, or one that reaches the largest one, is an error. -/
lemma run_boundOf_of_large {bound : List Char} (hne : bound ≠ []) (h : ∀ c ∈ bound, c ∈ digits)
    (hlarge : maxDigits < bound.length ∨ maxRepeat ≤ spelled 10 bound) :
    (boundOf bound).run r = .error (boundError bound) := by
  rw [boundOf_of_digits hne h, boundError]
  split
  · rfl
  · rename_i hshort
    rw [if_pos (hlarge.resolve_left hshort)]
    rfl

variable {bound : List Char} {rest : List Lexeme}

/-- Reading a single bound between braces that is too large is an error. -/
lemma run_readBraces_of_large (hne : bound ≠ []) (h : ∀ c ∈ bound, c ∈ digits)
    (hlarge : maxDigits < bound.length ∨ maxRepeat ≤ spelled 10 bound)
    (hr : r.rest = bound.map .plain ++ .plain '\x7d' :: rest) (hd : rest ≠ [.dangling]) :
    readBraces.run r = .error (boundError bound) := by
  have hbrace : r.rest.head? ≠ some (.plain '\x7d') := by
    obtain ⟨c, cs, rfl⟩ := List.exists_cons_of_ne_nil hne
    rw [hr]
    rintro ⟨⟩
    exact absurd (h '\x7d' (by simp)) (by decide)
  obtain ⟨position, htake⟩ := run_takeUpTo h (show '\x7d' ∉ digits by decide) hr
    (n := r.rest.length) (by simp [hr])
  have hall : (takeAll digits).run r =
      .ok (bound, { r with rest := .plain '\x7d' :: rest, position := position }) := by
    unfold takeAll
    rw [run_bind_of_ok (run_get r), htake]
  unfold readBraces
  rw [run_bind_of_ok (run_get r), if_neg hbrace, run_bind_of_ok hall,
    run_bind_of_ok (run_accept_of_ne (by simp))]
  simp only [Bool.false_eq_true, ↓reduceIte, pure_bind]
  rw [run_bind_of_ok (run_accept rfl hd)]
  simp only [↓reduceIte]
  rw [run_bind_of_error (run_boundOf_of_large hne h hlarge)]

/-- A sequence that goes on with a bound that is too large ends there. -/
lemma run_readSequence_of_large (hne : bound ≠ []) (h : ∀ c ∈ bound, c ∈ digits)
    (hlarge : maxDigits < bound.length ∨ maxRepeat ≤ spelled 10 bound)
    (hr : r.rest = .plain '\x7b' :: (bound.map .plain ++ .plain '\x7d' :: rest))
    (hd : rest ≠ [.dangling]) (fuel : Nat) (isFirst : Bool) (items : List Item) :
    (readSequence (fuel + 1) false isFirst items).run r = .error (boundError bound) := by
  have hnext : bound.map .plain ++ .plain '\x7d' :: rest ≠ [.dangling] := by cases bound <;> simp
  have hend : (Lexeme.plain '\x7b').isIn ['|', ')'] = false := by decide
  rw [readSequence, run_bind_of_ok (run_peek r), hr]
  simp only [List.head?_cons, hend, Bool.false_eq_true, ↓reduceIte]
  rw [run_bind_of_ok (run_next hr hnext), run_bind_of_ok (run_get _)]
  simp only [Bool.false_and, Bool.false_eq_true, ↓reduceIte]
  split
  case h_6 =>
    rw [if_pos (by simp)]
    exact run_bind_of_error (run_readBraces_of_large hne h hlarge rfl hd)
  all_goals rename_i heq; exact absurd heq (by decide)

/-- Reading comes to such a bound after pieces that stand for characters.

**Proof sketch.** Induction on the pieces, each of which is taken by one call of the reader. -/
lemma run_readSequence_pieces_of_large (hne : bound ≠ []) (h : ∀ c ∈ bound, c ∈ digits)
    (hlarge : maxDigits < bound.length ∨ maxRepeat ≤ spelled 10 bound) (hd : rest ≠ [.dangling])
    {ls : List Lexeme} {cs : List Char} (hls : List.Forall₂ Lexeme.StandsFor ls cs)
    (hr : r.rest = ls ++ .plain '\x7b' :: (bound.map .plain ++ .plain '\x7d' :: rest)) {fuel : Nat}
    (hfuel : ls.length < fuel) (isFirst : Bool) (items : List Item) :
    (readSequence fuel false isFirst items).run r = .error (boundError bound) := by
  induction hls generalizing r fuel items with
  | nil =>
    obtain ⟨fuel, rfl⟩ : ∃ n, fuel = n + 1 := ⟨fuel - 1, by simp at hfuel; omega⟩
    exact run_readSequence_of_large hne h hlarge hr hd fuel isFirst items
  | @cons l c ls cs hl hls ih =>
    obtain ⟨fuel, rfl⟩ : ∃ n, fuel = n + 1 := ⟨fuel - 1, by simp at hfuel; omega⟩
    have hnext : ls ++ .plain '\x7b' :: (bound.map .plain ++ .plain '\x7d' :: rest) ≠
        [.dangling] := by cases ls <;> simp
    rw [run_readSequence_cons hl hr hnext]
    exact ih rfl (by simpa using hfuel) _

/-- **Bounds that are too large.** If pieces that stand for characters, and then a bound between
braces that is too large, begin a text, the text is refused for that bound.

**Proof sketch.** The reader takes the pieces (`run_readSequence_pieces_of_large`), the brace and
the digits of the bound, and finds the closing brace. The bound is looked at then, before anything
that follows it. -/
theorem compile_of_large_bound (hne : bound ≠ []) (h : ∀ c ∈ bound, c ∈ digits)
    (hlarge : maxDigits < bound.length ∨ maxRepeat ≤ spelled 10 bound) (hd : rest ≠ [.dangling])
    {ls : List Lexeme} {cs : List Char} (hls : List.Forall₂ Lexeme.StandsFor ls cs)
    {text : List Char}
    (htext : Lexeme.cut text =
      ls ++ .plain '\x7b' :: (bound.map .plain ++ .plain '\x7d' :: rest))
    {flags : Flags} (hverbose : flags.verbose = false) :
    compile text flags = .error (boundError bound) := by
  have hstart : (Reader.start text flags).rest ≠ [.dangling] := by
    simp only [Reader.start, htext]
    cases ls <;> simp
  have hv : (Reader.start text flags).flags.verbose = false := hverbose
  have hsequence : (readSequence (3 * (Reader.start text flags).rest.length + 3) false true []).run
      (Reader.start text flags) = .error (boundError bound) := by
    refine run_readSequence_pieces_of_large hne h hlarge hd hls htext ?_ true []
    simp only [Reader.start, htext, List.length_append]
    omega
  have hread : readPattern.run (Reader.start text flags) = .error (boundError bound) := by
    unfold readPattern
    rw [run_bind_of_ok (run_checkNext hstart), run_bind_of_ok (run_get _),
      run_bind_of_ok (run_get _), hv]
    refine run_bind_of_error ?_
    rw [readBranches]
    exact run_bind_of_error hsequence
  rw [compile, hread]
  rfl

end RunnerAtlas.Pattern
