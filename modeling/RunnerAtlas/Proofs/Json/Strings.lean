import Mathlib.Data.List.TakeWhile
import RunnerAtlas.Proofs.Document.Taking
import RunnerAtlas.Proofs.Json.Grammar
import RunnerAtlas.Proofs.Pattern.Digits

set_option relaxedAutoImplicit false
set_option autoImplicit false

/-!
# JSON strings in a document

A string of a JSON text is a quoted scalar of a document, which folds the ends of lines in it. Only
characters that JSON leaves as they are can make a difference: those that a document may not hold,
and those that end a line in a document but not in JSON.

## Main definitions

* `RunnerAtlas.Json.Piece.IsPortable` — the pieces that both formats read alike.
* `RunnerAtlas.Json.KeepsLines` — no separator of lines is lost in a string.

## Main results

* `RunnerAtlas.Json.takes_quotedScalar` — a string is read as the text that it stands for.
-/

namespace RunnerAtlas.Json

open Document RunnerAtlas.Text

/-! ### Pieces -/

namespace Piece

/-- The pieces that both formats read alike. A next-line character counts as an end of line in a
document, and a pair of surrogates as two code points. -/
def IsPortable : Piece → Prop
  | raw c _ => isAllowed c = true ∧ c ≠ '\x85'
  | letter _ _ => True
  | code _ _ => True
  | pair _ _ _ _ => False

/-- Whether a piece is a space. -/
def isSpace : Piece → Bool
  | raw c _ => c == ' '
  | _ => false

/-- Whether a piece is a separator of lines or paragraphs. -/
def isSeparator : Piece → Bool
  | raw c _ => c == '\u2028' || c == '\u2029'
  | _ => false

/-- Whether a piece is neither a space nor a separator. -/
def isSolid (p : Piece) : Bool := !p.isSpace && !p.isSeparator

/-- The first character of a piece. -/
lemma exists_chars (p : Piece) : ∃ c cs, p.chars = c :: cs ∧ c ≠ '"' := by
  cases p with
  | raw c h => exact ⟨c, [], rfl, h.2.1⟩
  | letter entry _ => exact ⟨'\\', [entry.1], rfl, by decide⟩
  | code digits _ => exact ⟨'\\', 'u' :: digits.val, rfl, by decide⟩
  | pair high low _ _ => exact ⟨'\\', _, rfl, by decide⟩

/-- A space is one character. -/
lemma chars_of_isSpace {p : Piece} (h : p.isSpace = true) : p.chars = [' '] ∧ p.char = ' ' := by
  cases p with
  | raw c _ =>
    have hc : c = ' ' := by simpa [isSpace] using h
    exact ⟨by rw [chars, hc], hc⟩
  | _ => cases h

/-- A separator is one character, which ends a line in a document and is kept there. -/
lemma chars_of_isSeparator {p : Piece} (h : p.isSeparator = true) :
    p.chars = [p.char] ∧ isBreak p.char = true ∧ p.char ≠ '\x85' ∧ p.char ≠ '\n' := by
  cases p with
  | raw c _ =>
    have hc : c = '\u2028' ∨ c = '\u2029' := by simpa [isSeparator] using h
    show [c] = [c] ∧ isBreak c = true ∧ c ≠ '\x85' ∧ c ≠ '\n'
    rcases hc with rfl | rfl <;> decide
  | _ => cases h

/-- A portable piece that is neither a space nor a separator does not begin with what ends a word in
a document. -/
lemma head_of_isSolid {p : Piece} (hp : p.IsPortable) (hsolid : p.isSolid = true) :
    ∀ c ∈ p.chars.head?, c ≠ ' ' ∧ c ≠ '\t' ∧ isBreak c = false := by
  cases p with
  | raw c h =>
    have hlow := h.1
    have hother : c ≠ ' ' ∧ c ≠ '\u2028' ∧ c ≠ '\u2029' := by
      simpa [isSolid, isSpace, isSeparator] using hsolid
    have htab : c ≠ '\t' := by rintro rfl; exact absurd hlow (by decide)
    have hnewline : c ≠ '\n' := by rintro rfl; exact absurd hlow (by decide)
    have hnext : c ≠ '\x85' := hp.2
    simp [chars, isBreak, hother, htab, hnewline, hnext]
  | letter entry _ => simp [chars, isBreak]
  | code digits _ => simp [chars, isBreak]
  | pair high low _ _ => simp [chars, isBreak]

end Piece

/-- No separator of lines stands beside a space, which would be dropped, or before what a document
takes for the mark of its start or end. -/
def KeepsLines : List Piece → Prop
  | [] => True
  | p :: rest =>
    (p.isSeparator = true → (∀ q ∈ rest.head?, q.isSpace = false) ∧
      startsMark (charsOf rest ++ ['"']) = false) ∧
    (p.isSpace = true → ∀ q ∈ rest.head?, q.isSeparator = false) ∧ KeepsLines rest

/-- What a string ends with keeps its separators if the string does. -/
lemma KeepsLines.of_append {ps qs : List Piece} (h : KeepsLines (ps ++ qs)) : KeepsLines qs := by
  induction ps with
  | nil => exact h
  | cons p ps ih => exact ih h.2.2

/-- A mark is not affected by what comes after a quote. -/
lemma startsMark_quote (cs tail : List Char) :
    startsMark (cs ++ '"' :: tail) = startsMark (cs ++ ['"']) := by
  rcases cs with _ | ⟨a, _ | ⟨b, _ | ⟨c, _ | ⟨d, cs⟩⟩⟩⟩ <;> simp [startsMark]

/-- A mark starts with a hyphen or a point. -/
lemma startsMark_cons {c : Char} (hc : c ≠ '-' ∧ c ≠ '.') (cs : List Char) :
    startsMark (c :: cs) = false := by
  simp [startsMark, hc]

/-! ### Runs of pieces -/

/-- The characters of pieces one after the other. -/
lemma charsOf_append (ps qs : List Piece) : charsOf (ps ++ qs) = charsOf ps ++ charsOf qs := by
  simp [charsOf]

/-- A string has at least as many characters as pieces. -/
lemma length_le_charsOf (ps : List Piece) : ps.length ≤ (charsOf ps).length := by
  induction ps with
  | nil => exact Nat.zero_le _
  | cons p ps ih =>
    obtain ⟨c, cs, hp, -⟩ := p.exists_chars
    simp only [charsOf, List.flatMap_cons, hp, List.length_append, List.length_cons] at ih ⊢
    omega

/-- Pieces of one character each are spelled by these. -/
lemma charsOf_eq_map {ps : List Piece} (h : ∀ p ∈ ps, p.chars = [p.char]) :
    charsOf ps = ps.map Piece.char := by
  induction ps with
  | nil => rfl
  | cons p ps ih =>
    rw [charsOf, List.flatMap_cons, h p (by simp), List.map_cons, List.singleton_append]
    exact congrArg _ (ih fun q hq => h q (by simp [hq]))

/-- An escape by number stands for the character of its number, if that is no surrogate. -/
lemma takes_escapedCode {digits : Hex} (h : ¬ (0xd800 ≤ digits.code ∧ digits.code < 0xe000))
    (tail : List Char) :
    Takes (escapedCode 4) digits.val tail (Char.ofNat digits.code) :=
  .get_bind fun f hf => by
    have hlength := digits.2.1
    have htake : f.rest.take 4 = digits.val := by rw [hf, List.take_left' hlength]
    have hcode : digits.code < 16 ^ digits.val.length := Pattern.spelled_lt (by decide) digits.val
    rw [hlength] at hcode
    have hdigits : (digits.val.all fun c => (Digit.plainValue? 16 c).isSome) = true :=
      List.all_eq_true.mpr digits.2.2
    rw [htake, if_neg (by simp only [hlength, hdigits]; decide)]
    show Takes (if 0x7fffffff < digits.code then _
      else if 0x10ffff < digits.code then _
      else if 0xd800 ≤ digits.code ∧ digits.code < 0xe000 then _ else _) _ _ _
    rw [if_neg (by omega), if_neg (by omega), if_neg h]
    exact (takes_skip digits.val tail hlength).bind_pure fun _ => Char.ofNat digits.code

/-- An escape of one letter stands for its character. -/
lemma takes_quotedEscape_letter {entry : Char × Char} (h : entry ∈ letterEscapes)
    (tail : List Char) : Takes quotedEscape [entry.1] tail [entry.2] := by
  have hletter : ∀ entry ∈ letterEscapes, letterEscape? entry.1 = some entry.2 := by decide
  refine (takes_look _).bind_nil ?_
  have hskip := (takes_skip [entry.1] tail rfl).bind_pure fun _ => [entry.2]
  simpa [hletter entry h] using hskip

/-- An escape by number stands for the character of its number, if that is no surrogate. -/
lemma takes_quotedEscape_code {digits : Hex}
    (h : ¬ (0xd800 ≤ digits.code ∧ digits.code < 0xe000)) (tail : List Char) :
    Takes quotedEscape ('u' :: digits.val) tail [Char.ofNat digits.code] := by
  refine (takes_look _).bind_nil ?_
  show Takes (do skip 1; return [← escapedCode 4]) (['u'] ++ digits.val) tail _
  exact (takes_skip ['u'] _ rfl).bind ((takes_escapedCode h tail).bind_pure fun c => [c])

/-- A piece at the start of a run of characters in quotes stands for its character. -/
lemma takes_quotedChars_cons {p : Piece} (hp : p.IsPortable) (hsolid : p.isSolid = true)
    {fuel : Nat} {cs tail ds : List Char} (h : Takes (quotedChars true fuel) cs tail ds) :
    Takes (quotedChars true (fuel + 1)) (p.chars ++ cs) tail (p.char :: ds) := by
  have hhead := p.head_of_isSolid hp hsolid
  have hescape : ∀ {escape : List Char} {c : Char}, Takes quotedEscape escape (cs ++ tail) [c] →
      Takes (do skip 1; let escaped ← quotedEscape; return escaped ++ (← quotedChars true fuel))
        (['\\'] ++ (escape ++ cs)) tail (c :: ds) := fun {_ c} hc =>
    (takes_skip ['\\'] _ rfl).bind (hc.bind (h.bind_pure fun ds => [c] ++ ds))
  unfold quotedChars
  refine (takes_look _).bind_nil ?_
  cases p with
  | raw c hc =>
    obtain ⟨hspace, htab, hbreak⟩ := hhead c rfl
    have hskip : Takes (do skip 1; return c :: (← quotedChars true fuel)) ([c] ++ cs) tail
        (c :: ds) := (takes_skip [c] _ rfl).bind (h.bind_pure fun ds => c :: ds)
    by_cases hquote : c = '\''
    · subst hquote
      exact hskip
    · simpa [Piece.chars, Piece.char, hspace, htab, hbreak, hquote, hc.2.1, hc.2.2] using hskip
  | letter entry hentry => exact hescape (takes_quotedEscape_letter hentry _)
  | code digits hcode => exact hescape (takes_quotedEscape_code hcode _)
  | pair high low _ _ => exact hp.elim

/-- A run of characters in quotes ends at a blank, an end of line, or a quote. -/
lemma takes_quotedChars {ps : List Piece} {c : Char} {tail : List Char}
    (hps : ∀ p ∈ ps, p.IsPortable ∧ p.isSolid = true) (hc : c = ' ' ∨ isBreak c = true ∨ c = '"')
    {fuel : Nat} (hfuel : ps.length < fuel) :
    Takes (quotedChars true fuel) (charsOf ps) (c :: tail) (ps.map Piece.char) := by
  induction ps generalizing fuel with
  | nil =>
    obtain ⟨fuel, rfl⟩ : ∃ n, fuel = n + 1 := ⟨fuel - 1, by simp at hfuel; omega⟩
    unfold quotedChars
    refine (takes_look _).bind_nil ?_
    by_cases hblank : (c == ' ' || c == '\t' || isBreak c) = true
    · show Takes (if (c == ' ' || c == '\t' || isBreak c) = true then _ else _) _ _ _
      rw [if_pos hblank]
      exact takes_pure _ _
    · obtain rfl : c = '"' := by
        rcases hc with rfl | hc | rfl
        · exact absurd rfl hblank
        · simp [hc] at hblank
        · rfl
      exact takes_pure _ _
  | cons p ps ih =>
    obtain ⟨fuel, rfl⟩ : ∃ n, fuel = n + 1 := ⟨fuel - 1, by simp at hfuel; omega⟩
    obtain ⟨hp, hsolid⟩ := hps p (by simp)
    exact takes_quotedChars_cons hp hsolid
      (ih (fun q hq => hps q (by simp [hq])) (by simpa using hfuel))

/-! ### Blanks -/

/-- Spaces in quotes stay if no end of line follows. -/
lemma takes_quotedBlanks_spaces {ps : List Piece} {c : Char} {tail : List Char}
    (hps : ∀ p ∈ ps, p.isSpace = true) (hc : c ≠ ' ' ∧ c ≠ '\t' ∧ isBreak c = false) :
    Takes quotedBlanks (charsOf ps) (c :: tail) (ps.map Piece.char) := by
  have hchars : charsOf ps = ps.map Piece.char := charsOf_eq_map fun p hp => by
    obtain ⟨hchars, hchar⟩ := p.chars_of_isSpace (hps p hp)
    rw [hchars, hchar]
  have hspaces : ∀ d ∈ ps.map Piece.char, (d == ' ' || d == '\t') = true := by
    intro d hd
    obtain ⟨p, hp, rfl⟩ := List.mem_map.mp hd
    simp [(p.chars_of_isSpace (hps p hp)).2]
  rw [hchars]
  unfold quotedBlanks
  refine (takes_takeWhile hspaces (by simp [hc])).bind_last ?_
  refine (takes_look _).bind_nil ?_
  exact (takes_takeBreak_none (by simp [hc])).bind_nil (takes_pure _ _)

/-- Separators of lines in quotes stay if no mark of a document's start or end follows. -/
lemma takes_quotedBreaks {ps : List Piece} {c : Char} {tail : List Char}
    (hps : ∀ p ∈ ps, p.isSeparator = true) (hc : c ≠ ' ' ∧ c ≠ '\t' ∧ isBreak c = false)
    (hmark : startsMark (c :: tail) = false) {fuel : Nat} (hfuel : ps.length < fuel) :
    Takes (quotedBreaks fuel) (charsOf ps) (c :: tail) (ps.map Piece.char) := by
  induction ps generalizing fuel with
  | nil =>
    obtain ⟨k, rfl⟩ := Nat.exists_eq_add_of_lt hfuel
    unfold quotedBreaks
    refine (takes_atMark _).bind_nil ?_
    show Takes (if startsMark (c :: tail) = true then _ else _) [] _ _
    rw [if_neg (by simp [hmark])]
    refine (takes_takeWhile (by simp) (by simp [hc])).bind_nil ?_
    exact (takes_takeBreak_none (by simp [hc])).bind_nil (takes_pure _ _)
  | cons p ps ih =>
    obtain ⟨k, rfl⟩ := Nat.exists_eq_add_of_lt hfuel
    obtain ⟨hchars, hbreak, hnext, -⟩ := p.chars_of_isSeparator (hps p (by simp))
    have hdash : p.char ≠ '-' ∧ p.char ≠ '.' ∧ p.char ≠ ' ' ∧ p.char ≠ '\t' := by
      refine ⟨?_, ?_, ?_, ?_⟩ <;> intro h <;> rw [h] at hbreak <;> exact absurd hbreak (by decide)
    have htail := ih (fun q hq => hps q (by simp [hq]))
      (show ps.length < (p :: ps).length + k by rw [List.length_cons]; omega)
    have hcons : charsOf (p :: ps) = [p.char] ++ charsOf ps := by
      rw [charsOf, List.flatMap_cons, hchars]
      rfl
    unfold quotedBreaks
    rw [hcons]
    refine (takes_atMark _).bind_nil ?_
    show Takes (if startsMark (p.char :: _) = true then _ else _) _ _ _
    rw [if_neg (by simp [startsMark_cons ⟨hdash.1, hdash.2.1⟩])]
    refine (takes_takeWhile (by simp) (by simp [hdash])).bind_nil ?_
    refine (takes_takeBreak _ hbreak).bind ?_
    rw [if_neg hnext]
    exact htail.bind_pure fun ds => p.char :: ds

/-- Separators of lines in quotes stay where no mark of a document's start or end follows. -/
lemma takes_quotedBlanks_separators {p : Piece} {ps : List Piece} {c : Char} {tail : List Char}
    (hp : p.isSeparator = true) (hps : ∀ q ∈ ps, q.isSeparator = true)
    (hc : c ≠ ' ' ∧ c ≠ '\t' ∧ isBreak c = false) (hmark : startsMark (c :: tail) = false) :
    Takes quotedBlanks (charsOf (p :: ps)) (c :: tail) ((p :: ps).map Piece.char) := by
  obtain ⟨hchars, hbreak, hnext, hline⟩ := p.chars_of_isSeparator hp
  have hblank : p.char ≠ ' ' ∧ p.char ≠ '\t' := by
    refine ⟨?_, ?_⟩ <;> intro h <;> rw [h] at hbreak <;> exact absurd hbreak (by decide)
  have hcons : charsOf (p :: ps) = [p.char] ++ charsOf ps := by
    rw [charsOf, List.flatMap_cons, hchars]
    rfl
  unfold quotedBlanks
  rw [hcons]
  refine (takes_takeWhile (by simp) (by simp [hblank])).bind_nil ?_
  refine (takes_look _).bind_nil ?_
  refine (takes_takeBreak _ hbreak).bind ?_
  rw [if_neg hnext]
  refine (takes_remaining _).bind_nil ?_
  have hfuel : ps.length < (charsOf ps ++ c :: tail).length + 1 := by
    have := length_le_charsOf ps
    rw [List.length_append]
    omega
  have h := (takes_quotedBreaks hps hc hmark hfuel).bind_pure (folded p.char)
  rwa [folded, if_pos hline] at h

/-! ### Whole strings -/

/-- Pieces of which the first one is neither a space nor a separator do not begin with what ends a
word in a document, and neither does the quote after them. -/
lemma exists_head_of_isSolid {ps : List Piece} (hps : ∀ p ∈ ps, p.IsPortable)
    (hsolid : ∀ p ∈ ps.head?, p.isSolid = true) (tail : List Char) :
    ∃ c cs, charsOf ps ++ '"' :: tail = c :: cs ∧ c ≠ ' ' ∧ c ≠ '\t' ∧ isBreak c = false := by
  cases ps with
  | nil => exact ⟨'"', tail, rfl, by decide⟩
  | cons p ps =>
    obtain ⟨c, cs, hchars, -⟩ := p.exists_chars
    have hhead := p.head_of_isSolid (hps p (by simp)) (hsolid p rfl) c (by simp [hchars])
    exact ⟨c, cs ++ (charsOf ps ++ '"' :: tail), by simp [charsOf, hchars], hhead⟩

/-- Pieces of which the first one is a space or a separator begin with what ends a run of characters
in quotes, and so does the quote after them. -/
lemma exists_head_of_not_isSolid {ps : List Piece} (h : ∀ p ∈ ps.head?, p.isSolid = false)
    (tail : List Char) :
    ∃ c cs, charsOf ps ++ '"' :: tail = c :: cs ∧ (c = ' ' ∨ isBreak c = true ∨ c = '"') := by
  cases ps with
  | nil => exact ⟨'"', tail, rfl, by simp⟩
  | cons p ps =>
    have hp : p.isSpace = true ∨ p.isSeparator = true := by
      simpa [Piece.isSolid, or_iff_not_imp_left] using h p rfl
    rcases hp with hspace | hseparator
    · obtain ⟨hchars, -⟩ := p.chars_of_isSpace hspace
      exact ⟨' ', charsOf ps ++ '"' :: tail, by simp [charsOf, hchars], .inl rfl⟩
    · obtain ⟨hchars, hbreak, -⟩ := p.chars_of_isSeparator hseparator
      exact ⟨p.char, charsOf ps ++ '"' :: tail, by simp [charsOf, hchars], .inr (.inl hbreak)⟩

/-- What follows a run of pieces of one kind is not of that kind. -/
lemma head_dropWhile (test : Piece → Bool) (ps : List Piece) :
    ∀ q ∈ (ps.dropWhile test).head?, test q = false := by
  intro q hq
  have h := List.head?_dropWhile_not test ps
  rw [Option.mem_def.mp hq] at h
  simpa using h

/-- The last piece of a run of one kind says what may follow the run. -/
lemma exists_last_of_run {p : Piece} {ps : List Piece} {test : Piece → Bool} (htest : test p = true)
    (hkeeps : KeepsLines (p :: ps)) :
    ∃ q, test q = true ∧ KeepsLines (q :: ps.dropWhile test) := by
  have hsplit : p :: ps = (p :: ps.takeWhile test) ++ ps.dropWhile test := by
    rw [List.cons_append, List.takeWhile_append_dropWhile]
  obtain ⟨init, q, hinit⟩ := (List.eq_nil_or_concat (p :: ps.takeWhile test)).resolve_left (by simp)
  refine ⟨q, ?_, ?_⟩
  · have hq : q ∈ p :: ps.takeWhile test := by rw [hinit]; simp
    rcases List.mem_cons.mp hq with rfl | hq
    · exact htest
    · exact List.mem_takeWhile_imp hq
  · rw [hsplit, hinit, List.concat_eq_append, List.append_assoc] at hkeeps
    exact hkeeps.of_append

/-- Spaces at a place in a string stay, up to a piece that is no blank. -/
lemma takes_run_of_isSpace {p : Piece} {ps : List Piece} (hps : ∀ q ∈ ps, q.IsPortable)
    (hp : p.isSpace = true)
    (hsolid : ∀ q ∈ (ps.dropWhile Piece.isSpace).head?, q.isSolid = true) (tail : List Char) :
    Takes quotedBlanks (charsOf (p :: ps.takeWhile Piece.isSpace))
      (charsOf (ps.dropWhile Piece.isSpace) ++ '"' :: tail)
      ((p :: ps.takeWhile Piece.isSpace).map Piece.char) := by
  have hnext : ∀ q ∈ ps.dropWhile Piece.isSpace, q.IsPortable :=
    fun q hq => hps q ((List.dropWhile_sublist _).subset hq)
  obtain ⟨c, cs, hc, hhead⟩ := exists_head_of_isSolid hnext hsolid tail
  rw [hc]
  refine takes_quotedBlanks_spaces (fun q hq => ?_) hhead
  rcases List.mem_cons.mp hq with rfl | hq
  · exact hp
  · exact List.mem_takeWhile_imp hq

/-- Separators of lines at a place in a string stay, up to a piece that is no blank and begins no
mark. -/
lemma takes_run_of_isSeparator {p : Piece} {ps : List Piece} (hps : ∀ q ∈ ps, q.IsPortable)
    (hp : p.isSeparator = true)
    (hsolid : ∀ q ∈ (ps.dropWhile Piece.isSeparator).head?, q.isSolid = true)
    (hmark : startsMark (charsOf (ps.dropWhile Piece.isSeparator) ++ ['"']) = false)
    (tail : List Char) :
    Takes quotedBlanks (charsOf (p :: ps.takeWhile Piece.isSeparator))
      (charsOf (ps.dropWhile Piece.isSeparator) ++ '"' :: tail)
      ((p :: ps.takeWhile Piece.isSeparator).map Piece.char) := by
  have hnext : ∀ q ∈ ps.dropWhile Piece.isSeparator, q.IsPortable :=
    fun q hq => hps q ((List.dropWhile_sublist _).subset hq)
  obtain ⟨c, cs, hc, hhead⟩ := exists_head_of_isSolid hnext hsolid tail
  rw [← startsMark_quote _ tail, hc] at hmark
  rw [hc]
  exact takes_quotedBlanks_separators hp (fun q hq => List.mem_takeWhile_imp hq) hhead hmark

/-- The blanks at a place in a string, of which there may be none, stay.

**Proof sketch.** The blanks are of one kind, since a separator and a space beside each other are
not kept: spaces (`takes_run_of_isSpace`) or separators (`takes_run_of_isSeparator`), up to the
first piece of another kind. -/
lemma exists_blanks {p : Piece} {ps : List Piece} (hps : ∀ q ∈ p :: ps, q.IsPortable)
    (hkeeps : KeepsLines (p :: ps)) :
    ∃ run next, p :: ps = run ++ next ∧ (∀ q ∈ next.head?, q.isSolid = true) ∧
      (run = [] → p.isSolid = true) ∧ ∀ tail,
        Takes quotedBlanks (charsOf run) (charsOf next ++ '"' :: tail) (run.map Piece.char) := by
  have hsplit (test : Piece → Bool) : p :: ps = (p :: ps.takeWhile test) ++ ps.dropWhile test := by
    rw [List.cons_append, List.takeWhile_append_dropWhile]
  have hrest : ∀ q ∈ ps, q.IsPortable := fun q hq => hps q (List.mem_cons_of_mem _ hq)
  by_cases hspace : p.isSpace = true
  · obtain ⟨q, hq, -, hfollow, -⟩ := exists_last_of_run hspace hkeeps
    have hsolid : ∀ r ∈ (ps.dropWhile Piece.isSpace).head?, r.isSolid = true := fun r hr => by
      simp [Piece.isSolid, head_dropWhile _ ps r hr, hfollow hq r hr]
    exact ⟨_, _, hsplit Piece.isSpace, hsolid, by simp, takes_run_of_isSpace hrest hspace hsolid⟩
  by_cases hseparator : p.isSeparator = true
  · obtain ⟨q, hq, hfollow, -, -⟩ := exists_last_of_run hseparator hkeeps
    obtain ⟨hnospace, hmark⟩ := hfollow hq
    have hsolid : ∀ r ∈ (ps.dropWhile Piece.isSeparator).head?, r.isSolid = true := fun r hr => by
      simp [Piece.isSolid, head_dropWhile _ ps r hr, hnospace r hr]
    exact ⟨_, _, hsplit Piece.isSeparator, hsolid, by simp,
      takes_run_of_isSeparator hrest hseparator hsolid hmark⟩
  · have hsolid : p.isSolid = true := by simp [Piece.isSolid, hspace, hseparator]
    refine ⟨[], p :: ps, rfl, by simpa using hsolid, fun _ => hsolid, fun tail => ?_⟩
    obtain ⟨c, cs, hc, hhead⟩ := exists_head_of_isSolid hps (by simpa using hsolid) tail
    rw [hc]
    have hnone : ∀ q ∈ ([] : List Piece), q.isSpace = true := by simp
    exact takes_quotedBlanks_spaces hnone hhead

/-- A quote between characters belongs to those before it. -/
lemma quote_append (cs tail : List Char) : cs ++ '"' :: tail = (cs ++ ['"']) ++ tail := by simp

/-- The characters at a place in a string, up to the next blank, stay. -/
lemma exists_solids {ps : List Piece} (hps : ∀ p ∈ ps, p.IsPortable) :
    ∃ run next, ps = run ++ next ∧ (run = [] → ∀ p ∈ ps.head?, p.isSolid = false) ∧
      ∀ fuel, ps.length < fuel → ∀ tail, Takes (quotedChars true fuel) (charsOf run)
        (charsOf next ++ '"' :: tail) (run.map Piece.char) := by
  refine ⟨ps.takeWhile Piece.isSolid, ps.dropWhile Piece.isSolid,
    List.takeWhile_append_dropWhile.symm, fun hrun p hp => ?_, fun fuel hfuel tail => ?_⟩
  · cases ps with
    | nil => cases hp
    | cons q ps =>
      obtain rfl : q = p := Option.some.inj hp
      by_contra hsolid
      simp [hsolid] at hrun
  · obtain ⟨c, cs, hc, hend⟩ :=
      exists_head_of_not_isSolid (head_dropWhile Piece.isSolid ps) tail
    have hlength := (List.takeWhile_sublist Piece.isSolid (l := ps)).length_le
    rw [hc]
    exact takes_quotedChars (fun p hp => ⟨hps p ((List.takeWhile_sublist _).subset hp),
      List.mem_takeWhile_imp hp⟩) hend (by omega)

/-- Fewer pieces are left after blanks and the characters up to the next blank: there are blanks, or
else the first piece is none. -/
lemma length_lt_of_runs {p : Piece} {ps blanks solids rest : List Piece}
    (hsplit : p :: ps = blanks ++ (solids ++ rest)) (hfirst : blanks = [] → p.isSolid = true)
    (hnone : solids = [] → ∀ q ∈ (solids ++ rest).head?, q.isSolid = false) :
    rest.length < (p :: ps).length := by
  rw [hsplit]
  cases blanks with
  | cons =>
    simp only [List.length_append, List.length_cons]
    omega
  | nil =>
    cases solids with
    | cons =>
      simp only [List.length_append, List.length_cons]
      omega
    | nil =>
      rw [List.nil_append] at hsplit
      have hp := hnone rfl p (by rw [← hsplit]; rfl)
      rw [hfirst rfl] at hp
      cases hp

/-- What comes after the first characters of a string, up to its closing quote. -/
lemma takes_quotedRest {ps : List Piece} (hps : ∀ p ∈ ps, p.IsPortable) (hkeeps : KeepsLines ps)
    {fuel : Nat} (hfuel : ps.length < fuel) (tail : List Char) :
    Takes (quotedRest true fuel) (charsOf ps ++ ['"']) tail (ps.map Piece.char) := by
  induction fuel generalizing ps with
  | zero => exact absurd hfuel (Nat.not_lt_zero _)
  | succ fuel ih =>
    unfold quotedRest
    refine (takes_look _).bind_nil ?_
    cases ps with
    | nil => exact (takes_skip ['"'] tail rfl).bind_pure fun _ => []
    | cons p ps =>
      obtain ⟨c, cs, hchars, hquote⟩ := p.exists_chars
      rw [if_neg (by simp [charsOf, hchars, hquote])]
      obtain ⟨blanks, next, hsplit, hsolid, hfirst, hblanks⟩ := exists_blanks hps hkeeps
      have hnext : ∀ q ∈ next, q.IsPortable := fun q hq => hps q (by rw [hsplit]; simp [hq])
      obtain ⟨solids, rest, rfl, hnone, hsolids⟩ := exists_solids hnext
      have hrest : ∀ q ∈ rest, q.IsPortable := fun q hq => hnext q (by simp [hq])
      have hlength := length_lt_of_runs hsplit hfirst hnone
      have hlater : Takes (quotedRest true fuel) (charsOf rest ++ ['"']) tail
          (rest.map Piece.char) := by
        rw [hsplit, ← List.append_assoc] at hkeeps
        exact ih hrest hkeeps.of_append (by omega)
      have hchars : charsOf (p :: ps) ++ ['"'] =
          charsOf blanks ++ (charsOf solids ++ (charsOf rest ++ ['"'])) := by
        simp [hsplit, charsOf_append]
      have hvalue : (p :: ps).map Piece.char =
          blanks.map Piece.char ++ solids.map Piece.char ++ rest.map Piece.char := by
        simp [hsplit]
      have htail : charsOf solids ++ (charsOf rest ++ ['"']) ++ tail =
          charsOf (solids ++ rest) ++ '"' :: tail := by
        simp [charsOf_append]
      rw [hchars, hvalue]
      refine Takes.bind (htail ▸ hblanks tail) ?_
      refine (takes_remaining _).bind_nil ?_
      have hfuel : (solids ++ rest).length <
          (charsOf solids ++ (charsOf rest ++ ['"']) ++ tail).length + 1 := by
        have := length_le_charsOf (solids ++ rest)
        simp only [htail, List.length_append] at this ⊢
        omega
      have hmore := hsolids _ hfuel tail
      rw [quote_append (charsOf rest) tail] at hmore
      exact hmore.bind (hlater.bind_pure fun ds =>
        blanks.map Piece.char ++ solids.map Piece.char ++ ds)

/-- **Strings in a document.** A portable string is read as the text that it stands for. -/
theorem takes_quotedScalar {ps : List Piece} (hps : ∀ p ∈ ps, p.IsPortable)
    (hkeeps : KeepsLines ps) (tail : List Char) :
    Takes (quotedScalar true) (quoted ps) tail (textOf ps) := by
  obtain ⟨solids, rest, rfl, -, hsolids⟩ := exists_solids hps
  have hrest : ∀ q ∈ rest, q.IsPortable := fun q hq => hps q (by simp [hq])
  have hlength := length_le_charsOf (solids ++ rest)
  rw [charsOf_append, List.length_append, List.length_append] at hlength
  have hlater : Takes (do
      let others ← quotedRest true (← remaining)
      return String.ofList (solids.map Piece.char ++ others)) (charsOf rest ++ ['"']) tail
      (textOf (solids ++ rest)) := by
    refine (takes_remaining _).bind_nil ?_
    have h := (takes_quotedRest hrest hkeeps.of_append
      (show rest.length < (charsOf rest ++ ['"'] ++ tail).length + 1 by
        simp only [List.length_append]
        have := length_le_charsOf rest
        omega) tail).bind_pure fun ds => String.ofList (solids.map Piece.char ++ ds)
    rwa [← List.map_append] at h
  have hchars : quoted (solids ++ rest) = ['"'] ++ (charsOf solids ++ (charsOf rest ++ ['"'])) := by
    simp [quoted, charsOf_append]
  rw [hchars]
  refine (takes_skip ['"'] _ rfl).bind ((takes_remaining _).bind_nil ?_)
  have hmore := hsolids ((charsOf solids ++ (charsOf rest ++ ['"']) ++ tail).length + 1)
    (by simp only [List.length_append]; omega) tail
  rw [quote_append (charsOf rest) tail] at hmore
  exact hmore.bind hlater

end RunnerAtlas.Json
