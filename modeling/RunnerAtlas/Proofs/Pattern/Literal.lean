import Mathlib.Data.List.Forall2
import RunnerAtlas.Pattern.Basic
import RunnerAtlas.Proofs.Pattern.Reading

set_option relaxedAutoImplicit false
set_option autoImplicit false

/-!
# Patterns without operators

A text whose pieces all stand for one character each is read as a sequence of characters. A piece
does so if it is a character that begins no operator, or a backslash with a character that has no
other meaning after it. No flag but the one that skips blanks makes a difference to this.

## Main definitions

* `RunnerAtlas.Pattern.operatorChars` — the characters that begin an operator.
* `RunnerAtlas.Pattern.Lexeme.StandsFor` — the pieces that stand for a character.
* `RunnerAtlas.Pattern.literal` — the pattern of a sequence of characters.

## Main results

* `RunnerAtlas.Pattern.run_readSequence_cons` — what reading one piece does.
* `RunnerAtlas.Pattern.run_readSequence` — what reading all of them does.
* `RunnerAtlas.Pattern.compile_eq_literal` — the pattern of the text.
-/

namespace RunnerAtlas.Pattern

open RunnerAtlas.Text

/-! ### Pieces that stand for characters -/

/-- The characters that begin an operator outside a set, with those that end a sequence. -/
def operatorChars : List Char :=
  ['.', '^', '$', '*', '+', '?', '\x7b', '[', '\\', '|', '(', ')']

/-- A piece stands for a character. -/
inductive Lexeme.StandsFor : Lexeme → Char → Prop where
  /-- A character that begins no operator stands for itself. -/
  | plain {c : Char} (hop : c ∉ operatorChars) : StandsFor (.plain c) c
  /-- A backslash with a character that is no letter and no digit stands for the character. -/
  | escape {c : Char} (hletter : Letter.isPlainLetter c.toNat = false) (hdigit : c ∉ digits) :
    StandsFor (.escape c) c

/-- The trees of characters. -/
def charNodes (cs : List Char) : List Node := cs.map fun c => .char c.toNat

/-- The pattern of a sequence of characters. -/
def literal (cs : List Char) (flags : Flags) : Compiled := ⟨Node.ofList (charNodes cs), flags, []⟩

/-- A piece that stands for a character ends no sequence. -/
lemma Lexeme.StandsFor.isIn_end {l : Lexeme} {c : Char} (h : l.StandsFor c) :
    l.isIn ['|', ')'] = false := by
  cases h with
  | plain hop =>
    simp only [operatorChars, List.mem_cons, not_or] at hop
    simp [Lexeme.isIn, hop]
  | escape => rfl

/-- A character that is no backslash is a piece of its own. -/
lemma Lexeme.cut_cons_of_ne {c : Char} (h : c ≠ '\\') (cs : List Char) :
    Lexeme.cut (c :: cs) = .plain c :: Lexeme.cut cs := by
  rw [Lexeme.cut]
  · exact fun hc => absurd hc h
  · exact fun _ _ hc => absurd hc h

/-- A character that begins no operator is no backslash. -/
lemma ne_backslash_of_not_mem {c : Char} (h : c ∉ operatorChars) : c ≠ '\\' := by
  rintro rfl
  exact h (by decide)

/-- No backslash dangles among pieces that stand for characters. -/
lemma ne_dangling_of_standsFor {ls : List Lexeme} {cs : List Char}
    (h : List.Forall₂ Lexeme.StandsFor ls cs) : ls ≠ [.dangling] := by
  rintro rfl
  cases h with
  | cons h => cases h

/-- An escape of a character that is no letter and no digit is that character.

**Proof sketch.** The tables of escapes list letters, except that the backslash is among those of
characters, where it stands for itself. -/
lemma readEscape_eq_char {c : Char} (hletter : Letter.isPlainLetter c.toNat = false)
    (hdigit : c ∉ digits) : readEscape c = pure (.char c.toNat) := by
  by_cases hc : c = '\\'
  · rw [hc]; rfl
  have hanchor : anchorEscape? c = none := by
    unfold anchorEscape?
    split
    all_goals first | rfl | exact absurd hletter (by decide)
  have hcategory : categoryEscape? c = none := by
    unfold categoryEscape?
    split
    all_goals first | rfl | exact absurd hletter (by decide)
  have hcontrol : controlEscape? c = none := by
    unfold controlEscape?
    split
    all_goals first | rfl | exact absurd rfl hc | exact absurd hletter (by decide)
  have hcode : readCode? c = pure none := by
    unfold readCode?
    split
    all_goals first | rfl | exact absurd hletter (by decide)
  simp [readEscape, hanchor, hcategory, hcontrol, hcode, hdigit, ownMeaning, hletter]

/-! ### Reading the pieces -/

/-- The trees of the pieces that have been read, with one more. -/
lemma finish_single_cons (n : Node) (items : List Item) :
    finish (.single n :: items) = finish items ++ [n] := by
  simp [finish, Item.single]

/-- Reading goes on after a piece that stands for a character with that character among the trees.

**Proof sketch.** The piece ends no sequence, so it is taken. An escape is its character. A plain
character passes all the branches that an operator would take. -/
lemma run_readSequence_cons {l : Lexeme} {c : Char} (hl : l.StandsFor c) {r : Reader}
    {rest : List Lexeme} (hr : r.rest = l :: rest) (hd : rest ≠ [.dangling]) (fuel : Nat)
    (isFirst : Bool) (items : List Item) :
    (readSequence (fuel + 1) false isFirst items).run r =
      (readSequence fuel false isFirst (.single (.char c.toNat) :: items)).run
        { r with rest := rest, position := r.position + l.length } := by
  rw [readSequence, run_bind_of_ok (run_peek r), hr]
  simp only [List.head?_cons, hl.isIn_end, Bool.false_eq_true, ↓reduceIte]
  rw [run_bind_of_ok (run_next hr hd), run_bind_of_ok (run_get _)]
  cases hl with
  | escape hletter hdigit =>
    dsimp only
    rw [readEscape_eq_char hletter hdigit]
    rfl
  | plain hop =>
    simp only [operatorChars, List.mem_cons, not_or] at hop
    dsimp only
    rw [if_neg (by simp), if_neg (by simp)]
    split
    -- the branch of the characters without a case of their own comes last
    case h_6 => rw [if_neg (by simp [hop])]
    all_goals simp at hop

/-- Reading pieces that stand for characters gives these after what was read before, and leaves
nothing.

**Proof sketch.** Induction on the pieces. There is fuel for one call more than there are pieces,
the last of which finds the end of the text. -/
lemma run_readSequence {ls : List Lexeme} {cs : List Char}
    (h : List.Forall₂ Lexeme.StandsFor ls cs) {r : Reader} (hr : r.rest = ls) (fuel : Nat)
    (hfuel : ls.length < fuel) (isFirst : Bool) (items : List Item) :
    ∃ position, (readSequence fuel false isFirst items).run r =
      .ok (finish items ++ charNodes cs, { r with rest := [], position := position }) := by
  induction h generalizing r fuel items with
  | nil =>
    obtain ⟨fuel, rfl⟩ : ∃ n, fuel = n + 1 := ⟨fuel - 1, by simp at hfuel; omega⟩
    have hstate : { r with rest := [] } = r := by cases r; cases hr; rfl
    refine ⟨r.position, ?_⟩
    rw [readSequence, run_bind_of_ok (run_peek r), hr, hstate]
    simp only [List.head?_nil, run_pure, charNodes, List.map_nil, List.append_nil]
  | @cons l c ls cs hl hls ih =>
    obtain ⟨fuel, rfl⟩ : ∃ n, fuel = n + 1 := ⟨fuel - 1, by simp at hfuel; omega⟩
    have hd : ls ≠ [.dangling] := ne_dangling_of_standsFor hls
    rw [run_readSequence_cons hl hr hd]
    obtain ⟨position, hrun⟩ := ih (r := { r with rest := ls, position := r.position + l.length })
      rfl fuel (by simpa using hfuel) (.single (.char c.toNat) :: items)
    refine ⟨position, ?_⟩
    rw [hrun, finish_single_cons, List.append_assoc]
    rfl

/-- At the end of the text there are no further branches. -/
lemma run_readMoreBranches_nil {r : Reader} (hr : r.rest = []) (fuel : Nat) (verbose isTop : Bool) :
    (readMoreBranches (fuel + 1) verbose isTop).run r = .ok ([], r) := by
  have hhead : r.rest.head? ≠ some (.plain '|') := by simp [hr]
  rw [readMoreBranches, run_bind_of_ok (run_accept_of_ne hhead)]
  rfl

/-- Pieces that stand for characters are one branch. -/
lemma run_readBranches {ls : List Lexeme} {cs : List Char}
    (h : List.Forall₂ Lexeme.StandsFor ls cs) {r : Reader} (hr : r.rest = ls) (fuel : Nat)
    (hfuel : ls.length < fuel) (isTop : Bool) :
    ∃ position, (readBranches (fuel + 1) false isTop).run r =
      .ok (charNodes cs, { r with rest := [], position := position }) := by
  obtain ⟨position, hrun⟩ := run_readSequence h hr fuel hfuel isTop []
  refine ⟨position, ?_⟩
  rw [readBranches, run_bind_of_ok hrun]
  obtain ⟨n, rfl⟩ : ∃ n, fuel = n + 1 := ⟨fuel - 1, by omega⟩
  rw [run_bind_of_ok (run_readMoreBranches_nil rfl n false isTop)]
  rfl

/-! ### The pattern -/

/-- A sequence of characters has no fault of its own. -/
lemma fault?_charNodes (template : Bool) (groups : Nat → Width) (cs : List Char) :
    (Node.ofList (charNodes cs)).fault? template groups = none := by
  induction cs with
  | nil => rfl
  | cons c cs ih =>
    cases cs with
    | nil => rfl
    | cons => exact ih

/-- **Patterns without operators.** A text whose pieces stand for characters is the pattern of these
characters under the given flags, unless the flags skip blanks or exclude each other. -/
theorem compile_eq_literal {text cs : List Char} {flags : Flags}
    (h : List.Forall₂ Lexeme.StandsFor (Lexeme.cut text) cs) (hverbose : flags.verbose = false)
    (hflags : (flags.ascii && flags.unicode) = false) :
    compile text flags = .ok (literal cs flags) := by
  obtain ⟨position, hrun⟩ := run_readBranches h (r := Reader.start text flags) rfl
    (3 * (Lexeme.cut text).length + 3) (by omega) true
  rw [← hverbose] at hrun
  refine compile_eq_ok_iff.mpr ⟨ne_dangling_of_standsFor h, _, _, hrun, ?_, rfl⟩
  exact ⟨rfl, hflags, rfl, fault?_charNodes _ _ _⟩

end RunnerAtlas.Pattern
