import RunnerAtlas.Proofs.Pattern.Membership
import RunnerAtlas.Proofs.Text.PlainLetters

set_option relaxedAutoImplicit false
set_option autoImplicit false

/-!
# Texts that differ in letter case

Where letter case is ignored, no test of a pattern tells a letter of ASCII from its other form: a
comparison of characters, a set, a class, a position, or a part of the text that is repeated. What a
tree does in a text is made of such tests, so it does the same in two texts that differ only in the
case of letters of ASCII.

## Main definitions

* `RunnerAtlas.Pattern.IgnoresCase` — a test that does not tell the forms of a letter apart.
* `RunnerAtlas.Pattern.SameLetters` — texts that differ only in the case of letters of ASCII.
* `RunnerAtlas.Pattern.Node.KeepsIgnoring` — a tree no part of which is compared with letter case.

## Main results

* `RunnerAtlas.Pattern.Fold.ignoresCase_isSame`, `RunnerAtlas.Pattern.Fold.ignoresCase_inSet`,
  `RunnerAtlas.Pattern.Category.ignoresCase_has` — the tests of one character.
* `RunnerAtlas.Pattern.SameLetters.run_eq` — what a tree does in two such texts.
* `RunnerAtlas.Pattern.Compiled.matchesIn_eq` — a pattern occurs in both of them or in neither.
-/

namespace RunnerAtlas.Pattern

open RunnerAtlas.Text LetterCase

variable {text text' : Array Nat} {test : Nat → Bool} {fold : Fold} {f : Flags} {α : Type}

/-! ### Tests of one character -/

/-- The answer is the same for a capital of ASCII and its small letter. -/
def IgnoresCase (test : Nat → α) : Prop :=
  ∀ code code', plainLower code = plainLower code' → test code = test code'

/-- A test that gives one answer for all letters of ASCII does not depend on letter case. -/
lemma ignoresCase_of_forall {b : α} {test : Nat → α}
    (h : ∀ code, isPlainCased code = true → test code = b) : IgnoresCase test := by
  intro code code' hsame
  obtain rfl | ⟨hcode, hcode'⟩ := eq_or_isPlainCased hsame
  · rfl
  · rw [h _ hcode, h _ hcode']

/-- A test of small letters does not depend on letter case, if letter case is ignored. -/
lemma Fold.ignoresCase_lower (hfold : fold ≠ .none) (g : Nat → α) :
    IgnoresCase fun code => g (fold.lower code) := by
  intro code code' hsame
  cases fold with
  | none => exact absurd rfl hfold
  | plain => exact congrArg g hsame
  | full =>
    simp only [Fold.lower]
    rw [← lower_plainLower code, hsame, lower_plainLower]

/-- A letter of ASCII has letter case, if letter case is ignored. -/
lemma Fold.isCased_of_isPlainCased (hfold : fold ≠ .none) {code : Nat}
    (h : isPlainCased code = true) : fold.isCased code = true := by
  cases fold with
  | none => exact absurd rfl hfold
  | plain => exact h
  | full => exact LetterCase.isCased_of_isPlainCased h

/-- Bounds with a letter of ASCII between them have letter case between them. -/
lemma Fold.anyCased_of_between (hfold : fold ≠ .none) {low code high : Nat}
    (h : isPlainCased code = true) (hlow : low ≤ code) (hhigh : code ≤ high) :
    fold.anyCased low high = true := by
  cases fold with
  | none => exact absurd rfl hfold
  | plain => exact anyPlainCased_of_between h hlow hhigh
  | full => exact LetterCase.anyCased_of_between h hlow hhigh

/-- Counting as the same as a character does not depend on letter case. -/
lemma Fold.ignoresCase_isSame (hfold : fold ≠ .none) (own : Nat) :
    IgnoresCase (fold.isSame own) := by
  cases hown : fold.isCased own with
  | true =>
    have h := ignoresCase_lower hfold fun letter =>
      letter == fold.lower own || (fold.alikes (fold.lower own)).contains letter
    simpa only [IgnoresCase, isSame, hown, if_true] using h
  | false =>
    refine ignoresCase_of_forall (b := false) fun code hcode => ?_
    rw [isSame, hown, if_neg Bool.false_ne_true, beq_eq_false_iff_ne]
    rintro rfl
    rw [isCased_of_isPlainCased hfold hcode] at hown
    cases hown

/-- The classes have all letters of ASCII or none. -/
lemma Category.ignoresCase_has (ascii : Bool) (kind : Category) :
    IgnoresCase fun code => kind.has ascii code := by
  have hall : plainLetters.all
      (fun code => kind.has ascii code == decide (kind = .word)) = true := by
    cases kind <;> cases ascii <;> decide +kernel
  exact ignoresCase_of_forall fun code h => eq_of_beq
    (of_isPlainCased (p := fun code => kind.has ascii code == decide (kind = .word)) hall h)

/-- A member of a set in which letter case makes no difference covers both forms of a letter. -/
lemma Fold.ignoresCase_covers (hfold : fold ≠ .none) (ascii : Bool) {item : SetItem}
    (h : fold.firstIsCased item = false) : IgnoresCase fun code => item.covers ascii code := by
  cases item with
  | char own =>
    refine ignoresCase_of_forall fun code hcode => beq_eq_false_iff_ne.mpr ?_
    rintro rfl
    rw [firstIsCased, isCased_of_isPlainCased hfold hcode] at h
    cases h
  | range low high =>
    refine ignoresCase_of_forall (b := false) fun code hcode => Bool.eq_false_iff.mpr ?_
    intro hcovers
    simp only [SetItem.covers, Bool.and_eq_true, decide_eq_true_eq] at hcovers
    rw [firstIsCased, anyCased_of_between hfold hcode hcovers.1 hcovers.2, Bool.or_true] at h
    cases h
  | category kind negated =>
    intro code code' hsame
    exact congrArg (· != negated) (kind.ignoresCase_has ascii code code' hsame)

/-- A test by members of a set does not depend on letter case if no test by one of them does. -/
lemma ignoresCase_any {items : List SetItem} {covers : SetItem → Nat → Bool}
    (h : ∀ item ∈ items, IgnoresCase (covers item)) :
    IgnoresCase fun code => items.any fun item => covers item code :=
  fun code code' hsame => by
    rw [Bool.eq_iff_iff, List.any_eq_true, List.any_eq_true]
    exact exists_congr fun item => and_congr_right fun hitem => by
      rw [h item hitem code code' hsame]

/-- Having a character does not depend on letter case for a set, if letter case is ignored. -/
lemma Fold.ignoresCase_inSet (hfold : fold ≠ .none) (ascii : Bool) (items : List SetItem) :
    IgnoresCase (fold.inSet ascii items) := by
  cases hcased : items.any fold.itemIsCased with
  | true =>
    have h := ignoresCase_lower hfold fun letter => items.any (fold.covers ascii letter)
    simpa [IgnoresCase, inSet, hcased, hfold] using h
  | false =>
    have h : IgnoresCase fun code => items.any fun item => item.covers ascii code :=
      ignoresCase_any fun item hitem => ignoresCase_covers hfold ascii
        (firstIsCased_of_itemIsCased (Bool.eq_false_iff.mpr fun h =>
          List.any_eq_false.mp hcased item hitem h))
    simpa [IgnoresCase, inSet, hcased] using h

/-- Being a line feed does not depend on letter case. -/
lemma ignoresCase_lineFeed : IgnoresCase fun code => code == 0xa := by
  refine ignoresCase_of_forall (b := false) fun code hcode => beq_eq_false_iff_ne.mpr ?_
  rintro rfl
  cases hcode

/-! ### Texts that differ in letter case -/

/-- Two texts are the same apart from the case of letters of ASCII. -/
def SameLetters (text text' : Array Nat) : Prop := text.map plainLower = text'.map plainLower

namespace SameLetters

variable (h : SameLetters text text')

include h

/-- The texts are of one length. -/
lemma size_eq : text.size = text'.size := by
  simpa using congrArg Array.size h

/-- What does not depend on letter case is the same at each position. -/
lemma getElem?_map_eq {g : Nat → α} (hg : IgnoresCase g) (position : Nat) :
    text[position]?.map g = text'[position]?.map g := by
  have hlower : ∀ code, g (plainLower code) = g code :=
    fun code => hg _ _ (plainLower_plainLower code)
  calc text[position]?.map g
      = (text.map plainLower)[position]?.map g := by simp [Function.comp_def, hlower]
    _ = (text'.map plainLower)[position]?.map g := by rw [h]
    _ = text'[position]?.map g := by simp [Function.comp_def, hlower]

/-- What does not depend on letter case holds at a position in both texts or in neither. -/
lemma getElem?_any_eq (htest : IgnoresCase test) (position : Nat) :
    text[position]?.any test = text'[position]?.any test := by
  have hany : ∀ code? : Option Nat, code?.any test = (code?.map test).getD false := by
    intro code?
    cases code? <;> rfl
  rw [hany, hany, h.getElem?_map_eq htest]

/-- A character passes a test that does not depend on letter case in both texts or in neither. -/
lemma testChar_eq (htest : IgnoresCase test) : testChar text test = testChar text' test := by
  funext s k
  have hmap := h.getElem?_map_eq htest s.position
  unfold testChar
  cases hcode : text[s.position]? with
  | none =>
    rw [hcode, Option.map_none, eq_comm, Option.map_eq_none_iff] at hmap
    rw [hmap]
  | some code =>
    rw [hcode, Option.map_some, eq_comm, Option.map_eq_some_iff] at hmap
    obtain ⟨code', hcode', hsame⟩ := hmap
    simp only [hcode', hsame]

/-- A position has a line feed in both texts or in neither. -/
lemma lineFeed_eq (position : Nat) :
    (text[position]? == some 0xa) = (text'[position]? == some 0xa) := by
  have hany : ∀ code? : Option Nat, (code? == some 0xa) = code?.any fun code => code == 0xa := by
    intro code?
    cases code? <;> rfl
  rw [hany, hany, h.getElem?_any_eq ignoresCase_lineFeed]

/-- A boundary of words is at the same positions. -/
lemma isBoundary_eq (ascii : Bool) (position : Nat) :
    isBoundary text ascii position = isBoundary text' ascii position := by
  have hword := h.getElem?_any_eq (Category.word.ignoresCase_has ascii)
  unfold isBoundary
  split
  · simp only [hword]
  · simp only [hword]

/-- A position passes a test in both texts or in neither. -/
lemma holds_eq (f : Flags) (position : Nat) (test : Anchor) :
    test.holds text f position = test.holds text' f position := by
  cases test with
  | lineStart => simp only [Anchor.holds, h.lineFeed_eq]
  | lineEnd => simp only [Anchor.holds, h.lineFeed_eq, h.size_eq]
  | textStart => rfl
  | textEnd => simp only [Anchor.holds, h.size_eq]
  | boundary => simp only [Anchor.holds, h.isBoundary_eq, Array.isEmpty, h.size_eq]
  | noBoundary => simp only [Anchor.holds, h.isBoundary_eq, Array.isEmpty, h.size_eq]

/-- A part of the text is repeated in both texts or in neither, if letter case is ignored. -/
lemma repeated_eq (hfold : fold ≠ .none) (count first position : Nat) :
    repeated text fold count first position = repeated text' fold count first position := by
  have hlower := h.getElem?_map_eq (g := fold.lower) (Fold.ignoresCase_lower hfold id)
  induction count generalizing first position with
  | zero => rfl
  | succ count ih =>
    have hstep : ∀ text : Array Nat, repeated text fold (count + 1) first position =
        (text[first]?.map fold.lower).bind fun a => (text[position]?.map fold.lower).bind fun b =>
          if a = b then repeated text fold count (first + 1) (position + 1) else none := by
      intro text
      rw [repeated]
      cases text[first]? <;> cases text[position]? <;> rfl
    rw [hstep, hstep, hlower first, hlower position, ih]

end SameLetters

/-! ### Trees and patterns -/

/-- No part of a tree is compared with letter case again. -/
def Node.KeepsIgnoring : Node → Prop
  | .seq first rest => first.KeepsIgnoring ∧ rest.KeepsIgnoring
  | .alt first second => first.KeepsIgnoring ∧ second.KeepsIgnoring
  | .loop _ _ _ body => body.KeepsIgnoring
  | .capture _ body => body.KeepsIgnoring
  | .scoped _ off body => off.ignoreCase = false ∧ body.KeepsIgnoring
  | .atomic body => body.KeepsIgnoring
  | .look _ _ body => body.KeepsIgnoring
  | .cond _ yes no => yes.KeepsIgnoring ∧ no.KeepsIgnoring
  | _ => True

/-- Whether letter case stays ignored in a tree is decided part by part. -/
instance Node.decidableKeepsIgnoring : (n : Node) → Decidable n.KeepsIgnoring
  | .seq first rest =>
    have := decidableKeepsIgnoring first
    have := decidableKeepsIgnoring rest
    inferInstanceAs (Decidable (first.KeepsIgnoring ∧ rest.KeepsIgnoring))
  | .alt first second =>
    have := decidableKeepsIgnoring first
    have := decidableKeepsIgnoring second
    inferInstanceAs (Decidable (first.KeepsIgnoring ∧ second.KeepsIgnoring))
  | .loop _ _ _ body => decidableKeepsIgnoring body
  | .capture _ body => decidableKeepsIgnoring body
  | .scoped _ off body =>
    have := decidableKeepsIgnoring body
    inferInstanceAs (Decidable (off.ignoreCase = false ∧ body.KeepsIgnoring))
  | .atomic body => decidableKeepsIgnoring body
  | .look _ _ body => decidableKeepsIgnoring body
  | .cond _ yes no =>
    have := decidableKeepsIgnoring yes
    have := decidableKeepsIgnoring no
    inferInstanceAs (Decidable (yes.KeepsIgnoring ∧ no.KeepsIgnoring))
  | .empty | .char _ | .notChar _ | .any | .set _ _ | .anchor _ | .backref _ => isTrue trivial

/-- Letter case stays ignored unless it is switched off. -/
lemma Flags.change_ignoreCase {on off : Flags} (hf : f.ignoreCase = true)
    (hoff : off.ignoreCase = false) : (f.change on off).ignoreCase = true := by
  simp [Flags.change, hf, hoff]

/-- Flags that ignore letter case do so in one way or the other. -/
lemma Flags.fold_ne_none (hf : f.ignoreCase = true) : f.fold ≠ .none := by
  unfold Flags.fold
  rw [hf]
  cases f.ascii <;> decide

/-- A tree does the same in texts that differ only in the case of letters of ASCII.

**Proof sketch.** Induction on the tree. The tests of one character, of a position and of a
repeated part have the same answers, and how trees are combined depends on a text only by its
length. -/
theorem SameLetters.run_eq (h : SameLetters text text') (widths : Nat → Width) {n : Node}
    (hn : n.KeepsIgnoring) (hf : f.ignoreCase = true) :
    n.run text widths f = n.run text' widths f := by
  have hfold := Flags.fold_ne_none hf
  induction n generalizing f with
  | empty => rfl
  | seq first rest ihfirst ihrest =>
    simp only [Node.run, ihfirst hn.1 hf hfold, ihrest hn.2 hf hfold]
  | char own => exact h.testChar_eq (Fold.ignoresCase_isSame hfold own)
  | notChar own =>
    exact h.testChar_eq fun code code' hsame =>
      congrArg (!·) (Fold.ignoresCase_isSame hfold own code code' hsame)
  | any =>
    exact h.testChar_eq fun code code' hsame =>
      congrArg (f.dotAll || !·) (ignoresCase_lineFeed code code' hsame)
  | set negated items =>
    exact h.testChar_eq fun code code' hsame =>
      congrArg (· != negated) (Fold.ignoresCase_inSet hfold f.ascii items code code' hsame)
  | anchor test => simp only [Node.run, h.holds_eq]
  | backref group => simp only [Node.run, h.repeated_eq hfold]
  | alt first second ihfirst ihsecond =>
    simp only [Node.run, ihfirst hn.1 hf hfold, ihsecond hn.2 hf hfold]
  | loop greed least most body ih =>
    funext s k
    simp only [Node.run, repetition, ih hn hf hfold, h.size_eq]
  | capture group body ih => simp only [Node.run, ih hn hf hfold]
  | «scoped» on off body ih =>
    have hchange : (f.change on off).ignoreCase = true := Flags.change_ignoreCase hf hn.1
    exact ih hn.2 hchange (Flags.fold_ne_none hchange)
  | atomic body ih => simp only [Node.run, ih hn hf hfold]
  | look ahead negated body ih => simp only [Node.run, ih hn hf hfold]
  | cond group yes no ihyes ihno =>
    simp only [Node.run, ihyes hn.1 hf hfold, ihno hn.2 hf hfold]

/-- A first set is one in which letter case makes no difference. -/
lemma Node.firstIsCased_of_firstSet? {n : Node} (hn : n.KeepsIgnoring)
    (hf : f.ignoreCase = true) {negated : Bool} {items : List SetItem}
    (hfirst : n.firstSet? f = some (negated, items)) :
    ∃ fold : Fold, fold ≠ .none ∧ ∀ item ∈ items, fold.firstIsCased item = false := by
  induction n generalizing f with
  | seq first rest ihfirst _ => exact ihfirst hn.1 hf hfirst
  | set negated' items' =>
    have hfold := Flags.fold_ne_none hf
    simp only [Node.firstSet?] at hfirst
    split at hfirst
    · cases hfirst
    · rename_i hcased
      cases hfirst
      refine ⟨f.fold, hfold, fun item hitem => Bool.eq_false_iff.mpr fun h => hcased ?_⟩
      rw [Bool.and_eq_true, bne_iff_ne, List.any_eq_true]
      exact ⟨hfold, item, hitem, h⟩
  | capture group body ih => exact ih hn hf hfirst
  | «scoped» on off body ih => exact ih hn.2 (Flags.change_ignoreCase hf hn.1) hfirst
  | _ => cases hfirst

/-- A match may start at the same positions. -/
lemma SameLetters.mayStart_eq (h : SameLetters text text') {p : Compiled}
    (hn : p.node.KeepsIgnoring) (hf : p.flags.ignoreCase = true) (position : Nat) :
    p.mayStart text position = p.mayStart text' position := by
  unfold Compiled.mayStart
  split
  · rename_i negated items hfirst
    obtain ⟨fold, hfold, hcased⟩ := Node.firstIsCased_of_firstSet? hn hf hfirst
    have htest : IgnoresCase fun code =>
        (items.any fun item => item.covers p.flags.ascii code) != negated :=
      fun code code' hsame => congrArg (· != negated) (ignoresCase_any
        (fun item hitem => Fold.ignoresCase_covers hfold p.flags.ascii (hcased item hitem))
        code code' hsame)
    exact h.getElem?_any_eq htest position
  · rfl

/-- A pattern that ignores letter case throughout occurs in both of two texts that differ only in
the case of letters of ASCII, or in neither. -/
theorem Compiled.matchesIn_eq {p : Compiled} (hn : p.node.KeepsIgnoring)
    (hf : p.flags.ignoreCase = true) {cs cs' : List Char}
    (h : cs.map (fun c => plainLower c.toNat) = cs'.map fun c => plainLower c.toNat) :
    p.matchesIn cs = p.matchesIn cs' := by
  have hsame : SameLetters (cs.map Char.toNat).toArray (cs'.map Char.toNat).toArray := by
    simpa [SameLetters, Function.comp_def] using h
  simp only [matchesIn, hsame.size_eq, hsame.mayStart_eq hn hf, hsame.run_eq _ hn hf]

end RunnerAtlas.Pattern
