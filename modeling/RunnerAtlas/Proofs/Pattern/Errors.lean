import RunnerAtlas.Pattern.Basic
import RunnerAtlas.Proofs.Pattern.Escape
import RunnerAtlas.Proofs.Pattern.Head

set_option relaxedAutoImplicit false
set_option autoImplicit false

/-!
# Errors of patterns

Reading a text as a pattern ends in the pattern, in a fault of its form, or in one of the errors for
what the text has in excess. Each function of the reader is shown to stay within the text, from
what the functions that it uses keep; the recursion through groups is by induction on its fuel.

## Main definitions

* `RunnerAtlas.Pattern.KeepsWithFuel` — reading with some fuel stays within the text.

## Main results

* `RunnerAtlas.Pattern.readBounds_keeps` — reading the bounds of a repetition.
* `RunnerAtlas.Pattern.keepsWithFuel` — reading alternations, sequences and groups.
* `RunnerAtlas.Pattern.expected_of_compile` — the errors of a text.
-/

namespace RunnerAtlas.Pattern

variable {ls done : List Lexeme}

/-! ### Repetitions -/

/-- Reading a bound of a repetition stays within the text that has it. -/
lemma boundOf_keeps {low high bound : List Char} (h : HasBounds ls low high)
    (hbound : bound ∈ [low, high]) : Keeps ls done (boundOf bound) := by
  by_cases hne : bound = []
  · subst hne
    exact Keeps.pure _
  rw [boundOf_of_digits hne (h.digits hbound)]
  split
  · exact .throw (.inr (.digits h hbound ‹_›))
  split
  · exact .throw (.inr (.bound h hbound ‹_›))
  · exact Keeps.pure _

/-- Reading bounds after their opening brace stays within the text. The bounds are looked at only
when the closing brace has been read, so that the text holds both braces. -/
lemma readBraces_keeps : Keeps ls (done ++ [.plain '\x7b']) readBraces := by
  refine .get_bind fun before hbefore => ?_
  split
  · exact Keeps.pure _
  refine (reads_takeAll _).bind fun low => .of_and fun hlow => ?_
  refine (reads_accept _).bind fun two => ?_
  extract_lets go
  have hgo : ∀ high inner, (Holds ls ('\x7b' :: inner ++ ['\x7d']) → HasBounds ls low high) →
      Keeps ls (done ++ ('\x7b' :: inner).map .plain) (go high) := by
    intro high inner hinner
    refine (reads_accept _).bind fun closed => ?_
    split
    · refine .of_state fun s hs => ?_
      have hholds : s.IsAfter ls (done ++ ('\x7b' :: inner ++ ['\x7d']).map .plain) := by
        simpa using hs
      have hbounds := hinner hholds.drop.infix
      refine Keeps.bind (boundOf_keeps hbounds (by simp)) fun least =>
        Keeps.bind (boundOf_keeps hbounds (by simp)) fun most => ?_
      split
      · exact reads_failAt _ _
      · exact Keeps.pure _
    · exact Keeps.bind (.set hbefore.forget) fun _ => Keeps.pure _
  split
  · refine (reads_takeAll _).bind fun high => .of_and fun hhigh => ?_
    refine (hgo high (low ++ ',' :: high) fun h => ?_).mono (fun r hr => by simpa using hr)
      fun _ _ h => h
    exact ⟨hlow, hhigh, .inr (by simpa using h)⟩
  · rw [pure_bind]
    exact (hgo low low fun h => ⟨hlow, hlow, .inl ⟨rfl, h⟩⟩).mono (fun r hr => by simpa using hr)
      fun _ _ h => h

/-- Reading the bounds that a mark stands for stays within the text. -/
lemma readBounds_keeps {mark : Char}
    (hmark : mark = '*' ∨ mark = '+' ∨ mark = '?' ∨ mark = '\x7b') :
    Keeps ls (done ++ [.plain mark]) (readBounds mark) := by
  obtain rfl | rfl | rfl | rfl := hmark
  · exact Keeps.pure _
  · exact Keeps.pure _
  · exact Keeps.pure _
  · exact readBraces_keeps

/-- Reading how a repetition uses its freedom stays within the text. -/
lemma readGreed_keeps : Keeps ls done readGreed := by
  refine (reads_accept _).bind fun idle => ?_
  split
  · exact Keeps.pure _
  refine (reads_accept _).bind fun possessive => ?_
  split
  · exact Keeps.pure _
  · exact Keeps.pure _

/-- Repeating the last piece stays within the text. -/
lemma repeatLast_keeps (position : Nat) (bounds : Nat × Option Nat) (items : List Item) :
    Keeps ls done (repeatLast position bounds items) := by
  unfold repeatLast
  split
  · exact reads_failAt _ _
  · split
    · exact reads_failAt _ _
    · exact reads_failAt _ _
    · exact Keeps.bind readGreed_keeps fun _ => Keeps.pure _

/-! ### Sequences and groups -/

/-- Skipping a comment of a verbose pattern stays within the text. -/
lemma skipLine_keeps (fuel : Nat) : Keeps ls done (skipLine fuel) := by
  induction fuel generalizing done with
  | zero => exact Keeps.pure _
  | succ fuel ih =>
    refine reads_next.bind fun l => ?_
    split
    · exact Keeps.pure _
    · split
      · exact Keeps.pure _
      · exact ih

/-- Closing a group stays within the text. -/
lemma closeGroup_keeps (start : Nat) : Keeps ls done (closeGroup start) := by
  refine (reads_accept _).bind fun closed => ?_
  split
  · exact Keeps.pure _
  · exact reads_failAt _ _

/-- Reading inside a look-behind stays within the text. -/
lemma insideLookbehind_keeps {α : Type} {x : Reading α} (h : Keeps ls [] x) :
    Keeps ls done (insideLookbehind x) :=
  .get_bind fun _ _ => Keeps.bind (.modify fun _ hr => hr.forget.of_eq rfl rfl) fun _ =>
    Keeps.bind h fun _ => Keeps.bind (.modify fun _ hr => hr.of_eq rfl rfl) fun _ => Keeps.pure _

/-- Reading alternations, sequences and groups with some fuel stays within the text. -/
structure KeepsWithFuel (ls : List Lexeme) (fuel : Nat) : Prop where
  /-- Alternations. -/
  branches (done : List Lexeme) (verbose isTop : Bool) :
    Keeps ls done (readBranches fuel verbose isTop)
  /-- Further branches. -/
  more (done : List Lexeme) (verbose isTop : Bool) :
    Keeps ls done (readMoreBranches fuel verbose isTop)
  /-- Sequences. -/
  sequence (done : List Lexeme) (verbose isFirst : Bool) (items : List Item) :
    Keeps ls done (readSequence fuel verbose isFirst items)
  /-- Groups. -/
  group (done : List Lexeme) (verbose : Bool) (start : Nat) (head : Head) :
    Keeps ls done (readGroup fuel verbose start head)

section Step

variable {fuel : Nat} (h : KeepsWithFuel ls fuel)

include h

/-- An alternation is a sequence and further branches. -/
lemma readBranches_keeps (verbose isTop : Bool) :
    Keeps ls done (readBranches (fuel + 1) verbose isTop) := by
  unfold readBranches
  exact Keeps.bind (h.sequence _ _ _ _) fun _ => Keeps.bind (h.more _ _ _) fun _ => Keeps.pure _

/-- Further branches are sequences after bars. -/
lemma readMoreBranches_keeps (verbose isTop : Bool) :
    Keeps ls done (readMoreBranches (fuel + 1) verbose isTop) := by
  unfold readMoreBranches
  refine (reads_accept _).bind fun another => ?_
  split
  · exact .get_bind fun _ _ => Keeps.bind (h.sequence _ _ _ _) fun _ =>
      Keeps.bind (h.more _ _ _) fun _ => Keeps.pure _
  · exact Keeps.pure _

/-- The body of a group is an alternation, or two sequences if it chooses by another group. -/
lemma readGroup_keeps (verbose : Bool) (start : Nat) (head : Head) :
    Keeps ls done (readGroup (fuel + 1) verbose start head) := by
  unfold readGroup
  split
  · exact Keeps.bind (beginGroup_keeps _) fun _ => Keeps.bind (h.branches _ _ _) fun _ =>
      Keeps.bind (closeGroup_keeps _) fun _ => Keeps.bind (endGroup_keeps _ _) fun _ =>
        Keeps.pure _
  · refine Keeps.bind (h.branches _ _ _) fun _ => Keeps.bind (closeGroup_keeps _) fun _ => ?_
    split
    · exact Keeps.pure _
    · exact Keeps.pure _
  · exact Keeps.bind (h.branches _ _ _) fun _ => Keeps.bind (closeGroup_keeps _) fun _ =>
      Keeps.pure _
  · extract_lets go
    have hgo : ∀ body, Keeps ls [] (go body) := fun _ =>
      Keeps.bind (closeGroup_keeps _) fun _ => Keeps.pure _
    split
    · exact Keeps.bind (h.branches _ _ _) hgo
    · exact Keeps.bind (insideLookbehind_keeps (h.branches _ _ _)) hgo
  · refine Keeps.bind (h.sequence _ _ _ _) fun yes => (reads_accept _).bind fun another => ?_
    extract_lets go
    have hgo : ∀ no, Keeps ls [] (go no) := by
      refine fun no => Keeps.bind (nextIsIn_keeps _) fun more => ?_
      split
      · exact reads_failBack _ _
      · exact Keeps.bind (closeGroup_keeps _) fun _ => Keeps.pure _
    split
    · exact Keeps.bind (h.sequence _ _ _ _) hgo
    · exact Keeps.bind (Keeps.pure _) hgo
  · exact Keeps.pure _
  · exact Keeps.pure _
  · exact Keeps.pure _

/-- A sequence goes on after each of its pieces. -/
lemma readSequence_keeps (verbose isFirst : Bool) (items : List Item) :
    Keeps ls done (readSequence (fuel + 1) verbose isFirst items) := by
  unfold readSequence
  refine reads_peek.bind fun l => ?_
  split
  · exact .pure fun r hr => hr.1.forget
  rename_i l
  split
  · exact .pure fun r hr => hr.1.forget
  refine (reads_next_of_head _).bind fun _ => .of_and fun _ => .get_bind fun _ _ => ?_
  dsimp only
  cases l with
  | dangling => exact reads_failAt _ _
  | escape letter => exact Keeps.bind (readEscape_keeps letter) fun _ => h.sequence _ _ _ _
  | plain c =>
    dsimp only
    split
    · exact h.sequence _ _ _ _
    split
    · exact .get_bind fun _ _ => Keeps.bind (skipLine_keeps _) fun _ => h.sequence _ _ _ _
    split
    · exact Keeps.bind readSet_keeps fun _ => h.sequence _ _ _ _
    · exact h.sequence _ _ _ _
    · exact h.sequence _ _ _ _
    · exact h.sequence _ _ _ _
    · refine (readHead_keeps _).bind fun head => .of_and fun hset => ?_
      split
      · exact h.sequence _ _ _ _
      · refine Keeps.bind (.modify fun r hr => ⟨hr.rest, hr.flags.union hset⟩) fun _ => ?_
        split
        · exact .get_bind fun _ _ => h.sequence _ _ _ _
        · exact reads_failAt _ _
      · exact Keeps.bind (h.group _ _ _ _) fun _ => h.sequence _ _ _ _
    · split
      · rename_i hmark
        refine Keeps.bind (readBounds_keeps hmark) fun bounds => ?_
        split
        · exact Keeps.bind (repeatLast_keeps _ _ _) fun _ => h.sequence _ _ _ _
        · exact h.sequence _ _ _ _
      · exact h.sequence _ _ _ _

end Step

/-- **Reading with any fuel.** Whatever has been read, reading goes on within the text.

**Proof sketch.** Without fuel there is a fault. With more fuel each of the four functions uses the
others with less of it, and stays within the text as they do. -/
theorem keepsWithFuel (ls : List Lexeme) (fuel : Nat) : KeepsWithFuel ls fuel := by
  induction fuel with
  | zero =>
    refine ⟨fun _ _ _ => ?_, fun _ _ _ => ?_, fun _ _ _ _ => ?_, fun _ _ _ _ => ?_⟩
    · unfold readBranches; exact reads_failBack _ _
    · unfold readMoreBranches; exact reads_failBack _ _
    · unfold readSequence; exact reads_failBack _ _
    · unfold readGroup; exact reads_failBack _ _
  | succ fuel ih =>
    exact ⟨fun _ => readBranches_keeps ih, fun _ => readMoreBranches_keeps ih,
      fun _ => readSequence_keeps ih, fun _ => readGroup_keeps ih⟩

/-! ### Whole patterns -/

/-- Reading a whole pattern stays within the text. The flags that exclude each other are those that
its groups have set. -/
lemma readPattern_keeps : Keeps ls [] readPattern := by
  refine reads_checkNext.bind fun _ => .get_bind fun s _ => .get_bind fun _ _ =>
    Keeps.bind ((keepsWithFuel ls _).branches _ _ _) fun nodes => .get_bind fun r hr => ?_
  split
  · rename_i hboth
    obtain ⟨hascii, hunicode⟩ := (Bool.and_eq_true _ _).mp hboth
    exact .throw (.inr (.flags (hr.flags.ascii hascii) (hr.flags.unicode hunicode)))
  split
  · exact reads_failBack _ _
  split
  · exact reads_failAt _ _
  · dsimp only
    split
    · exact .throw (expected_malformed _ _ _)
    · exact Keeps.pure _

/-- **Errors of a text.** A text that is no pattern has a fault of form or something in excess.

**Proof sketch.** The reader begins with all pieces of the text, and with flags that choose no
character set. From there reading stays within the text, so that an error of it is one of the
text. -/
theorem expected_of_compile {text : List Char} {flags : Flags} (hascii : flags.ascii = false)
    (hunicode : flags.unicode = false) {e : PatternError} (he : compile text flags = .error e) :
    Expected (Lexeme.cut text) e := by
  have hstart : (Reader.start text flags).IsAfter (Lexeme.cut text) [] :=
    ⟨List.suffix_rfl, by simp [Reader.start, hascii], by simp [Reader.start, hunicode]⟩
  have hread := readPattern_keeps _ hstart
  unfold compile at he
  cases hrun : readPattern.run (Reader.start text flags) with
  | ok p => simp [hrun, Except.map] at he
  | error cause =>
    rw [hrun] at he hread
    cases he
    exact hread

end RunnerAtlas.Pattern
