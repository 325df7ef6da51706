import RunnerAtlas.Proofs.Pattern.Pieces

set_option relaxedAutoImplicit false
set_option autoImplicit false

/-!
# Flags of a pattern that ignores letter case

A pattern that is read under the flag that ignores letter case has this flag, whatever flags its
text sets: those for the whole pattern are only ever switched on. All readers but the one of
sequences leave the flags alone.

## Main definitions

* `RunnerAtlas.Pattern.KeepsCase` — reading that goes on ignoring letter case.

## Main results

* `RunnerAtlas.Pattern.keepsCaseWithFuel` — alternations, sequences and groups.
* `RunnerAtlas.Pattern.ignoreCase_of_compile` — the flags of a pattern.
-/

namespace RunnerAtlas.Pattern

variable {α β : Type}

/-- Where letter case is ignored before reading, it is ignored after it. -/
def KeepsCase (x : Reading α) : Prop :=
  ∀ r a r', x.run r = .ok (a, r') → r.flags.ignoreCase = true → r'.flags.ignoreCase = true

namespace KeepsCase

variable {x : Reading α}

/-- What fails keeps anything. -/
lemma of_fails (h : ∀ r, Fails r x) : KeepsCase x := fun r _ _ hx => absurd hx (h r _)

/-- An error ends reading. -/
lemma throw (e : PatternError) : KeepsCase (throw e : Reading α) :=
  of_fails fun _ => fails_throw e

/-- A fault at a position ends reading. -/
lemma failAt (position : Nat) (fault : Fault) : KeepsCase (failAt position fault : Reading α) :=
  of_fails fun _ => fails_failAt position fault

/-- A fault some characters back ends reading. -/
lemma failBack (back : Nat) (fault : Fault) : KeepsCase (failBack back fault : Reading α) :=
  of_fails fun _ => fails_failBack back fault

/-- Giving a value leaves the flags alone. -/
lemma pure (a : α) : KeepsCase (pure a : Reading α) := by
  intro r b r' hx hr
  cases hx
  exact hr

/-- A change of the state that leaves letter case ignored. -/
lemma modify {g : Reader → Reader}
    (h : ∀ r : Reader, r.flags.ignoreCase = true → (g r).flags.ignoreCase = true) :
    KeepsCase (modify g : Reading PUnit) := by
  intro r a r' hx hr
  cases hx
  exact h r hr

/-- One thing after another. -/
lemma bind {f : α → Reading β} (hx : KeepsCase x) (hf : ∀ a, KeepsCase (f a)) :
    KeepsCase (x >>= f) := by
  intro r b r'' h hr
  obtain ⟨a, r', hrun, h⟩ := exists_of_run_bind h
  exact hf a r' b r'' h (hx r a r' hrun hr)

/-- What follows the state that is asked for may use that letter case is ignored in it. -/
lemma get_bind {f : Reader → Reading α}
    (h : ∀ s : Reader, s.flags.ignoreCase = true → KeepsCase (f s)) :
    KeepsCase ((MonadState.get : Reading Reader) >>= f) :=
  fun r a r' hx hr => h r hr r a r' hx hr

/-- A state in which letter case is ignored may be set. -/
lemma set {s : Reader} (h : s.flags.ignoreCase = true) : KeepsCase (set s : Reading PUnit) := by
  intro r a r' hx _
  cases hx
  exact h

/-- What carries over to a longer text leaves the flags alone. -/
lemma of_carries {x' : Reading α} {Q : α → Prop}
    (h : ∀ r, Carries [] 0 r Q x x') : KeepsCase x := by
  intro r a r' hx hr
  rw [(h r a r' hx).2.1.flags_eq]
  exact hr

end KeepsCase

/-! ### Pieces of the text -/

/-- Looking at the next piece leaves the flags alone. -/
lemma peek_keepsCase : KeepsCase peek :=
  .get_bind fun _ _ => .pure _

/-- The check for a dangling backslash leaves the flags alone. -/
lemma checkNext_keepsCase : KeepsCase checkNext := by
  refine .get_bind fun s hs => ?_
  split
  · exact .failAt _ _
  · exact .pure _

/-- Taking a piece leaves the flags alone. -/
lemma next_keepsCase : KeepsCase next := by
  refine .get_bind fun s hs => ?_
  split
  · exact .pure _
  · exact .bind (.set hs) fun _ => .bind checkNext_keepsCase fun _ => .pure _

/-- Taking a character leaves the flags alone. -/
lemma accept_keepsCase (c : Char) : KeepsCase (accept c) := by
  refine .bind peek_keepsCase fun l => ?_
  split
  · exact .bind next_keepsCase fun _ => .pure _
  · exact .pure _

/-- Asking what the next piece is leaves the flags alone. -/
lemma nextIsIn_keepsCase (cs : List Char) : KeepsCase (nextIsIn cs) :=
  .bind peek_keepsCase fun _ => .pure _

/-- Taking a name leaves the flags alone. -/
lemma readName_keepsCase (what : String) (terminator : Char) :
    KeepsCase (readName what terminator) :=
  .of_carries fun _ => carries_readName what terminator ends_nil

/-! ### Heads of groups -/

/-- A piece that is no flag ends reading. -/
lemma failFlag_keepsCase (l : Lexeme) (otherwise : Fault) :
    KeepsCase (failFlag l otherwise : Reading α) := by
  unfold failFlag
  split <;> exact .failBack _ _

/-- Reading the flags that a group switches on does not set them. -/
lemma readFlagsOn_keepsCase (fuel : Nat) (letter : Char) (on : Flags) :
    KeepsCase (readFlagsOn fuel letter on) := by
  induction fuel generalizing letter on with
  | zero => exact .failBack _ _
  | succ fuel ih =>
    unfold readFlagsOn
    split
    · exact .failBack _ _
    dsimp only
    split
    · exact .failBack _ _
    refine .bind next_keepsCase fun l => ?_
    split
    · exact .failBack _ _
    · split
      · exact .pure _
      · split
        · exact ih _ _
        · exact failFlag_keepsCase _ _
    · exact failFlag_keepsCase _ _

/-- Reading the flags that a group switches off does not set them. -/
lemma readFlagsOff_keepsCase (fuel : Nat) (letter : Char) (off : Flags) :
    KeepsCase (readFlagsOff fuel letter off) := by
  induction fuel generalizing letter off with
  | zero => exact .failBack _ _
  | succ fuel ih =>
    unfold readFlagsOff
    split
    · exact .failBack _ _
    split
    · exact .failBack _ _
    refine .bind next_keepsCase fun l => ?_
    split
    · exact .failBack _ _
    · split
      · exact .pure _
      · split
        · exact ih _ _
        · exact failFlag_keepsCase _ _
    · exact failFlag_keepsCase _ _

/-- Reading what follows a hyphen does not set flags. -/
lemma readOff_keepsCase : KeepsCase readOff := by
  refine .bind next_keepsCase fun l => ?_
  split
  · exact .failBack _ _
  · split
    · exact .get_bind fun _ _ => readFlagsOff_keepsCase _ _ _
    · exact failFlag_keepsCase _ _
  · exact failFlag_keepsCase _ _

/-- Reading a head that changes flags does not set them. -/
lemma readFlags_keepsCase (first : Char) : KeepsCase (readFlags first) := by
  unfold readFlags
  extract_lets go
  have hgo : ∀ p, KeepsCase (go p) := by
    intro p
    dsimp only [go]
    split
    · exact .pure _
    split
    · exact .failBack _ _
    have hoff : ∀ off : Flags, KeepsCase
        (if off.template then failBack 1 .globalFlagOff
          else if p.1.meets off then failBack 1 .flagOnAndOff
          else pure (Head.scoped p.1 off)) := by
      intro off
      split
      · exact .failBack _ _
      split
      · exact .failBack _ _
      · exact .pure _
    split
    · exact .bind readOff_keepsCase hoff
    · exact .bind (.pure _) hoff
  split
  · exact .bind (.pure _) hgo
  · exact .get_bind fun _ _ => .bind (readFlagsOn_keepsCase _ _ _) hgo

/-- Reading the name of a group leaves the flags alone. -/
lemma readGroupName_keepsCase (terminator : Char) : KeepsCase (readGroupName terminator) := by
  refine .bind (readName_keepsCase _ _) fun name => ?_
  split
  · exact .pure _
  · exact .failBack _ _

/-- Finding a group by its name leaves the flags alone. -/
lemma namedGroup_keepsCase (name : String) : KeepsCase (namedGroup name) := by
  refine .get_bind fun _ _ => ?_
  split
  · exact .pure _
  · exact .failBack _ _

/-- Asking for the reach of a look-behind leaves the flags alone. -/
lemma checkLookbehind_keepsCase (group : Nat) : KeepsCase (checkLookbehind group) :=
  .of_carries fun _ => carries_checkLookbehind group

/-- Reading a head with a name leaves the flags alone. -/
lemma readNamedHead_keepsCase : KeepsCase readNamedHead := by
  refine .bind (accept_keepsCase _) fun isName => ?_
  split
  · exact .bind (readGroupName_keepsCase _) fun _ => .pure _
  refine .bind (accept_keepsCase _) fun isReference => ?_
  split
  · refine .bind (readGroupName_keepsCase _) fun name => .bind (namedGroup_keepsCase _) fun group =>
      .get_bind fun _ _ => ?_
    split
    · exact .bind (checkLookbehind_keepsCase _) fun _ => .pure _
    · exact .failBack _ _
  · refine .bind next_keepsCase fun l => ?_
    split <;> exact .failBack _ _

/-- Finding a group by its number leaves the flags alone. -/
lemma numberedGroup_keepsCase (name : String) : KeepsCase (numberedGroup name) := by
  unfold numberedGroup
  dsimp only
  split
  · split
    · exact .failBack _ _
    split
    · exact .failBack _ _
    · refine .get_bind fun s hs => ?_
      split
      · exact .bind (.set hs) fun _ => .pure _
      · exact .pure _
  · exact .failBack _ _

/-- Reading a condition leaves the flags alone. -/
lemma readCondition_keepsCase : KeepsCase readCondition := by
  refine .bind (readName_keepsCase _ _) fun name => ?_
  extract_lets go
  have hgo : ∀ group, KeepsCase (go group) := fun _ =>
    .bind (checkLookbehind_keepsCase _) fun _ => .pure _
  split
  · exact .bind (namedGroup_keepsCase _) hgo
  · exact .bind (numberedGroup_keepsCase _) hgo

/-- Skipping a comment leaves the flags alone. -/
lemma skipComment_keepsCase (start fuel : Nat) : KeepsCase (skipComment start fuel) := by
  induction fuel with
  | zero => exact .failAt _ _
  | succ fuel ih =>
    refine .bind next_keepsCase fun l => ?_
    split
    · exact .failAt _ _
    · split
      · exact .pure _
      · exact ih

/-- Reading the head of a look-behind leaves the flags alone. -/
lemma readLookbehind_keepsCase : KeepsCase readLookbehind := by
  refine .bind next_keepsCase fun l => ?_
  split
  · exact .failBack _ _
  · exact .pure _
  · exact .pure _
  · exact .failBack _ _

/-- Reading the head of a group leaves the flags alone. -/
lemma readHead_keepsCase (start : Nat) : KeepsCase (readHead start) := by
  refine .bind (accept_keepsCase _) fun isExtension => ?_
  split
  · refine .bind next_keepsCase fun l => ?_
    split
    · exact .failBack _ _
    · exact readNamedHead_keepsCase
    · exact .pure _
    · exact .get_bind fun _ _ => .bind (skipComment_keepsCase _ _) fun _ => .pure _
    · exact .pure _
    · exact .pure _
    · exact readLookbehind_keepsCase
    · exact readCondition_keepsCase
    · exact .pure _
    · split
      · exact readFlags_keepsCase _
      · exact .failBack _ _
    · exact .failBack _ _
  · exact .pure _

/-! ### Groups -/

/-- Beginning a group leaves the flags alone. -/
lemma beginGroup_keepsCase (name : Option String) : KeepsCase (beginGroup name) := by
  refine .get_bind fun s hs => ?_
  dsimp only
  split
  · exact .bind (.set hs) fun _ => .pure _
  · split
    · exact .bind (.failBack _ _) fun _ => .pure _
    · exact .bind (.set hs) fun _ => .pure _

/-- Ending a group leaves the flags alone. -/
lemma endGroup_keepsCase (group : Nat) (body : Node) : KeepsCase (endGroup group body) :=
  .modify fun _ hr => hr

/-- Closing a group leaves the flags alone. -/
lemma closeGroup_keepsCase (start : Nat) : KeepsCase (closeGroup start) := by
  refine .bind (accept_keepsCase _) fun closed => ?_
  split
  · exact .pure _
  · exact .failAt _ _

/-- Reading inside a look-behind keeps letter case ignored if the reading does. -/
lemma insideLookbehind_keepsCase {x : Reading α} (h : KeepsCase x) :
    KeepsCase (insideLookbehind x) :=
  .get_bind fun _ _ => .bind (.modify fun _ hr => hr) fun _ => .bind h fun _ =>
    .bind (.modify fun _ hr => hr) fun _ => .pure _

/-! ### Sequences and groups -/

/-- Skipping a comment of a verbose pattern leaves the flags alone. -/
lemma skipLine_keepsCase (fuel : Nat) : KeepsCase (skipLine fuel) := by
  induction fuel with
  | zero => exact .pure _
  | succ fuel ih =>
    refine .bind next_keepsCase fun l => ?_
    split
    · exact .pure _
    · split
      · exact .pure _
      · exact ih

/-- Repeating the last piece leaves the flags alone. -/
lemma repeatLast_keepsCase (position : Nat) (bounds : Nat × Option Nat) (items : List Item) :
    KeepsCase (repeatLast position bounds items) := by
  unfold repeatLast
  split
  · exact .failAt _ _
  · split
    · exact .failAt _ _
    · exact .failAt _ _
    · exact .bind (.of_carries fun _ => carries_readGreed ends_nil) fun _ => .pure _

/-- Reading alternations, sequences and groups with some fuel keeps letter case ignored. -/
structure KeepsCaseWithFuel (fuel : Nat) : Prop where
  /-- Alternations. -/
  branches (verbose isTop : Bool) : KeepsCase (readBranches fuel verbose isTop)
  /-- Further branches. -/
  more (verbose isTop : Bool) : KeepsCase (readMoreBranches fuel verbose isTop)
  /-- Sequences. -/
  sequence (verbose isFirst : Bool) (items : List Item) :
    KeepsCase (readSequence fuel verbose isFirst items)
  /-- Groups. -/
  group (verbose : Bool) (start : Nat) (head : Head) : KeepsCase (readGroup fuel verbose start head)

section Step

variable {fuel : Nat} (h : KeepsCaseWithFuel fuel)

include h

/-- An alternation is a sequence and further branches. -/
lemma readBranches_keepsCase (verbose isTop : Bool) :
    KeepsCase (readBranches (fuel + 1) verbose isTop) := by
  unfold readBranches
  exact .bind (h.sequence _ _ _) fun _ => .bind (h.more _ _) fun _ => .pure _

/-- Further branches are sequences after bars. -/
lemma readMoreBranches_keepsCase (verbose isTop : Bool) :
    KeepsCase (readMoreBranches (fuel + 1) verbose isTop) := by
  unfold readMoreBranches
  refine .bind (accept_keepsCase _) fun another => ?_
  split
  · exact .get_bind fun _ _ => .bind (h.sequence _ _ _) fun _ => .bind (h.more _ _) fun _ => .pure _
  · exact .pure _

/-- The body of a group is an alternation, or two sequences if it chooses by another group. -/
lemma readGroup_keepsCase (verbose : Bool) (start : Nat) (head : Head) :
    KeepsCase (readGroup (fuel + 1) verbose start head) := by
  unfold readGroup
  split
  · exact .bind (beginGroup_keepsCase _) fun _ => .bind (h.branches _ _) fun _ =>
      .bind (closeGroup_keepsCase _) fun _ => .bind (endGroup_keepsCase _ _) fun _ => .pure _
  · refine .bind (h.branches _ _) fun _ => .bind (closeGroup_keepsCase _) fun _ => ?_
    split <;> exact .pure _
  · exact .bind (h.branches _ _) fun _ => .bind (closeGroup_keepsCase _) fun _ => .pure _
  · extract_lets go
    have hgo : ∀ body, KeepsCase (go body) := fun _ =>
      .bind (closeGroup_keepsCase _) fun _ => .pure _
    split
    · exact .bind (h.branches _ _) hgo
    · exact .bind (insideLookbehind_keepsCase (h.branches _ _)) hgo
  · refine .bind (h.sequence _ _ _) fun yes => .bind (accept_keepsCase _) fun another => ?_
    extract_lets go
    have hgo : ∀ no, KeepsCase (go no) := by
      refine fun no => .bind (nextIsIn_keepsCase _) fun more => ?_
      split
      · exact .failBack _ _
      · exact .bind (closeGroup_keepsCase _) fun _ => .pure _
    split
    · exact .bind (h.sequence _ _ _) hgo
    · exact .bind (.pure _) hgo
  · exact .pure _
  · exact .pure _
  · exact .pure _

/-- A sequence goes on after each of its pieces. Flags for the whole pattern are added to those that
it has. -/
lemma readSequence_keepsCase (verbose isFirst : Bool) (items : List Item) :
    KeepsCase (readSequence (fuel + 1) verbose isFirst items) := by
  unfold readSequence
  refine .bind peek_keepsCase fun l => ?_
  split
  · exact .pure _
  rename_i l
  split
  · exact .pure _
  refine .bind next_keepsCase fun _ => .get_bind fun _ _ => ?_
  dsimp only
  cases l with
  | dangling => exact .failAt _ _
  | escape letter =>
    exact .bind (.of_carries fun _ => carries_readEscape letter ends_nil) fun _ => h.sequence _ _ _
  | plain c =>
    dsimp only
    split
    · exact h.sequence _ _ _
    split
    · exact .get_bind fun _ _ => .bind (skipLine_keepsCase _) fun _ => h.sequence _ _ _
    split
    · exact .bind (.of_carries fun _ => carries_readSet ends_nil) fun _ => h.sequence _ _ _
    · exact h.sequence _ _ _
    · exact h.sequence _ _ _
    · exact h.sequence _ _ _
    · refine .bind (readHead_keepsCase _) fun head => ?_
      split
      · exact h.sequence _ _ _
      · rename_i on
        refine .bind (.modify fun r hr => ?_) fun _ => ?_
        · simp [Flags.union, hr]
        · split
          · exact .get_bind fun _ _ => h.sequence _ _ _
          · exact .failAt _ _
      · exact .bind (h.group _ _ _) fun _ => h.sequence _ _ _
    · split
      · refine .bind (.of_carries fun _ => carries_readBounds _ ends_nil) fun bounds => ?_
        split
        · exact .bind (repeatLast_keepsCase _ _ _) fun _ => h.sequence _ _ _
        · exact h.sequence _ _ _
      · exact h.sequence _ _ _

end Step

/-- **Reading with any fuel.** Letter case stays ignored.

**Proof sketch.** Without fuel there is a fault. With more fuel each of the four functions uses the
others with less of it. -/
theorem keepsCaseWithFuel (fuel : Nat) : KeepsCaseWithFuel fuel := by
  induction fuel with
  | zero =>
    refine ⟨fun _ _ => ?_, fun _ _ => ?_, fun _ _ _ => ?_, fun _ _ _ => ?_⟩
    · unfold readBranches; exact .failBack _ _
    · unfold readMoreBranches; exact .failBack _ _
    · unfold readSequence; exact .failBack _ _
    · unfold readGroup; exact .failBack _ _
  | succ fuel ih =>
    exact ⟨readBranches_keepsCase ih, readMoreBranches_keepsCase ih, readSequence_keepsCase ih,
      readGroup_keepsCase ih⟩

/-! ### Whole patterns -/

/-- A text under the flag that ignores letter case is a pattern with this flag. -/
theorem ignoreCase_of_compile {text : List Char} {flags : Flags} {p : Compiled}
    (hflags : flags.ignoreCase = true) (h : compile text flags = .ok p) :
    p.flags.ignoreCase = true := by
  obtain ⟨-, nodes, r, hnodes, -, rfl⟩ := compile_eq_ok_iff.mp h
  exact (keepsCaseWithFuel _).branches _ _ _ _ _ hnodes hflags

end RunnerAtlas.Pattern
