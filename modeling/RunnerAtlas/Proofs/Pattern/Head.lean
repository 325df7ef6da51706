import RunnerAtlas.Proofs.Pattern.Rules

set_option relaxedAutoImplicit false
set_option autoImplicit false

/-!
# Reading heads of groups

Reading what a group is for stays within the text, and every error of it is a fault of form. Flags
of the whole pattern come from the letters of a group that chooses at most one character set.

## Main definitions

* `RunnerAtlas.Pattern.Flags.Spelled` — flags by their letters.
* `RunnerAtlas.Pattern.Head.SetIn` — a head whose flags the text has set.

## Main results

* `RunnerAtlas.Pattern.readFlagsOn_reads` — reading flags that are switched on.
* `RunnerAtlas.Pattern.readHead_keeps` — reading a head.
-/

namespace RunnerAtlas.Pattern

variable {ls done : List Lexeme}

/-! ### Flags by their letters -/

/-- Flags are switched on by letters, which choose at most one character set. -/
structure Flags.Spelled (on : Flags) (letters : List Char) : Prop where
  /-- The letters are letters of flags. -/
  isFlag : ∀ c ∈ letters, isFlag c = true
  /-- The flag of ASCII has its letter. -/
  ascii : on.ascii = true ↔ 'a' ∈ letters
  /-- The flag of all scripts has its letter. -/
  unicode : on.unicode = true ↔ 'u' ∈ letters
  /-- The two exclude each other. -/
  single : ¬ (on.ascii = true ∧ on.unicode = true)

namespace Flags

/-- No letters switch no flags on. -/
lemma spelled_nil : Flags.Spelled {} [] :=
  ⟨by simp, by simp, by simp, by simp⟩

/-- What a flag chooses, its letter says. -/
lemma ofLetter?_chooses {letter : Char} {flag : Flags} (h : ofLetter? letter = some flag) :
    (flag.ascii = true ↔ 'a' = letter) ∧ (flag.unicode = true ↔ 'u' = letter) := by
  unfold ofLetter? at h
  split at h
  all_goals cases h
  all_goals decide

/-- A further letter switches its flag on, unless it chooses a second character set. -/
lemma Spelled.snoc {on flag : Flags} {letters : List Char} {letter : Char}
    (h : on.Spelled letters) (hflag : ofLetter? letter = some flag)
    (hclash : ((flag.ascii || flag.unicode) && (on.union flag).ascii && (on.union flag).unicode) ≠
      true) :
    (on.union flag).Spelled (letters ++ [letter]) := by
  obtain ⟨hascii, hunicode⟩ := ofLetter?_chooses hflag
  refine ⟨?_, ?_, ?_, ?_⟩
  · intro c hc
    obtain hc | hc := List.mem_append.mp hc
    · exact h.isFlag c hc
    · obtain rfl := List.mem_singleton.mp hc
      simp [Pattern.isFlag, hflag]
  · simp [union, h.ascii, hascii]
  · simp [union, h.unicode, hunicode]
  · have hsingle := h.single
    simp only [union, ne_eq, Bool.or_eq_true, Bool.and_eq_true] at hclash ⊢
    grind

/-- Flags by the letters of a group without a body are set by the text that holds it. -/
lemma Spelled.setIn {on : Flags} {letters : List Char} (h : on.Spelled letters)
    (hholds : Holds ls ('(' :: '?' :: letters ++ [')'])) : on.SetIn ls where
  ascii ha :=
    ⟨letters, h.ascii.mp ha, fun hu => h.single ⟨ha, h.unicode.mpr hu⟩, h.isFlag, hholds⟩
  unicode hu :=
    ⟨letters, h.unicode.mp hu, fun ha => h.single ⟨h.ascii.mpr ha, hu⟩, h.isFlag, hholds⟩

end Flags

/-- A fault of a piece that is no flag is an error of the text. -/
lemma reads_failFlag {α : Type} {P : Reader → Prop} {Q : α → Reader → Prop} (l : Lexeme)
    (otherwise : Fault) : Reads ls P (failFlag l otherwise) Q := by
  unfold failFlag
  split <;> exact reads_failBack _ _

/-- Flags that are switched on by all letters of a group are set by the text. The letters before
the last one that was read have switched on the given flags. -/
lemma readFlagsOn_reads {letters : List Char} {letter : Char} {on : Flags} (fuel : Nat)
    (hon : on.Spelled letters) :
    Reads ls (Reader.IsAfter ls (done ++ ('(' :: '?' :: letters ++ [letter]).map .plain))
      (readFlagsOn fuel letter on)
      fun p r => (p.2 = ')' → p.1.SetIn ls) ∧ r.IsAfter ls [] := by
  induction fuel generalizing letters letter on with
  | zero => exact reads_failBack _ _
  | succ fuel ih =>
    unfold readFlagsOn
    split
    · exact reads_failBack _ _
    rename_i flag hflag
    dsimp only
    split
    · exact reads_failBack _ _
    rename_i hclash
    have hspelled := hon.snoc hflag hclash
    refine reads_next.bind fun l => ?_
    split
    · exact reads_failBack _ _
    · rename_i c
      split
      · refine .pure fun r hr => ⟨?_, hr.forget⟩
        rintro rfl
        have hgroup : r.IsAfter ls
            (done ++ ('(' :: '?' :: (letters ++ [letter]) ++ [')']).map .plain) := by
          simpa using hr
        exact hspelled.setIn hgroup.drop.infix
      · split
        · exact (ih hspelled).mono (fun r hr => by simpa using hr) fun _ _ h => h
        · exact reads_failFlag _ _
    · exact reads_failFlag _ _

/-- Reading flags that are switched off stays within the text. -/
lemma readFlagsOff_keeps (fuel : Nat) (letter : Char) (off : Flags) :
    Keeps ls done (readFlagsOff fuel letter off) := by
  induction fuel generalizing done letter off with
  | zero => exact reads_failBack _ _
  | succ fuel ih =>
    unfold readFlagsOff
    split
    · exact reads_failBack _ _
    split
    · exact reads_failBack _ _
    refine reads_next.bind fun l => ?_
    split
    · exact reads_failBack _ _
    · split
      · exact Keeps.pure _
      · split
        · exact ih _ _
        · exact reads_failFlag _ _
    · exact reads_failFlag _ _

/-- Reading the flags after a hyphen stays within the text. -/
lemma readOff_keeps : Keeps ls done readOff := by
  refine reads_next.bind fun l => ?_
  split
  · exact reads_failBack _ _
  · split
    · exact .get_bind fun _ _ => readFlagsOff_keeps _ _ _
    · exact reads_failFlag _ _
  · exact reads_failFlag _ _

/-! ### Heads -/

/-- If a head sets flags of the whole pattern, the text has set them. -/
def Head.SetIn (ls : List Lexeme) : Head → Prop
  | .flags on => on.SetIn ls
  | _ => True

/-- Reading a head stays within the text and gives no flags that the text has not set. -/
abbrev KeepsHead (ls done : List Lexeme) (x : Reading Head) : Prop :=
  Reads ls (Reader.IsAfter ls done) x fun head r => head.SetIn ls ∧ r.IsAfter ls []

/-- A head that sets no flags of the whole pattern. -/
lemma KeepsHead.pure {head : Head} (h : head.SetIn ls) :
    KeepsHead ls done (pure head : Reading Head) :=
  Reads.pure fun _ hr => ⟨h, hr.forget⟩

/-- Reading a head that changes flags. Those that are switched on for the whole pattern end in a
closing parenthesis. -/
lemma readFlags_keeps (first : Char) :
    KeepsHead ls (done ++ ['(', '?', first].map .plain) (readFlags first) := by
  unfold readFlags
  extract_lets go
  have hgo : ∀ p, Reads ls (fun r => (p.2 = ')' → p.1.SetIn ls) ∧ r.IsAfter ls []) (go p)
      fun head r => head.SetIn ls ∧ r.IsAfter ls [] := by
    refine fun p => .of_and fun hset => ?_
    dsimp only [go]
    split
    · exact KeepsHead.pure (hset ‹_›)
    split
    · exact reads_failBack _ _
    have hoff : ∀ off : Flags, KeepsHead ls []
        (if off.template then failBack 1 .globalFlagOff
          else if p.1.meets off then failBack 1 .flagOnAndOff
          else pure (.scoped p.1 off)) := by
      intro off
      split
      · exact reads_failBack _ _
      split
      · exact reads_failBack _ _
      · exact KeepsHead.pure trivial
    split
    · exact Keeps.bind readOff_keeps hoff
    · exact Keeps.bind (Keeps.pure _) hoff
  split
  · exact (Reads.pure fun r hr => ⟨by simp, hr.forget⟩).bind hgo
  · exact .get_bind fun _ _ => (readFlagsOn_reads _ Flags.spelled_nil).bind hgo

/-- Reading the name of a group stays within the text. -/
lemma readGroupName_keeps (terminator : Char) : Keeps ls done (readGroupName terminator) := by
  refine Keeps.bind (readName_keeps _ _) fun name => ?_
  split
  · exact Keeps.pure _
  · exact reads_failBack _ _

/-- Finding a group by its name stays within the text. -/
lemma namedGroup_keeps (name : String) : Keeps ls done (namedGroup name) := by
  refine .get_bind fun s _ => ?_
  split
  · exact Keeps.pure _
  · exact reads_failBack _ _

/-- Reading a head with a name. -/
lemma readNamedHead_keeps : KeepsHead ls done readNamedHead := by
  refine (reads_accept _).bind fun named => ?_
  split
  · exact Keeps.bind (readGroupName_keeps _) fun name => KeepsHead.pure trivial
  refine (reads_accept _).bind fun refers => ?_
  split
  · refine Keeps.bind (readGroupName_keeps _) fun name =>
      Keeps.bind (namedGroup_keeps _) fun group => .get_bind fun s _ => ?_
    split
    · exact Keeps.bind (checkLookbehind_keeps _) fun _ => KeepsHead.pure trivial
    · exact reads_failBack _ _
  · refine reads_next.bind fun l => ?_
    split
    · exact reads_failBack _ _
    · exact reads_failBack _ _

/-- Finding a group by its number stays within the text. -/
lemma numberedGroup_keeps (name : String) : Keeps ls done (numberedGroup name) := by
  unfold numberedGroup
  dsimp only
  split
  · split
    · exact reads_failBack _ _
    split
    · exact reads_failBack _ _
    refine .get_bind fun s hs => ?_
    split
    · exact Keeps.bind (.set (hs.forget.of_eq rfl rfl)) fun _ => Keeps.pure _
    · exact Keeps.pure _
  · exact reads_failBack _ _

/-- Reading the head of a conditional group. -/
lemma readCondition_keeps : KeepsHead ls done readCondition := by
  have hgo : ∀ group, KeepsHead ls []
      (do checkLookbehind group; pure (Head.cond group) : Reading Head) :=
    fun group => Keeps.bind (checkLookbehind_keeps _) fun _ => KeepsHead.pure trivial
  refine Keeps.bind (readName_keeps _ _) fun name => ?_
  dsimp only
  split
  · exact Keeps.bind (namedGroup_keeps _) hgo
  · exact Keeps.bind (numberedGroup_keeps _) hgo

/-- Skipping a comment stays within the text. -/
lemma skipComment_keeps (start fuel : Nat) : Keeps ls done (skipComment start fuel) := by
  induction fuel generalizing done with
  | zero => exact reads_failAt _ _
  | succ fuel ih =>
    refine reads_next.bind fun l => ?_
    split
    · exact reads_failAt _ _
    · split
      · exact Keeps.pure _
      · exact ih

/-- Reading the head of a look-behind. -/
lemma readLookbehind_keeps : KeepsHead ls done readLookbehind := by
  refine reads_next.bind fun l => ?_
  split
  · exact reads_failBack _ _
  · exact KeepsHead.pure trivial
  · exact KeepsHead.pure trivial
  · exact reads_failBack _ _

/-- **Heads of groups.** Reading a head after an opening parenthesis stays within the text, and
flags of the whole pattern are set by the group that it begins. -/
theorem readHead_keeps (start : Nat) : KeepsHead ls (done ++ [.plain '(']) (readHead start) := by
  refine (reads_accept _).bind fun extended => ?_
  split
  · refine reads_next.bind fun l => ?_
    split
    · exact reads_failBack _ _
    · exact readNamedHead_keeps
    · exact KeepsHead.pure trivial
    · exact .get_bind fun _ _ => Keeps.bind (skipComment_keeps _ _) fun _ => KeepsHead.pure trivial
    · exact KeepsHead.pure trivial
    · exact KeepsHead.pure trivial
    · exact readLookbehind_keeps
    · exact readCondition_keeps
    · exact KeepsHead.pure trivial
    · split
      · exact (readFlags_keeps _).mono (fun r hr => by simpa using hr) fun _ _ h => h
      · exact reads_failBack _ _
    · exact reads_failBack _ _
  · exact KeepsHead.pure trivial

end RunnerAtlas.Pattern
