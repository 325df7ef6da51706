import RunnerAtlas.Pattern.Bracket
import RunnerAtlas.Proofs.Pattern.Rules

set_option relaxedAutoImplicit false
set_option autoImplicit false

/-!
# Reading escapes and sets

Whatever stands in an escape or a set, reading it stays within the text. The only error of it that
is no fault of form is that of an escape of eight hexadecimal digits.

## Main results

* `RunnerAtlas.Pattern.readCode_keeps` — reading a code point by number.
* `RunnerAtlas.Pattern.readEscape_keeps` — reading an escape.
* `RunnerAtlas.Pattern.readSet_keeps` — reading a set.
-/

namespace RunnerAtlas.Pattern

variable {ls done : List Lexeme}

/-- A fault of an escape is an error of the text. -/
lemma reads_failEscape {α : Type} {P : Reader → Prop} {Q : α → Reader → Prop} (letter : Char)
    (tail : List Char) (fault : String → Fault) :
    Reads ls P (failEscape letter tail fault) Q :=
  reads_failBack _ _

/-! ### Escapes -/

/-- Reading a code point by number stays within the text. So few digits that they spell no number
beyond the machine integers cannot be in excess, and eight of them follow the letter for it. -/
lemma readCode_keeps {letter : Char} {count : Nat}
    (hcount : count < 8 ∨ letter = 'U' ∧ count = 8) :
    Keeps ls (done ++ [.escape letter]) (readCode letter count) := by
  refine (reads_takeUpTo _ _).bind fun tail => .of_and fun ⟨hdigits, _⟩ => .of_state fun s hs => ?_
  dsimp only
  split
  · exact reads_failEscape _ _ _
  rename_i hlength
  replace hlength : tail.length = count := Decidable.not_not.mp hlength
  split
  · rename_i hlarge
    refine .throw (.inr ?_)
    have hfits : spelled 16 tail < 16 ^ tail.length := spelled_lt (by decide) tail
    obtain hfew | ⟨rfl, rfl⟩ := hcount
    · have : 16 ^ tail.length ≤ 16 ^ 7 := Nat.pow_le_pow_right (by decide) (by omega)
      omega
    · have hcode : s.IsAfter ls (done ++ .escape 'U' :: tail.map .plain) := by simpa using hs
      exact .codePoint hcode.drop.infix hdigits hlength hlarge
  · split
    · exact reads_failEscape _ _ _
    · exact Keeps.pure _

/-- Reading a code point by name stays within the text. -/
lemma readNamed_keeps : Keeps ls done readNamed := by
  refine (reads_accept _).bind fun taken => ?_
  split
  · refine Keeps.bind (readName_keeps _ _) fun name => ?_
    split
    · exact Keeps.pure _
    · exact reads_failBack _ _
  · exact reads_failBack _ _

/-- Reading a code point that its letter announces stays within the text. -/
lemma readCode?_keeps (letter : Char) : Keeps ls (done ++ [.escape letter]) (readCode? letter) := by
  unfold readCode?
  split
  · exact (readCode_keeps (.inl (by decide))).map
  · exact (readCode_keeps (.inl (by decide))).map
  · exact (readCode_keeps (.inr ⟨rfl, rfl⟩)).map
  · exact readNamed_keeps.map
  · exact Keeps.pure _

/-- A code point of octal digits stays within the text. -/
lemma octalCode_keeps (letter : Char) (tail : List Char) :
    Keeps ls done (octalCode letter tail) := by
  unfold octalCode
  dsimp only
  split
  · exact reads_failEscape _ _ _
  · exact Keeps.pure _

/-- An escape of a character for itself stays within the text. -/
lemma ownMeaning_keeps (letter : Char) : Keeps ls done (ownMeaning letter) := by
  unfold ownMeaning
  split
  · exact reads_failEscape _ _ _
  · exact Keeps.pure _

/-- Reading an escape inside a set stays within the text. -/
lemma readSetEscape_keeps (letter : Char) :
    Keeps ls (done ++ [.escape letter]) (readSetEscape letter) := by
  unfold readSetEscape
  split
  · exact Keeps.pure _
  · exact Keeps.pure _
  · refine Keeps.bind (readCode?_keeps letter) fun code => ?_
    split
    · exact Keeps.pure _
    · split
      · exact (reads_takeUpTo _ _).bind fun tail => .of_and fun _ => (octalCode_keeps _ _).map
      · exact (ownMeaning_keeps _).map

/-- A reference to a group by number stays within the text. -/
lemma backref_keeps (letter : Char) (tail : List Char) : Keeps ls done (backref letter tail) := by
  refine .get_bind fun s _ => ?_
  split
  · split
    · exact Keeps.bind (checkLookbehind_keeps _) fun _ => Keeps.pure _
    · exact reads_failBack _ _
  · exact reads_failBack _ _

/-- Reading an escape by number stays within the text. -/
lemma readNumbered_keeps (letter : Char) : Keeps ls done (readNumbered letter) := by
  unfold readNumbered
  split
  · exact (reads_takeUpTo _ _).bind fun tail => .of_and fun _ => Keeps.pure _
  · refine (reads_takeUpTo _ _).bind fun second => .of_and fun _ => ?_
    refine Keeps.bind (nextIsIn_keeps _) fun isOctal => ?_
    split
    · exact (reads_takeUpTo _ _).bind fun third => .of_and fun _ => (octalCode_keeps _ _).map
    · exact backref_keeps _ _

/-- Reading an escape stays within the text. -/
theorem readEscape_keeps (letter : Char) :
    Keeps ls (done ++ [.escape letter]) (readEscape letter) := by
  unfold readEscape
  split
  · exact Keeps.pure _
  · exact Keeps.pure _
  · exact Keeps.pure _
  · refine Keeps.bind (readCode?_keeps letter) fun code => ?_
    split
    · exact Keeps.pure _
    · split
      · exact readNumbered_keeps _
      · exact (ownMeaning_keeps _).map

/-! ### Sets -/

/-- Reading a member of a set stays within the text. -/
lemma readSetItem_keeps (l : Lexeme) : Keeps ls (done ++ [l]) (readSetItem l) := by
  unfold readSetItem
  split
  · exact readSetEscape_keeps _
  · exact Keeps.pure _
  · exact Keeps.pure _

/-- Making a range stays within the text. -/
lemma rangeOf_keeps (low high : Lexeme) (first last : SetItem) :
    Keeps ls done (rangeOf low high first last) := by
  unfold rangeOf
  dsimp only
  split
  · split
    · exact reads_failBack _ _
    · exact Keeps.pure _
  · exact reads_failBack _ _

/-- Reading the members of a set stays within the text. -/
lemma readMembers_keeps (start fuel : Nat) (found : List SetItem) :
    Keeps ls done (readMembers start fuel found) := by
  induction fuel generalizing done found with
  | zero => exact reads_failAt _ _
  | succ fuel ih =>
    refine reads_next.bind fun low => ?_
    split
    · exact reads_failAt _ _
    split
    · exact Keeps.pure _
    refine Keeps.bind (readSetItem_keeps _) fun first => (reads_accept _).bind fun dash => ?_
    split
    · refine reads_next.bind fun high => ?_
      split
      · exact reads_failAt _ _
      split
      · exact Keeps.pure _
      · exact Keeps.bind (readSetItem_keeps _) fun last =>
          Keeps.bind (rangeOf_keeps _ _ _ _) fun range => ih _
    · exact ih _

/-- Reading a set stays within the text. -/
theorem readSet_keeps : Keeps ls done readSet :=
  .get_bind fun _ _ => (reads_accept _).bind fun _ => .get_bind fun _ _ =>
    Keeps.bind (readMembers_keeps _ _ _) fun _ => Keeps.pure _

end RunnerAtlas.Pattern
