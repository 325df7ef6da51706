import RunnerAtlas.Proofs.Document.Taking

set_option relaxedAutoImplicit false
set_option autoImplicit false

/-!
# Words in a document

A word without marks is a plain scalar of a document. What blanks come after it up to a mark of a
flow collection, or up to the end of the text, is taken with it, and makes no part of it.

## Main definitions

* `RunnerAtlas.Document.EndsWords` — the places at which a plain scalar ends after its blanks.

## Main results

* `RunnerAtlas.Document.takes_plainScalar` — a word is read as itself.
-/

namespace RunnerAtlas.Document

/-! ### Blanks -/

/-- Blanks are spaces up to the first end of line, if there is one, and blanks after it. -/
lemma exists_spaces {w : List Char} (hw : w ⊆ [' ', '\n']) :
    ∃ spaces rest, w = spaces ++ rest ∧ (∀ c ∈ spaces, c = ' ') ∧
      (rest = [] ∨ ∃ more, rest = '\n' :: more ∧ more ⊆ [' ', '\n']) := by
  induction w with
  | nil => exact ⟨[], [], rfl, by simp, .inl rfl⟩
  | cons c w ih =>
    obtain ⟨hc, hrest⟩ := List.cons_subset.mp hw
    obtain rfl | rfl : c = ' ' ∨ c = '\n' := by simpa using hc
    · obtain ⟨spaces, rest, rfl, hspaces, hmore⟩ := ih hrest
      exact ⟨' ' :: spaces, rest, rfl, by simpa using hspaces, hmore⟩
    · exact ⟨[], '\n' :: w, rfl, by simp, .inr ⟨w, rfl, hrest⟩⟩

/-- The places at which a plain scalar ends after its blanks: the end of the text, and the marks
between and after the members of a flow collection. -/
def EndsWords (inFlow : Bool) : List Char → Prop
  | [] => True
  | c :: _ => inFlow = true ∧ (c = ',' ∨ c = ']' ∨ c = '\x7d')

variable {inFlow : Bool} {tail : List Char}

/-- Where a plain scalar ends no blank, end of line or comment follows. -/
lemma EndsWords.head (h : EndsWords inFlow tail) :
    ∀ c ∈ tail.head?, c ≠ ' ' ∧ isBreak c = false ∧ c ≠ '#' := by
  cases tail with
  | nil => simp
  | cons c tail =>
    obtain ⟨-, rfl | rfl | rfl⟩ := h <;> simp [isBreak]

/-- Where a plain scalar ends no mark of a document's start or end follows. -/
lemma EndsWords.startsMark_eq (h : EndsWords inFlow tail) : startsMark tail = false := by
  cases tail with
  | nil => rfl
  | cons c tail =>
    obtain ⟨-, rfl | rfl | rfl⟩ := h <;> simp [startsMark]

/-- Where a plain scalar ends there is no further word. -/
lemma EndsWords.plainWord_eq (h : EndsWords inFlow tail) : plainWord inFlow tail = [] := by
  cases tail with
  | nil => rfl
  | cons c tail =>
    obtain ⟨rfl, rfl | rfl | rfl⟩ := h <;> simp [plainWord, endsPlain, flowMarks]

/-- No mark of a document's start or end follows among blanks at whose end a plain scalar ends. -/
lemma EndsWords.startsMark_append (h : EndsWords inFlow tail) {w : List Char}
    (hw : w ⊆ [' ', '\n']) : startsMark (w ++ tail) = false := by
  cases w with
  | nil => exact h.startsMark_eq
  | cons c w =>
    obtain rfl | rfl : c = ' ' ∨ c = '\n' := by simpa using hw (List.mem_cons_self ..)
    · simp [startsMark]
    · simp [startsMark]

/-- Spaces are skipped up to what is none. -/
lemma takes_skipSpaces {spaces : List Char} (hspaces : ∀ c ∈ spaces, c = ' ')
    (htail : ∀ c ∈ tail.head?, c ≠ ' ') : Takes skipSpaces spaces tail () :=
  (takes_takeWhile (by simpa using hspaces) (by simpa using htail)).bind_pure fun _ => ()

/-- The blank lines in a plain scalar are taken with the spaces after them. -/
lemma exists_takes_plainBreaks (htail : EndsWords inFlow tail) {w : List Char}
    (hw : w ⊆ [' ', '\n']) {fuel : Nat} (hfuel : w.length < fuel) :
    ∃ breaks, Takes (plainBreaks fuel) w tail (some breaks) := by
  induction fuel generalizing w with
  | zero => exact absurd hfuel (Nat.not_lt_zero _)
  | succ fuel ih =>
    unfold plainBreaks
    obtain ⟨spaces, rest, rfl, hspaces, rfl | ⟨more, rfl, hmore⟩⟩ := exists_spaces hw
    · refine ⟨[], ?_⟩
      rw [List.append_nil]
      refine (takes_skipSpaces hspaces fun c hc => (htail.head c hc).1).bind_last ?_
      exact (takes_takeBreak_none fun c hc => (htail.head c hc).2.1).bind_nil (takes_pure _ _)
    · obtain ⟨breaks, hbreaks⟩ := ih hmore (by simp at hfuel; omega)
      refine ⟨'\n' :: breaks, ?_⟩
      refine (takes_skipSpaces hspaces (by simp)).bind ?_
      refine Takes.bind (takes_takeBreak (c := '\n') _ rfl) ?_
      refine (takes_atMark _).bind_nil ?_
      rw [htail.startsMark_append hmore]
      exact hbreaks.bind_pure fun breaks => breaks.map ('\n' :: ·)

/-- The blanks after a word of a plain scalar are taken. -/
lemma exists_takes_plainBlanks (htail : EndsWords inFlow tail) {w : List Char}
    (hw : w ⊆ [' ', '\n']) : ∃ result, Takes plainBlanks w tail result := by
  unfold plainBlanks
  obtain ⟨spaces, rest, rfl, hspaces, rfl | ⟨more, rfl, hmore⟩⟩ := exists_spaces hw
  · refine ⟨(spaces, false), ?_⟩
    rw [List.append_nil]
    refine (takes_takeWhile (by simpa using hspaces)
      (by simpa using fun c hc => (htail.head c hc).1)).bind_last ?_
    exact (takes_takeBreak_none fun c hc => (htail.head c hc).2.1).bind_nil (takes_pure _ _)
  · obtain ⟨breaks, hbreaks⟩ := exists_takes_plainBreaks htail hmore
      (show more.length < (more ++ tail).length + 1 by rw [List.length_append]; omega)
    refine ⟨(folded '\n' breaks, true), ?_⟩
    refine (takes_takeWhile (by simpa using hspaces) (by simp)).bind ?_
    refine Takes.bind (takes_takeBreak (c := '\n') _ rfl) ?_
    refine (takes_atMark _).bind_nil ?_
    rw [htail.startsMark_append hmore]
    refine (takes_remaining _).bind_nil ?_
    exact hbreaks.bind_last (takes_pure _ _)

/-! ### Words -/

/-- The characters of words that no mark can end. -/
def isWordChar (c : Char) : Bool :=
  !(endsWord (some c) || c == ':' || c == '#' || flowMarks.contains c)

/-- A word ends at a blank or a mark. -/
lemma plainWord_append {cs more : List Char} (hcs : ∀ c ∈ cs, isWordChar c = true)
    (hmore : plainWord inFlow more = []) : plainWord inFlow (cs ++ more) = cs := by
  induction cs with
  | nil => exact hmore
  | cons c cs ih =>
    have hc : endsPlain inFlow c (cs ++ more).head? = false := by
      obtain ⟨⟨⟨hends, hcolon⟩, -⟩, hmark⟩ : ((endsWord (some c) = false ∧ c ≠ ':') ∧ c ≠ '#') ∧
          c ∉ flowMarks := by
        simpa [isWordChar] using hcs c (by simp)
      simp [endsPlain, hends, hcolon, hmark]
    rw [List.cons_append, plainWord, hc, ih fun d hd => hcs d (by simp [hd])]
    rfl

/-- There is no word among blanks at whose end a plain scalar ends. -/
lemma EndsWords.plainWord_append_eq (h : EndsWords inFlow tail) {w : List Char}
    (hw : w ⊆ [' ', '\n']) : plainWord inFlow (w ++ tail) = [] := by
  cases w with
  | nil => exact h.plainWord_eq
  | cons c w =>
    obtain rfl | rfl : c = ' ' ∨ c = '\n' := by simpa using hw (List.mem_cons_self ..)
    · simp [plainWord, endsPlain, endsWord]
    · simp [plainWord, endsPlain, endsWord, isBreak]

/-- The word at the characters to come is a run of characters that no mark can end. -/
lemma word_eq {cs more : List Char} (hcs : ∀ c ∈ cs, isWordChar c = true)
    (hmore : plainWord inFlow more = []) :
    (if (cs ++ more).head? = some '#' then [] else plainWord inFlow (cs ++ more)) = cs := by
  cases cs with
  | nil =>
    rw [List.nil_append, hmore]
    exact ite_self _
  | cons c cs =>
    have hc : c ≠ '#' := by
      rintro rfl
      exact absurd (hcs '#' (by simp)) (by decide)
    rw [if_neg (by simpa using hc), plainWord_append hcs hmore]

/-- A word is taken with the blanks after it, and no further word follows. -/
lemma exists_takes_plainWords {cs w : List Char} (hne : cs ≠ [])
    (hcs : ∀ c ∈ cs, isWordChar c = true) (hw : w ⊆ [' ', '\n']) (htail : EndsWords inFlow tail)
    (fuel : Nat) :
    ∃ newLine, Takes (plainWords inFlow 0 (fuel + 2) [] false) (cs ++ w) tail (cs, newLine) := by
  obtain ⟨⟨next, newLine⟩, hblanks⟩ := exists_takes_plainBlanks htail hw
  have hend : ∀ blanks newLine,
      Takes (plainWords inFlow 0 (fuel + 1) blanks newLine) [] tail ([], newLine) := by
    intro blanks newLine
    unfold plainWords
    refine .get_bind fun f hf => ?_
    have hnone : ∀ c ∈ ([] : List Char), isWordChar c = true := by simp
    have hword := word_eq hnone htail.plainWord_eq
    dsimp only
    rw [hf, hword]
    exact takes_pure _ _
  refine ⟨newLine, ?_⟩
  unfold plainWords
  refine .get_bind fun f hf => ?_
  have hword := word_eq hcs (htail.plainWord_append_eq hw)
  dsimp only
  rw [hf, List.append_assoc, hword, if_neg (by simpa using hne)]
  refine (takes_skip cs _ rfl).bind (hblanks.bind_last ?_)
  refine (takes_look _).bind_nil (.column_bind fun n => ?_)
  split
  · exact takes_pure _ _
  · exact (hend next newLine).bind_last (by simpa using takes_pure _ _)

/-- **Words in a document.** A word is read as itself, and the blanks after it are taken with it. -/
theorem exists_takes_plainScalar {cs w : List Char} (hne : cs ≠ [])
    (hcs : ∀ c ∈ cs, isWordChar c = true) (hw : w ⊆ [' ', '\n']) (htail : EndsWords inFlow tail) :
    ∃ newLine, Takes (plainScalar inFlow (-1)) (cs ++ w) tail (String.ofList cs, newLine) := by
  obtain ⟨c, cs, rfl⟩ := List.exists_cons_of_ne_nil hne
  obtain ⟨newLine, h⟩ := exists_takes_plainWords hne hcs hw htail ((cs ++ w ++ tail).length)
  exact ⟨newLine, (takes_remaining _).bind_nil (h.bind_pure fun result =>
    (String.ofList result.1, result.2))⟩

end RunnerAtlas.Document
