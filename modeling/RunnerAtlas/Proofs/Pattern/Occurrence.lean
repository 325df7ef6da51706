import RunnerAtlas.Pattern.Search
import RunnerAtlas.Proofs.Pattern.Literal

set_option relaxedAutoImplicit false
set_option autoImplicit false

/-!
# Searching for a sequence of characters

The pattern of a sequence of characters occurs in a text exactly if at some position the characters
of the sequence count as the same as those of the text from there on, one by one. Where letter case
matters this makes the sequence a contiguous part of the text.

## Main definitions

* `RunnerAtlas.Pattern.Fold.OccursAt` — a sequence occurs in a text at a position.

## Main results

* `RunnerAtlas.Pattern.isSome_run_charNodes` — trying a sequence of characters at a position.
* `RunnerAtlas.Pattern.matchesIn_literal_iff` — searching for one.
* `RunnerAtlas.Pattern.exists_occursAt_none_iff` — what occurs with letter case.
-/

namespace RunnerAtlas.Pattern

/-! ### Occurrences -/

/-- A sequence of characters occurs in a text at a position: its characters count as the same as
those of the text from the position on. -/
def Fold.OccursAt (fold : Fold) (cs text : List Char) (position : Nat) : Prop :=
  ∀ i c, cs[i]? = some c →
    ∃ d, text[position + i]? = some d ∧ fold.isSame c.toNat d.toNat = true

namespace Fold

variable {fold : Fold} {text : List Char} {position : Nat}

/-- The empty sequence occurs everywhere. -/
lemma occursAt_nil : fold.OccursAt [] text position := by
  intro i c h
  simp at h

/-- A sequence occurs where its first character does and the others occur one position later. -/
lemma occursAt_cons {c : Char} {cs : List Char} :
    fold.OccursAt (c :: cs) text position ↔
      (∃ d, text[position]? = some d ∧ fold.isSame c.toNat d.toNat = true) ∧
        fold.OccursAt cs text (position + 1) := by
  constructor
  · intro h
    refine ⟨h 0 c rfl, fun i c' hc' => ?_⟩
    obtain ⟨d, hd, hs⟩ := h (i + 1) c' hc'
    exact ⟨d, by rw [← hd]; congr 1; omega, hs⟩
  · rintro ⟨hfirst, hrest⟩ i c' hc'
    cases i with
    | zero =>
      obtain rfl : c = c' := by simpa using hc'
      exact hfirst
    | succ i =>
      obtain ⟨d, hd, hs⟩ := hrest i c' hc'
      exact ⟨d, by rw [← hd]; congr 1; omega, hs⟩

/-- A sequence with a character occurs within the text. -/
lemma OccursAt.lt_length {c : Char} {cs : List Char} (h : fold.OccursAt (c :: cs) text position) :
    position < text.length := by
  obtain ⟨⟨d, hd, -⟩, -⟩ := occursAt_cons.mp h
  exact (List.getElem?_eq_some_iff.mp hd).1

/-- Where letter case matters, only a character itself counts as the same. -/
lemma isSame_none_iff (c d : Char) : Fold.none.isSame c.toNat d.toNat = true ↔ c = d := by
  simp only [isSame, isCased, Bool.false_eq_true, ↓reduceIte, beq_iff_eq]
  constructor
  · intro h
    exact (Char.toNat_inj.mp h).symm
  · rintro rfl
    rfl

/-- Where letter case matters, a sequence occurs somewhere in a text exactly if it is a contiguous
part of the text. -/
theorem exists_occursAt_none_iff (cs text : List Char) :
    (∃ position, Fold.none.OccursAt cs text position) ↔ cs <:+: text := by
  have hat : ∀ position, Fold.none.OccursAt cs text position ↔
      ∀ i (h : i < cs.length), text[i + position]? = some cs[i] := by
    intro position
    simp only [OccursAt, isSame_none_iff, exists_eq_right', Nat.add_comm position,
      List.getElem?_eq_some_iff (l := cs)]
    constructor
    · intro h i hi
      exact h i cs[i] ⟨hi, rfl⟩
    · rintro h i c ⟨hi, rfl⟩
      exact h i hi
  simp only [List.infix_iff_getElem?, hat]
  constructor
  · rintro ⟨position, h⟩
    cases cs with
    | nil => exact ⟨0, by simp, by simp⟩
    | cons c cs =>
      refine ⟨position, ?_, h⟩
      have hlast := h cs.length (by simp)
      have := (List.getElem?_eq_some_iff.mp hlast).1
      simp only [List.length_cons]
      omega
  · rintro ⟨position, -, h⟩
    exact ⟨position, h⟩

end Fold

/-! ### Trying a sequence at a position -/

/-- A test passes at a cursor exactly if there is a code point there that passes it and what follows
succeeds after it. -/
lemma isSome_testChar_iff {text : Array Nat} {test : Nat → Bool} {s : Cursor} {k : Rest} :
    (testChar text test s k).isSome ↔ ∃ code, text[s.position]? = some code ∧ test code = true ∧
      (k { s with position := s.position + 1 }).isSome := by
  unfold testChar
  cases text[s.position]? with
  | none => simp
  | some code => by_cases h : test code = true <;> simp [h]

/-- A test passes at a cursor exactly if there is a character there that passes it and what follows
succeeds after it. -/
lemma isSome_testChar (text : List Char) (test : Nat → Bool) (s : Cursor) (k : Rest) :
    (testChar (text.map Char.toNat).toArray test s k).isSome ↔
      ∃ d, text[s.position]? = some d ∧ test d.toNat = true ∧
        (k { s with position := s.position + 1 }).isSome := by
  rw [isSome_testChar_iff, List.getElem?_toArray, List.getElem?_map]
  simp only [Option.map_eq_some_iff, exists_exists_and_eq_and]

/-- A sequence of trees is its first one with the others to follow. -/
lemma run_ofList_cons (text : Array Nat) (widths : Nat → Width) (n : Node) (ns : List Node)
    (f : Flags) (s : Cursor) (k : Rest) :
    (Node.ofList (n :: ns)).run text widths f s k =
      n.run text widths f s fun s => (Node.ofList ns).run text widths f s k := by
  cases ns <;> rfl

/-- Trying a sequence of characters succeeds exactly if it occurs at the position and what follows
succeeds after it.

**Proof sketch.** Induction on the sequence, for every cursor: the first character is tested where
the cursor stands, the others from one position later on. -/
lemma isSome_run_charNodes (text cs : List Char) (widths : Nat → Width) (f : Flags) (s : Cursor)
    (k : Rest) :
    ((Node.ofList (charNodes cs)).run (text.map Char.toNat).toArray widths f s k).isSome ↔
      f.fold.OccursAt cs text s.position ∧
        (k { s with position := s.position + cs.length }).isSome := by
  induction cs generalizing s with
  | nil =>
    refine ⟨fun h => ⟨Fold.occursAt_nil, h⟩, ?_⟩
    rintro ⟨-, h⟩
    exact h
  | cons c cs ih =>
    have hpos : s.position + 1 + cs.length = s.position + (c :: cs).length := by
      simp only [List.length_cons]; omega
    have hrun : (Node.ofList (charNodes (c :: cs))).run (text.map Char.toNat).toArray widths f s k =
        testChar (text.map Char.toNat).toArray (f.fold.isSame c.toNat) s fun s =>
          (Node.ofList (charNodes cs)).run (text.map Char.toNat).toArray widths f s k :=
      run_ofList_cons _ widths (.char c.toNat) (charNodes cs) f s k
    rw [hrun, isSome_testChar, Fold.occursAt_cons]
    simp only [ih, hpos]
    constructor
    · rintro ⟨d, hd, hs, hrest, hk⟩
      exact ⟨⟨⟨d, hd, hs⟩, hrest⟩, hk⟩
    · rintro ⟨⟨⟨d, hd, hs⟩, hrest⟩, hk⟩
      exact ⟨d, hd, hs, hrest, hk⟩

/-! ### Searching for a sequence -/

/-- No set is known to which the first of some characters belongs. -/
lemma firstSet?_charNodes (cs : List Char) (f : Flags) :
    (Node.ofList (charNodes cs)).firstSet? f = none := by
  match cs with
  | [] => rfl
  | [_] => rfl
  | _ :: _ :: _ => rfl

/-- **Searching for a sequence of characters.** The pattern of a sequence occurs in a text exactly
if the sequence occurs there at some position.

**Proof sketch.** A match may start at every position, and at each the sequence is tried with
nothing to follow (`isSome_run_charNodes`). The search tries all positions up to the end of the
text. An empty sequence occurs at the first of them, and any other occurs at no position after the
end. -/
theorem matchesIn_literal_iff (cs text : List Char) (f : Flags) :
    (literal cs f).matchesIn text = true ↔ ∃ position, f.fold.OccursAt cs text position := by
  simp only [Compiled.matchesIn, Compiled.mayStart, literal, firstSet?_charNodes, Bool.true_and,
    List.any_eq_true, List.mem_range, isSome_run_charNodes, Option.isSome_some, and_true,
    List.size_toArray, List.length_map]
  constructor
  · rintro ⟨position, -, h⟩
    exact ⟨position, h⟩
  · rintro ⟨position, h⟩
    cases cs with
    | nil => exact ⟨0, Nat.succ_pos _, Fold.occursAt_nil⟩
    | cons c cs => exact ⟨position, Nat.lt_succ_of_lt h.lt_length, h⟩

end RunnerAtlas.Pattern
