import RunnerAtlas.Proofs.Pattern.Branches
import RunnerAtlas.Proofs.Pattern.Shifting

set_option relaxedAutoImplicit false
set_option autoImplicit false

/-!
# Pieces of a sequence in a longer text

Escapes, sets and repetitions are read in a longer text as they are on their own, and so is a
sequence of them. Groups are left out: none of the texts has a parenthesis that begins one.

## Main definitions

* `RunnerAtlas.Pattern.Item.IsPiece` — a piece of a sequence without groups.

## Main results

* `RunnerAtlas.Pattern.carries_readEscape` — escapes.
* `RunnerAtlas.Pattern.carries_readSet` — sets.
* `RunnerAtlas.Pattern.carries_readBounds` — the bounds of repetitions.
* `RunnerAtlas.Pattern.carries_readSequence` — sequences.
-/

namespace RunnerAtlas.Pattern

variable {α : Type} {tail : List Lexeme} {d : Nat} {r : Reader}

/-! ### Escapes -/

/-- A fault of an escape is a failure. -/
lemma fails_failEscape (letter : Char) (cs : List Char) (fault : String → Fault) :
    Fails r (failEscape letter cs fault : Reading α) := fails_failBack _ _

/-- A code point by digits is read in a longer text as it is. -/
lemma carries_readCode (letter : Char) (count : Nat) (htail : Ends tail) :
    Carries tail d r (fun _ => True) (readCode letter count) (readCode letter count) := by
  refine (carries_takeUpTo (by decide) htail (.inl rfl)).bind fun cs r' _ _ => ?_
  dsimp only
  split
  · exact .of_fails (fails_failEscape _ _ _)
  split
  · exact .of_fails (fails_throw _)
  split
  · exact .of_fails (fails_failEscape _ _ _)
  · exact .pure trivial

/-- A code point by name is read in a longer text as it is. -/
lemma carries_readNamed (htail : Ends tail) :
    Carries tail d r (fun _ => True) readNamed readNamed := by
  refine (carries_accept (by decide) htail).bind fun opened r' _ _ => ?_
  split
  · refine (carries_readName _ _ htail).bind fun name r' _ _ => ?_
    split
    · exact .pure trivial
    · exact .of_fails (fails_failBack _ _)
  · exact .of_fails (fails_failBack _ _)

/-- A code point by number or name is read in a longer text as it is. -/
lemma carries_readCode? (letter : Char) (htail : Ends tail) :
    Carries tail d r (fun _ => True) (readCode? letter) (readCode? letter) := by
  unfold readCode?
  split
  · exact (carries_readCode _ _ htail).map
  · exact (carries_readCode _ _ htail).map
  · exact (carries_readCode _ _ htail).map
  · exact (carries_readNamed htail).map
  · exact .pure trivial

/-- The code point of octal digits is the same in a longer text. -/
lemma carries_octalCode (letter : Char) (cs : List Char) :
    Carries tail d r (fun _ => True) (octalCode letter cs) (octalCode letter cs) := by
  unfold octalCode
  dsimp only
  split
  · exact .of_fails (fails_failEscape _ _ _)
  · exact .pure trivial

/-- A character that stands for itself does so in a longer text. -/
lemma carries_ownMeaning (letter : Char) :
    Carries tail d r (fun _ => True) (ownMeaning letter) (ownMeaning letter) := by
  unfold ownMeaning
  split
  · exact .of_fails (fails_failEscape _ _ _)
  · exact .pure trivial

/-- An escape inside a set is read in a longer text as it is. -/
lemma carries_readSetEscape (letter : Char) (htail : Ends tail) :
    Carries tail d r (fun _ => True) (readSetEscape letter) (readSetEscape letter) := by
  unfold readSetEscape
  split
  · exact .pure trivial
  · exact .pure trivial
  · refine (carries_readCode? letter htail).bind fun code r' _ _ => ?_
    split
    · exact .pure trivial
    · split
      · exact (carries_takeUpTo (by decide) htail (.inl rfl)).bind fun cs r' _ _ =>
          (carries_octalCode letter cs).map
      · exact (carries_ownMeaning letter).map

/-- Whether a group is out of the reach of a look-behind is the same in a longer text. -/
lemma carries_checkLookbehind (group : Nat) :
    Carries tail d r (fun _ => True) (checkLookbehind group) (checkLookbehind group) := by
  refine .get_bind ?_
  have hshift : (r.shift tail d).lookbehind = r.lookbehind := rfl
  simp only [hshift]
  split
  · exact .pure trivial
  · have hended : (r.shift tail d).hasEnded group = r.hasEnded group := rfl
    rw [hended]
    split
    · exact .of_fails (fails_failBack _ _)
    split
    · exact .of_fails (fails_failBack _ _)
    · exact .pure trivial

/-- A reference to a group is read in a longer text as it is. -/
lemma carries_backref (letter : Char) (cs : List Char) :
    Carries tail d r (fun n => n.isLeaf = true) (backref letter cs) (backref letter cs) := by
  refine .get_bind ?_
  have hended : ∀ group, (r.shift tail d).hasEnded group = r.hasEnded group := fun _ => rfl
  have hwidths : (r.shift tail d).widths = r.widths := rfl
  simp only [hended, hwidths]
  split
  · split
    · exact (carries_checkLookbehind _).bind fun _ _ _ _ => .pure rfl
    · exact .of_fails (fails_failBack _ _)
  · exact .of_fails (fails_failBack _ _)

/-- An escape by number is read in a longer text as it is. -/
lemma carries_readNumbered (letter : Char) (htail : Ends tail) :
    Carries tail d r (fun n => n.isLeaf = true) (readNumbered letter) (readNumbered letter) := by
  unfold readNumbered
  split
  · exact (carries_takeUpTo (by decide) htail (.inl rfl)).bind fun _ _ _ _ => .pure rfl
  · refine (carries_takeUpTo (by decide) htail (.inl rfl)).bind fun second r' _ _ => ?_
    refine (carries_nextIsIn (by decide) htail).bind fun another r' _ _ => ?_
    split
    · exact (carries_takeUpTo (by decide) htail (.inl rfl)).bind fun third _ _ _ =>
        ((carries_octalCode letter _).mono fun _ _ => rfl).map
    · exact carries_backref letter second

/-- An escape is read in a longer text as it is, and its tree has no parts. -/
lemma carries_readEscape (letter : Char) (htail : Ends tail) :
    Carries tail d r (fun n => n.isLeaf = true) (readEscape letter) (readEscape letter) := by
  unfold readEscape
  split
  · exact .pure rfl
  · exact .pure rfl
  · exact .pure rfl
  · refine (carries_readCode? letter htail).bind fun code r' _ _ => ?_
    split
    · exact .pure rfl
    · split
      · exact carries_readNumbered letter htail
      · exact ((carries_ownMeaning letter).mono fun _ _ => rfl).map

/-! ### Sets -/

/-- A member of a set is read in a longer text as it is. -/
lemma carries_readSetItem (l : Lexeme) (htail : Ends tail) :
    Carries tail d r (fun _ => True) (readSetItem l) (readSetItem l) := by
  cases l with
  | plain c => exact .pure trivial
  | escape letter => exact carries_readSetEscape letter htail
  | dangling => exact .pure trivial

/-- A range is the same in a longer text. -/
lemma carries_rangeOf (low high : Lexeme) (first last : SetItem) :
    Carries tail d r (fun _ => True) (rangeOf low high first last)
      (rangeOf low high first last) := by
  unfold rangeOf
  dsimp only
  split
  · split
    · exact .of_fails (fails_failBack _ _)
    · exact .pure trivial
  · exact .of_fails (fails_failBack _ _)

/-- The members of a set are read in a longer text as they are. -/
lemma carries_readMembers (htail : Ends tail) (start start' : Nat) {n n' : Nat} (hn : n ≤ n')
    (found : List SetItem) :
    Carries tail d r (fun _ => True) (readMembers start n found)
      (readMembers start' n' found) := by
  induction n generalizing n' r found with
  | zero => exact .of_fails (fails_failAt _ _)
  | succ n ih =>
    obtain ⟨n', rfl⟩ : ∃ m, n' = m + 1 := ⟨n' - 1, by omega⟩
    refine .next_bind htail (fails_failAt _ _) fun low r' _ => ?_
    dsimp only
    split
    · exact .pure trivial
    refine (carries_readSetItem low htail).bind fun first r' _ _ => ?_
    refine (carries_accept (by decide) htail).bind fun isRange r' _ _ => ?_
    split
    · refine .next_bind htail (fails_failAt _ _) fun high r' _ => ?_
      dsimp only
      split
      · exact .pure trivial
      · exact (carries_readSetItem high htail).bind fun last r' _ _ =>
          (carries_rangeOf low high first last).bind fun range r' _ _ => ih (by omega) _
    · exact ih (by omega) _

/-- A set is read in a longer text as it is, and its tree has no parts. -/
lemma carries_readSet (htail : Ends tail) :
    Carries tail d r (fun n => n.isLeaf = true) readSet readSet := by
  refine .get_bind ?_
  refine (carries_accept (by decide) htail).bind fun negated r' _ _ => ?_
  refine .get_bind ?_
  refine (carries_readMembers htail _ _ (by simp [Reader.shift]) []).bind fun items _ _ _ => ?_
  refine .pure ?_
  unfold setNode
  split
  · split <;> rfl
  · rfl

/-! ### Repetitions -/

/-- A bound is the same in a longer text. -/
lemma carries_boundOf (cs : List Char) :
    Carries tail d r (fun _ => True) (boundOf cs) (boundOf cs) := by
  unfold boundOf
  split
  · exact .pure trivial
  split
  · split
    · exact .of_fails (fails_throw _)
    · exact .pure trivial
  · exact .of_fails (fails_throw _)

/-- The use that a repetition makes of its freedom is read in a longer text as it is. -/
lemma carries_readGreed (htail : Ends tail) :
    Carries tail d r (fun _ => True) readGreed readGreed := by
  refine (carries_accept (by decide) htail).bind fun idle r' _ _ => ?_
  split
  · exact .pure trivial
  refine (carries_accept (by decide) htail).bind fun possessive r' _ _ => ?_
  split
  · exact .pure trivial
  · exact .pure trivial

/-- Bounds between braces are read in a longer text as they are. A brace that stands for itself
leaves the reader where it was. -/
lemma carries_readBraces (htail : Ends tail) :
    Carries tail d r (fun _ => True) readBraces readBraces := by
  refine .get_bind ?_
  have hhead : (r.shift tail d).rest.head? = some (.plain '\x7d') ↔
      r.rest.head? = some (.plain '\x7d') := by
    cases hrest : r.rest with
    | nil =>
      have htail' : tail.head? ≠ some (.plain '\x7d') := by
        intro h
        cases htail _ h
      simpa [Reader.shift, hrest] using htail'
    | cons l ls => simp [Reader.shift, hrest]
  by_cases hclosed : r.rest.head? = some (.plain '\x7d')
  · rw [if_pos hclosed, if_pos (hhead.mpr hclosed)]
    exact .pure trivial
  rw [if_neg hclosed, if_neg (mt hhead.mp hclosed)]
  refine (carries_takeAll (by decide) htail).bind_from fun low r' _ hlow => ?_
  refine (carries_accept (by decide) htail).bind_from fun two r'' _ htwo => ?_
  extract_lets go go'
  have hgo : ∀ high r', r.Moves r' →
      CarriesFrom r tail d r' (fun _ => True) (go high) (go' high) := by
    intro high r' hhigh
    refine (carries_accept (by decide) htail).bind_from fun closed r'' _ hclosed => ?_
    split
    · refine (carries_boundOf low).bind_from fun least r₁ _ hleast => ?_
      refine (carries_boundOf high).bind_from fun most r₂ _ hmost => ?_
      split
      · exact .of_fails (fails_failAt _ _)
      · exact .of_moves (((hhigh.trans hclosed).trans hleast).trans hmost) (.pure trivial)
    · intro a s hrun
      cases hrun
      exact ⟨trivial, .refl r, rfl⟩
  have hmoves := hlow.trans htwo
  split
  · exact (carries_takeAll (by decide) htail).bind_from fun high r₁ _ hhigh =>
      hgo high r₁ (hmoves.trans hhigh)
  · rw [pure_bind, pure_bind]
    exact hgo low r'' hmoves

/-- The bounds that a mark stands for are read in a longer text as they are. -/
lemma carries_readBounds (mark : Char) (htail : Ends tail) :
    Carries tail d r (fun _ => True) (readBounds mark) (readBounds mark) := by
  unfold readBounds
  split
  · exact .pure trivial
  · exact .pure trivial
  · exact .pure trivial
  · exact carries_readBraces htail

/-! ### Sequences without groups -/

/-- A piece of a sequence without groups. -/
def Item.IsPiece (item : Item) : Prop := ∃ n : Node, item = .single n ∧ n.IsPiece

/-- The trees of pieces without groups are such pieces. -/
lemma isPiece_of_mem_finish {items : List Item} (h : ∀ item ∈ items, item.IsPiece) {n : Node}
    (hn : n ∈ finish items) : n.IsPiece := by
  obtain ⟨item, hitem, hn⟩ := List.mem_flatMap.mp hn
  obtain ⟨n', rfl, hn'⟩ := h item (List.mem_reverse.mp hitem)
  rw [List.mem_singleton.mp hn]
  exact hn'

/-- Repeating the last piece carries over, and makes it a piece again. -/
lemma carries_repeatLast (position position' : Nat) (bounds : Nat × Option Nat)
    {items : List Item} (h : ∀ item ∈ items, item.IsPiece) (htail : Ends tail) :
    Carries tail d r (fun items => ∀ item ∈ items, item.IsPiece)
      (repeatLast position bounds items) (repeatLast position' bounds items) := by
  cases items with
  | nil => exact .of_fails (fails_failAt _ _)
  | cons item items =>
    obtain ⟨⟨n, rfl, hn⟩, hitems⟩ := List.forall_mem_cons.mp h
    unfold repeatLast
    dsimp only [Item.single]
    split
    · exact .of_fails (fails_failAt _ _)
    · exact .of_fails (fails_failAt _ _)
    · rename_i hloop
      refine (carries_readGreed htail).bind fun greed _ _ _ => .pure ?_
      refine List.forall_mem_cons.mpr ⟨⟨_, rfl, .inr ⟨_, _, _, _, rfl, ?_⟩⟩, hitems⟩
      rcases hn with hleaf | ⟨greed, least, most, body, rfl, -⟩
      · exact hleaf
      · exact absurd rfl (hloop _ _ _ _ rfl)

/-- A sequence without groups is read in a longer text as it is. -/
lemma carries_readSequence (htail : Ends tail) {n n' : Nat} (hn : n ≤ n')
    (hgroup : .plain '(' ∉ r.rest) (isFirst isFirst' : Bool) {items : List Item}
    (h : ∀ item ∈ items, item.IsPiece) :
    Carries tail d r (fun ns => ∀ n ∈ ns, n.IsPiece) (readSequence n false isFirst items)
      (readSequence n' false isFirst' items) := by
  induction n generalizing n' r items with
  | zero =>
    unfold readSequence
    exact .of_fails (fails_failBack _ _)
  | succ n ih =>
    obtain ⟨n', rfl⟩ : ∃ m, n' = m + 1 := ⟨n' - 1, by omega⟩
    have hsingle : ∀ {m : Node}, m.IsPiece → ∀ item ∈ Item.single m :: items, item.IsPiece :=
      fun hm => List.forall_mem_cons.mpr ⟨⟨_, rfl, hm⟩, h⟩
    rw [readSequence, readSequence]
    refine .peek_bind (fun hnil => ?_) fun l ls hl => ?_
    · have hend : CarriesFrom r tail d r (fun ns => ∀ n ∈ ns, n.IsPiece)
          (pure (finish items) : Reading (List Node)) (pure (finish items)) :=
        .pure fun _ => isPiece_of_mem_finish h
      cases hhead : tail.head? with
      | none => exact hend
      | some l =>
        obtain rfl := htail l hhead
        exact hend
    dsimp only
    split
    · exact .pure fun _ => isPiece_of_mem_finish h
    refine .next_cons_bind htail hl fun r' hmoves hr' => ?_
    have hgo : ∀ {r'' : Reader} {items' : List Item}, r'.Moves r'' →
        (∀ item ∈ items', item.IsPiece) → Carries tail d r'' (fun ns => ∀ n ∈ ns, n.IsPiece)
          (readSequence n false isFirst items') (readSequence n' false isFirst' items') :=
      fun hmoves' hitems' => ih (by omega)
        (fun hmem => hgroup ((hmoves.trans hmoves').takes.suffix.mem hmem)) hitems'
    refine .get_bind ?_
    cases l with
    | dangling => exact .of_fails (fails_failAt _ _)
    | escape letter =>
      exact (carries_readEscape letter htail).bind fun m _ hm hmoves' =>
        hgo hmoves' (hsingle (.inl hm))
    | plain c =>
      dsimp only
      rw [if_neg (by simp), if_neg (by simp)]
      split
      · exact (carries_readSet htail).bind fun m _ hm hmoves' => hgo hmoves' (hsingle (.inl hm))
      · exact hgo (.refl _) (hsingle (.inl rfl))
      · exact hgo (.refl _) (hsingle (.inl rfl))
      · exact hgo (.refl _) (hsingle (.inl rfl))
      · exact absurd (by simp [hl]) hgroup
      · split
        · refine (carries_readBounds c htail).bind fun bounds r'' _ hmoves' => ?_
          split
          · exact (carries_repeatLast _ _ _ h htail).bind fun items' _ hitems' hmoves'' =>
              hgo (hmoves'.trans hmoves'') hitems'
          · exact hgo hmoves' (hsingle (.inl rfl))
        · exact hgo (.refl _) (hsingle (.inl rfl))

end RunnerAtlas.Pattern
