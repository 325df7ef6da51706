import Mathlib.Data.List.Basic
import RunnerAtlas.Proofs.Pattern.Branches
import RunnerAtlas.Proofs.Pattern.Membership
import RunnerAtlas.Proofs.Pattern.Occurrence

set_option relaxedAutoImplicit false
set_option autoImplicit false

/-!
# Searching for one of several branches

Joined branches match where one of them does. What they begin with in common goes on in one way at
most, so that nothing is lost by trying it once. A set in place of branches of one character each
has what these match, but for a capital letter beyond the basic plane where letter case is ignored.

## Main definitions

* `RunnerAtlas.Pattern.loses` — a branch that the set of all branches does not have.

## Main results

* `RunnerAtlas.Pattern.isSome_run_joinBranches` — where joined branches match.
* `RunnerAtlas.Pattern.mayStart_of_isSome_run` — a match starts where it may.
* `RunnerAtlas.Pattern.matchesIn_joinBranches_iff` — when a pattern of joined branches occurs.
-/

namespace RunnerAtlas.Pattern

variable {text : Array Nat} {widths : Nat → Width} {f : Flags} {n : Node} {ns ms : List Node}
  {bs : List (List Node)} {s : Cursor} {k : Rest}

/-! ### Sequences -/

/-- Two sequences in a row are tried one after the other. -/
lemma run_ofList_append (ns ms : List Node) (s : Cursor) (k : Rest) :
    (Node.ofList (ns ++ ms)).run text widths f s k =
      (Node.ofList ns).run text widths f s fun s => (Node.ofList ms).run text widths f s k := by
  induction ns generalizing s with
  | nil => rfl
  | cons n ns ih =>
    rw [List.cons_append, run_ofList_cons, run_ofList_cons]
    exact congrArg _ (funext fun s => ih s)

/-- A test of one character goes on in one way at most. -/
lemma testChar_eq_bind (test : Nat → Bool) (s : Cursor) (k : Rest) :
    testChar text test s k = (testChar text test s some).bind k := by
  unfold testChar
  split
  · split <;> rfl
  · rfl

/-- A tree without parts goes on in one way at most. -/
lemma run_eq_bind_of_isLeaf (h : n.isLeaf = true) (s : Cursor) (k : Rest) :
    n.run text widths f s k = (n.run text widths f s some).bind k := by
  cases n with
  | char => exact testChar_eq_bind _ s k
  | notChar => exact testChar_eq_bind _ s k
  | any => exact testChar_eq_bind _ s k
  | set => exact testChar_eq_bind _ s k
  | anchor test =>
    simp only [Node.run]
    split <;> rfl
  | backref group =>
    simp only [Node.run]
    split
    · split <;> rfl
    · rfl
  | _ => cases h

/-- A sequence of trees without parts goes on in one way at most. -/
lemma run_ofList_eq_bind (h : ∀ n ∈ ns, n.isLeaf = true) (s : Cursor) (k : Rest) :
    (Node.ofList ns).run text widths f s k =
      ((Node.ofList ns).run text widths f s some).bind k := by
  induction ns generalizing s k with
  | nil => rfl
  | cons n ns ih =>
    obtain ⟨hn, hns⟩ := List.forall_mem_cons.mp h
    rw [run_ofList_cons, run_ofList_cons, run_eq_bind_of_isLeaf hn,
      run_eq_bind_of_isLeaf hn s fun s => (Node.ofList ns).run text widths f s some,
      Option.bind_assoc]
    exact congrArg _ (funext fun s => ih hns s k)

/-! ### Choices -/

/-- A choice matches if one of its branches does. -/
lemma isSome_run_ofBranches (hne : bs ≠ []) :
    ((Node.ofBranches bs).run text widths f s k).isSome ↔
      ∃ b ∈ bs, ((Node.ofList b).run text widths f s k).isSome := by
  induction bs with
  | nil => exact absurd rfl hne
  | cons b bs ih =>
    cases bs with
    | nil => simp [Node.ofBranches]
    | cons b' bs =>
      have hor : ∀ x y : Option Cursor, (x <|> y).isSome = (x.isSome || y.isSome) := by
        intro x y
        cases x <;> rfl
      simp only [Node.ofBranches, Node.run, hor, Bool.or_eq_true, ih (by simp),
        List.exists_mem_cons_iff]

/-- The members that branches stand for are found branch by branch. -/
lemma asSet?_cons (b : List Node) (bs : List (List Node)) :
    asSet? (b :: bs) =
      (branchItems? b).bind fun own => (asSet? bs).map fun others => own ++ others := by
  rw [asSet?, asSet?, List.mapM_cons]
  cases branchItems? b with
  | none => rfl
  | some own =>
    cases bs.mapM branchItems? with
    | none => rfl
    | some others => rfl

/-- Branches that stand for the members of a set do so each on its own. -/
lemma exists_mem_asSet?_iff {items : List SetItem} (h : asSet? bs = some items)
    (has : SetItem → Prop) :
    (∃ item ∈ items, has item) ↔
      ∃ b ∈ bs, ∃ own, branchItems? b = some own ∧ ∃ item ∈ own, has item := by
  induction bs generalizing items with
  | nil =>
    cases h
    simp
  | cons b bs ih =>
    rw [asSet?_cons, Option.bind_eq_some_iff] at h
    obtain ⟨own, hown, h⟩ := h
    obtain ⟨others, hothers, rfl⟩ := Option.map_eq_some_iff.mp h
    simp only [List.mem_append, or_and_right, exists_or, List.exists_mem_cons_iff, hown, ih hothers,
      Option.some.injEq, exists_eq_left']

/-- Each of them stands for some members. -/
lemma exists_branchItems?_of_asSet? {items : List SetItem} (h : asSet? bs = some items)
    {b : List Node} (hb : b ∈ bs) : ∃ own, branchItems? b = some own := by
  induction bs generalizing items with
  | nil => cases hb
  | cons first bs ih =>
    rw [asSet?_cons, Option.bind_eq_some_iff] at h
    obtain ⟨own, hown, h⟩ := h
    obtain ⟨others, hothers, -⟩ := Option.map_eq_some_iff.mp h
    rcases List.mem_cons.mp hb with rfl | hb
    · exact ⟨own, hown⟩
    · exact ih hothers hb

/-- The members without repetitions are the same. -/
lemma mem_distinct {items : List SetItem} {item : SetItem} :
    item ∈ distinct items ↔ item ∈ items := by
  have hfold : ∀ found : List SetItem,
      item ∈ items.foldl (fun found item => if found.contains item then found else item :: found)
        found ↔ item ∈ found ∨ item ∈ items := by
    induction items with
    | nil => simp
    | cons first items ih =>
      intro found
      rw [List.foldl_cons, ih]
      split
      · rename_i hfirst
        have hmem : first ∈ found := by simpa using hfirst
        constructor
        · exact Or.imp_right (List.mem_cons_of_mem first)
        · rintro (hitem | hitem)
          · exact .inl hitem
          · refine (List.mem_cons.mp hitem).imp_left ?_
            rintro rfl
            exact hmem
      · simp [or_assoc, or_left_comm]
  rw [distinct, List.mem_reverse, hfold]
  simp

/-- Whether a branch is a character that a set does not have. -/
def isLostBranch (fold : Fold) (b : List Node) : Bool :=
  match b with
  | [.char own] => fold.isLost own
  | _ => false

/-- With letter case no branch is lost. -/
lemma isLostBranch_none (b : List Node) : isLostBranch .none b = false := by
  unfold isLostBranch
  split
  · exact Fold.isLost_none _
  · rfl

/-- A branch that stands for members of a set matches what they stand for, unless it is a character
that is lost. What is lost stands for nothing in the set. -/
lemma isSome_run_of_branchItems? (hf : f.IsCaseOnly) {b : List Node} {own : List SetItem}
    (h : branchItems? b = some own) :
    (isLostBranch f.fold b = false ∧ ((Node.ofList b).run text widths f s k).isSome) ↔
      ∃ code, text[s.position]? = some code ∧
        (∃ item ∈ own, f.fold.itemHas code item = true) ∧
        (k { s with position := s.position + 1 }).isSome := by
  unfold branchItems? at h
  split at h
  · rename_i own
    cases h
    cases hlost : f.fold.isLost own with
    | false =>
      simp [Node.ofList, Node.run, isSome_testChar_iff, isLostBranch, hlost,
        Fold.itemHas_char hf.fold_ne_plain hlost]
    | true =>
      simp [isLostBranch, hlost, Fold.itemHas_char_of_isLost hf.fold_ne_plain hlost]
  · rename_i items
    cases h
    simp [Node.ofList, Node.run, isSome_testChar_iff, isLostBranch, hf.ascii,
      Fold.inSet_eq_any hf.fold_ne_plain]
  · cases h

/-- Whether branches are joined to a set after their common beginning. -/
def joinsToSet (bs : List (List Node)) : Bool :=
  decide (2 ≤ bs.length) && (asSet? (residues bs)).isSome

/-- Whether the joined branches lose one of them: they are joined to a set, and after the common
beginning it is a character that the set does not have. -/
def loses (fold : Fold) (bs : List (List Node)) (b : List Node) : Bool :=
  joinsToSet bs && isLostBranch fold (b.drop (commonOf bs).length)

/-- With letter case no branch is lost. -/
lemma loses_none (bs : List (List Node)) (b : List Node) : loses .none bs b = false := by
  rw [loses, isLostBranch_none, Bool.and_false]

/-- What several branches have after their common beginning matches as their set or choice does. -/
lemma isSome_run_residues (hf : f.IsCaseOnly) (hbs : 2 ≤ bs.length) :
    (Node.run text widths
        (match asSet? (residues bs) with
        | some items => .set false (distinct items)
        | none => Node.ofBranches (residues bs)) f s k).isSome ↔
      ∃ b ∈ residues bs, (joinsToSet bs && isLostBranch f.fold b) = false ∧
        ((Node.ofList b).run text widths f s k).isSome := by
  cases hset : asSet? (residues bs) with
  | none =>
    have hne : residues bs ≠ [] := by
      rw [← List.length_pos_iff, length_residues]
      omega
    rw [isSome_run_ofBranches hne]
    simp [joinsToSet, hset]
  | some items =>
    have hjoins : joinsToSet bs = true := by
      simp [joinsToSet, hbs, hset]
    have hitems : ∀ code, (∃ item ∈ distinct items, f.fold.itemHas code item = true) ↔
        ∃ b ∈ residues bs, ∃ own, branchItems? b = some own ∧
          ∃ item ∈ own, f.fold.itemHas code item = true := by
      intro code
      simp only [mem_distinct]
      exact exists_mem_asSet?_iff hset _
    simp only [Node.run, isSome_testChar_iff, hf.ascii, Fold.inSet_eq_any hf.fold_ne_plain,
      Bool.bne_false, List.any_eq_true, hitems, hjoins, Bool.true_and]
    constructor
    · rintro ⟨code, hcode, ⟨b, hb, own, hown, hhas⟩, hk⟩
      exact ⟨b, hb, (isSome_run_of_branchItems? hf hown).mpr ⟨code, hcode, hhas, hk⟩⟩
    · rintro ⟨b, hb, hrun⟩
      obtain ⟨own, hown⟩ := exists_branchItems?_of_asSet? hset hb
      obtain ⟨code, hcode, hhas, hk⟩ := (isSome_run_of_branchItems? hf hown).mp hrun
      exact ⟨code, hcode, ⟨b, hb, own, hown, hhas⟩, hk⟩

/-- **Joined branches.** Branches that have been joined match if one of them does that is not lost.

**Proof sketch.** The common beginning goes on in one way at most, from which the set or the choice
after it matches if one of what the branches have left does. -/
theorem isSome_run_joinBranches (hf : f.IsCaseOnly) (hbs : bs ≠ []) :
    ((Node.ofList (joinBranches bs)).run text widths f s k).isSome ↔
      ∃ b ∈ bs, loses f.fold bs b = false ∧ ((Node.ofList b).run text widths f s k).isSome := by
  match bs, hbs with
  | [b], _ => simp [joinBranches, loses, joinsToSet]
  | b₁ :: b₂ :: rest, _ =>
    have hlength : 2 ≤ (b₁ :: b₂ :: rest).length := by simp
    generalize b₁ :: b₂ :: rest = bs at hlength
    have hbranches : (∃ b ∈ (residues bs).map (commonOf bs ++ ·), loses f.fold bs b = false ∧
          ((Node.ofList b).run text widths f s k).isSome) ↔
        ∃ b ∈ residues bs, (joinsToSet bs && isLostBranch f.fold b) = false ∧
          ((Node.ofList (commonOf bs ++ b)).run text widths f s k).isSome := by
      simp [loses]
    rw [← map_residues] at hbranches
    rw [hbranches, joinBranches_eq hlength]
    have hcommon : ∀ ns, (Node.ofList (commonOf bs ++ ns)).run text widths f s k =
        ((Node.ofList (commonOf bs)).run text widths f s some).bind fun s =>
          (Node.ofList ns).run text widths f s k := by
      intro ns
      rw [run_ofList_append, run_ofList_eq_bind fun n hn => isLeaf_of_mem_commonOf hn]
    simp only [hcommon]
    cases (Node.ofList (commonOf bs)).run text widths f s some with
    | none => simp
    | some s' => exact isSome_run_residues hf hlength

/-! ### Where a match may start -/

/-- A sequence shows what its first tree shows of the first character. -/
lemma firstSet?_ofList_cons (n : Node) (ns : List Node) :
    (Node.ofList (n :: ns)).firstSet? f = n.firstSet? f := by
  cases ns <;> rfl

/-- A set of which the first character of a match is one has the characters that its members
cover. -/
lemma inSet_eq_of_firstSet? (hf : f.IsCaseOnly) {negated negated' : Bool}
    {items items' : List SetItem}
    (h : (Node.set negated' items').firstSet? f = some (negated, items)) (code : Nat) :
    negated' = negated ∧
      f.fold.inSet false items' code = items.any (SetItem.covers false code) := by
  simp only [Node.firstSet?] at h
  split at h
  · cases h
  · rename_i hcased
    cases h
    refine ⟨rfl, ?_⟩
    rw [Fold.inSet_eq_any hf.fold_ne_plain, Bool.eq_iff_iff, List.any_eq_true, List.any_eq_true]
    refine exists_congr fun item => and_congr_right fun hitem => ?_
    by_cases hfold : f.fold = .none
    · rw [Fold.itemHas, if_pos hfold]
    · rw [Bool.and_eq_true, bne_iff_ne] at hcased
      have hfirst : f.fold.firstIsCased item = false := Bool.eq_false_iff.mpr fun h =>
        hcased ⟨hfold, List.any_eq_true.mpr ⟨item, hitem, h⟩⟩
      rw [Fold.itemHas_eq_covers hf.fold_ne_plain hfirst]

/-- The first tree of joined branches of pieces without groups is a set if it shows anything of the
first character. -/
lemma exists_set_of_firstSet? (hbs : ∀ b ∈ bs, ∀ n ∈ b, n.IsPiece) {set : Bool × List SetItem}
    (h : (Node.ofList (joinBranches bs)).firstSet? f = some set) :
    ∃ negated items ns, joinBranches bs = .set negated items :: ns := by
  cases hjoined : joinBranches bs with
  | nil =>
    rw [hjoined] at h
    cases h
  | cons n ns =>
    rw [hjoined, firstSet?_ofList_cons] at h
    rcases isPiece_or_eq_ofBranches hbs (hjoined ▸ List.mem_cons_self) with hpiece | ⟨hlength, rfl⟩
    · rcases hpiece with hleaf | ⟨greed, least, most, body, rfl, -⟩
      · cases n with
        | set negated items => exact ⟨negated, items, ns, rfl⟩
        | _ => first | cases h | cases hleaf
      · cases h
    · rw [← length_residues] at hlength
      match hresidues : residues bs, hlength with
      | b₁ :: b₂ :: rest, _ =>
        rw [hresidues] at h
        cases h

/-- Where a joined pattern matches, its match may start. -/
lemma mayStart_of_isSome_run {p : Compiled} (hf : p.flags.IsCaseOnly)
    (hnode : p.node = Node.ofList (joinBranches bs)) (hbs : ∀ b ∈ bs, ∀ n ∈ b, n.IsPiece)
    (h : (p.node.run text widths p.flags s k).isSome) : p.mayStart text s.position = true := by
  unfold Compiled.mayStart
  split
  · rename_i negated items hfirst
    rw [hnode] at h hfirst
    obtain ⟨negated', items', ns, hjoined⟩ := exists_set_of_firstSet? hbs hfirst
    rw [hjoined, firstSet?_ofList_cons] at hfirst
    rw [hjoined, run_ofList_cons, Node.run, isSome_testChar_iff] at h
    obtain ⟨code, hcode, htest, -⟩ := h
    obtain ⟨rfl, hset⟩ := inSet_eq_of_firstSet? hf hfirst code
    rw [hf.ascii, hset] at htest
    rw [hcode, hf.ascii]
    exact htest
  · rfl

/-- A pattern of joined branches occurs in a text if one of the branches matches somewhere that is
not lost. -/
theorem matchesIn_joinBranches_iff (hf : f.IsCaseOnly) (hbs : ∀ b ∈ bs, ∀ n ∈ b, n.IsPiece)
    (hne : bs ≠ []) (cs : List Char) :
    (Compiled.mk (Node.ofList (joinBranches bs)) f []).matchesIn cs = true ↔
      ∃ b ∈ bs, loses f.fold bs b = false ∧ ∃ position ≤ cs.length,
        ((Node.ofList b).run (cs.map Char.toNat).toArray (fun _ => .zero) f
          { position := position } some).isSome := by
  have hrun : ∀ position, (((Compiled.mk (Node.ofList (joinBranches bs)) f []).mayStart
        (cs.map Char.toNat).toArray position &&
      ((Node.ofList (joinBranches bs)).run (cs.map Char.toNat).toArray (fun _ => .zero) f
        { position := position } some).isSome) = true) ↔
      ∃ b ∈ bs, loses f.fold bs b = false ∧
        ((Node.ofList b).run (cs.map Char.toNat).toArray (fun _ => .zero) f
          { position := position } some).isSome := by
    intro position
    rw [← isSome_run_joinBranches hf hne, Bool.and_eq_true, and_iff_right_iff_imp]
    exact fun h => mayStart_of_isSome_run (s := { position := position }) hf rfl hbs h
  simp only [Compiled.matchesIn, List.getElem?_nil, List.any_eq_true, List.mem_range,
    List.size_toArray, List.length_map, hrun]
  constructor
  · rintro ⟨position, hlt, b, hb, hlost, h⟩
    exact ⟨b, hb, hlost, position, Nat.lt_succ_iff.mp hlt, h⟩
  · rintro ⟨b, hb, hlost, position, hle, h⟩
    exact ⟨position, Nat.lt_succ_iff.mpr hle, b, hb, hlost, h⟩

end RunnerAtlas.Pattern
