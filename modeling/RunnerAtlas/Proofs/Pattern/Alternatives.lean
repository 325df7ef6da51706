import RunnerAtlas.Proofs.Pattern.Literal
import RunnerAtlas.Proofs.Pattern.Membership
import RunnerAtlas.Proofs.Pattern.Pieces

set_option relaxedAutoImplicit false
set_option autoImplicit false

/-!
# The alternatives of a text

A text without groups is a pattern exactly by its alternatives. Two such texts with a bar between
them have the alternatives of the one and then those of the other.

## Main definitions

* `RunnerAtlas.Pattern.readAlternatives` — reading alternatives.
* `RunnerAtlas.Pattern.Joins`, `RunnerAtlas.Pattern.Follows` — reading on after the end of a text.
* `RunnerAtlas.Pattern.HasAlternatives`, `RunnerAtlas.Pattern.alternatives` — the alternatives of a
  text.

## Main results

* `RunnerAtlas.Pattern.joins_readMoreBranches` — further branches up to the end of a text, and
  those after it.
* `RunnerAtlas.Pattern.cut_append_bar` — the pieces of two texts with a bar between them.
* `RunnerAtlas.Pattern.exists_hasAlternatives`, `RunnerAtlas.Pattern.compile_of_hasAlternatives` —
  a text is a pattern by its alternatives.
* `RunnerAtlas.Pattern.HasAlternatives.append_bar` — the alternatives of a joined text.
-/

namespace RunnerAtlas.Pattern

variable {tail : List Lexeme} {d : Nat} {r : Reader}

/-! ### Alternatives -/

/-- A reader that has taken everything. -/
def Reader.done (r : Reader) (position : Nat) : Reader :=
  { r with rest := [], position := position }

/-- A reader that moves on ends like before. -/
lemma Reader.Moves.done_eq {r r' : Reader} (h : r.Moves r') (position : Nat) :
    r'.done position = r.done position := by
  rw [h.eq]
  rfl

/-- A reader that has nothing left has taken everything. -/
lemma Reader.Moves.eq_done {r r' : Reader} (h : r.Moves r') (hrest : r'.rest = []) :
    r' = r.done r'.position := by
  rw [← h.done_eq, Reader.done, ← hrest]

/-- A character is not taken if a dangling backslash follows it. -/
lemma ne_dangling_of_run_accept {c : Char} {ls : List Lexeme} {p : Bool × Reader}
    (hrest : r.rest = .plain c :: ls) (h : (accept c).run r = .ok p) : ls ≠ [.dangling] := by
  rintro rfl
  unfold accept at h
  rw [run_bind_of_ok (run_peek r), if_pos (by simp [hrest])] at h
  obtain ⟨_, _, hnext, -⟩ := exists_of_run_bind h
  exact run_next_dangling hrest _ hnext

/-- The alternatives of a pattern that is not verbose, or of what is left of it. -/
def readAlternatives (fuel : Nat) (isFirst : Bool) : Reading (List (List Node)) := do
  let first ← readSequence fuel false isFirst []
  let others ← readMoreBranches fuel false true
  pure (first :: others)

/-- After a bar there are further alternatives. -/
lemma run_readMoreBranches_bar {ls : List Lexeme} (hrest : r.rest = .plain '|' :: ls)
    (hne : ls ≠ [.dangling]) (hverbose : r.flags.verbose = false) (n : Nat) :
    (readMoreBranches (n + 1) false true).run r =
      (readAlternatives n false).run { r with rest := ls, position := r.position + 1 } := by
  rw [readMoreBranches, run_bind_of_ok (run_accept hrest hne), if_pos rfl,
    run_bind_of_ok (run_get _)]
  simp only [↓reduceIte, hverbose, readAlternatives]

/-- If reading succeeds up to the end of a text, the outcome has pieces without groups only, and
reading in a longer text gives further branches after those. -/
def Joins (tail : List Lexeme) (d : Nat) (extra : List (List Node)) (r : Reader)
    (x x' : Reading (List (List Node))) : Prop :=
  ∀ bs r', x.run r = .ok (bs, r') → r'.rest = [] →
    r.Moves r' ∧ (∀ b ∈ bs, ∀ n ∈ b, n.IsPiece) ∧
      ∃ position, x'.run (r.shift tail d) = .ok (bs ++ extra, r.done position)

/-- What comes after a text is read as further branches with more than some fuel. -/
def Follows (tail : List Lexeme) (d : Nat) (extra : List (List Node)) (least : Nat) (r : Reader) :
    Prop :=
  ∀ r' n, r.Moves r' → r'.rest = [] → least < n → ∃ position,
    (readMoreBranches n false true).run (r'.shift tail d) = .ok (extra, r.done position)

variable {extra : List (List Node)} {least n n' : Nat}

/-- What comes after a text comes after what is left of it. -/
lemma Follows.of_moves {r' : Reader} (h : Follows tail d extra least r) (hmoves : r.Moves r') :
    Follows tail d extra least r' := by
  intro r'' n hmoves' hrest hn
  simp only [hmoves.done_eq]
  exact h r'' n (hmoves.trans hmoves') hrest hn

/-- Alternatives are read in a longer text as far as the first one and the further ones are. -/
lemma joins_readAlternatives (htail : Ends tail) (hn : n ≤ n') (hgroup : .plain '(' ∉ r.rest)
    (hmore : ∀ r', r.Moves r' →
      Joins tail d extra r' (readMoreBranches n false true) (readMoreBranches n' false true))
    (isFirst isFirst' : Bool) :
    Joins tail d extra r (readAlternatives n isFirst) (readAlternatives n' isFirst') := by
  intro bs r' hrun hrest
  obtain ⟨branch, r₁, hbranch, hrun⟩ := exists_of_run_bind hrun
  obtain ⟨others, r₂, hothers, hrun⟩ := exists_of_run_bind hrun
  obtain ⟨rfl, rfl⟩ := Prod.mk.inj (Except.ok.inj hrun)
  obtain ⟨hpieces, hmoves, hbranch'⟩ :=
    carries_readSequence htail hn hgroup isFirst isFirst' (by simp) branch r₁ hbranch
  obtain ⟨hmoves', hothers, position, hothers'⟩ := hmore r₁ hmoves others r₂ hothers hrest
  refine ⟨hmoves.trans hmoves', List.forall_mem_cons.mpr ⟨hpieces, hothers⟩, position, ?_⟩
  rw [readAlternatives, run_bind_of_ok hbranch', run_bind_of_ok hothers', hmoves.done_eq]
  rfl

/-- Further branches without groups are read in a longer text up to the end of the shorter one, and
then those of what comes after it.

**Proof sketch.** Induction on the fuel. Where there is a bar, alternatives follow, of which the
further ones are read with less fuel. Where there is none the shorter text has ended. -/
lemma joins_readMoreBranches (htail : Ends tail) (hn : n + least ≤ n')
    (hgroup : .plain '(' ∉ r.rest) (hverbose : r.flags.verbose = false)
    (hend : Follows tail d extra least r) :
    Joins tail d extra r (readMoreBranches n false true) (readMoreBranches n' false true) := by
  induction n generalizing n' r with
  | zero =>
    intro bs r' hrun
    unfold readMoreBranches at hrun
    exact absurd hrun (fails_failBack _ _ _)
  | succ n ih =>
    intro bs r' hrun hrest
    by_cases hbar : r.rest.head? = some (.plain '|')
    · obtain ⟨ls, hls⟩ := List.head?_eq_some_iff.mp hbar
      have hne : ls ≠ [.dangling] := by
        rw [readMoreBranches] at hrun
        obtain ⟨_, _, haccept, -⟩ := exists_of_run_bind hrun
        exact ne_dangling_of_run_accept hls haccept
      obtain ⟨n', rfl⟩ : ∃ m, n' = m + 1 := ⟨n' - 1, by omega⟩
      have hshift : (r.shift tail d).rest = .plain '|' :: (ls ++ tail) := by
        simp [Reader.shift, hls]
      rw [run_readMoreBranches_bar hls hne hverbose] at hrun
      rw [run_readMoreBranches_bar hshift (htail.append_ne_dangling hne) hverbose]
      have hmoves : r.Moves { r with rest := ls, position := r.position + 1 } :=
        ⟨hls ▸ .step hne (.done _), rfl⟩
      have hgo := joins_readAlternatives (d := d) htail (show n ≤ n' by omega)
        (fun hmem => hgroup (hmoves.takes.suffix.mem hmem))
        (fun r₁ hmoves₁ => ih (show n + least ≤ n' by omega)
          (fun hmem => hgroup ((hmoves.trans hmoves₁).takes.suffix.mem hmem))
          (by rw [(hmoves.trans hmoves₁).flags_eq, hverbose])
          (hend.of_moves (hmoves.trans hmoves₁))) false false
      obtain ⟨hmoves', hpieces, position, hrun'⟩ := hgo bs r' hrun hrest
      refine ⟨hmoves.trans hmoves', hpieces, position, ?_⟩
      simpa [Reader.shift, Reader.done, Nat.add_right_comm] using hrun'
    · have hnone : (readMoreBranches (n + 1) false true).run r = .ok ([], r) := by
        rw [readMoreBranches, run_bind_of_ok (run_accept_of_ne hbar)]
        rfl
      rw [hnone] at hrun
      obtain ⟨rfl, rfl⟩ := Prod.mk.inj (Except.ok.inj hrun)
      exact ⟨.refl r, by simp, hend r n' (.refl r) hrest (by omega)⟩

/-- Nothing comes after a whole text. -/
lemma follows_nil : Follows [] d [] 0 r := by
  intro r' n hmoves hrest hn
  obtain ⟨n, rfl⟩ : ∃ m, n = m + 1 := ⟨n - 1, by omega⟩
  refine ⟨r'.position + d, ?_⟩
  have hshift : r'.shift [] d = r.done (r'.position + d) := by
    rw [← hmoves.done_eq, Reader.shift, Reader.done, hrest]
    rfl
  rw [hshift]
  exact run_readMoreBranches_nil rfl n false true

/-! ### Whole texts -/

/-- The text before a bar and the text after it are cut on their own, unless a backslash before the
bar escapes it. -/
lemma cut_append_bar {p : List Char} (h : ∀ before, Lexeme.cut p ≠ before ++ [.dangling])
    (q : List Char) :
    Lexeme.cut (p ++ '|' :: q) = Lexeme.cut p ++ .plain '|' :: Lexeme.cut q := by
  induction p using Lexeme.cut.induct with
  | case1 => rfl
  | case2 => exact absurd rfl (h [])
  | case3 c rest ih =>
    have hrest : ∀ before, Lexeme.cut rest ≠ before ++ [.dangling] :=
      fun before heq => h (.escape c :: before) (by rw [Lexeme.cut, heq]; rfl)
    simp only [List.cons_append, Lexeme.cut, ih hrest]
  | case4 c rest hnil hcons ih =>
    have hc : c ≠ '\\' := by
      rintro rfl
      cases rest with
      | nil => exact hnil rfl rfl
      | cons c rest => exact hcons c rest rfl rfl
    have hcut := Lexeme.cut_cons_of_ne hc
    have hrest : ∀ before, Lexeme.cut rest ≠ before ++ [.dangling] :=
      fun before heq => h (.plain c :: before) (by rw [hcut, heq]; rfl)
    rw [List.cons_append, hcut, hcut, ih hrest, List.cons_append]

/-- A character that is a piece of a text stands in it. -/
lemma mem_of_plain_mem_cut {c : Char} {text : List Char} (h : .plain c ∈ Lexeme.cut text) :
    c ∈ text := by
  rw [← Lexeme.flatMap_chars_cut text]
  exact List.mem_flatMap.mpr ⟨_, h, List.mem_singleton.mpr rfl⟩

/-- The alternatives of a text without groups. -/
def HasAlternatives (flags : Flags) (text : List Char) (bs : List (List Node)) : Prop :=
  ∃ position, (readAlternatives (3 * (Lexeme.cut text).length + 3) true).run
    (Reader.start text flags) = .ok (bs, (Reader.start text flags).done position)

variable {flags : Flags} {text p q : List Char} {bs bs' : List (List Node)}

/-- The alternatives of a text, as far as it can be read. -/
def alternatives (text : List Char) (flags : Flags) : Except PatternError (List (List Node)) :=
  ((readAlternatives (3 * (Lexeme.cut text).length + 3) true).run
    (Reader.start text flags)).map Prod.fst

/-- The alternatives of a text are those that are read. -/
lemma HasAlternatives.eq_ok (h : HasAlternatives flags text bs) :
    alternatives text flags = .ok bs := by
  obtain ⟨position, h⟩ := h
  rw [alternatives, h]
  rfl

/-- There is at least one alternative. -/
lemma HasAlternatives.ne_nil (h : HasAlternatives flags text bs) : bs ≠ [] := by
  rintro rfl
  obtain ⟨position, h⟩ := h
  obtain ⟨first, _, -, h⟩ := exists_of_run_bind h
  obtain ⟨others, _, -, h⟩ := exists_of_run_bind h
  cases h

/-- A pattern that is not verbose is its joined alternatives. -/
lemma readBranches_eq (n : Nat) :
    readBranches (n + 1) false true = joinBranches <$> readAlternatives n true := by
  simp [readBranches, readAlternatives]

/-- What is known of a text without groups that has been read as alternatives. -/
lemma HasAlternatives.joins (hf : flags.IsCaseOnly) (hgroup : '(' ∉ text) {tail : List Lexeme}
    {d least n : Nat} {extra : List (List Node)} (htail : Ends tail)
    (hend : Follows tail d extra least (Reader.start text flags))
    (hn : 3 * (Lexeme.cut text).length + 3 + least ≤ n) (isFirst : Bool) :
    Joins tail d extra (Reader.start text flags)
      (readAlternatives (3 * (Lexeme.cut text).length + 3) true) (readAlternatives n isFirst) := by
  have hgroup' : .plain '(' ∉ (Reader.start text flags).rest :=
    fun hmem => hgroup (mem_of_plain_mem_cut hmem)
  refine joins_readAlternatives htail (by omega) hgroup' (fun r' hmoves => ?_) true isFirst
  exact joins_readMoreBranches htail hn (fun hmem => hgroup' (hmoves.takes.suffix.mem hmem))
    (by rw [hmoves.flags_eq]; exact hf.verbose) (hend.of_moves hmoves)

/-- A text that is a pattern is not a backslash alone, and it is read as alternatives to its end. -/
lemma exists_run_readAlternatives (hf : flags.IsCaseOnly) {c : Compiled}
    (h : compile text flags = .ok c) :
    Lexeme.cut text ≠ [.dangling] ∧ ∃ bs r,
      (readAlternatives (3 * (Lexeme.cut text).length + 3) true).run (Reader.start text flags) =
        .ok (bs, r) ∧ r.rest = [] := by
  obtain ⟨hne, nodes, r, hnodes, haccepts, -⟩ := compile_eq_ok_iff.mp h
  rw [hf.verbose, readBranches_eq, map_eq_pure_bind] at hnodes
  obtain ⟨bs, r', hbs, hnodes⟩ := exists_of_run_bind hnodes
  cases hnodes
  exact ⟨hne, bs, _, hbs, haccepts.rest⟩

/-- The alternatives of a text without groups have pieces without groups only. -/
lemma HasAlternatives.isPiece (hf : flags.IsCaseOnly) (hgroup : '(' ∉ text)
    (h : HasAlternatives flags text bs) : ∀ b ∈ bs, ∀ n ∈ b, n.IsPiece := by
  obtain ⟨position, h⟩ := h
  have hjoins := HasAlternatives.joins (d := 0) hf hgroup ends_nil follows_nil
    (Nat.le_refl _) true
  exact (hjoins _ _ h rfl).2.1

/-- A text without groups that is not a backslash alone and has alternatives is their pattern. -/
theorem compile_of_hasAlternatives (hf : flags.IsCaseOnly) (hgroup : '(' ∉ text)
    (hne : Lexeme.cut text ≠ [.dangling]) (h : HasAlternatives flags text bs) :
    compile text flags = .ok ⟨Node.ofList (joinBranches bs), flags, []⟩ := by
  have hpieces := h.isPiece hf hgroup
  obtain ⟨position, h⟩ := h
  have hbranches : (readBranches (3 * (Lexeme.cut text).length + 4) flags.verbose true).run
      (Reader.start text flags) =
        .ok (joinBranches bs, (Reader.start text flags).done position) := by
    rw [hf.verbose, readBranches_eq, map_eq_pure_bind, run_bind_of_ok h]
    rfl
  have hcharset : (flags.ascii && flags.unicode) = false := by rw [hf]; rfl
  have htemplate : flags.template = false := by rw [hf]
  refine compile_eq_ok_iff.mpr ⟨hne, _, _, hbranches, ⟨rfl, hcharset, rfl, ?_⟩, rfl⟩
  rw [Reader.done, Reader.start, htemplate]
  exact fault?_joinBranches hpieces _

/-- A text without groups that is a pattern has alternatives, and no backslash dangles at its end.

**Proof sketch.** The reader moves from the start of the text to its end, and never leaves a
dangling backslash alone. -/
theorem exists_hasAlternatives (hf : flags.IsCaseOnly) (hgroup : '(' ∉ text) {c : Compiled}
    (h : compile text flags = .ok c) :
    (∀ before, Lexeme.cut text ≠ before ++ [.dangling]) ∧ ∃ bs, HasAlternatives flags text bs := by
  obtain ⟨hne, bs, r, hrun, hrest⟩ := exists_run_readAlternatives hf h
  have hjoins := HasAlternatives.joins (d := 0) hf hgroup ends_nil follows_nil
    (Nat.le_refl _) true
  obtain ⟨hmoves, -, -⟩ := hjoins bs r hrun hrest
  refine ⟨hmoves.takes.ne_dangling hrest hne, bs, r.position, ?_⟩
  rw [hrun, ← hmoves.eq_done hrest]

/-- **Alternatives of a joined text.** The text made of two texts without groups and a bar between
them has the alternatives of both.

**Proof sketch.** The joined text is cut where its parts are (`cut_append_bar`). Its first part is
read as it is on its own, up to the bar, and so is what comes after it. -/
theorem HasAlternatives.append_bar (hf : flags.IsCaseOnly) (hp : '(' ∉ p) (hq : '(' ∉ q)
    (hpd : ∀ before, Lexeme.cut p ≠ before ++ [.dangling])
    (hqd : ∀ before, Lexeme.cut q ≠ before ++ [.dangling])
    (hbs : HasAlternatives flags p bs) (hbs' : HasAlternatives flags q bs') :
    HasAlternatives flags (p ++ '|' :: q) (bs ++ bs') := by
  have hfollows : Follows (.plain '|' :: Lexeme.cut q) 0 bs' (3 * (Lexeme.cut q).length + 3)
      (Reader.start p flags) := by
    intro r' n hmoves hrest hn
    obtain ⟨n, rfl⟩ : ∃ m, n = m + 1 := ⟨n - 1, by omega⟩
    obtain ⟨position, hrun⟩ := hbs'
    have hjoins := HasAlternatives.joins (d := r'.position + 1) hf hq ends_nil
      follows_nil (show _ + 0 ≤ n by omega) false
    obtain ⟨-, -, position, hrun'⟩ := hjoins bs' _ hrun rfl
    have hbar : (r'.shift (.plain '|' :: Lexeme.cut q) 0).rest = .plain '|' :: Lexeme.cut q := by
      simp [Reader.shift, hrest]
    have hqne : Lexeme.cut q ≠ [.dangling] := hqd []
    refine ⟨position, ?_⟩
    rw [hmoves.eq_done hrest] at hbar ⊢
    rw [run_readMoreBranches_bar hbar hqne hf.verbose]
    simpa [Reader.shift, Reader.start, Reader.done] using hrun'
  obtain ⟨position, hrun⟩ := hbs
  have hjoins := HasAlternatives.joins hf hp (ends_bar _) hfollows
    (n := 3 * (Lexeme.cut (p ++ '|' :: q)).length + 3)
    (by simp [cut_append_bar hpd]; omega) true
  obtain ⟨-, -, position, hrun'⟩ := hjoins bs _ hrun rfl
  refine ⟨position, ?_⟩
  have hstart : (Reader.start p flags).shift (.plain '|' :: Lexeme.cut q) 0 =
      Reader.start (p ++ '|' :: q) flags := by
    simp [Reader.shift, Reader.start, cut_append_bar hpd]
  rw [hstart] at hrun'
  exact hrun'

end RunnerAtlas.Pattern
