import Mathlib.Tactic.Lemma
import RunnerAtlas.Text.Blank
import RunnerAtlas.Text.Digit
import RunnerAtlas.Text.Letter
import RunnerAtlas.Text.LetterCase

set_option relaxedAutoImplicit false
set_option autoImplicit false

/-!
# Small letters and capitals

The two mappings of letter case are given by runs of code points. From the runs it is checked once
what the search without letter case relies on: the mapping to small letters leads to letters that
have a capital, it does not lead out of a class of characters, and between two bounds that no run
meets no code point is moved.

## Main definitions

* `RunnerAtlas.Text.LetterCase.Run.isPartOf` — a run within another one.
* `RunnerAtlas.Text.LetterCase.liesIn` — code points within ranges, both in ascending order.

## Main results

* `RunnerAtlas.Text.LetterCase.isCased_lower` — a small letter of another code point has letter
  case.
* `RunnerAtlas.Text.LetterCase.isWord_lower`,
  `RunnerAtlas.Text.LetterCase.isDigit_isBlank_lower` — the classes of a small letter.
* `RunnerAtlas.Text.LetterCase.lower_ne_of_lower_ne` — a capital letter beyond the basic plane.
* `RunnerAtlas.Text.LetterCase.isCased_of_between` — what lies between bounds without letter case.
* `RunnerAtlas.Text.LetterCase.isCased_of_mem_alikes` — letters that share a capital.
-/

namespace RunnerAtlas.Text.LetterCase

variable {run run' : Run} {runs : List Run} {code low high : Nat} {ranges : Ranges}

/-! ### Runs -/

/-- A member of a run between two bounds makes the run meet what is between them. -/
lemma Run.meets_of_has (hstep : 0 < run.step) (h : run.has code = true) (hlow : low ≤ code)
    (hhigh : code ≤ high) : run.meets low high = true := by
  simp only [Run.has, Bool.and_eq_true, decide_eq_true_eq, beq_iff_eq] at h
  obtain ⟨⟨hfirst, hlast⟩, hmod⟩ := h
  simp only [Run.meets, Bool.and_eq_true, decide_eq_true_eq]
  split
  · omega
  · -- the first member from the lower bound on is not beyond the given one
    have hmember : (code - run.first) / run.step * run.step = code - run.first :=
      Nat.div_mul_cancel (Nat.dvd_of_mod_eq_zero hmod)
    have hquot : (low - run.first + run.step - 1) / run.step ≤ (code - run.first) / run.step := by
      rw [Nat.div_le_iff_le_mul_add_pred hstep, Nat.mul_comm, hmember]
      omega
    have hstart := Nat.mul_le_mul_right run.step hquot
    omega

/-- A code point that a mapping moves is a member of one of its runs. -/
lemma exists_has_of_move_ne (h : move runs code ≠ code) :
    ∃ run ∈ runs, run.has code = true ∧ move runs code = (code + run.distance).toNat := by
  unfold move at h ⊢
  cases hfind : runs.find? fun run => run.has code with
  | none => rw [hfind] at h; exact absurd rfl h
  | some run => exact ⟨run, List.mem_of_find?_eq_some hfind,
      List.find?_some (p := fun run : Run => run.has code) hfind, rfl⟩

/-- A member of a run is moved, if all runs move their members. -/
lemma move_ne_of_has (hall : runs.all (fun run => run.distance != 0 && Nat.blt 0 run.first) = true)
    (hmem : run ∈ runs) (h : run.has code = true) : move runs code ≠ code := by
  unfold move
  cases hfind : runs.find? fun run => run.has code with
  | none => exact absurd h (by simpa using List.find?_eq_none.mp hfind run hmem)
  | some found =>
    have hfound := List.all_eq_true.mp hall found (List.mem_of_find?_eq_some hfind)
    have hhas := List.find?_some (p := fun run : Run => run.has code) hfind
    simp only [Run.has, Bool.and_eq_true, decide_eq_true_eq, bne_iff_ne, Nat.blt_eq]
      at hfound hhas
    dsimp only
    omega

/-- A run is a part of another one. -/
def Run.isPartOf (run run' : Run) : Bool :=
  run'.has run.first && Nat.ble run.last run'.last && run.step % run'.step == 0

/-- The members of a part of a run are members of the run. -/
lemma Run.has_of_isPartOf (hpart : run.isPartOf run' = true) (h : run.has code = true) :
    run'.has code = true := by
  simp only [Run.isPartOf, Run.has, Bool.and_eq_true, decide_eq_true_eq, beq_iff_eq,
    Nat.ble_eq] at hpart h ⊢
  obtain ⟨⟨⟨⟨hfirst, hlast⟩, hmod⟩, hle⟩, hstep⟩ := hpart
  refine ⟨⟨by omega, by omega⟩, ?_⟩
  have hsum : code - run'.first = (code - run.first) + (run.first - run'.first) := by omega
  rw [hsum]
  refine Nat.mod_eq_zero_of_dvd (Nat.dvd_add ?_ (Nat.dvd_of_mod_eq_zero hmod))
  exact Nat.dvd_trans (Nat.dvd_of_mod_eq_zero hstep) (Nat.dvd_of_mod_eq_zero h.2)

/-- The members of a run. -/
def Run.members (run : Run) : List Nat :=
  (List.range ((run.last - run.first) / run.step + 1)).map fun k => run.first + k * run.step

/-- The listed members are those of the run. -/
lemma Run.mem_members (h : run.has code = true) : code ∈ run.members := by
  simp only [Run.has, Bool.and_eq_true, decide_eq_true_eq, beq_iff_eq] at h
  obtain ⟨⟨hfirst, hlast⟩, hmod⟩ := h
  have hmember : (code - run.first) / run.step * run.step = code - run.first :=
    Nat.div_mul_cancel (Nat.dvd_of_mod_eq_zero hmod)
  refine List.mem_map.mpr ⟨(code - run.first) / run.step, ?_, by omega⟩
  have hquot : (code - run.first) / run.step ≤ (run.last - run.first) / run.step :=
    Nat.div_le_div_right (by omega)
  simpa using by omega

/-- The run of what the members of a run are moved to. -/
def Run.image (run : Run) : Run :=
  { run with first := (run.first + run.distance).toNat, last := (run.last + run.distance).toNat }

/-- A member of a run is moved to one of its image. -/
lemma Run.image_has (hfirst : 0 ≤ (run.first : Int) + run.distance) (h : run.has code = true) :
    run.image.has (code + run.distance).toNat = true := by
  simp only [Run.has, Run.image, Bool.and_eq_true, decide_eq_true_eq, beq_iff_eq] at h ⊢
  have hdiff : ((code : Int) + run.distance).toNat - ((run.first : Int) + run.distance).toNat =
      code - run.first := by omega
  rw [hdiff]
  exact ⟨⟨decide_eq_true (by omega), decide_eq_true (by omega)⟩, h.2⟩

/-- Code points in ascending order lie in ranges in ascending order. -/
def liesIn : Ranges → List Nat → Bool
  | _, [] => true
  | ranges, code :: codes =>
    match ranges.dropWhile fun range => Nat.blt range.2 code with
    | [] => false
    | range :: rest => Nat.ble range.1 code && liesIn (range :: rest) codes

/-- Code points that lie in ranges are in one of the ranges each. -/
lemma has_of_liesIn {codes : List Nat} (hcodes : liesIn ranges codes = true)
    (hmem : code ∈ codes) : ranges.has code = true := by
  induction codes generalizing ranges with
  | nil => cases hmem
  | cons first codes ih =>
    rw [liesIn] at hcodes
    split at hcodes
    · cases hcodes
    · rename_i range rest hdrop
      simp only [Bool.and_eq_true, Nat.ble_eq] at hcodes
      have hsub : ∀ r ∈ range :: rest, r ∈ ranges := fun r hr =>
        (List.dropWhile_sublist _).mem (hdrop ▸ hr)
      rcases List.mem_cons.mp hmem with rfl | hmem
      · have hne : ranges.dropWhile (fun range => Nat.blt range.2 code) ≠ [] := by simp [hdrop]
        have hnot := List.head_dropWhile_not (fun range : Nat × Nat => Nat.blt range.2 code) hne
        simp only [hdrop, List.head_cons] at hnot
        have hle : ¬ range.2 < code := fun hlt => by
          rw [(Nat.blt_eq).mpr hlt] at hnot
          cases hnot
        exact (Ranges.has_iff _ _).mpr ⟨range, hsub range (by simp), hcodes.1, by omega⟩
      · obtain ⟨r, hr, hhas⟩ := (Ranges.has_iff _ _).mp (ih hcodes.2 hmem)
        exact (Ranges.has_iff _ _).mpr ⟨r, hsub r hr, hhas⟩

/-- A run has no member in any of some ranges. -/
def Run.isApart (ranges : Ranges) (run : Run) : Bool :=
  ranges.all fun range => Nat.blt run.last range.1 || Nat.blt range.2 run.first

/-- No member of a run that is apart from ranges is in one of them. -/
lemma Run.not_has_of_isApart (hapart : run.isApart ranges = true) (h : run.has code = true) :
    ranges.has code = false := by
  rw [Bool.eq_false_iff]
  intro hhas
  obtain ⟨range, hrange, hlow, hhigh⟩ := (Ranges.has_iff _ _).mp hhas
  have hdisjoint := List.all_eq_true.mp hapart range hrange
  simp only [Run.has, Bool.and_eq_true, Bool.or_eq_true, decide_eq_true_eq, Nat.blt_eq]
    at h hdisjoint
  omega

/-! ### The tables -/

/-- All runs have word characters but those of circled letters and that of a combining mark. -/
def Run.isWord (run : Run) : Bool :=
  run.first != 0x345 && run.first != 0x24b6 && run.first != 0x24d0

/-- The members of a run are word characters as far as those of the run are. -/
lemma isWord_of_has (hmem : run ∈ lowerRuns ∨ run ∈ upperRuns) (h : run.has code = true) :
    Letter.isWord code = run.isWord := by
  have hlower : liesIn Letter.alphanumerics
      ((lowerRuns.filter Run.isWord).flatMap Run.members) = true := by
    decide +kernel
  have hupper : liesIn Letter.alphanumerics
      ((upperRuns.filter Run.isWord).flatMap Run.members) = true := by
    decide +kernel
  have hother : ((lowerRuns ++ upperRuns).all fun run => run.isWord ||
      Nat.blt 0x5f run.first && run.isApart Letter.alphanumerics) = true := by
    decide +kernel
  cases hword : run.isWord with
  | true =>
    have hhas : Letter.alphanumerics.has code = true := by
      rcases hmem with hmem | hmem
      · exact has_of_liesIn hlower (List.mem_flatMap.mpr
          ⟨run, List.mem_filter.mpr ⟨hmem, hword⟩, Run.mem_members h⟩)
      · exact has_of_liesIn hupper (List.mem_flatMap.mpr
          ⟨run, List.mem_filter.mpr ⟨hmem, hword⟩, Run.mem_members h⟩)
    rw [Letter.isWord, hhas, Bool.or_true]
  | false =>
    have hapart := List.all_eq_true.mp hother run (List.mem_append.mpr hmem)
    rw [hword, Bool.false_or, Bool.and_eq_true, Nat.blt_eq] at hapart
    rw [Letter.isWord, Run.not_has_of_isApart hapart.2 h, Bool.or_false, beq_eq_false_iff_ne]
    simp only [Run.has, Bool.and_eq_true, decide_eq_true_eq] at h
    omega

/-- No mapping has decimal digits or blank characters. -/
lemma isDigit_isBlank_of_has (hmem : run ∈ lowerRuns ∨ run ∈ upperRuns)
    (h : run.has code = true) : Digit.isDigit code = false ∧ Blank.isBlank code = false := by
  have hall : ((lowerRuns ++ upperRuns).all fun run =>
      run.isApart Digit.ranges && run.isApart Blank.ranges) = true := by
    decide +kernel
  have hapart := List.all_eq_true.mp hall run (List.mem_append.mpr hmem)
  rw [Bool.and_eq_true] at hapart
  exact ⟨Run.not_has_of_isApart hapart.1 h, Run.not_has_of_isApart hapart.2 h⟩

/-- A small letter that some code point has and that is not the code point itself is moved by the
mapping to capitals, and both are word characters or neither is. -/
lemma exists_upperRun (h : lower code ≠ code) :
    ∃ run ∈ lowerRuns, run.has code = true ∧
      ∃ run' ∈ upperRuns, run'.has (lower code) = true ∧ run'.isWord = run.isWord := by
  have hall : (lowerRuns.all fun run => decide (0 ≤ (run.first : Int) + run.distance) &&
      ((upperRuns.any fun run' => run.image.isPartOf run' && run'.isWord == run.isWord) ||
        run.members.all fun code => upperRuns.any fun run' =>
          run'.has (code + run.distance).toNat && run'.isWord == run.isWord)) = true := by
    decide +kernel
  obtain ⟨run, hmem, hhas, hlower⟩ := exists_has_of_move_ne h
  refine ⟨run, hmem, hhas, ?_⟩
  rw [lower, hlower]
  obtain ⟨hfirst, hrun⟩ := (Bool.and_eq_true _ _).mp (List.all_eq_true.mp hall run hmem)
  rcases Bool.or_eq_true_iff.mp hrun with hany | hmembers
  · obtain ⟨run', hmem', hpart⟩ := List.any_eq_true.mp hany
    obtain ⟨hpart, hword⟩ := (Bool.and_eq_true _ _).mp hpart
    exact ⟨run', hmem', Run.has_of_isPartOf hpart (Run.image_has (of_decide_eq_true hfirst) hhas),
      eq_of_beq hword⟩
  · have hany := List.all_eq_true.mp hmembers code (Run.mem_members hhas)
    obtain ⟨run', hmem', hhas'⟩ := List.any_eq_true.mp hany
    obtain ⟨hhas', hword⟩ := (Bool.and_eq_true _ _).mp hhas'
    exact ⟨run', hmem', hhas', eq_of_beq hword⟩

/-! ### Small letters -/

/-- What a mapping moves has letter case. -/
lemma isCased_of_has (hmem : run ∈ lowerRuns ∨ run ∈ upperRuns) (h : run.has code = true) :
    isCased code = true := by
  have hlower : lowerRuns.all (fun run => run.distance != 0 && Nat.blt 0 run.first) = true := by
    decide +kernel
  have hupper : upperRuns.all (fun run => run.distance != 0 && Nat.blt 0 run.first) = true := by
    decide +kernel
  rw [isCased, Bool.or_eq_true, bne_iff_ne, bne_iff_ne]
  exact hmem.imp (fun hmem => move_ne_of_has hlower hmem h)
    fun hmem => move_ne_of_has hupper hmem h

/-- The small letter of another code point has letter case. -/
lemma isCased_lower (h : lower code ≠ code) : isCased (lower code) = true := by
  obtain ⟨-, -, -, run', hmem', hhas', -⟩ := exists_upperRun h
  exact isCased_of_has (.inr hmem') hhas'

/-- A capital letter beyond the basic plane is no small letter. -/
lemma lower_ne_of_lower_ne {own : Nat} (hbasic : 0xffff < lower own) (hown : lower own ≠ own)
    (code : Nat) : lower code ≠ own := by
  have hall : (lowerRuns.all fun run' => Nat.ble run'.image.last 0xffff ||
      lowerRuns.all fun run => decide (0 ≤ (run.first : Int) + run.distance) &&
        (Nat.blt run.image.last run'.first || Nat.blt run'.last run.image.first)) = true := by
    decide +kernel
  intro heq
  have hcode : lower code ≠ code := fun hsame => hown (by rw [← heq, hsame, hsame])
  obtain ⟨run, hmem, hhas, hlower⟩ := exists_has_of_move_ne hcode
  obtain ⟨run', hmem', hhas', hlower'⟩ := exists_has_of_move_ne hown
  rw [← lower] at hlower hlower'
  rw [hlower'] at hbasic
  rw [heq] at hlower
  simp only [Run.has, Bool.and_eq_true, decide_eq_true_eq] at hhas hhas'
  rcases Bool.or_eq_true_iff.mp (List.all_eq_true.mp hall run' hmem') with hlast | hapart
  · simp only [Run.image, Nat.ble_eq] at hlast
    omega
  · have hrun := List.all_eq_true.mp hapart run hmem
    simp only [Run.image, Bool.and_eq_true, Bool.or_eq_true, decide_eq_true_eq, Nat.blt_eq] at hrun
    omega

/-- A code point is a word character if its small letter is one. -/
lemma isWord_lower (code : Nat) : Letter.isWord (lower code) = Letter.isWord code := by
  by_cases h : lower code = code
  · rw [h]
  · obtain ⟨run, hmem, hhas, run', hmem', hhas', hword⟩ := exists_upperRun h
    rw [isWord_of_has (.inr hmem') hhas', isWord_of_has (.inl hmem) hhas, hword]

/-- A code point is a decimal digit or blank if its small letter is. -/
lemma isDigit_isBlank_lower (code : Nat) :
    Digit.isDigit (lower code) = Digit.isDigit code ∧
      Blank.isBlank (lower code) = Blank.isBlank code := by
  by_cases h : lower code = code
  · rw [h]
    exact ⟨rfl, rfl⟩
  · obtain ⟨run, hmem, hhas, run', hmem', hhas', -⟩ := exists_upperRun h
    obtain ⟨hdigit, hblank⟩ := isDigit_isBlank_of_has (.inl hmem) hhas
    obtain ⟨hdigit', hblank'⟩ := isDigit_isBlank_of_has (.inr hmem') hhas'
    rw [hdigit, hblank, hdigit', hblank']
    exact ⟨rfl, rfl⟩

/-- Between bounds without letter case no code point has it. -/
lemma isCased_of_between (h : anyCased low high = false) (hlow : low ≤ code)
    (hhigh : code ≤ high) : isCased code = false := by
  have hsteps : ((lowerRuns ++ upperRuns).all fun run => Nat.blt 0 run.step) = true := by
    decide +kernel
  have hmeets : ∀ run : Run, run ∈ lowerRuns ∨ run ∈ upperRuns → run.has code = true →
      run.meets low high = true := fun run hmem hhas =>
    run.meets_of_has (Nat.blt_eq.mp (List.all_eq_true.mp hsteps run (List.mem_append.mpr hmem)))
      hhas hlow hhigh
  rw [Bool.eq_false_iff]
  intro hcased
  rw [anyCased, Bool.or_eq_false_iff] at h
  rw [isCased, Bool.or_eq_true, bne_iff_ne, bne_iff_ne] at hcased
  rcases hcased with hne | hne
  · obtain ⟨run, hmem, hhas, -⟩ := exists_has_of_move_ne hne
    exact List.any_eq_false.mp h.1 run hmem (hmeets run (.inl hmem) hhas)
  · obtain ⟨run, hmem, hhas, -⟩ := exists_has_of_move_ne hne
    exact List.any_eq_false.mp h.2 run hmem (hmeets run (.inr hmem) hhas)

/-- Small letters that share a capital with another one have letter case, and so have these. They
are in the basic plane. -/
lemma isCased_of_mem_alikes {letter : Nat} (h : letter ∈ alikes code) :
    isCased code = true ∧ isCased letter = true ∧ code ≤ 0xffff := by
  have hall : (alikeClasses.all fun letters => letters.all fun letter =>
      isCased letter && Nat.ble letter 0xffff) = true := by
    decide +kernel
  unfold alikes at h
  split at h
  · rename_i letters hfind
    have hletters := List.all_eq_true.mp hall letters (List.mem_of_find?_eq_some hfind)
    have hcode := List.find?_some (p := fun letters : List Nat => letters.contains code) hfind
    have hmem : letter ∈ letters := (List.mem_filter.mp h).1
    have hc := List.all_eq_true.mp hletters code (by simpa using hcode)
    have hl := List.all_eq_true.mp hletters letter hmem
    simp only [Bool.and_eq_true, Nat.ble_eq] at hc hl
    exact ⟨hc.1, hl.1, hc.2⟩
  · cases h

/-- The sources of a small letter have it. -/
lemma lower_of_mem_lowerSources {letter : Nat} (h : code ∈ lowerSources letter) :
    lower code = letter := by
  have hmoved : ∀ run ∈ lowerRuns, ∀ source,
      (if run.has ((letter : Int) - run.distance).toNat &&
          lower ((letter : Int) - run.distance).toNat == letter then
        some ((letter : Int) - run.distance).toNat else none) = some source →
      lower source = letter := by
    intro run _ source heq
    split at heq
    · rename_i hcond
      cases heq
      exact eq_of_beq ((Bool.and_eq_true _ _).mp hcond).2
    · cases heq
  unfold lowerSources at h
  dsimp only at h
  split at h
  · rename_i hsame
    rcases List.mem_cons.mp h with rfl | h
    · exact eq_of_beq hsame
    · obtain ⟨run, hmem, heq⟩ := List.mem_filterMap.mp h
      exact hmoved run hmem code heq
  · obtain ⟨run, hmem, heq⟩ := List.mem_filterMap.mp h
    exact hmoved run hmem code heq

/-- A code point that is its own small letter is one of the sources of itself. -/
lemma mem_lowerSources_self (h : lower code = code) : code ∈ lowerSources code := by
  unfold lowerSources
  rw [if_pos (beq_iff_eq.mpr h)]
  exact List.mem_cons_self

end RunnerAtlas.Text.LetterCase
