import RunnerAtlas.Matching
import RunnerAtlas.Proofs.Candidates
import RunnerAtlas.Proofs.Pattern.Occurrence

set_option relaxedAutoImplicit false
set_option autoImplicit false

/-!
# Platforms as literal texts

A platform that is read literally has a pattern whatever its characters are, and the pattern is that
of these characters: every character that begins an operator is escaped, and an escaped character
stands for itself. Searching for the pattern is then searching for the text.

## Main definitions

* `RunnerAtlas.Platform.LetterMatches` — a character alone, as a literal platform without letter
  case, is found in another one alone.

## Main results

* `RunnerAtlas.Platform.standsFor_cut_escaped` — an escaped text stands for its characters.
* `RunnerAtlas.Platform.compile_literal` — every literal platform has a pattern.
* `RunnerAtlas.Platform.warnings_literal` — no literal platform is warned of.
* `RunnerAtlas.Platform.literal_deviceMatches` — which devices it matches.
-/

namespace RunnerAtlas.Platform

open Pattern RunnerAtlas.Text

/-! ### Escaped texts -/

/-- Every character that begins an operator is escaped. -/
lemma operatorChars_subset_specialChars : operatorChars ⊆ specialChars := by
  decide

/-- An escaped character stands for itself after its backslash. -/
lemma standsFor_escape_of_special {c : Char} (h : c ∈ specialChars) :
    (Lexeme.escape c).StandsFor c := by
  have hall : (specialChars.all fun c =>
      !Letter.isPlainLetter c.toNat && !digits.contains c) = true := by rfl
  have hc := List.all_eq_true.mp hall c h
  simp only [Bool.and_eq_true, Bool.not_eq_true', List.contains_eq_mem,
    decide_eq_false_iff_not] at hc
  exact .escape hc.1 hc.2

/-- The pieces of an escaped text stand for the characters of the text, one for each.

**Proof sketch.** Induction on the text. A special character becomes one escape. Any other is no
backslash, so it is a piece of its own, and it begins no operator. -/
theorem standsFor_cut_escaped (cs : List Char) :
    List.Forall₂ Lexeme.StandsFor (Lexeme.cut (escaped cs)) cs := by
  induction cs with
  | nil => exact .nil
  | cons c cs ih =>
    by_cases hc : c ∈ specialChars
    · have hcut : Lexeme.cut (escaped (c :: cs)) = .escape c :: Lexeme.cut (escaped cs) := by
        simp [escaped, hc, Lexeme.cut]
      rw [hcut]
      exact .cons (standsFor_escape_of_special hc) ih
    · have hop : c ∉ operatorChars := fun h => hc (operatorChars_subset_specialChars h)
      have hesc : escaped (c :: cs) = c :: escaped cs := by simp [escaped, hc]
      rw [hesc, Lexeme.cut_cons_of_ne (ne_backslash_of_not_mem hop)]
      exact .cons (.plain hop) ih

/-! ### Literal platforms -/

/-- The flags of a literal platform. -/
def literalFlags (ignoreCase : Bool) : Flags := { ignoreCase := ignoreCase }

/-- A platform whose text is read as its characters has the pattern of these. -/
lemma compile_of_standsFor {platform : String} {options : MatchOptions}
    (h : List.Forall₂ Lexeme.StandsFor (Lexeme.cut (source platform options).toList)
      platform.toList) :
    compile platform options = .ok ⟨source platform options,
      literal platform.toList (literalFlags options.ignoreCase)⟩ :=
  compile_eq_ok_iff.mpr ⟨_, compile_eq_literal h rfl rfl, rfl⟩

/-- Every literal platform has a pattern: that of its characters. -/
theorem compile_literal (platform : String) (ignoreCase : Bool) :
    compile platform ⟨ignoreCase, true⟩ =
      .ok ⟨String.ofList (escaped platform.toList),
        literal platform.toList (literalFlags ignoreCase)⟩ := by
  apply compile_of_standsFor
  simp only [source, ↓reduceIte, String.toList_ofList]
  exact standsFor_cut_escaped platform.toList

/-- An escaped text up to a bracket is an escaped text too. -/
lemma exists_take_escaped {cs : List Char} {i : Nat} (h : (escaped cs)[i]? = some '[') :
    ∃ before, (escaped cs).take (i + 1) = escaped before := by
  induction cs generalizing i with
  | nil => simp [escaped] at h
  | cons c cs ih =>
    by_cases hc : c ∈ specialChars
    · have hesc : ∀ cs, escaped (c :: cs) = '\\' :: c :: escaped cs := by simp [escaped, hc]
      rw [hesc] at h ⊢
      match i, h with
      | 1, _ => exact ⟨[c], by rw [hesc]; rfl⟩
      | i + 2, h =>
        obtain ⟨before, hbefore⟩ := ih h
        exact ⟨c :: before, by simp [hesc, hbefore]⟩
    · have hesc : ∀ cs, escaped (c :: cs) = c :: escaped cs := by simp [escaped, hc]
      rw [hesc] at h ⊢
      match i, h with
      | 0, h =>
        obtain rfl : c = '[' := by simpa using h
        exact absurd (by decide) hc
      | i + 1, h =>
        obtain ⟨before, hbefore⟩ := ih h
        exact ⟨c :: before, by simp [hesc, hbefore]⟩

/-- No literal platform is warned of: its brackets are escaped, so that none begins a set. -/
theorem warnings_literal (platform : String) (ignoreCase : Bool) :
    warnings platform ⟨ignoreCase, true⟩ = [] := by
  refine List.map_eq_nil_iff.mpr (List.flatMap_eq_nil_iff.mpr fun i _ => if_neg ?_)
  simp only [source, ↓reduceIte, String.toList_ofList]
  rintro ⟨hbracket, hopens⟩
  obtain ⟨before, hbefore⟩ := exists_take_escaped hbracket
  have hcompile : Pattern.compile (escaped before) { ignoreCase := ignoreCase } = .ok _ :=
    compile_eq_literal (standsFor_cut_escaped before) rfl rfl
  rw [opensSet, hbefore, hcompile] at hopens
  cases hopens

/-- A device with a usable identifier matches a platform exactly if the platform occurs in it. -/
lemma deviceMatches_of_hasIdentifier (p : Compiled) {device : Candidate} {s : String}
    (hs : device.HasIdentifier s) (index : Int) :
    Matching.deviceMatches p device index = .ok (p.matchesIn s) := by
  simp only [Matching.deviceMatches, Matching.identifier,
    (device.identifier?_eq_some_iff s).mpr hs]
  rfl

/-- A character, as a literal platform without letter case, matches the devices whose identifier is
another character. -/
def LetterMatches (c d : Char) : Prop :=
  ∃ p, compile (String.singleton c) ⟨true, true⟩ = .ok p ∧
    ∀ (device : Candidate) (index : Int), device.HasIdentifier (String.singleton d) →
      Matching.deviceMatches p device index = .ok true

/-- A character alone matches another one alone exactly if they count as the same. -/
lemma letterMatches_iff (c d : Char) :
    LetterMatches c d ↔ Fold.full.isSame c.toNat d.toNat = true := by
  have hoccurs : (literal [c] (literalFlags true)).matchesIn [d] = true ↔
      Fold.full.isSame c.toNat d.toNat = true := by
    rw [matchesIn_literal_iff]
    constructor
    · rintro ⟨position, h⟩
      obtain ⟨⟨d', hd', hs⟩, -⟩ := Fold.occursAt_cons.mp h
      have hmem : d' ∈ [d] := List.mem_of_getElem? hd'
      rw [List.mem_singleton.mp hmem] at hs
      exact hs
    · intro h
      exact ⟨0, Fold.occursAt_cons.mpr ⟨⟨d, rfl, h⟩, Fold.occursAt_nil⟩⟩
  rw [← hoccurs, LetterMatches]
  simp only [compile_literal, String.toList_singleton, Except.ok.injEq, exists_eq_left']
  constructor
  · intro h
    have hd := h ⟨none, none, some (.str (String.singleton d))⟩ 0 ⟨rfl, by simp⟩
    rw [deviceMatches_of_hasIdentifier _ (s := String.singleton d) ⟨rfl, by simp⟩] at hd
    simpa [Compiled.matchesIn] using hd
  · intro h device index hs
    rw [deviceMatches_of_hasIdentifier _ hs]
    simpa [Compiled.matchesIn] using h

/-- **Searching literally.** A literal platform has a pattern whatever its characters are. With
letter case it matches exactly the devices in whose identifier it is a contiguous part. Without
letter case it matches exactly those in whose identifier, from some position on, its characters
match those of the identifier one by one, each alone against the other alone.

**Proof sketch.** The pattern is that of the characters of the platform (`compile_literal`), and it
is found where they occur in order (`matchesIn_literal_iff`). With letter case only the same
characters count as the same. Without it, two characters count as the same exactly if the one
matches the other (`letterMatches_iff`). -/
theorem literal_deviceMatches (platform : String) (ignoreCase : Bool) :
    ∃ p, compile platform ⟨ignoreCase, true⟩ = .ok p ∧
      ∀ (device : Candidate) (index : Int) (s : String), device.HasIdentifier s →
        ∃ found, Matching.deviceMatches p device index = .ok found ∧
          (ignoreCase = false → (found = true ↔ platform.toList <:+: s.toList)) ∧
          (ignoreCase = true → (found = true ↔
            ∃ k : Nat, ∀ i c, platform.toList[i]? = some c →
              ∃ d, s.toList[k + i]? = some d ∧ LetterMatches c d)) := by
  refine ⟨_, compile_literal platform ignoreCase, fun device index s hs => ?_⟩
  refine ⟨_, deviceMatches_of_hasIdentifier _ hs index, ?_, ?_⟩
  · rintro rfl
    exact (matchesIn_literal_iff _ _ _).trans (Fold.exists_occursAt_none_iff _ _)
  · rintro rfl
    simp only [letterMatches_iff]
    exact matchesIn_literal_iff _ _ _

/-- A literal platform with an operator is found with letter case where it stands as it is, and not
where it would match as a pattern. Without letter case a capital counts as its small letter. -/
theorem literal_deviceMatches_operator :
    (∃ p, compile "a+b" ⟨false, true⟩ = .ok p ∧
      Matching.deviceMatches p ⟨none, none, some (.str "x.a+b")⟩ 0 = .ok true ∧
      Matching.deviceMatches p ⟨none, none, some (.str "aab")⟩ 0 = .ok false) ∧
    ∃ p, compile "a+b" ⟨true, true⟩ = .ok p ∧
      Matching.deviceMatches p ⟨none, none, some (.str "x.A+B")⟩ 0 = .ok true := by
  constructor
  · obtain ⟨p, hp, hmatch⟩ := literal_deviceMatches "a+b" false
    refine ⟨p, hp, ?_, ?_⟩
    · obtain ⟨found, hfound, hcase, -⟩ :=
        hmatch ⟨none, none, some (.str "x.a+b")⟩ 0 "x.a+b" ⟨rfl, by decide⟩
      rw [hfound, (hcase rfl).mpr (by decide)]
    · obtain ⟨found, hfound, hcase, -⟩ :=
        hmatch ⟨none, none, some (.str "aab")⟩ 0 "aab" ⟨rfl, by decide⟩
      have hno : ¬ found = true := fun h => absurd ((hcase rfl).mp h) (by decide)
      rw [hfound, Bool.eq_false_iff.mpr hno]
  · obtain ⟨p, hp, hmatch⟩ := literal_deviceMatches "a+b" true
    refine ⟨p, hp, ?_⟩
    obtain ⟨found, hfound, -, hcase⟩ :=
      hmatch ⟨none, none, some (.str "x.A+B")⟩ 0 "x.A+B" ⟨rfl, by decide⟩
    rw [hfound, (hcase rfl).mpr ⟨2, fun i c hc => ?_⟩]
    simp only [letterMatches_iff]
    match i, hc with
    | 0, hc => cases hc; exact ⟨'A', rfl, by decide⟩
    | 1, hc => cases hc; exact ⟨'+', rfl, by decide⟩
    | 2, hc => cases hc; exact ⟨'B', rfl, by decide⟩

end RunnerAtlas.Platform
