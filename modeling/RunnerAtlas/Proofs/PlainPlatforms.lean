import RunnerAtlas.Proofs.LiteralSearch
import RunnerAtlas.Proofs.Matching
import RunnerAtlas.Proofs.Outcomes

set_option relaxedAutoImplicit false
set_option autoImplicit false

/-!
# Plain platforms

A platform without a character that begins an operator means the same as a pattern and as a literal
text. As a literal text it is escaped in many places, where blanks, dashes and other characters have
a meaning in some patterns, and yet the two texts are read as the same sequence of characters.

## Main definitions

* `RunnerAtlas.Platform.IsPlain` — a platform without operators.

## Main results

* `RunnerAtlas.Platform.compile_plain` — a plain platform is the pattern of its characters.
* `RunnerAtlas.Matching.runnersFrom_congr` — matching sees nothing of a platform but where it
  occurs.
* `RunnerAtlas.Matching.runners_plain` — the two ways to read a plain platform.
-/

namespace RunnerAtlas

open Journal Outcome Pattern

/-! ### Patterns of plain platforms -/

namespace Platform

/-- No character of a platform begins an operator. -/
def IsPlain (platform : String) : Prop := ∀ c ∈ platform.toList, c ∉ operatorChars

instance (platform : String) : Decidable (IsPlain platform) :=
  List.decidableBAll (fun c => c ∉ operatorChars) platform.toList

/-- The pieces of a text without operators stand for its characters, one for each. -/
lemma standsFor_cut_plain {cs : List Char} (h : ∀ c ∈ cs, c ∉ operatorChars) :
    List.Forall₂ Lexeme.StandsFor (Lexeme.cut cs) cs := by
  induction cs with
  | nil => exact .nil
  | cons c cs ih =>
    obtain ⟨hop, hrest⟩ := List.forall_mem_cons.mp h
    rw [Lexeme.cut_cons_of_ne (ne_backslash_of_not_mem hop)]
    exact .cons (.plain hop) (ih hrest)

/-- A plain platform has a pattern: that of its characters. -/
theorem compile_plain {platform : String} (h : IsPlain platform) (ignoreCase : Bool) :
    compile platform ⟨ignoreCase, false⟩ =
      .ok ⟨platform, literal platform.toList (literalFlags ignoreCase)⟩ := by
  apply compile_of_standsFor
  exact standsFor_cut_plain h

/-- A plain platform is not warned of. -/
lemma warnings_plain {platform : String} (h : IsPlain platform) (ignoreCase : Bool) :
    warnings platform ⟨ignoreCase, false⟩ = [] :=
  List.map_eq_nil_iff.mpr (warnings_eq_nil (fun hbracket => h _ hbracket (by decide)) _)

end Platform

/-! ### Matching -/

namespace Matching

/-- The loop over devices is the same for two platforms that occur in the same identifiers. -/
theorem runnersFrom_congr {p p' : Platform.Compiled} (h : ∀ s, p.matchesIn s = p'.matchesIn s)
    (index : Nat) (devices : List Candidate) :
    runnersFrom p index devices = runnersFrom p' index devices := by
  have hmatches : ∀ device index, deviceMatches p device index = deviceMatches p' device index := by
    intro device index
    simp only [deviceMatches, funext h]
  induction devices generalizing index with
  | nil => rfl
  | cons device rest ih => simp only [runnersFrom, hmatches, ih]

/-- **Plain platforms.** A platform without operators has a pattern, with or without letter case,
and as a literal text it has the same one. So matching it as a pattern and as a literal text come to
the same runners or the same error, and keep the same record and no warning, whatever the devices
are.

**Proof sketch.** Both texts are read as the characters of the platform, the one since no character
begins an operator (`Platform.compile_plain`), the other since those that do are escaped
(`Platform.compile_literal`). Matching depends on the pattern alone (`runnersFrom_congr`). -/
theorem runners_plain (platform : String) (h : Platform.IsPlain platform) (ignoreCase : Bool)
    (devices : List Candidate) :
    (∃ p p', Platform.compile platform ⟨ignoreCase, false⟩ = .ok p ∧
        Platform.compile platform ⟨ignoreCase, true⟩ = .ok p' ∧ p.pattern = p'.pattern) ∧
      runners platform devices ⟨ignoreCase, false⟩ =
        runners platform devices ⟨ignoreCase, true⟩ := by
  have hpattern := Platform.compile_plain h ignoreCase
  have hliteral := Platform.compile_literal platform ignoreCase
  have houtcome : outcome platform devices ⟨ignoreCase, false⟩ =
      outcome platform devices ⟨ignoreCase, true⟩ := by
    rw [outcome_of_compile_ok hpattern, outcome_of_compile_ok hliteral]
    apply runnersFrom_congr
    intro s
    rfl
  refine ⟨⟨_, _, hpattern, hliteral, rfl⟩, ?_⟩
  simp only [runners, houtcome, Platform.warnings_plain h, Platform.warnings_literal]

/-- A platform with a blank, a dash, signs that would be escaped, closing brackets and a line break
is found without letter case in one of two devices. A device without a runtime after these is the
same error in both ways to read the platform. -/
theorem runners_plain_signs :
    let platform := "tv OS-9 #1&2~]\x7d\n"
    let tv : Candidate :=
      ⟨some (.str "TV"), some (.str "T"), some (.str "my TV os-9 #1&2~]\x7d\n")⟩
    let pad : Candidate := ⟨some (.str "Pad"), some (.str "P"), some (.str "tv OS-9 #1&2~]")⟩
    Platform.IsPlain platform ∧
      (runners platform [tv, pad] ⟨true, true⟩).outcome = .ok [⟨"TV", "T"⟩] ∧
      (runners platform [tv, pad] ⟨true, false⟩).outcome = .ok [⟨"TV", "T"⟩] ∧
      runners platform [tv, pad, ⟨none, none, none⟩] ⟨true, false⟩ =
        runners platform [tv, pad, ⟨none, none, none⟩] ⟨true, true⟩ := by
  intro platform tv pad
  have hplain : Platform.IsPlain platform := by decide
  have hliteral : (runners platform [tv, pad] ⟨true, true⟩).outcome = .ok [⟨"TV", "T"⟩] :=
    eq_ok_of_toOption (by decide +kernel)
  refine ⟨hplain, hliteral, ?_, (runners_plain platform hplain true _).2⟩
  rw [(runners_plain platform hplain true [tv, pad]).2, hliteral]

end Matching

end RunnerAtlas
