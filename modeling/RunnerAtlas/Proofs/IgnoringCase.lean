import RunnerAtlas.Proofs.LiteralSearch
import RunnerAtlas.Proofs.Outcomes
import RunnerAtlas.Proofs.Pattern.CaseVariants
import RunnerAtlas.Proofs.Pattern.KeepsCase

set_option relaxedAutoImplicit false
set_option autoImplicit false

/-!
# Platforms without letter case

A platform without letter case matches a device whatever the case of the letters of ASCII in its
identifier is, unless a group of the platform makes letter case matter again.

## Main results

* `RunnerAtlas.Platform.toNat_toLower` — the small form of a character.
* `RunnerAtlas.Platform.deviceMatches_of_toLower_eq` — devices whose identifiers differ in case.
-/

namespace RunnerAtlas.Platform

open Pattern RunnerAtlas.Text

/-- The small form of a character is that of its code point. -/
lemma toNat_toLower (c : Char) : c.toLower.toNat = LetterCase.plainLower c.toNat := by
  have hA : 'A'.val.toNat = 0x41 := rfl
  have hZ : 'Z'.val.toNat = 0x5a := rfl
  have hdistance : ('a'.val - 'A'.val).toNat = 0x20 := rfl
  unfold Char.toLower LetterCase.plainLower
  simp only [Char.toNat, ge_iff_le, UInt32.le_iff_toNat_le, hA, hZ]
  split
  · rename_i h
    rw [UInt32.toNat_add, hdistance, Nat.mod_eq_of_lt (by omega)]
  · rfl

/-- A platform without letter case is a pattern that ignores it. -/
lemma ignoreCase_of_compile {platform : String} {options : MatchOptions} {p : Compiled}
    (hcase : options.ignoreCase = true) (hp : compile platform options = .ok p) :
    p.pattern.flags.ignoreCase = true := by
  obtain ⟨pattern, hpattern, rfl⟩ := compile_eq_ok_iff.mp hp
  exact Pattern.ignoreCase_of_compile hcase hpattern

/-- **Letter case of identifiers.** A platform without letter case, none of whose groups switches
letter case on again, matches both of two devices whose identifiers differ only in the case of
letters of ASCII, or neither of them.

**Proof sketch.** The pattern ignores letter case from its start (`ignoreCase_of_compile`) and
throughout, so that it does the same in both identifiers (`Compiled.matchesIn_eq`). -/
theorem deviceMatches_of_toLower_eq {platform : String} {options : MatchOptions} {p : Compiled}
    (hcase : options.ignoreCase = true) (hp : compile platform options = .ok p)
    (hkeeps : p.pattern.node.KeepsIgnoring) {device device' : Candidate} {s s' : String}
    (hs : device.HasIdentifier s) (hs' : device'.HasIdentifier s')
    (hsame : s.toList.map Char.toLower = s'.toList.map Char.toLower) (index index' : Int) :
    ∃ found, Matching.deviceMatches p device index = .ok found ∧
      Matching.deviceMatches p device' index' = .ok found := by
  have hletters : s.toList.map (fun c => LetterCase.plainLower c.toNat) =
      s'.toList.map fun c => LetterCase.plainLower c.toNat := by
    simpa [Function.comp_def, toNat_toLower] using congrArg (List.map Char.toNat) hsame
  have hmatches : p.matchesIn s = p.matchesIn s' :=
    Pattern.Compiled.matchesIn_eq hkeeps (ignoreCase_of_compile hcase hp) hletters
  refine ⟨p.matchesIn s, deviceMatches_of_hasIdentifier p hs index, ?_⟩
  rw [hmatches]
  exact deviceMatches_of_hasIdentifier p hs' index'

/-- A platform with a set, a range, a repetition and a reference to a group matches two forms of an
identifier. -/
theorem deviceMatches_of_toLower_eq_two_forms :
    ∃ p, compile "(?m:^[^x]os)-([A-f])+-\\1" ⟨true, false⟩ = .ok p ∧
      p.pattern.node.KeepsIgnoring ∧
      Matching.deviceMatches p ⟨none, none, some (.str "iOS-bA-a")⟩ 0 = .ok true ∧
      Matching.deviceMatches p ⟨none, none, some (.str "IoS-Ba-A")⟩ 1 = .ok true := by
  obtain ⟨p, hp⟩ := Outcome.exists_eq_ok_of_isSome
    (x := compile "(?m:^[^x]os)-([A-f])+-\\1" ⟨true, false⟩) (by decide +kernel)
  have hknown : (compile "(?m:^[^x]os)-([A-f])+-\\1" ⟨true, false⟩).toOption.map
      (fun p => decide p.pattern.node.KeepsIgnoring && p.matchesIn "iOS-bA-a") = some true := by
    decide +kernel
  simp only [hp, Except.toOption, Option.map_some, Option.some.injEq, Bool.and_eq_true,
    decide_eq_true_eq] at hknown
  have hs : Candidate.HasIdentifier ⟨none, none, some (.str "iOS-bA-a")⟩ "iOS-bA-a" :=
    ⟨rfl, by decide⟩
  have hs' : Candidate.HasIdentifier ⟨none, none, some (.str "IoS-Ba-A")⟩ "IoS-Ba-A" :=
    ⟨rfl, by decide⟩
  obtain ⟨found, hfound, hfound'⟩ :=
    deviceMatches_of_toLower_eq rfl hp hknown.1 hs hs' (by decide) 0 1
  have htrue : found = true := by
    rw [deviceMatches_of_hasIdentifier p hs, hknown.2] at hfound
    exact (Except.ok.inj hfound).symm
  subst htrue
  exact ⟨p, hp, hknown.1, hfound, hfound'⟩

end RunnerAtlas.Platform
