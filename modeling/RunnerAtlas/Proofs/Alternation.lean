import RunnerAtlas.Proofs.CheckedInventory
import RunnerAtlas.Proofs.Pattern.Alternatives
import RunnerAtlas.Proofs.Pattern.Choice

set_option relaxedAutoImplicit false
set_option autoImplicit false

/-!
# Platforms with a bar between them

Two platforms without groups can be written as one, with a bar between them. It finds the runners
that one of the two finds, in the order of the inventory. There is one exception, where letter case
is ignored: alternatives of one character each are joined to a set, and a set does not have the
capital letters beyond the basic plane.

## Main definitions

* `RunnerAtlas.Platform.losesAlternative` — a platform with such an alternative.

## Main results

* `RunnerAtlas.Platform.compile_alternation` — two platforms as one.
* `RunnerAtlas.Platform.runners_alternation` — its runners.
-/

namespace RunnerAtlas.Platform

open Pattern

variable {p q : String} {ignoreCase : Bool}

/-- Whether a platform loses one of its alternatives where letter case is ignored. -/
def losesAlternative (platform : String) (b : List Node) : Bool :=
  match Pattern.alternatives platform.toList { ignoreCase := true } with
  | .ok bs => loses .full bs b
  | .error _ => false

/-- Whether a longer platform loses exactly those alternatives of a platform that this loses
itself. -/
def sameLosses (platform longer : String) : Bool :=
  match Pattern.alternatives platform.toList { ignoreCase := true } with
  | .ok bs => bs.all fun b => losesAlternative longer b == losesAlternative platform b
  | .error _ => true

/-- A platform that is a pattern without groups is that of its joined alternatives. -/
structure HasBranches (platform : String) (ignoreCase : Bool) (bs : List (List Node)) : Prop where
  /-- It has these alternatives. -/
  alternatives : HasAlternatives { ignoreCase := ignoreCase } platform.toList bs
  /-- No backslash dangles at its end. -/
  ne_dangling : ∀ before, Lexeme.cut platform.toList ≠ before ++ [.dangling]
  /-- It has no groups. -/
  noGroup : '(' ∉ platform.toList

/-- The pattern of a platform with the given alternatives. -/
def ofBranches (platform : String) (ignoreCase : Bool) (bs : List (List Node)) : Compiled :=
  ⟨platform, ⟨Node.ofList (joinBranches bs), { ignoreCase := ignoreCase }, []⟩⟩

namespace HasBranches

variable {platform : String} {bs bs' : List (List Node)}

/-- A platform with alternatives is their pattern. -/
lemma compile_eq (h : HasBranches platform ignoreCase bs) :
    compile platform ⟨ignoreCase, false⟩ = .ok (ofBranches platform ignoreCase bs) := by
  exact compile_eq_ok_iff.mpr ⟨_, compile_of_hasAlternatives (Flags.isCaseOnly _) h.noGroup
    (h.ne_dangling []) h.alternatives, rfl⟩

/-- The alternatives that the platform loses are those that its joined branches lose. -/
lemma losesAlternative_eq (h : HasBranches platform true bs) (b : List Node) :
    losesAlternative platform b = loses .full bs b := by
  rw [losesAlternative, h.alternatives.eq_ok]

/-- It is found where one of its alternatives matches that it does not lose. -/
lemma matchesIn_iff (h : HasBranches platform ignoreCase bs) (s : String) :
    (ofBranches platform ignoreCase bs).matchesIn s = true ↔
      ∃ b ∈ bs, (ignoreCase = true → losesAlternative platform b = false) ∧
        ∃ position ≤ s.toList.length,
          ((Node.ofList b).run (s.toList.map Char.toNat).toArray (fun _ => .zero)
            { ignoreCase := ignoreCase } { position := position } some).isSome := by
  have hlost : ∀ b, loses (Flags.fold { ignoreCase := ignoreCase }) bs b = false ↔
      (ignoreCase = true → losesAlternative platform b = false) := by
    intro b
    cases ignoreCase with
    | false => exact iff_of_true (loses_none bs b) nofun
    | true =>
      rw [h.losesAlternative_eq]
      exact ⟨fun hb _ => hb, fun hb => hb rfl⟩
  simp only [← hlost]
  exact matchesIn_joinBranches_iff (Flags.isCaseOnly _)
    (h.alternatives.isPiece (Flags.isCaseOnly _) h.noGroup) h.alternatives.ne_nil s.toList

/-- A longer platform with the same losses loses an alternative exactly if the platform does. -/
lemma losesAlternative_eq_of_sameLosses (h : HasBranches platform true bs) {longer : String}
    (hsame : sameLosses platform longer = true) {b : List Node} (hb : b ∈ bs) :
    losesAlternative longer b = losesAlternative platform b := by
  rw [sameLosses, h.alternatives.eq_ok] at hsame
  exact eq_of_beq (List.all_eq_true.mp hsame b hb)

/-- Two platforms with a bar between them have the alternatives of both. -/
lemma append (hp : HasBranches p ignoreCase bs) (hq : HasBranches q ignoreCase bs') :
    HasBranches (p ++ "|" ++ q) ignoreCase (bs ++ bs') := by
  have htext : (p ++ "|" ++ q).toList = p.toList ++ '|' :: q.toList := by
    simp
  refine ⟨?_, fun before => ?_, ?_⟩
  · rw [htext]
    exact hp.alternatives.append_bar (Flags.isCaseOnly _) hp.noGroup hq.noGroup hp.ne_dangling
      hq.ne_dangling hq.alternatives
  · rw [htext, cut_append_bar hp.ne_dangling]
    intro heq
    rcases List.eq_nil_or_concat (Lexeme.cut q.toList) with hnil | ⟨init, l, hlast⟩
    · rw [hnil] at heq
      cases (List.append_inj_right' heq rfl)
    · rw [hlast, List.concat_eq_append, ← List.cons_append, ← List.append_assoc] at heq
      have hl := List.append_inj_right' heq rfl
      exact hq.ne_dangling init (by rw [hlast, List.concat_eq_append, hl])
  · rw [htext]
    simp [hp.noGroup, hq.noGroup]

end HasBranches

/-- A platform without groups that can be searched for has alternatives, and is their pattern. -/
lemma exists_hasBranches {platform : String} {c : Compiled} (hgroup : '(' ∉ platform.toList)
    (h : compile platform ⟨ignoreCase, false⟩ = .ok c) :
    ∃ bs, HasBranches platform ignoreCase bs ∧ c = ofBranches platform ignoreCase bs := by
  obtain ⟨pattern, hpattern, -⟩ := compile_eq_ok_iff.mp h
  obtain ⟨hd, bs, hbs⟩ := exists_hasAlternatives (Flags.isCaseOnly _) hgroup hpattern
  have hbranches : HasBranches platform ignoreCase bs := ⟨hbs, hd, hgroup⟩
  rw [hbranches.compile_eq] at h
  exact ⟨bs, hbranches, (Except.ok.inj h).symm⟩

/-- **Two platforms as one.** Two platforms without groups that can be searched for can be written
as one, with a bar between them. Over complete devices its runners are those of the devices in whose
identifier one of the two occurs, in the order of the inventory, if letter case matters or the
joined platform loses exactly those alternatives that the two lose themselves.

**Proof sketch.** The joined platform has the alternatives of the one and then those of the other
(`HasBranches.append`). A platform is found where one of its alternatives matches that it does not
lose (`HasBranches.matchesIn_iff`), so that the joined one is found where one of the two is. -/
theorem runners_alternation {cp cq : Compiled} (hp : '(' ∉ p.toList) (hq : '(' ∉ q.toList)
    (hcp : compile p ⟨ignoreCase, false⟩ = .ok cp) (hcq : compile q ⟨ignoreCase, false⟩ = .ok cq) :
    (∃ c, compile (p ++ "|" ++ q) ⟨ignoreCase, false⟩ = .ok c) ∧
      ((ignoreCase = true → sameLosses p (p ++ "|" ++ q) = true ∧
          sameLosses q (p ++ "|" ++ q) = true) →
        ∀ devices : List Device, (∀ d ∈ devices, d.IsComplete) →
          (Matching.runners (p ++ "|" ++ q) (devices.map Device.candidate)
              ⟨ignoreCase, false⟩).outcome =
            .ok ((devices.filter fun d =>
              cp.matchesIn d.runtimeIdentifier || cq.matchesIn d.runtimeIdentifier).map
                Device.runner)) := by
  obtain ⟨bs, hbs, rfl⟩ := exists_hasBranches hp hcp
  obtain ⟨bs', hbs', rfl⟩ := exists_hasBranches hq hcq
  have hboth := hbs.append hbs'
  refine ⟨⟨_, hboth.compile_eq⟩, fun hsame devices hdevices => ?_⟩
  have hlosses : ∀ b ∈ bs, (ignoreCase = true → losesAlternative (p ++ "|" ++ q) b = false) ↔
      (ignoreCase = true → losesAlternative p b = false) := by
    refine fun b hb => imp_congr_right ?_
    rintro rfl
    rw [hbs.losesAlternative_eq_of_sameLosses (hsame rfl).1 hb]
  have hlosses' : ∀ b ∈ bs', (ignoreCase = true → losesAlternative (p ++ "|" ++ q) b = false) ↔
      (ignoreCase = true → losesAlternative q b = false) := by
    refine fun b hb => imp_congr_right ?_
    rintro rfl
    rw [hbs'.losesAlternative_eq_of_sameLosses (hsame rfl).2 hb]
  have hmatches : ∀ s, (ofBranches (p ++ "|" ++ q) ignoreCase (bs ++ bs')).matchesIn s =
      ((ofBranches p ignoreCase bs).matchesIn s || (ofBranches q ignoreCase bs').matchesIn s) := by
    intro s
    rw [Bool.eq_iff_iff, Bool.or_eq_true, hboth.matchesIn_iff, hbs.matchesIn_iff,
      hbs'.matchesIn_iff]
    simp only [List.mem_append, or_and_right, exists_or]
    refine or_congr ?_ ?_
    · exact exists_congr fun b => and_congr_right fun hb => and_congr_left' (hlosses b hb)
    · exact exists_congr fun b => and_congr_right fun hb => and_congr_left' (hlosses' b hb)
  rw [Matching.outcome_candidates hdevices, hboth.compile_eq]
  simp only [hmatches]

/-- A device whose runtime has the given identifier. -/
def deviceOf (runtimeIdentifier : String) : Device :=
  ⟨"Phone", "00-1", runtimeIdentifier, none, true⟩

/-- Two platforms without letter case, each of which finds one of three devices. -/
theorem runners_alternation_of_three :
    ∃ cp cq, compile "ios-1[78]|tv" ⟨true, false⟩ = .ok cp ∧
      compile "MAC\x7b1,2\x7d" ⟨true, false⟩ = .ok cq ∧
      (Matching.runners ("ios-1[78]|tv" ++ "|" ++ "MAC\x7b1,2\x7d")
          ([deviceOf "macOS-15", deviceOf "watchOS-11", deviceOf "iOS-18"].map Device.candidate)
          ⟨true, false⟩).outcome =
        .ok [(deviceOf "macOS-15").runner, (deviceOf "iOS-18").runner] := by
  obtain ⟨cp, hcp⟩ := Outcome.exists_eq_ok_of_isSome
    (x := compile "ios-1[78]|tv" ⟨true, false⟩) (by decide +kernel)
  obtain ⟨cq, hcq⟩ := Outcome.exists_eq_ok_of_isSome
    (x := compile "MAC\x7b1,2\x7d" ⟨true, false⟩) (by decide +kernel)
  have hfound : ((compile "ios-1[78]|tv" ⟨true, false⟩).toOption.bind fun cp =>
      (compile "MAC\x7b1,2\x7d" ⟨true, false⟩).toOption.map fun cq =>
        [deviceOf "macOS-15", deviceOf "watchOS-11", deviceOf "iOS-18"].filter fun d =>
          cp.matchesIn d.runtimeIdentifier || cq.matchesIn d.runtimeIdentifier) =
      some [deviceOf "macOS-15", deviceOf "iOS-18"] := by
    decide +kernel
  simp only [hcp, hcq, Except.toOption, Option.bind_some, Option.map_some,
    Option.some.injEq] at hfound
  refine ⟨cp, cq, hcp, hcq, ?_⟩
  rw [(runners_alternation (by decide) (by decide) hcp hcq).2 (fun _ => by decide +kernel) _
    (by simp [Device.IsComplete, deviceOf]), hfound]
  rfl

/-- Without letter case a capital letter beyond the basic plane is found on its own, and is not
found as one of two characters with a bar between them. -/
theorem runners_alternation_fails :
    ∃ cp cq, compile "𐐀" ⟨true, false⟩ = .ok cp ∧ compile "a" ⟨true, false⟩ = .ok cq ∧
      (deviceOf "𐐀").IsComplete ∧ cp.matchesIn (deviceOf "𐐀").runtimeIdentifier = true ∧
      (Matching.runners ("𐐀" ++ "|" ++ "a") ([deviceOf "𐐀"].map Device.candidate)
        ⟨true, false⟩).outcome = .ok [] := by
  obtain ⟨cp, hcp⟩ := Outcome.exists_eq_ok_of_isSome
    (x := compile "𐐀" ⟨true, false⟩) (by decide +kernel)
  obtain ⟨cq, hcq⟩ := Outcome.exists_eq_ok_of_isSome
    (x := compile "a" ⟨true, false⟩) (by decide +kernel)
  have hfound : (compile "𐐀" ⟨true, false⟩).toOption.map (fun cp => cp.matchesIn "𐐀") =
      some true := by
    decide +kernel
  rw [hcp] at hfound
  exact ⟨cp, cq, hcp, hcq, by simp [Device.IsComplete, deviceOf], Option.some.inj hfound,
    Outcome.eq_ok_of_toOption (by decide +kernel)⟩

end RunnerAtlas.Platform
