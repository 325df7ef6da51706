import RunnerAtlas.Proofs.CheckedInventory
import RunnerAtlas.Proofs.LiteralSearch
import RunnerAtlas.Proofs.Pattern.Errors
import RunnerAtlas.Proofs.Pattern.LargeBound

set_option relaxedAutoImplicit false
set_option autoImplicit false

/-!
# Errors of platforms

A platform that cannot be searched for is refused as malformed, and a project that declares it is
refused for the target. Platforms whose text has something in excess escape this: their error is no
fault of form, and the resolution fails with it as it stands.

## Main results

* `RunnerAtlas.Platform.compile_cases` — what a platform comes to.
* `RunnerAtlas.Resolution.resolve_error_cases` — the errors of platforms and of projects.
-/

namespace RunnerAtlas

open Pattern

/-- A platform can be searched for, or is malformed, or is read as a pattern and has something in
excess. -/
theorem Platform.compile_cases (platform : String) (options : MatchOptions) :
    (∃ p, compile platform options = .ok p) ∨
      (∃ fault position, compile platform options = .error ⟨platform, .malformed fault position⟩) ∨
      ∃ cause, options.literal = false ∧ Excess (Lexeme.cut platform.toList) cause ∧
        compile platform options = .error ⟨platform, cause⟩ := by
  obtain ⟨ignoreCase, literal⟩ := options
  cases literal with
  | true => exact .inl ⟨_, compile_literal platform ignoreCase⟩
  | false =>
    simp only [compile, source, Bool.false_eq_true, ↓reduceIte]
    cases hc : Pattern.compile platform.toList { ignoreCase := ignoreCase } with
    | ok pattern => exact .inl ⟨_, rfl⟩
    | error cause =>
      obtain ⟨fault, position, rfl⟩ | hexcess := expected_of_compile rfl rfl hc
      · exact .inr (.inl ⟨fault, position, rfl⟩)
      · exact .inr (.inr ⟨cause, trivial, hexcess, rfl⟩)

/-- A platform with a bound that is too large after characters that begin no operator is refused for
that bound. -/
lemma Platform.compile_of_large_bound {platform : String} {bound cs : List Char}
    {ls rest : List Lexeme} (hne : bound ≠ []) (h : ∀ c ∈ bound, c ∈ digits)
    (hlarge : Decimal.maxDigits < bound.length ∨ maxRepeat ≤ spelled 10 bound)
    (hd : rest ≠ [.dangling]) (hls : List.Forall₂ Lexeme.StandsFor ls cs)
    (hcut : Lexeme.cut platform.toList =
      ls ++ .plain '\x7b' :: (bound.map .plain ++ .plain '\x7d' :: rest)) (ignoreCase : Bool) :
    compile platform ⟨ignoreCase, false⟩ = .error ⟨platform, boundError bound⟩ := by
  have hc : Pattern.compile platform.toList { ignoreCase := ignoreCase } =
      .error (boundError bound) :=
    Pattern.compile_of_large_bound hne h hlarge hd hls hcut rfl
  simp only [compile, source, Bool.false_eq_true, ↓reduceIte, hc]

/-- A bound that cannot be kept is no fault of form. -/
lemma isMalformed_boundError (platform : String) (bound : List Char) :
    PlatformError.isMalformed ⟨platform, boundError bound⟩ = false := by
  unfold boundError
  split <;> rfl

namespace Resolution

/-- If the first platform of the first target is refused for another reason than its form, the
resolution fails with that error against every supply. -/
lemma resolve_of_first_refused {project : Project} {supply : Supply} {options : MatchOptions}
    {key p : String} {target : Target} {targets : List (String × Target)} {platforms : List String}
    {e : PlatformError} (ht : project.targets.toList = (key, target) :: targets)
    (hp : target.platforms = p :: platforms) (hd : target.platforms.Nodup)
    (he : Platform.compile p options = .error e) (hno : e.isMalformed = false) :
    (resolve project supply options).1.outcome = .error (.matching (.platform e)) := by
  have hmatch : (Matching.runners p supply.devices options).outcome = .error (.platform e) := by
    rw [Matching.outcome_runners]
    exact Matching.outcome_of_compile_error he _
  refine (resolve_eq_error_iff project supply options _).mpr
    ⟨[], (key, target), targets, ht, by simp, ?_⟩
  refine .matching hd ⟨[], platforms, hp, by simp, hmatch⟩ ?_
  rintro q fault position ⟨⟩
  cases hno

/-- **Errors of platforms and projects.** Every platform can be searched for, or is refused as
malformed, or is read as a pattern and refused for something that its text has in excess. Against
complete devices a resolution fails for one of its targets, which the error names with one of its
platforms unless it has none, or with the error of a platform whose text has something in excess.

**Proof sketch.** Literal platforms always have a pattern (`Platform.compile_literal`). A text that
is read as a pattern and is none has a fault of form or something in excess
(`Pattern.expected_of_compile`). Complete devices are never at fault, so that a resolution fails for
a target or with the error of a platform that is not malformed (`resolve_error_of_complete`). -/
theorem resolve_error_cases (options : MatchOptions) :
    (∀ platform, (∃ p, Platform.compile platform options = .ok p) ∨
      (∃ fault position,
        Platform.compile platform options = .error ⟨platform, .malformed fault position⟩) ∨
      ∃ cause, options.literal = false ∧ Excess (Lexeme.cut platform.toList) cause ∧
        Platform.compile platform options = .error ⟨platform, cause⟩) ∧
    ∀ (project : Project) (devices : List Device) (supply : Supply), (∀ d ∈ devices, d.IsComplete) →
      supply.devices = devices.map Device.candidate →
      ∀ err, (resolve project supply options).1.outcome = .error err →
        ∃ t ∈ project.targets.toList,
          (∃ fault, err = .target t.1 fault ∧
            (t.2.platforms = [] ∧ fault.platform? = none ∨
              ∃ p ∈ t.2.platforms, fault.platform? = some p)) ∨
          ∃ p ∈ t.2.platforms, ∃ cause, options.literal = false ∧
            Excess (Lexeme.cut p.toList) cause ∧ err = .matching (.platform ⟨p, cause⟩) := by
  refine ⟨fun platform => Platform.compile_cases platform options, ?_⟩
  intro project devices supply hcomplete hs err herr
  obtain ⟨t, ht, htarget | ⟨p, hp, e, he, hno, rfl⟩⟩ :=
    resolve_error_of_complete hcomplete hs herr
  · exact ⟨t, ht, .inl htarget⟩
  · refine ⟨t, ht, .inr ⟨p, hp, ?_⟩⟩
    obtain ⟨compiled, hok⟩ | ⟨fault, position, hmal⟩ | ⟨cause, hliteral, hexcess, hcause⟩ :=
      Platform.compile_cases p options
    · rw [hok] at he; cases he
    · rw [hmal] at he; cases he; cases hno
    · rw [hcause] at he; cases he
      exact ⟨cause, hliteral, hexcess, rfl⟩

/-- A bound that reaches the largest one keeps a platform from being searched for. -/
lemma compile_large_bound :
    Platform.compile "a\x7b4294967295\x7d" {} =
      .error ⟨"a\x7b4294967295\x7d", boundError "4294967295".toList⟩ :=
  have hdigits : "4294967295".toList.all digits.contains = true := by decide
  have hletter : Lexeme.StandsFor (.plain 'a') 'a' := .plain (by decide)
  have hend : ([] : List Lexeme) ≠ [.dangling] := by simp
  Platform.compile_of_large_bound (by decide)
    (fun c hc => List.contains_iff_mem.mp (List.all_eq_true.mp hdigits c hc))
    (.inr (by decide +kernel)) hend (.cons hletter .nil) rfl false

/-- A project that declares such a platform is refused with an error of what its text has in
excess. -/
theorem resolve_error_cases_large_bound :
    ∃ cause, Excess (Lexeme.cut "a\x7b4294967295\x7d".toList) cause ∧
      (resolve ⟨none, { toList := [("App", ⟨"App", ["a\x7b4294967295\x7d"]⟩)] }⟩
        (.list ([⟨"Phone", "P1", "iOS-17", none, true⟩].map Device.candidate)) {}).1.outcome =
          .error (.matching (.platform ⟨"a\x7b4294967295\x7d", cause⟩)) := by
  have hfails : (resolve ⟨none, { toList := [("App", ⟨"App", ["a\x7b4294967295\x7d"]⟩)] }⟩
      (.list ([⟨"Phone", "P1", "iOS-17", none, true⟩].map Device.candidate)) {}).1.outcome =
        .error (.matching (.platform
          ⟨"a\x7b4294967295\x7d", boundError "4294967295".toList⟩)) :=
    resolve_of_first_refused rfl rfl (by simp) compile_large_bound (isMalformed_boundError _ _)
  obtain ⟨t, ht, ⟨fault, hfault, -⟩ | ⟨p, hp, cause, -, hexcess, hcause⟩⟩ :=
    (resolve_error_cases {}).2 _ _ _ (by simp [Device.IsComplete]) rfl _ hfails
  · cases hfault
  · obtain rfl := List.mem_singleton.mp ht
    obtain rfl := List.mem_singleton.mp hp
    exact ⟨cause, hexcess, hfails.trans (congrArg _ hcause)⟩

/-- A platform whose bound of a repetition is too large is not refused as malformed, and a project
that declares it is not refused for the target. -/
theorem large_bound_escapes :
    ¬ ((∃ p, Platform.compile "a\x7b4294967295\x7d" {} = .ok p) ∨
        ∃ fault position, Platform.compile "a\x7b4294967295\x7d" {} =
          .error ⟨"a\x7b4294967295\x7d", .malformed fault position⟩) ∧
      ∃ err, (resolve ⟨none, { toList := [("App", ⟨"App", ["a\x7b4294967295\x7d"]⟩)] }⟩
          (.list ([⟨"Phone", "P1", "iOS-17", none, true⟩].map Device.candidate)) {}).1.outcome =
            .error err ∧ ∀ key fault, err ≠ .target key fault := by
  constructor
  · rw [compile_large_bound]
    rintro (⟨p, hp⟩ | ⟨fault, position, hp⟩)
    · cases hp
    · cases hp
  · refine ⟨_, resolve_of_first_refused rfl rfl (by simp) compile_large_bound
      (isMalformed_boundError _ _), ?_⟩
    rintro key fault ⟨⟩

end Resolution

end RunnerAtlas
