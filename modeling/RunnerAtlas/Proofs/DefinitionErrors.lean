import RunnerAtlas.Proofs.Definition

set_option relaxedAutoImplicit false
set_option autoImplicit false

/-!
# Which definitions are accepted, and how the others are refused

A definition is a mapping with a mapping of targets. Each entry of that has a key whose text is not
empty, and is itself a mapping with platforms. All other values are refused, with an error about the
first entry at fault. A key or a name without a text is refused too, but not for its form.

## Main definitions

* `RunnerAtlas.Validation.Checked.problems` — the problems that a check finds.
* `RunnerAtlas.Definition.Fits` — an entry that has a key and platforms as it should.
* `RunnerAtlas.Definition.IsDefinition` — the values that define projects.
* `RunnerAtlas.Definition.Refused` — how the others are refused.

## Main results

* `RunnerAtlas.Definition.exists_project_eq_ok_iff`, `RunnerAtlas.Definition.project_eq_error_iff` —
  when a project is defined, and the error if not.
* `RunnerAtlas.Definition.project_contract` — what a definition comes to, for every value.
-/

namespace RunnerAtlas

open Outcome Validation

/-! ### Problems -/

namespace Validation

namespace Checked

variable {α β : Type}

/-- The problems that a check finds. -/
def problems : Checked α → List Problem
  | .ok _ => []
  | .error problems => problems

/-- Two checks side by side find the problems of both. -/
lemma problems_ap (f : Checked (α → β)) (x : Checked α) :
    (f.ap x).problems = f.problems ++ x.problems := by
  cases f <;> cases x <;> simp [ap, problems]

/-- A check whose value is mapped finds the same problems. -/
lemma problems_map (f : α → β) (x : Checked α) :
    problems (Except.map f x) = x.problems := by
  cases x <;> rfl

/-- A check finds the problems of a part under the step that leads to it. -/
lemma problems_under (step : Step) (x : Checked α) :
    (x.under step).problems = x.problems.map fun p => ⟨step :: p.place, p.kind⟩ := by
  cases x <;> rfl

/-- A check that fails gives the problems that it finds. -/
lemma eq_error_of_not_ok {x : Checked α} (h : ∀ a, x ≠ .ok a) : x = .error x.problems := by
  cases x with
  | ok a => exact absurd rfl (h a)
  | error problems => rfl

end Checked

/-- The problems of the members of a sequence that have to be texts, from a position on. -/
def memberProblems (n : Nat) (items : List Value) : List Problem :=
  (items.zipIdx n).flatMap fun item => item.1.textFault.toList.map fun kind =>
    ⟨[.index item.2], kind⟩

/-- The check for a text finds what is wrong with a value that stands for none. -/
lemma problems_text (v : Value) :
    (text v).problems = v.textFault.toList.map fun kind => ⟨[], kind⟩ := by
  cases h : text v with
  | ok s =>
    rw [v.textFault_eq_none_iff.mpr ⟨s, (text_eq_ok_iff v s).mp h⟩]
    rfl
  | error problems =>
    obtain ⟨kind, hkind, rfl⟩ := (text_eq_error_iff v problems).mp h
    rw [hkind]
    rfl

/-- The check for texts finds the problems of each member, in order. -/
lemma problems_all_text (n : Nat) (items : List Value) :
    (all text n items).problems = memberProblems n items := by
  induction items generalizing n with
  | nil => rfl
  | cons v rest ih =>
    rw [all, Checked.problems_ap, Checked.problems_map, Checked.problems_under, problems_text, ih,
      List.map_map, memberProblems, memberProblems, List.zipIdx_cons, List.flatMap_cons]
    rfl

/-- The check for a sequence of texts finds that there is none, or the problems of its members. -/
lemma problems_sequence_text (v : Value) :
    (sequence text v).problems =
      ((members? v).map (memberProblems 0)).getD [⟨[], .noSequence⟩] := by
  rw [sequence]
  cases members? v with
  | none => rfl
  | some items => exact problems_all_text 0 items

end Validation

namespace Definition

/-! ### One entry -/

/-- An entry declares platforms by a value that counts as absent, by a text or by a sequence of
texts. -/
inductive HasPlatforms (v : Value) : Prop where
  /-- The value counts as absent. -/
  | absent (h : v.isEmpty = true)
  /-- The value is a text. -/
  | text (s : String) (h : v = .str s)
  /-- The value is a sequence of values that stand for texts. -/
  | sequence (items : List Value) (h : members? v = some items)
    (htexts : ∀ item ∈ items, ∃ s, item.Spells s)

/-- An entry has a key and platforms as it should. -/
structure Fits (key : Value) (spec : Mapping) : Prop where
  /-- The text of the key is not empty. -/
  display_ne : key.display ≠ ""
  /-- There are platforms. -/
  hasPlatforms : HasPlatforms (Mapping.findD spec "platform")

/-- An entry is accepted: its key has a text, and it is a mapping that fits. -/
def Accepts (key spec : Value) : Prop :=
  key.isShowable = true ∧ ∃ entries, spec = .map entries ∧ Fits key entries

/-- The problems of a value that declares platforms. -/
def platformProblems (v : Value) : List Problem :=
  if v.isEmpty || v.text?.isSome then []
  else ((members? v).map (memberProblems 0)).getD [⟨[], .noSequence⟩]

/-- The problems of an entry that is a mapping: those of its key before those of its platforms. -/
def problemsOf (key : Value) (spec : Mapping) : List Problem :=
  (if key.display = "" then [⟨[.field "name"], .emptyText⟩] else []) ++
    (platformProblems (Mapping.findD spec "platform")).map fun p =>
      ⟨.field "platform" :: p.place, p.kind⟩

/-- Why an entry is refused. -/
inductive Blames (key : Value) : Value → DefinitionError → Prop where
  /-- The key has no text. -/
  | unshowable {spec : Value} (hkey : key.isShowable = false) : Blames key spec .unshowable
  /-- The entry is no mapping. -/
  | noMapping {spec : Value} (hkey : key.isShowable = true) (h : ∀ entries, spec ≠ .map entries) :
    Blames key spec (.targetNoMapping key)
  /-- The entry is a mapping that does not fit. -/
  | invalid {spec : Mapping} (hkey : key.isShowable = true) (h : ¬ Fits key spec) :
    Blames key (.map spec) (.invalidTarget key ⟨"Target", problemsOf key spec⟩)

/-- A sequence of texts is spelled by values each of which stands for one. -/
lemma exists_spelled_iff (items : List Value) :
    (∃ texts, List.Forall₂ Value.Spells items texts) ↔ ∀ item ∈ items, ∃ s, item.Spells s := by
  have h := exists_mapM_eq_ok_iff Validation.text items
  simpa only [mapM_eq_ok_iff, text_eq_ok_iff] using h

/-- Platforms are declared by the values for that, and only by those. -/
lemma exists_declares_iff (spec : Mapping) :
    (∃ platforms, Declares spec platforms) ↔ HasPlatforms (Mapping.findD spec "platform") := by
  constructor
  · rintro ⟨platforms, h⟩
    cases h with
    | none h => exact .absent h
    | one h => exact .text _ h
    | several h _ hp => exact .sequence _ h ((exists_spelled_iff _).mp ⟨_, hp⟩)
  · intro h
    cases h with
    | absent h => exact ⟨[], .none h⟩
    | text s h =>
      by_cases hs : s = ""
      · exact ⟨[], .none (by rw [h, hs]; rfl)⟩
      · exact ⟨[s], .one h hs⟩
    | sequence items h htexts =>
      by_cases hitems : items = []
      · exact ⟨[], .none ((isEmpty_iff_of_members? h).mpr hitems)⟩
      · obtain ⟨platforms, hp⟩ := (exists_spelled_iff items).mpr htexts
        exact ⟨platforms, .several h hitems hp⟩

/-- An entry defines a target exactly if it is accepted. -/
lemma exists_target_eq_ok_iff (key spec : Value) :
    (∃ t, target key spec = .ok t) ↔ Accepts key spec := by
  simp only [target_eq_ok_iff, IsTargetOf]
  constructor
  · rintro ⟨t, ⟨entries, rfl, -, hplatforms⟩, hne, hkey⟩
    exact ⟨hkey, entries, rfl, hne, (exists_declares_iff entries).mp ⟨_, hplatforms⟩⟩
  · rintro ⟨hkey, entries, rfl, hne, hplatforms⟩
    obtain ⟨platforms, hp⟩ := (exists_declares_iff entries).mpr hplatforms
    exact ⟨⟨key.display, platforms⟩, ⟨entries, rfl, rfl, hp⟩, hne, hkey⟩

/-- The problems of the platforms that an entry gives. -/
lemma problems_platformOf (spec : Mapping) :
    (Target.platformsOf (platformOf spec)).problems =
      platformProblems (Mapping.findD spec "platform") := by
  unfold platformOf platformProblems
  dsimp only
  generalize Mapping.findD spec "platform" = v
  by_cases hempty : v.isEmpty = true
  · rw [if_pos hempty, hempty, Bool.true_or, if_pos rfl]
    rfl
  rw [if_neg hempty, Bool.eq_false_iff.mpr hempty, Bool.false_or]
  cases htext : v.text? with
  | some s =>
    cases v <;> cases htext
    rfl
  | none =>
    have hsequence : Target.platformsOf v = sequence text v := by
      cases v with
      | str s => cases htext
      | _ => rfl
    rw [hsequence, problems_sequence_text]
    rfl

/-- The problems of the record of an entry. -/
lemma problems_check (key : Value) (spec : Mapping) :
    (Target.check [(.str "name", .str key.display), (.str "platform", platformOf spec)]).problems =
      problemsOf key spec := by
  have hname : (nonemptyText (.str key.display)).problems =
      if key.display = "" then [⟨[], .emptyText⟩] else [] := by
    show (if key.display = "" then Checked.fail .emptyText else pure key.display).problems = _
    split_ifs <;> rfl
  have hplatform : Validation.optional
      [(.str "name", .str key.display), (.str "platform", platformOf spec)] "platform"
        Target.platformsOf [] =
      (Target.platformsOf (platformOf spec)).under (.field "platform") := rfl
  have hrequired : required
      [(.str "name", .str key.display), (.str "platform", platformOf spec)] "name" nonemptyText =
      (nonemptyText (.str key.display)).under (.field "name") := rfl
  rw [Target.check, Checked.problems_ap, Checked.problems_ap, hrequired, hplatform,
    Checked.problems_under, Checked.problems_under, hname, problems_platformOf, problemsOf]
  split_ifs <;> rfl

/-- An entry that is not accepted has a reason to be refused. -/
lemma accepts_or_blames (key spec : Value) : Accepts key spec ∨ ∃ e, Blames key spec e := by
  cases hkey : key.isShowable with
  | false => exact .inr ⟨_, .unshowable hkey⟩
  | true =>
    cases spec with
    | map entries =>
      by_cases hfits : Fits key entries
      · exact .inl ⟨hkey, entries, rfl, hfits⟩
      · exact .inr ⟨_, .invalid hkey hfits⟩
    | _ => exact .inr ⟨_, .noMapping hkey (by simp)⟩

/-- An entry is refused for its reason. -/
lemma target_of_blames {key spec : Value} {e : DefinitionError} (h : Blames key spec e) :
    target key spec = .error e := by
  cases h with
  | unshowable hkey =>
    unfold target
    rw [hkey]
    rfl
  | noMapping hkey h =>
    unfold target
    rw [if_pos hkey]
    cases spec with
    | map entries => exact absurd rfl (h entries)
    | _ => rfl
  | @invalid spec hkey hfits =>
    have hnone : ∀ t, target key (.map spec) ≠ .ok t := by
      intro t ht
      obtain ⟨-, _, hspec, hentry⟩ := (exists_target_eq_ok_iff _ _).mp ⟨t, ht⟩
      cases hspec
      exact hfits hentry
    have htarget : target key (.map spec) = ((Target.check [(.str "name", .str key.display),
        (.str "platform", platformOf spec)]).report "Target").mapError (.invalidTarget key) := by
      rw [target, if_pos hkey, Target.ofRecord]
    have hcheck : Target.check [(.str "name", .str key.display),
        (.str "platform", platformOf spec)] = .error (problemsOf key spec) := by
      rw [← problems_check]
      refine Checked.eq_error_of_not_ok fun t ht => hnone t ?_
      rw [htarget, ht]
      rfl
    rw [htarget, hcheck]
    rfl

/-- An entry is refused exactly for the reasons that it has. -/
lemma target_eq_error_iff (key spec : Value) (e : DefinitionError) :
    target key spec = .error e ↔ Blames key spec e := by
  refine ⟨fun h => ?_, target_of_blames⟩
  obtain haccepts | ⟨e', he'⟩ := accepts_or_blames key spec
  · obtain ⟨t, ht⟩ := (exists_target_eq_ok_iff _ _).mpr haccepts
    rw [ht] at h
    cases h
  · rw [target_of_blames he'] at h
    cases h
    exact he'

/-! ### All entries -/

/-- The targets of entries are put one after the other if each of them is accepted. -/
lemma targetsInto_eq_mapM (targets : NamedTargets) (raw : Mapping) :
    targetsInto targets raw = (raw.mapM fun entry => target entry.1 entry.2).map fun ts =>
      (raw.zip ts).foldl (fun all entry => all.put entry.1.1.display entry.2) targets := by
  induction raw generalizing targets with
  | nil => rfl
  | cons entry rest ih =>
    rw [targetsInto, List.mapM_cons]
    cases target entry.1 entry.2 with
    | error e => rfl
    | ok t =>
      show targetsInto (targets.put entry.1.display t) rest = _
      rw [ih]
      cases rest.mapM fun entry => target entry.1 entry.2 <;> rfl

/-- All entries have targets exactly if each of them is accepted. -/
lemma exists_targetsInto_eq_ok_iff (targets : NamedTargets) (raw : Mapping) :
    (∃ result, targetsInto targets raw = .ok result) ↔
      ∀ entry ∈ raw, Accepts entry.1 entry.2 := by
  simp only [targetsInto_eq_mapM, map_eq_ok_iff, ← exists_target_eq_ok_iff]
  rw [← exists_mapM_eq_ok_iff]
  constructor
  · rintro ⟨_, ts, hts, -⟩
    exact ⟨ts, hts⟩
  · rintro ⟨ts, hts⟩
    exact ⟨_, ts, hts, rfl⟩

/-- The first entry that is refused decides the error. -/
lemma targetsInto_eq_error_iff (targets : NamedTargets) (raw : Mapping) (e : DefinitionError) :
    targetsInto targets raw = .error e ↔ ∃ before key spec after,
      raw = before ++ (key, spec) :: after ∧
      (∀ entry ∈ before, Accepts entry.1 entry.2) ∧ Blames key spec e := by
  simp only [targetsInto_eq_mapM, map_eq_error_iff, mapM_eq_error_iff, exists_target_eq_ok_iff,
    target_eq_error_iff]
  constructor
  · rintro ⟨before, entry, after, hraw, hbefore, he⟩
    exact ⟨before, entry.1, entry.2, after, hraw, hbefore, he⟩
  · rintro ⟨before, key, spec, after, hraw, hbefore, he⟩
    exact ⟨before, (key, spec), after, hraw, hbefore, he⟩

/-- The targets of entries are those from before and targets that the entries define. -/
lemma exists_mem_of_mem_targetsInto {targets result : NamedTargets} {raw : Mapping}
    (h : targetsInto targets raw = .ok result) {t : String × Target} (ht : t ∈ result.toList) :
    t ∈ targets.toList ∨
      ∃ entry ∈ raw, t.1 = entry.1.display ∧ IsTargetOf entry.1 entry.2 t.2 := by
  induction raw generalizing targets with
  | nil =>
    cases h
    exact .inl ht
  | cons entry rest ih =>
    obtain ⟨first, hfirst, hrest⟩ := (targetsInto_cons_eq_ok_iff _ _ _ _ _).mp h
    obtain hput | ⟨other, hmem, hother⟩ := ih hrest
    · obtain hbefore | rfl := NamedTargets.mem_putInto hput
      · exact .inl hbefore
      · exact .inr ⟨entry, List.mem_cons_self .., rfl, ((target_eq_ok_iff _ _ _).mp hfirst).1⟩
    · exact .inr ⟨other, List.mem_cons_of_mem _ hmem, hother⟩

/-! ### Definitions -/

/-- A mapping names its project by a value that counts as absent or has a text. -/
def HasName (entries : Mapping) : Prop :=
  (Mapping.findD entries "name").isEmpty = true ∨ (Mapping.findD entries "name").isShowable = true

/-- A value defines a project: it is a mapping with a name and with a mapping of targets, each entry
of which is accepted. -/
def IsDefinition (data : Value) : Prop :=
  ∃ entries raw, data = .map entries ∧ Mapping.find? entries "targets" = some (.map raw) ∧
    (∀ entry ∈ raw, Accepts entry.1 entry.2) ∧ HasName entries

/-- How a value that defines no project is refused. -/
inductive Refused : Value → DefinitionError → Prop where
  /-- It is no mapping. -/
  | noMapping {data : Value} (h : ∀ entries, data ≠ .map entries) : Refused data .noMapping
  /-- It has no mapping of targets. -/
  | noTargets {entries : Mapping} (h : ∀ raw, Mapping.find? entries "targets" ≠ some (.map raw)) :
    Refused (.map entries) .noTargets
  /-- An entry is refused, and none before it. -/
  | entry {entries before after : Mapping} {key spec : Value} {e : DefinitionError}
    (htargets : Mapping.find? entries "targets" = some (.map (before ++ (key, spec) :: after)))
    (hbefore : ∀ entry ∈ before, Accepts entry.1 entry.2) (h : Blames key spec e) :
    Refused (.map entries) e
  /-- The name has no text. -/
  | name {entries raw : Mapping} (htargets : Mapping.find? entries "targets" = some (.map raw))
    (hraw : ∀ entry ∈ raw, Accepts entry.1 entry.2) (h : ¬ HasName entries) :
    Refused (.map entries) .unshowable

/-- A mapping names its project, or the name is refused. -/
lemma nameOf_cases (entries : Mapping) (fallback : Option String) :
    (HasName entries ∧ ∃ name, nameOf entries fallback = .ok name) ∨
      (¬ HasName entries ∧ nameOf entries fallback = .error .unshowable) := by
  rw [nameOf, HasName]
  split_ifs with hempty hshow
  · exact .inl ⟨.inl hempty, _, rfl⟩
  · exact .inl ⟨.inr hshow, _, rfl⟩
  · exact .inr ⟨not_or.mpr ⟨hempty, hshow⟩, rfl⟩

/-- A value that defines no project has a reason to be refused. -/
lemma isDefinition_or_refused (data : Value) : IsDefinition data ∨ ∃ e, Refused data e := by
  by_cases hdata : ∃ entries, data = .map entries
  swap
  · exact .inr ⟨_, .noMapping fun entries h => hdata ⟨entries, h⟩⟩
  obtain ⟨entries, rfl⟩ := hdata
  by_cases htargets : ∃ raw, Mapping.find? entries "targets" = some (.map raw)
  swap
  · exact .inr ⟨_, .noTargets fun raw h => htargets ⟨raw, h⟩⟩
  obtain ⟨raw, htargets⟩ := htargets
  cases hinto : targetsInto .empty raw with
  | error e =>
    obtain ⟨before, key, spec, after, rfl, hbefore, he⟩ := (targetsInto_eq_error_iff _ _ _).mp hinto
    exact .inr ⟨e, .entry htargets hbefore he⟩
  | ok targets =>
    have hraw := (exists_targetsInto_eq_ok_iff .empty raw).mp ⟨targets, hinto⟩
    by_cases hname : HasName entries
    · exact .inl ⟨entries, raw, rfl, htargets, hraw, hname⟩
    · exact .inr ⟨_, .name htargets hraw hname⟩

/-- A value that is refused defines no project: reading it fails with the error. -/
lemma project_of_refused {data : Value} {e : DefinitionError} (h : Refused data e)
    (fallback : Option String) : project data fallback = .error e := by
  cases h with
  | noMapping h =>
    unfold project
    split
    · exact absurd rfl (h _)
    · rfl
  | noTargets h =>
    unfold project
    dsimp only
    split
    · rename_i raw hraw
      exact absurd hraw (h raw)
    · rfl
  | @entry _ before after key spec _ htargets hbefore h =>
    have hinto : targetsInto .empty (before ++ (key, spec) :: after) = .error e :=
      (targetsInto_eq_error_iff _ _ _).mpr ⟨before, key, spec, after, rfl, hbefore, h⟩
    simp only [project, htargets, hinto]
    rfl
  | name htargets hraw h =>
    obtain ⟨targets, hinto⟩ := (exists_targetsInto_eq_ok_iff .empty _).mpr hraw
    obtain ⟨hname, -⟩ | ⟨-, hname⟩ := nameOf_cases _ fallback
    · exact absurd hname h
    · simp only [project, htargets, hinto, hname]
      rfl

/-- A project is defined exactly by the values for that. -/
theorem exists_project_eq_ok_iff (data : Value) (fallback : Option String) :
    (∃ p, project data fallback = .ok p) ↔ IsDefinition data := by
  simp only [project_eq_ok_iff]
  constructor
  · rintro ⟨p, entries, raw, rfl, htargets, hinto, hname⟩
    have hraw := (exists_targetsInto_eq_ok_iff .empty raw).mp ⟨_, hinto⟩
    obtain ⟨h, -⟩ | ⟨-, h⟩ := nameOf_cases entries fallback
    · exact ⟨entries, raw, rfl, htargets, hraw, h⟩
    · rw [h] at hname
      cases hname
  · rintro ⟨entries, raw, rfl, htargets, hraw, h⟩
    obtain ⟨targets, hinto⟩ := (exists_targetsInto_eq_ok_iff .empty raw).mpr hraw
    obtain ⟨-, name, hname⟩ | ⟨hnone, -⟩ := nameOf_cases entries fallback
    · exact ⟨⟨name, targets⟩, entries, raw, rfl, htargets, hinto, hname⟩
    · exact absurd h hnone

/-- All other values are refused, each with its error. -/
theorem project_eq_error_iff (data : Value) (fallback : Option String) (e : DefinitionError) :
    project data fallback = .error e ↔ Refused data e := by
  refine ⟨fun h => ?_, fun h => project_of_refused h fallback⟩
  obtain hdata | ⟨e', he'⟩ := isDefinition_or_refused data
  · obtain ⟨p, hp⟩ := (exists_project_eq_ok_iff data fallback).mpr hdata
    rw [hp] at h
    cases h
  · rw [project_of_refused he'] at h
    cases h
    exact he'

/-- The keys of the entries of a value, and its name if it has one, have texts. -/
def HasTexts (data : Value) : Prop :=
  ∀ entries, data = .map entries → HasName entries ∧
    ∀ raw, Mapping.find? entries "targets" = some (.map raw) →
      ∀ entry ∈ raw, entry.1.isShowable = true

/-- The first entry that is not accepted has a key with a text and is a mapping, but does not
fit. -/
def HasUnfitEntry (data : Value) : Prop :=
  ∃ entries before key spec after, data = .map entries ∧
    Mapping.find? entries "targets" = some (.map (before ++ (key, .map spec) :: after)) ∧
    (∀ entry ∈ before, Accepts entry.1 entry.2) ∧ key.isShowable = true ∧ ¬ Fits key spec

/-- Where there are texts, a value is refused for its form. -/
lemma isMalformed_of_refused {data : Value} {e : DefinitionError} (h : Refused data e)
    (htexts : HasTexts data) : e.isMalformed = true := by
  cases h with
  | noMapping => rfl
  | noTargets => rfl
  | @entry _ before after key spec _ htargets _ h =>
    have hkey := (htexts _ rfl).2 _ htargets (key, spec) (by simp)
    cases h with
    | unshowable hnone => rw [hkey] at hnone; cases hnone
    | noMapping => rfl
    | invalid => rfl
  | name _ _ h => exact absurd (htexts _ rfl).1 h

/-- An error has a cause exactly if it is about an entry that is a mapping but does not fit. -/
lemma isSome_cause?_iff_of_refused {data : Value} {e : DefinitionError} (h : Refused data e) :
    e.cause?.isSome = true ↔ HasUnfitEntry data := by
  constructor
  · intro hcause
    cases h with
    | entry htargets hbefore h =>
      cases h with
      | invalid hkey hfits => exact ⟨_, _, _, _, _, rfl, htargets, hbefore, hkey, hfits⟩
      | _ => cases hcause
    | _ => cases hcause
  · rintro ⟨entries, before, key, spec, after, rfl, htargets, hbefore, hkey, hfits⟩
    -- A value is refused in one way only.
    have hother := project_of_refused (.entry htargets hbefore (.invalid hkey hfits)) none
    rw [project_of_refused h] at hother
    cases hother
    rfl

/-- **What a definition comes to.** A value defines a project exactly if it is a mapping with a name
and with a mapping of targets, each entry of which is accepted. Every other value is refused in its
way: for what it lacks itself, or for the first entry that is not accepted. Where the keys and the
name have texts, it is refused for its form. The error has a cause exactly if that entry is a
mapping which does not fit. Each target of a project is that of an entry, and the text of the
entry's key names it.

**Proof sketch.** The targets are put one after the other, so all entries have to be accepted, or
the first one that is not decides the error (`targetsInto_eq_mapM`). An entry is accepted or has a
reason to be refused (`accepts_or_blames`), and the same goes for the whole value
(`isDefinition_or_refused`). -/
theorem project_contract (data : Value) (fallback : Option String) :
    ((∃ p, project data fallback = .ok p) ↔ IsDefinition data) ∧
    (∀ e, project data fallback = .error e ↔ Refused data e) ∧
    (HasTexts data → ∀ e, project data fallback = .error e → e.isMalformed = true) ∧
    (∀ e, project data fallback = .error e → (e.cause?.isSome = true ↔ HasUnfitEntry data)) ∧
    ∀ p, project data fallback = .ok p → ∃ entries raw, data = .map entries ∧
      Mapping.find? entries "targets" = some (.map raw) ∧
      ∀ t ∈ p.targets.toList, ∃ entry ∈ raw, t.1 = entry.1.display ∧
        IsTargetOf entry.1 entry.2 t.2 := by
  have herror := project_eq_error_iff data fallback
  refine ⟨exists_project_eq_ok_iff data fallback, herror, fun htexts e he => ?_, fun e he => ?_,
    fun p hp => ?_⟩
  · exact isMalformed_of_refused ((herror e).mp he) htexts
  · exact isSome_cause?_iff_of_refused ((herror e).mp he)
  · obtain ⟨entries, raw, rfl, htargets, hinto, -⟩ := (project_eq_ok_iff _ _ _).mp hp
    refine ⟨entries, raw, rfl, htargets, fun t ht => ?_⟩
    obtain hnone | hentry := exists_mem_of_mem_targetsInto hinto ht
    · cases hnone
    · exact hentry

/-- A name or a key that is a number of too many digits is not refused for the form of the
definition, be there no targets at all or an entry that is no mapping. -/
theorem project_large_number :
    let n : Value := .int (Int.pow 16 4000)
    project (.map [(.str "name", n), (.str "targets", .map [])]) none = .error .unshowable ∧
      project (.map [(.str "targets", .map [(n, .int 5)])]) none = .error .unshowable ∧
      DefinitionError.unshowable.isMalformed = false := by
  intro n
  have hshow : n.isShowable = false := by decide +kernel
  have hname : ¬ HasName [(.str "name", n), (.str "targets", .map [])] := by
    have hfound : Mapping.findD [(.str "name", n), (.str "targets", .map [])] "name" = n := rfl
    have hempty : n.isEmpty = false := by decide +kernel
    rw [HasName, hfound, hempty, hshow]
    decide
  have hentry : Mapping.find? [(.str "targets", .map [(n, .int 5)])] "targets" =
      some (.map ([] ++ (n, .int 5) :: [])) := rfl
  exact ⟨project_of_refused (.name rfl (by simp) hname) none,
    project_of_refused (.entry hentry (by simp) (.unshowable hshow)) none, rfl⟩

end Definition

end RunnerAtlas
