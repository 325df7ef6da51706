import RunnerAtlas.Proofs.Checks
import RunnerAtlas.Proofs.Mappings
import RunnerAtlas.Settings.Loading

set_option relaxedAutoImplicit false
set_option autoImplicit false

/-!
# The four settings

Each of the four settings has one place in a mapping: a name in a section. A mapping is validated as
settings exactly if its sections are mappings and what stands at the four places, or a default, is
accepted.

## Main definitions

* `RunnerAtlas.Setting` — the settings, one by one, with their places, defaults and variables.
* `RunnerAtlas.Setting.Accepts` — the settings that a value of one of them is validated as.

## Main results

* `RunnerAtlas.Settings.ofValue_eq_ok_iff` — which mappings are validated as which settings.
-/

namespace RunnerAtlas

open Outcome Validation RunnerAtlas.Text

/-! ### Fields and sections -/

/-- What a text key finds in the mapping that another text key finds. -/
def Mapping.within? (entries : Mapping) (group name : String) : Option Value :=
  match find? entries group with
  | some (.map fields) => find? fields name
  | _ => none

namespace Validation

variable {α β γ : Type} {m : Mapping} {group name name' model : String}
  {check : Value → Checked α} {check' : Value → Checked β} {f : α → β → γ}

/-- Two fields side by side are accepted exactly if each of them is. -/
lemma both_eq_ok_iff (x : Checked α) (y : Checked β) (c : γ) :
    (Checked.ap (.ok f) x).ap y = .ok c ↔ ∃ a b, x = .ok a ∧ y = .ok b ∧ f a b = c := by
  simp only [Checked.ap_eq_ok_iff]
  constructor
  · rintro ⟨_, b, ⟨_, a, h, ha, rfl⟩, hb, rfl⟩
    cases h
    exact ⟨a, b, ha, hb, rfl⟩
  · rintro ⟨a, b, ha, hb, rfl⟩
    exact ⟨_, b, ⟨_, a, rfl, ha, rfl⟩, hb, rfl⟩

variable {v v' : Value} {default : α} {default' : β}

/-- A field with a default is accepted exactly if what stands there is, or else a value that is
accepted as the default. -/
lemma optional_eq_ok_iff (hdefault : check v = .ok default) (a : α) :
    optional m name check default = .ok a ↔ check ((m.find? name).getD v) = .ok a := by
  unfold optional
  cases m.find? name with
  | none => simp [hdefault]
  | some w => simp [under_eq_ok_iff]

/-- A section with two fields that have defaults is accepted exactly if it is a mapping, where it is
there, and both fields are accepted. -/
lemma section_eq_ok_iff (hdefault : check v = .ok default) (hdefault' : check' v' = .ok default')
    (c : γ) :
    optional m group (fun w => do
        let fields ← record model w
        (Checked.ap (.ok f) (optional fields name check default)).ap
          (optional fields name' check' default')) (f default default') = .ok c ↔
      (∀ w, m.find? group = some w → ∃ fields, w = .map fields) ∧
        ∃ a b, check ((m.within? group name).getD v) = .ok a ∧
          check' ((m.within? group name').getD v') = .ok b ∧ f a b = c := by
  rw [optional, Mapping.within?, Mapping.within?]
  cases hgroup : m.find? group with
  | none => simp [hdefault, hdefault']
  | some w =>
    cases w with
    | map fields =>
      have hrecord : record model (.map fields) = .ok fields := rfl
      simp only [under_eq_ok_iff, bind_eq_ok_iff, hrecord, both_eq_ok_iff,
        optional_eq_ok_iff hdefault, optional_eq_ok_iff hdefault']
      simp
    | _ => simp [under_eq_ok_iff, bind_eq_ok_iff, record, Checked.fail]

end Validation

/-! ### The settings one by one -/

/-- The settings, one by one. -/
inductive Setting where
  /-- Whether letter case is ignored. -/
  | ignoreCase
  /-- Whether platforms are literal texts. -/
  | literal
  /-- The name of the least level that is reported. -/
  | level
  /-- The name of the format. -/
  | format
  deriving DecidableEq

namespace Setting

/-- The section of a document that holds a setting. -/
def group : Setting → String
  | ignoreCase => "matching"
  | literal => "matching"
  | level => "logging"
  | format => "logging"

/-- The name of a setting in its section. -/
def name : Setting → String
  | ignoreCase => "ignore_case"
  | literal => "literal"
  | level => "level"
  | format => "format"

/-- The default of a setting. -/
def standard : Setting → Value
  | ignoreCase => .bool false
  | literal => .bool false
  | level => .str "INFO"
  | format => .str "readable"

/-- The name of the variable that overrides a setting. -/
def variableName (s : Setting) : String :=
  "TARGETRUNNERS_" ++ LetterCase.upperText (s.group ++ "__" ++ s.name)

/-- The variables of different settings have different names. -/
lemma variableName_injective : Function.Injective variableName := by
  have hnames : [ignoreCase, literal, level, format].map variableName =
      ["TARGETRUNNERS_MATCHING__IGNORE_CASE", "TARGETRUNNERS_MATCHING__LITERAL",
        "TARGETRUNNERS_LOGGING__LEVEL", "TARGETRUNNERS_LOGGING__FORMAT"] := by decide +kernel
  simp only [List.map_cons, List.map_nil, List.cons.injEq] at hnames
  obtain ⟨h₁, h₂, h₃, h₄, -⟩ := hnames
  intro s t h
  cases s <;> cases t <;> simp_all

/-- A value is validated as what the settings say. -/
def Accepts (s : Setting) (v : Value) (c : Settings) : Prop :=
  match s with
  | ignoreCase => truth v = .ok c.matching.ignoreCase
  | literal => truth v = .ok c.matching.literal
  | level => LoggingSettings.oneOf LoggingSettings.levels v = .ok c.logging.level
  | format => LoggingSettings.oneOf LoggingSettings.formats v = .ok c.logging.format

/-- No mapping is validated as a setting. -/
lemma not_accepts_map (s : Setting) (entries : Mapping) (c : Settings) :
    ¬ s.Accepts (.map entries) c := by
  cases s <;> intro h <;> cases h

/-- Settings that accept the same value for each setting are the same. -/
lemma eq_of_accepts {c c' : Settings} (h : ∀ s : Setting, ∃ v, s.Accepts v c ∧ s.Accepts v c') :
    c = c' := by
  obtain ⟨v₁, h₁, h₁'⟩ := h ignoreCase
  obtain ⟨v₂, h₂, h₂'⟩ := h literal
  obtain ⟨v₃, h₃, h₃'⟩ := h level
  obtain ⟨v₄, h₄, h₄'⟩ := h format
  obtain ⟨⟨_, _⟩, ⟨_, _⟩⟩ := c
  obtain ⟨⟨_, _⟩, ⟨_, _⟩⟩ := c'
  cases h₁.symm.trans h₁'
  cases h₂.symm.trans h₂'
  cases h₃.symm.trans h₃'
  cases h₄.symm.trans h₄'
  rfl

/-- The section of a setting, where it is there, is a mapping. -/
def HasSection (s : Setting) (entries : Mapping) : Prop :=
  ∀ v, entries.find? s.group = some v → ∃ fields, v = .map fields

end Setting

/-- **Validation of settings.** A mapping is validated as settings exactly if its sections are
mappings and what stands at the place of each setting, or else the default, is validated as what the
settings say. -/
theorem Settings.ofValue_eq_ok_iff (m : Mapping) (c : Settings) :
    ofValue (.map m) = .ok c ↔
      ∀ s : Setting, s.HasSection m ∧ s.Accepts ((m.within? s.group s.name).getD s.standard) c := by
  have hmatching : ∀ o, Validation.optional m "matching" MatchOptions.check {} = .ok o ↔ _ :=
    section_eq_ok_iff (f := MatchOptions.mk) (show truth (.bool false) = .ok false from rfl)
      (show truth (.bool false) = .ok false from rfl)
  have hlogging : ∀ l,
      Validation.optional m "logging" LoggingSettings.check .standard = .ok l ↔ _ :=
    section_eq_ok_iff (f := LoggingSettings.mk)
      (show LoggingSettings.oneOf LoggingSettings.levels (.str "INFO") = .ok "INFO" from rfl)
      (show LoggingSettings.oneOf LoggingSettings.formats (.str "readable") = .ok "readable"
        from rfl)
  rw [ofValue, report_eq_ok_iff]
  show (Checked.ap (.ok Settings.mk) _).ap _ = .ok c ↔ _
  rw [both_eq_ok_iff]
  constructor
  · rintro ⟨o, l, ho, hl, rfl⟩ s
    obtain ⟨hm, i, t, hi, ht, rfl⟩ := (hmatching o).mp ho
    obtain ⟨hg, v, f, hv, hf, rfl⟩ := (hlogging l).mp hl
    cases s with
    | ignoreCase => exact ⟨hm, hi⟩
    | literal => exact ⟨hm, ht⟩
    | level => exact ⟨hg, hv⟩
    | format => exact ⟨hg, hf⟩
  · intro h
    refine ⟨c.matching, c.logging, (hmatching _).mpr ⟨(h .literal).1, ?_⟩,
      (hlogging _).mpr ⟨(h .level).1, ?_⟩, rfl⟩
    · exact ⟨_, _, (h .ignoreCase).2, (h .literal).2, rfl⟩
    · exact ⟨_, _, (h .level).2, (h .format).2, rfl⟩

end RunnerAtlas
