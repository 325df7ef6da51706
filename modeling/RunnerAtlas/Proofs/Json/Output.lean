import RunnerAtlas.Proofs.Json.Reports
import RunnerAtlas.Proofs.Json.Soundness

set_option relaxedAutoImplicit false
set_option autoImplicit false

/-!
# What is written is read back

Reports are written in printable ASCII, apart from the breaks between their lines, whatever
characters stand in their texts. The decoder reads back what a report stands for. So the runners of
two outputs, or their entries, are the same if their texts are.

## Main definitions

* `RunnerAtlas.Report.IsPrintable` — printable ASCII.
* `RunnerAtlas.Json.Text.compact` — the text of a tree without whitespace.

## Main results

* `RunnerAtlas.Report.decode_pretty`, `RunnerAtlas.Report.decode_line` — reports in lines and
  records in one line are read back.
* `RunnerAtlas.Report.pretty_readBack` — the output of commands is read back.
-/

namespace RunnerAtlas

open RunnerAtlas.Text

/-! ### Printable characters -/

namespace Report

/-- A character of printable ASCII. -/
def IsPrintable (c : Char) : Prop := 0x20 ≤ c.toNat ∧ c.toNat ≤ 0x7e

instance (c : Char) : Decidable (IsPrintable c) := inferInstanceAs (Decidable (_ ∧ _))

/-- Hexadecimal digits are printable. -/
lemma isPrintable_of_mem_hex {value width : Nat} {c : Char} (h : c ∈ Quoted.hex value width) :
    IsPrintable c := by
  have hdigit : ∀ v < 16, IsPrintable (Quoted.hexDigit v) := by decide
  induction width generalizing value with
  | zero => cases h
  | succ width ih =>
    rw [Quoted.hex, List.mem_append, List.mem_singleton] at h
    rcases h with h | rfl
    · exact ih h
    · exact hdigit _ (Nat.mod_lt _ (by decide))

/-- Escapes by number are printable. -/
lemma isPrintable_of_mem_unitEscape {unit : Nat} {c : Char} (h : c ∈ unitEscape unit) :
    IsPrintable c := by
  rw [unitEscape, List.mem_cons, List.mem_cons] at h
  rcases h with rfl | rfl | h
  · decide
  · decide
  · exact isPrintable_of_mem_hex h

/-- Whatever character it is, it is written in printable ones. -/
lemma isPrintable_of_mem_escape {c d : Char} (h : d ∈ escape c) : IsPrintable d := by
  have hpair {x : Char} (hx : IsPrintable x) (h : d ∈ ['\\', x]) : IsPrintable d := by
    rcases List.mem_cons.mp h with rfl | h
    · decide
    · exact List.mem_singleton.mp h ▸ hx
  unfold escape at h
  split_ifs at h with hquote _ _ _ _ _ hplain _
  · refine hpair ?_ h
    rcases hquote with rfl | rfl <;> decide
  · exact hpair (by decide) h
  · exact hpair (by decide) h
  · exact hpair (by decide) h
  · exact hpair (by decide) h
  · exact hpair (by decide) h
  · exact List.mem_singleton.mp h ▸ hplain
  · exact isPrintable_of_mem_unitEscape h
  · exact (List.mem_append.mp h).elim isPrintable_of_mem_unitEscape isPrintable_of_mem_unitEscape

/-- A quoted text is printable. -/
lemma isPrintable_of_mem_quoted {s : String} {c : Char} (h : c ∈ quoted s) : IsPrintable c := by
  simp only [quoted, List.cons_append, List.mem_cons, List.mem_append, List.mem_flatMap,
    List.not_mem_nil, or_false] at h
  rcases h with rfl | ⟨d, -, h⟩ | rfl
  · decide
  · exact isPrintable_of_mem_escape h
  · decide

/-- Joined parts consist of the parts and the separator. -/
lemma mem_joined {separator : List Char} {parts : List (List Char)} {c : Char}
    (h : c ∈ joined separator parts) : c ∈ separator ∨ ∃ part ∈ parts, c ∈ part := by
  induction parts with
  | nil => cases h
  | cons part rest ih =>
    cases rest with
    | nil => exact .inr ⟨part, List.mem_cons_self, h⟩
    | cons next rest =>
      rw [joined, List.mem_append, List.mem_append] at h
      · rcases h with (h | h) | h
        · exact .inr ⟨part, List.mem_cons_self, h⟩
        · exact .inl h
        · rcases ih h with h | ⟨p, hp, hc⟩
          · exact .inl h
          · exact .inr ⟨p, List.mem_cons_of_mem _ hp, hc⟩
      · exact List.cons_ne_nil _ _

/-- A character of a report in lines. -/
def IsLaidOut (c : Char) : Prop := IsPrintable c ∨ c = '\n'

/-- A new line consists of a break and spaces. -/
lemma isLaidOut_of_mem_newLine {depth : Nat} {c : Char} (h : c ∈ newLine depth) : IsLaidOut c := by
  rcases List.mem_cons.mp h with rfl | h
  · exact .inr rfl
  · exact .inl (List.eq_of_mem_replicate h ▸ by decide)

/-- Parts between brackets add nothing but breaks, spaces, commas and the brackets. -/
lemma isLaidOut_of_mem_bracketed {first last : Char} {depth : Nat} {parts : List (List Char)}
    (hfirst : IsPrintable first) (hlast : IsPrintable last)
    (hparts : ∀ part ∈ parts, ∀ c ∈ part, IsLaidOut c) {c : Char}
    (h : c ∈ bracketed first last depth parts) : IsLaidOut c := by
  unfold bracketed at h
  split_ifs at h
  · simp only [List.mem_cons, List.not_mem_nil, or_false] at h
    rcases h with rfl | rfl
    · exact .inl hfirst
    · exact .inl hlast
  · simp only [List.cons_append, List.mem_cons, List.mem_append, List.not_mem_nil, or_false] at h
    rcases h with rfl | ((h | h) | h) | rfl
    · exact .inl hfirst
    · exact isLaidOut_of_mem_newLine h
    · rcases mem_joined h with h | ⟨part, hpart, h⟩
      · rcases List.mem_cons.mp h with rfl | h
        · exact .inl (by decide)
        · exact isLaidOut_of_mem_newLine h
      · exact hparts part hpart c h
    · exact isLaidOut_of_mem_newLine h
    · exact .inl hlast

mutual

/-- A report in lines is printable apart from the breaks. -/
theorem isLaidOut_written : (r : Report) → ∀ (depth : Nat), ∀ c ∈ written depth r, IsLaidOut c
  | text s => fun depth c h => by
    rw [written] at h
    exact .inl (isPrintable_of_mem_quoted h)
  | list items => fun depth c h => by
    rw [written] at h
    exact isLaidOut_of_mem_bracketed (by decide) (by decide) (isLaidOut_writtenItems items _) h
  | record fields => fun depth c h => by
    rw [written] at h
    exact isLaidOut_of_mem_bracketed (by decide) (by decide) (isLaidOut_writtenFields fields _) h

/-- Items in lines are printable apart from the breaks. -/
theorem isLaidOut_writtenItems : (items : List Report) → ∀ (depth : Nat),
    ∀ part ∈ writtenItems depth items, ∀ c ∈ part, IsLaidOut c
  | [] => fun depth part h => by cases h
  | item :: rest => fun depth => by
    rw [writtenItems, List.forall_mem_cons]
    exact ⟨isLaidOut_written item depth, isLaidOut_writtenItems rest depth⟩

/-- Fields in lines are printable apart from the breaks. -/
theorem isLaidOut_writtenFields : (fields : List (String × Report)) → ∀ (depth : Nat),
    ∀ part ∈ writtenFields depth fields, ∀ c ∈ part, IsLaidOut c
  | [] => fun depth part h => by cases h
  | (name, item) :: rest => fun depth => by
    rw [writtenFields, List.forall_mem_cons]
    refine ⟨fun c h => ?_, isLaidOut_writtenFields rest depth⟩
    simp only [List.mem_append, List.mem_cons] at h
    rcases h with h | rfl | rfl | h
    · exact .inl (isPrintable_of_mem_quoted h)
    · exact .inl (by decide)
    · exact .inl (by decide)
    · exact isLaidOut_written item depth c h

end

/-- The report of a command is ASCII. -/
lemma ascii_pretty (r : Report) : ∀ c ∈ (r.pretty ++ "\n").toList, c.toNat < 0x80 := by
  intro c h
  rw [pretty, String.toList_append, String.toList_ofList, List.mem_append] at h
  have hc : IsLaidOut c := h.elim (isLaidOut_written r 0 c) fun h => .inr (List.mem_singleton.mp h)
  rcases hc with hc | rfl
  · have := hc.2
    omega
  · decide

/-! ### Reports in lines -/

/-- A report in lines is read back. -/
theorem decode_pretty (r : Report) : Json.decode (r.pretty ++ "\n").toList = some r.value := by
  obtain ⟨t, hvalue, hchars⟩ := r.exists_tree
  rw [← hchars, Json.decode_chars, ← hvalue]
  rfl

end Report

/-! ### Records in one line -/

namespace Json

/-- The text of a tree without whitespace. -/
def Text.compact (t : Tree) : Text where
  tree := t
  first := []
  parts := t.lexemes.map fun l => (l, [])
  first_subset := List.nil_subset _
  after_subset := by simp
  lexemes_eq := by simp [Function.comp_def]

/-- Lexemes between commas come out with a comma between their characters. -/
lemma flatMap_separated (parts : List (List Lexeme)) :
    (separated .comma parts).flatMap Lexeme.chars =
      Report.joined [','] (parts.map fun ls => ls.flatMap Lexeme.chars) := by
  induction parts with
  | nil => rfl
  | cons part rest ih =>
    cases rest with
    | nil => simp [separated, Report.joined]
    | cons next rest =>
      have hjoined (cs cs' : List Char) (css : List (List Char)) :
          Report.joined [','] (cs :: cs' :: css) =
            cs ++ [','] ++ Report.joined [','] (cs' :: css) := rfl
      rw [separated_cons_cons, List.flatMap_append, List.flatMap_cons, ih, List.map_cons,
        List.map_cons, List.map_cons, hjoined]
      simp [Lexeme.chars]

end Json

namespace Report

/-- Texts under names are written as an object of strings. -/
lemma exists_members (fields : List (String × String)) :
    ∃ members : List (List Json.Piece × Json.Tree),
      Json.Tree.valuesOfMembers members =
        fields.map (fun field => (.str field.1, .str field.2)) ∧
      (Json.Tree.lexemesOfMembers members).map (fun ls => ls.flatMap Json.Lexeme.chars) =
        fields.map fun field => quoted field.1 ++ ':' :: quoted field.2 := by
  induction fields with
  | nil => exact ⟨[], rfl, rfl⟩
  | cons field rest ih =>
    obtain ⟨name, hname, hnameText⟩ := Json.exists_pieces field.1
    obtain ⟨value, hvalue, hvalueText⟩ := Json.exists_pieces field.2
    obtain ⟨members, hvalues, hchars⟩ := ih
    refine ⟨(name, .atom (.string value)) :: members, ?_, ?_⟩
    · rw [Json.Tree.valuesOfMembers, hvalues, hnameText, Json.Tree.value, Json.Atom.value,
        hvalueText, List.map_cons]
    · rw [Json.Tree.lexemesOfMembers, List.map_cons, hchars, List.map_cons, ← hname, ← hvalue]
      simp [Json.Tree.lexemes, Json.Lexeme.chars, Json.Atom.chars]

/-- A record of texts in one line is read back. -/
theorem decode_line (fields : List (String × String)) :
    Json.decode (line fields).toList =
      some (.map (Mapping.ofEntries (fields.map fun field => (.str field.1, .str field.2)))) := by
  obtain ⟨members, hvalues, hchars⟩ := exists_members fields
  have hcompact : (Json.Text.compact (.object members)).chars = (line fields).toList := by
    have hparts : (Json.Text.compact (.object members)).chars =
        (Json.Tree.object members).lexemes.flatMap Json.Lexeme.chars := by
      rw [Json.Text.chars, Json.Text.compact, Json.spelled, List.flatMap_map]
      simp
    rw [hparts, Json.Tree.lexemes, List.cons_append, List.flatMap_cons, List.flatMap_append,
      Json.flatMap_separated, hchars, line, String.toList_ofList]
    rfl
  rw [← hcompact, Json.decode_chars]
  show some (Json.Tree.value (.object members)) = _
  rw [Json.Tree.value, hvalues]

/-- A record in one line is printable, so that it has no break. -/
lemma isPrintable_line (fields : List (String × String)) :
    ∀ c ∈ (line fields).toList, IsPrintable c := by
  intro c h
  simp only [line, String.toList_ofList, List.cons_append, List.mem_cons, List.mem_append,
    List.not_mem_nil, or_false] at h
  rcases h with rfl | h | rfl
  · decide
  · rcases mem_joined h with h | ⟨part, hpart, h⟩
    · exact List.mem_singleton.mp h ▸ by decide
    · obtain ⟨field, -, rfl⟩ := List.mem_map.mp hpart
      simp only [List.mem_append, List.mem_cons] at h
      rcases h with h | rfl | h
      · exact isPrintable_of_mem_quoted h
      · decide
      · exact isPrintable_of_mem_quoted h
  · decide

end Report

/-! ### The output of commands -/

/-- A runner is told by what its record stands for. -/
lemma Runner.value_injective : Function.Injective Runner.value := by
  rintro ⟨name, udid⟩ ⟨name', udid'⟩ h
  simp only [Runner.value, Value.map.injEq, List.cons.injEq, Prod.mk.injEq, Value.str.injEq] at h
  obtain ⟨⟨-, rfl⟩, ⟨-, rfl⟩, -⟩ := h
  rfl

/-- An entry is told by what its record stands for. -/
lemma Entry.value_injective : Function.Injective Entry.value := by
  rintro ⟨name, target, platform, runners⟩ ⟨name', target', platform', runners'⟩ h
  simp only [Entry.value, Value.map.injEq, List.cons.injEq, Prod.mk.injEq, Value.str.injEq,
    Value.list.injEq] at h
  obtain ⟨⟨-, rfl⟩, ⟨-, rfl⟩, ⟨-, rfl⟩, ⟨-, h⟩, -⟩ := h
  rw [List.map_injective_iff.mpr Runner.value_injective h]

namespace Report

/-- Reports that are written alike stand for the same. -/
lemma value_eq_of_pretty {r r' : Report} (h : r.pretty ++ "\n" = r'.pretty ++ "\n") :
    r.value = r'.value :=
  Option.some.inj ((decode_pretty r).symm.trans (h ▸ decode_pretty r'))

/-- **The output of commands is read back.** The decoder reads the texts that spell a tree, each as
the value of its tree. Whatever the names, targets, platforms and identifiers are, the lists of
runners and of entries are written in ASCII, and are read back as the arrays of their records in
order. Two of them that are written alike are the same.

**Proof sketch.** A report is written as a text that spells it, which the decoder reads back
(`decode_pretty`), and the records tell the runners and entries. -/
theorem pretty_readBack :
    (∀ (cs : List Char) (v : Value),
      Json.decode cs = some v ↔ ∃ d : Json.Text, d.chars = cs ∧ d.tree.value = v) ∧
    (∀ runners : List Runner,
      (∀ c ∈ ((ofRunners runners).pretty ++ "\n").toList, c.toNat < 0x80) ∧
      Json.decode ((ofRunners runners).pretty ++ "\n").toList =
        some (.list (runners.map fun r =>
          .map [(.str "name", .str r.name), (.str "udid", .str r.udid)]))) ∧
    (∀ entries : List Entry,
      (∀ c ∈ ((ofEntries entries).pretty ++ "\n").toList, c.toNat < 0x80) ∧
      Json.decode ((ofEntries entries).pretty ++ "\n").toList =
        some (.list (entries.map fun e =>
          .map [(.str "name", .str e.name), (.str "target", .str e.target),
            (.str "platform", .str e.platform),
            (.str "runners", .list (e.runners.map fun r =>
              .map [(.str "name", .str r.name), (.str "udid", .str r.udid)]))]))) ∧
    (∀ runners runners' : List Runner,
      (ofRunners runners).pretty ++ "\n" = (ofRunners runners').pretty ++ "\n" ↔
        runners = runners') ∧
    (∀ entries entries' : List Entry,
      (ofEntries entries).pretty ++ "\n" = (ofEntries entries').pretty ++ "\n" ↔
        entries = entries') ∧
    ∀ (runners : List Runner) (entries : List Entry),
      (ofRunners runners).pretty ++ "\n" = (ofEntries entries).pretty ++ "\n" ↔
        runners = [] ∧ entries = [] := by
  refine ⟨Json.decode_eq_some_iff, fun runners => ⟨ascii_pretty _, ?_⟩,
    fun entries => ⟨ascii_pretty _, ?_⟩,
    fun runners runners' => ⟨fun h => ?_, fun h => h ▸ rfl⟩,
    fun entries entries' => ⟨fun h => ?_, fun h => h ▸ rfl⟩,
    fun runners entries => ⟨fun h => ?_, ?_⟩⟩
  · rw [decode_pretty, value_ofRunners]
    rfl
  · rw [decode_pretty, value_ofEntries]
    rfl
  · have hvalue := value_eq_of_pretty h
    rw [value_ofRunners, value_ofRunners] at hvalue
    exact List.map_injective_iff.mpr Runner.value_injective (Value.list.inj hvalue)
  · have hvalue := value_eq_of_pretty h
    rw [value_ofEntries, value_ofEntries] at hvalue
    exact List.map_injective_iff.mpr Entry.value_injective (Value.list.inj hvalue)
  · have hvalue := value_eq_of_pretty h
    rw [value_ofRunners, value_ofEntries] at hvalue
    -- the record of a runner has fewer members than that of an entry
    cases runners with
    | nil => exact ⟨rfl, by simpa using Value.list.inj hvalue⟩
    | cons r runners =>
      cases entries with
      | nil => simp at hvalue
      | cons e entries => simp [Runner.value, Entry.value] at hvalue
  · rintro ⟨rfl, rfl⟩
    rfl

end Report

end RunnerAtlas
