import Mathlib.Data.List.Forall2
import Mathlib.Tactic.Lemma
import RunnerAtlas.Proofs.Json.Grammar
import RunnerAtlas.Report.Runners
import RunnerAtlas.Text.Utf8

set_option relaxedAutoImplicit false
set_option autoImplicit false

/-!
# Reports as JSON texts

A report is written as one JSON text, laid out in lines: each item and member is on a line of its
own, two spaces further in than the brackets around it. The layout depends on nothing but the
lexemes, so it is stated for any tree, and a report is written as the text of one tree in that
layout.

## Main definitions

* `RunnerAtlas.Json.Text.indented` — the text of a tree in lines.
* `RunnerAtlas.Report.value` — what a report stands for.
* `RunnerAtlas.Json.Lays` — lexemes that come out as given characters at a depth.

## Main results

* `RunnerAtlas.Json.exists_pieces` — a quoted text is a JSON string for that text.
* `RunnerAtlas.Report.exists_tree` — a report is written as the text of a tree with its value.
-/

namespace RunnerAtlas

open RunnerAtlas.Text

namespace Json

/-! ### Layout -/

/-- How many brackets are open after a lexeme. -/
def depthAfter (depth : Nat) : Lexeme → Nat
  | .opening _ => depth + 1
  | .closing _ => depth - 1
  | _ => depth

/-- The whitespace between the end of a value and the lexeme after it, if there is one. -/
def valueGap (depth : Nat) : Option Lexeme → List Char
  | none => ['\n']
  | some (.closing _) => Report.newLine (depth - 1)
  | some _ => []

/-- The whitespace between a lexeme and the one after it, if there is one. Nothing stands between
the brackets of an empty array or object. -/
def gap (depth : Nat) : Lexeme → Option Lexeme → List Char
  | .opening _, some (.closing _) => []
  | .opening _, _ => Report.newLine depth
  | .comma, _ => Report.newLine depth
  | .colon, _ => [' ']
  | _, next => valueGap depth next

/-- Lexemes at a depth, each with the whitespace after it. -/
def indentedFrom (depth : Nat) : List Lexeme → List (Lexeme × List Char)
  | [] => []
  | l :: rest =>
    (l, gap (depthAfter depth l) l rest.head?) :: indentedFrom (depthAfter depth l) rest

/-- A new line is whitespace. -/
lemma newLine_subset (depth : Nat) : Report.newLine depth ⊆ blanks := by
  intro c hc
  rcases List.mem_cons.mp hc with rfl | hc
  · simp [blanks]
  · rw [List.eq_of_mem_replicate hc]
    simp [blanks]

/-- Only whitespace stands after a lexeme. -/
lemma gap_subset (depth : Nat) (l : Lexeme) (next : Option Lexeme) : gap depth l next ⊆ blanks := by
  have hvalue : valueGap depth next ⊆ blanks := by
    unfold valueGap
    split
    · simp [blanks]
    · exact newLine_subset _
    · simp
  unfold gap
  split
  · simp
  · exact newLine_subset _
  · exact newLine_subset _
  · simp [blanks]
  · exact hvalue

/-- Lexemes keep their order when whitespace is put after them. -/
lemma map_fst_indentedFrom (depth : Nat) (ls : List Lexeme) :
    (indentedFrom depth ls).map Prod.fst = ls := by
  induction ls generalizing depth with
  | nil => rfl
  | cons l rest ih => simp [indentedFrom, ih]

/-- Only whitespace is put after lexemes. -/
lemma subset_of_mem_indentedFrom (depth : Nat) (ls : List Lexeme) :
    ∀ part ∈ indentedFrom depth ls, part.2 ⊆ blanks := by
  induction ls generalizing depth with
  | nil => simp [indentedFrom]
  | cons l rest ih => exact List.forall_mem_cons.mpr ⟨gap_subset _ _ _, ih _⟩

/-- The text of a tree in lines, each deeper level indented by two spaces, with a new line at the
end. -/
def Text.indented (t : Tree) : Text where
  tree := t
  first := []
  parts := indentedFrom 0 t.lexemes
  first_subset := List.nil_subset _
  after_subset := subset_of_mem_indentedFrom 0 t.lexemes
  lexemes_eq := map_fst_indentedFrom 0 t.lexemes

/-! ### Strings -/

/-- Four hexadecimal digits spell the number that they were made from. -/
lemma exists_hex {n : Nat} (hn : n < 0x10000) :
    ∃ digits : Hex, digits.val = Quoted.hex n 4 ∧ digits.code = n := by
  have hdigit : ∀ v < 16, Digit.plainValue? 16 (Quoted.hexDigit v) = some v := by decide
  have hmod (m : Nat) : Digit.plainValue? 16 (Quoted.hexDigit (m % 16)) = some (m % 16) :=
    hdigit _ (Nat.mod_lt _ (by decide))
  refine ⟨⟨Quoted.hex n 4, rfl, ?_⟩, rfl, ?_⟩
  · simp [Quoted.hex, hmod]
  · simp only [Hex.code, Quoted.hex, List.nil_append, List.cons_append, List.filterMap_cons, hmod,
      List.filterMap_nil, Digit.ofDigits, List.foldl_cons, List.foldl_nil]
    omega

/-- A character is written as a piece that stands for it.

**Proof sketch.** The cases are those of `Report.escape`: an escape of one letter, the character
itself, an escape by number, and a pair of them for a character beyond sixteen bits. -/
lemma exists_piece (c : Char) : ∃ p : Piece, p.chars = Report.escape c ∧ p.char = c := by
  have hletter (x : Char) (h : (x, c) ∈ letterEscapes) :
      ∃ p : Piece, p.chars = ['\\', x] ∧ p.char = c := ⟨.letter (x, c) h, rfl, rfl⟩
  have hrange := Utf8.code_range c
  unfold Report.escape
  split_ifs with hquote hn hr ht hb hf hplain hsmall
  · rcases hquote with rfl | rfl
    · exact hletter '"' (by simp [letterEscapes])
    · exact hletter '\\' (by simp [letterEscapes])
  · exact hletter 'n' (by simp [letterEscapes, hn])
  · exact hletter 'r' (by simp [letterEscapes, hr])
  · exact hletter 't' (by simp [letterEscapes, ht])
  · exact hletter 'b' (by simp [letterEscapes, hb])
  · exact hletter 'f' (by simp [letterEscapes, hf])
  · rw [not_or] at hquote
    exact ⟨.raw c ⟨hplain.1, hquote⟩, rfl, rfl⟩
  · obtain ⟨digits, hdigits, hcode⟩ := exists_hex hsmall
    refine ⟨.code digits (by omega), ?_, ?_⟩
    · rw [Piece.chars, hdigits, Report.unitEscape]
    · rw [Piece.char, hcode, Char.ofNat_toNat]
  · dsimp only
    generalize hrest : c.toNat - 0x10000 = rest
    obtain ⟨high, hhigh, hhighCode⟩ := exists_hex (n := 0xd800 + rest / 0x400) (by omega)
    obtain ⟨low, hlow, hlowCode⟩ := exists_hex (n := 0xdc00 + rest % 0x400) (by omega)
    refine ⟨.pair high low (by omega) (by omega), ?_, ?_⟩
    · rw [Piece.chars, hhigh, hlow]
      rfl
    · have hcode : 0x10000 + (high.code - 0xd800) * 0x400 + (low.code - 0xdc00) = c.toNat := by
        omega
      rw [Piece.char, hcode, Char.ofNat_toNat]

/-- **Quoted texts.** A text between quotes is a JSON string that stands for it. -/
lemma exists_pieces (s : String) :
    ∃ pieces, quoted pieces = Report.quoted s ∧ textOf pieces = s := by
  have h : ∀ cs : List Char, ∃ pieces, charsOf pieces = cs.flatMap Report.escape ∧
      pieces.map Piece.char = cs := by
    intro cs
    induction cs with
    | nil => exact ⟨[], rfl, rfl⟩
    | cons c rest ih =>
      obtain ⟨p, hp, hc⟩ := exists_piece c
      obtain ⟨pieces, hpieces, hrest⟩ := ih
      refine ⟨p :: pieces, ?_, ?_⟩
      · rw [charsOf, List.flatMap_cons, List.flatMap_cons, hp, ← hpieces, charsOf]
      · rw [List.map_cons, hc, hrest]
  obtain ⟨pieces, hpieces, hs⟩ := h s.toList
  exact ⟨pieces, by rw [quoted, hpieces, Report.quoted], by rw [textOf, hs, String.ofList_toList]⟩

/-! ### Lexemes laid out -/

/-- Lexemes that come out as given characters at a depth, whatever comes after them. The first of
them begins a value. -/
structure Lays (depth : Nat) (ls : List Lexeme) (cs : List Char) : Prop where
  /-- They do not begin with a closing bracket. -/
  head : ∃ l rest, ls = l :: rest ∧ ∀ b, l ≠ .closing b
  /-- They come out as the characters, with the gap after a value at their end. -/
  spelled_eq : ∀ rest, spelled (indentedFrom depth (ls ++ rest)) =
    cs ++ valueGap depth rest.head? ++ spelled (indentedFrom depth rest)

/-- A lexeme is spelled before its gap. -/
lemma spelled_indentedFrom_cons (depth : Nat) (l : Lexeme) (rest : List Lexeme) :
    spelled (indentedFrom depth (l :: rest)) =
      l.chars ++ gap (depthAfter depth l) l rest.head? ++
        spelled (indentedFrom (depthAfter depth l) rest) := by
  rw [indentedFrom, spelled, List.flatMap_cons, spelled]

/-- An atom comes out as its characters. -/
lemma lays_atom (depth : Nat) (a : Atom) : Lays depth [.atom a] a.chars where
  head := ⟨_, _, rfl, fun b => by simp⟩
  spelled_eq rest := by
    rw [List.singleton_append, spelled_indentedFrom_cons]
    rfl

/-- A member comes out as its name, a colon, a space and its value. -/
lemma lays_member {depth : Nat} {ls : List Lexeme} {cs : List Char} (name : List Piece)
    (h : Lays depth ls cs) :
    Lays depth (.atom (.string name) :: .colon :: ls) (quoted name ++ ':' :: ' ' :: cs) where
  head := ⟨_, _, rfl, fun b => by simp⟩
  spelled_eq rest := by
    rw [List.cons_append, List.cons_append, spelled_indentedFrom_cons, spelled_indentedFrom_cons]
    simp only [depthAfter, h.spelled_eq rest]
    simp [gap, valueGap, Lexeme.chars, Atom.chars]

/-- Parts between commas come out on a line each. -/
lemma lays_separated {depth : Nat} {parts : List (List Lexeme)} {css : List (List Char)}
    (h : List.Forall₂ (Lays depth) parts css) (hparts : parts ≠ []) :
    Lays depth (separated .comma parts) (Report.joined (',' :: Report.newLine depth) css) := by
  -- The last part has no comma after it, so a single part is a case of its own.
  induction h with
  | nil => exact absurd rfl hparts
  | @cons part cs others css hpart hothers ih =>
    cases hothers with
    | nil =>
      rw [separated, List.flatMap_nil, List.append_nil, Report.joined]
      exact hpart
    | @cons second cs' others css' hsecond hothers =>
      have ih := ih (List.cons_ne_nil _ _)
      refine ⟨?_, fun rest => ?_⟩
      · obtain ⟨l, tail, rfl, hl⟩ := hpart.head
        exact ⟨l, _, rfl, hl⟩
      · have hsplit : separated .comma (part :: second :: others) ++ rest =
            part ++ .comma :: (separated .comma (second :: others) ++ rest) := by
          simp [separated]
        have hcomma : depthAfter depth .comma = depth := rfl
        have hjoined (separator : List Char) : Report.joined separator (cs :: cs' :: css') =
            cs ++ separator ++ Report.joined separator (cs' :: css') := rfl
        rw [hsplit, hpart.spelled_eq, spelled_indentedFrom_cons, hcomma, ih.spelled_eq rest,
          hjoined]
        simp [valueGap, gap, Lexeme.chars]

/-- Parts between brackets come out on lines of their own, one level deeper. -/
lemma lays_bracketed {depth : Nat} {parts : List (List Lexeme)} {css : List (List Char)}
    (h : List.Forall₂ (Lays (depth + 1)) parts css) (b : Bracket) (first last : Char)
    (hfirst : (Lexeme.opening b).chars = [first]) (hlast : (Lexeme.closing b).chars = [last]) :
    Lays depth (.opening b :: separated .comma parts ++ [.closing b])
      (Report.bracketed first last depth css) := by
  refine ⟨⟨_, _, rfl, fun b => by simp⟩, fun rest => ?_⟩
  cases h with
  | nil =>
    rw [separated, List.cons_append, List.cons_append, List.nil_append, List.singleton_append,
      spelled_indentedFrom_cons, spelled_indentedFrom_cons, hfirst, hlast]
    rfl
  | @cons part cs others css hpart hothers =>
    have hlays := lays_separated (List.Forall₂.cons hpart hothers) (List.cons_ne_nil _ _)
    obtain ⟨l, tail, hhead, hl⟩ := hlays.head
    have hgap : gap (depth + 1) (.opening b)
        (separated .comma (part :: others) ++ .closing b :: rest).head? =
          Report.newLine (depth + 1) := by
      rw [hhead]
      cases l with
      | closing b => exact absurd rfl (hl b)
      | _ => rfl
    have hclosing : depthAfter (depth + 1) (.closing b) = depth := rfl
    rw [List.cons_append, List.cons_append, List.append_assoc, List.singleton_append,
      spelled_indentedFrom_cons, show depthAfter depth (.opening b) = depth + 1 from rfl, hgap,
      hlays.spelled_eq, spelled_indentedFrom_cons, hfirst, hlast, hclosing, Report.bracketed]
    simp [valueGap, gap]

end Json

/-! ### Reports -/

namespace Report

open Json

mutual

/-- What a report stands for. -/
def value : Report → Value
  | text s => .str s
  | list items => .list (values items)
  | record fields => .map (Mapping.ofEntries (fieldValues fields))

/-- What each item stands for. -/
def values : List Report → List Value
  | [] => []
  | item :: rest => item.value :: values rest

/-- The names of fields with what the fields stand for. -/
def fieldValues : List (String × Report) → List (Value × Value)
  | [] => []
  | (name, item) :: rest => (.str name, item.value) :: fieldValues rest

end

mutual

/-- The lexemes of a tree with the value of a report come out as the report. -/
theorem exists_lays : (r : Report) →
    ∃ t : Json.Tree, t.value = r.value ∧ ∀ depth, Lays depth t.lexemes (written depth r)
  | text s => by
    obtain ⟨pieces, hquoted, htext⟩ := exists_pieces s
    refine ⟨.atom (.string pieces), ?_, fun depth => ?_⟩
    · rw [Json.Tree.value, Atom.value, htext, value]
    · rw [Json.Tree.lexemes, written, ← hquoted]
      exact lays_atom depth _
  | list items => by
    obtain ⟨ts, hvalues, hlays⟩ := exists_lays_items items
    refine ⟨.array ts, ?_, fun depth => ?_⟩
    · rw [Json.Tree.value, hvalues, value]
    · rw [Json.Tree.lexemes, written]
      exact lays_bracketed (hlays (depth + 1)) .square '[' ']' rfl rfl
  | record fields => by
    obtain ⟨members, hvalues, hlays⟩ := exists_lays_fields fields
    refine ⟨.object members, ?_, fun depth => ?_⟩
    · rw [Json.Tree.value, hvalues, value]
    · rw [Json.Tree.lexemes, written]
      exact lays_bracketed (hlays (depth + 1)) .curly '\x7b' '\x7d' rfl rfl

/-- The lexemes of each item come out as the item. -/
theorem exists_lays_items : (items : List Report) →
    ∃ ts : List Json.Tree, Json.Tree.valuesOfItems ts = values items ∧
      ∀ depth, List.Forall₂ (Lays depth) (Json.Tree.lexemesOfItems ts) (writtenItems depth items)
  | [] => ⟨[], rfl, fun _ => .nil⟩
  | item :: rest => by
    obtain ⟨t, hvalue, hlays⟩ := item.exists_lays
    obtain ⟨ts, hvalues, hrest⟩ := exists_lays_items rest
    refine ⟨t :: ts, ?_, fun depth => .cons (hlays depth) (hrest depth)⟩
    rw [Json.Tree.valuesOfItems, hvalue, hvalues, values]

/-- The lexemes of each member come out as the field. -/
theorem exists_lays_fields : (fields : List (String × Report)) →
    ∃ members : List (List Piece × Json.Tree),
      Json.Tree.valuesOfMembers members = fieldValues fields ∧
        ∀ depth, List.Forall₂ (Lays depth) (Json.Tree.lexemesOfMembers members)
          (writtenFields depth fields)
  | [] => ⟨[], rfl, fun _ => .nil⟩
  | (name, item) :: rest => by
    obtain ⟨pieces, hquoted, htext⟩ := exists_pieces name
    obtain ⟨t, hvalue, hlays⟩ := item.exists_lays
    obtain ⟨members, hvalues, hrest⟩ := exists_lays_fields rest
    refine ⟨(pieces, t) :: members, ?_, fun depth => .cons ?_ (hrest depth)⟩
    · rw [Json.Tree.valuesOfMembers, hvalue, hvalues, htext, fieldValues]
    · rw [← hquoted]
      exact lays_member pieces (hlays depth)

end

/-- **Reports as JSON.** A report with a new line after it is the indented text of a tree that
stands for what the report stands for. -/
theorem exists_tree (r : Report) :
    ∃ t : Json.Tree, t.value = r.value ∧
      (Json.Text.indented t).chars = (r.pretty ++ "\n").toList := by
  obtain ⟨t, hvalue, hlays⟩ := r.exists_lays
  refine ⟨t, hvalue, ?_⟩
  have h := (hlays 0).spelled_eq []
  rw [List.append_nil] at h
  rw [Text.chars, Text.indented, h, pretty, String.toList_append, String.toList_ofList]
  simp [valueGap, indentedFrom, spelled]

end Report

/-! ### Runners and entries -/

/-- What the record of a runner stands for. -/
def Runner.value (r : Runner) : Value :=
  .map [(.str "name", .str r.name), (.str "udid", .str r.udid)]

/-- What the record of an entry stands for. -/
def Entry.value (e : Entry) : Value :=
  .map [(.str "name", .str e.name), (.str "target", .str e.target),
    (.str "platform", .str e.platform), (.str "runners", .list (e.runners.map Runner.value))]

namespace Report

/-- Each item of a list stands for a value of its own. -/
lemma values_eq_map (items : List Report) : values items = items.map value := by
  induction items with
  | nil => rfl
  | cons item rest ih => rw [values, ih, List.map_cons]

/-- The list of runners stands for their records. -/
theorem value_ofRunners (runners : List Runner) :
    (ofRunners runners).value = .list (runners.map Runner.value) := by
  rw [ofRunners, value, values_eq_map, List.map_map]
  rfl

/-- The list of entries stands for their records. -/
theorem value_ofEntries (entries : List Entry) :
    (ofEntries entries).value = .list (entries.map Entry.value) := by
  have hentry (e : Entry) : e.report.value = e.value := by
    rw [Entry.value, ← value_ofRunners]
    rfl
  rw [ofEntries, value, values_eq_map, List.map_map]
  exact congrArg Value.list (List.map_congr_left fun e _ => hentry e)

end Report

end RunnerAtlas
