import RunnerAtlas.Loading
import RunnerAtlas.Proofs.Json.Nodes

set_option relaxedAutoImplicit false
set_option autoImplicit false

/-!
# JSON texts as documents

A file that holds a JSON text is read as a document. That gives the value which the text stands for
unless the text has one of the few things that the two formats treat differently: tabs between its
lexemes, numbers with an exponent that lacks a sign or comes without a fraction, characters that a
document may not hold or takes for the end of a line, and names that are too far from their colons.

## Main definitions

* `RunnerAtlas.Json.Text.IsPortable` — the texts without any of these.

## Main results

* `RunnerAtlas.Json.Text.document_of_portable` — a portable text is read as what it stands for.
* `RunnerAtlas.Json.Text.document_tab_and_exponent` — some texts that are not.
-/

namespace RunnerAtlas.Json

open Document Outcome RunnerAtlas.Text

/-! ### Line ends -/

/-- A carriage return that no line feed follows is written as one. -/
lemma normalise_return {rest : List Char} (h : rest.head? ≠ some '\n') :
    Lines.normalise ('\r' :: rest) = '\n' :: Lines.normalise rest := by
  cases rest with
  | nil => rfl
  | cons c rest =>
    have hc : c ≠ '\n' := by simpa using h
    rw [Lines.normalise]
    exact fun _ heq => hc (List.cons.inj heq).1

/-- A character that is no carriage return stays. -/
lemma normalise_cons {c : Char} (h : c ≠ '\r') (rest : List Char) :
    Lines.normalise (c :: rest) = c :: Lines.normalise rest := by
  rw [Lines.normalise]
  · exact fun _ hc _ => h hc
  · exact h

/-- A text that does not begin with a line feed is normalised on its own. -/
lemma normalise_append {tail : List Char} (h : tail.head? ≠ some '\n') (cs : List Char) :
    Lines.normalise (cs ++ tail) = Lines.normalise cs ++ Lines.normalise tail := by
  fun_induction Lines.normalise cs with
  | case1 => rfl
  | case2 rest ih => rw [List.cons_append, List.cons_append, Lines.normalise, ih]; rfl
  | case3 rest hrest ih =>
    have hhead : (rest ++ tail).head? ≠ some '\n' := by
      cases rest with
      | nil => exact h
      | cons c rest => simpa using fun hc => hrest rest (by rw [hc])
    rw [List.cons_append, normalise_return hhead, ih]
    rfl
  | case4 c rest _ hc ih => rw [List.cons_append, normalise_cons hc, ih]; rfl

/-- Characters other than carriage returns stay, whatever comes after them. -/
lemma normalise_append_of_ne {cs : List Char} (h : ∀ c ∈ cs, c ≠ '\r') (tail : List Char) :
    Lines.normalise (cs ++ tail) = cs ++ Lines.normalise tail := by
  induction cs with
  | nil => rfl
  | cons c cs ih =>
    rw [List.cons_append, normalise_cons (h c (by simp)), ih fun d hd => h d (by simp [hd])]
    rfl

/-- A text without carriage returns stays as it is. -/
lemma normalise_of_ne {cs : List Char} (h : ∀ c ∈ cs, c ≠ '\r') : Lines.normalise cs = cs := by
  have happend := normalise_append_of_ne h []
  rwa [Lines.normalise, List.append_nil] at happend

/-- Normalising adds line feeds only. -/
lemma mem_normalise {cs : List Char} {c : Char} (h : c ∈ Lines.normalise cs) :
    c = '\n' ∨ c ∈ cs := by
  fun_induction Lines.normalise cs with
  | case1 => cases h
  | case2 rest ih => exact (List.mem_cons.mp h).imp_right fun h => by simpa using .inr (ih h)
  | case3 rest _ ih =>
    rcases List.mem_cons.mp h with h | h
    · exact .inl h
    · exact (ih h).imp_right (List.mem_cons_of_mem _)
  | case4 d rest _ _ ih =>
    rcases List.mem_cons.mp h with h | h
    · exact .inr (by simp [h])
    · exact (ih h).imp_right (List.mem_cons_of_mem _)

/-- Whitespace without tabs is normalised to spaces and line feeds. -/
lemma normalise_subset {space : List Char} (hspace : space ⊆ blanks) (htab : '\t' ∉ space) :
    Lines.normalise space ⊆ [' ', '\n'] := by
  intro c hc
  rcases mem_normalise hc with rfl | hmem
  · simp
  · have hblank : c = ' ' ∨ c = '\t' ∨ c = '\n' ∨ c = '\r' := by
      simpa [blanks] using hspace hmem
    rcases hblank with rfl | rfl | rfl | rfl
    · simp
    · exact absurd hmem htab
    · simp
    · exact absurd hc (Lines.normalise_no_return space)

/-! ### Characters -/

/-- A document may hold the characters of a portable piece, none of which is a carriage return. -/
lemma Piece.allowed {p : Piece} (h : p.IsPortable) :
    ∀ c ∈ p.chars, isAllowed c = true ∧ c ≠ '\r' := by
  cases p with
  | raw c hraw =>
    have hreturn : c ≠ '\r' := by
      rintro rfl
      exact absurd hraw.1 (by decide)
    simpa [chars] using ⟨h.1, hreturn⟩
  | letter entry hentry =>
    have hall : ∀ entry ∈ letterEscapes, isAllowed entry.1 = true ∧ entry.1 ≠ '\r' := by decide
    exact List.forall_mem_cons.mpr ⟨by decide, List.forall_mem_singleton.mpr (hall entry hentry)⟩
  | code digits _ =>
    have hdigits : ∀ c ∈ digits.val, isAllowed c = true ∧ c ≠ '\r' := by
      intro c hc
      obtain ⟨hleast, hmost⟩ := code_of_hex (digits.2.2 c hc)
      refine ⟨?_, ?_⟩
      · simp [isAllowed, show 0x20 ≤ c.toNat by omega, show c.toNat ≤ 0x7e by omega]
      · rintro rfl
        exact absurd hleast (by decide)
    exact List.forall_mem_cons.mpr ⟨by decide, List.forall_mem_cons.mpr ⟨by decide, hdigits⟩⟩
  | pair high low _ _ => exact absurd h id

/-- A document may hold the characters of a portable atom, none of which is a carriage return. -/
lemma Atom.allowed {a : Atom} (h : a.IsPortable) :
    ∀ c ∈ a.chars, isAllowed c = true ∧ c ≠ '\r' := by
  cases a with
  | null => exact List.all_iff_forall_prop.mp (by decide)
  | truth b => cases b <;> exact List.all_iff_forall_prop.mp (by decide)
  | number n =>
    have hall : ∀ c ∈ numberChars, isAllowed c = true ∧ c ≠ '\r' :=
      List.all_iff_forall_prop.mp (by decide)
    exact fun c hc => hall c (n.chars_subset hc)
  | string pieces =>
    intro c hc
    rcases List.mem_append.mp hc with hc | hc
    · rcases List.mem_cons.mp hc with rfl | hc
      · decide
      · obtain ⟨p, hp, hc⟩ := List.mem_flatMap.mp hc
        exact Piece.allowed (h.1 p hp) c hc
    · rw [List.mem_singleton.mp hc]
      decide

/-- A document may hold the characters of a lexeme, if it is no atom or a portable one; none of them
is a carriage return. -/
lemma Lexeme.allowed {l : Lexeme} (h : ∀ a, l = .atom a → a.IsPortable) :
    ∀ c ∈ l.chars, isAllowed c = true ∧ c ≠ '\r' := by
  cases l with
  | atom a => exact Atom.allowed (h a rfl)
  | opening b => cases b <;> exact List.all_iff_forall_prop.mp (by decide)
  | closing b => cases b <;> exact List.all_iff_forall_prop.mp (by decide)
  | comma => exact List.all_iff_forall_prop.mp (by decide)
  | colon => exact List.all_iff_forall_prop.mp (by decide)

/-! ### Portable texts -/

/-- The texts that both formats read alike. -/
structure Text.IsPortable (d : Text) : Prop where
  /-- No tab stands before the first lexeme. -/
  no_tab_first : '\t' ∉ d.first
  /-- No tab stands after a lexeme. -/
  no_tab : ∀ part ∈ d.parts, '\t' ∉ part.2
  /-- The atoms are portable. -/
  portable : ∀ part ∈ d.parts, ∀ a, part.1 = .atom a → a.IsPortable
  /-- Each name is taken for a key. -/
  key_fits : ∀ before name space space' after,
    d.parts = before ++ (.atom (.string name), space) :: (.colon, space') :: after →
      KeyFits name space

/-- A lexeme with its whitespace normalised. -/
def normalisedPart (part : Lexeme × List Char) : Lexeme × List Char :=
  (part.1, Lines.normalise part.2)

/-- Normalising lexemes normalises the whitespace after each. -/
lemma normalise_spelled {parts : List (Lexeme × List Char)}
    (h : ∀ part ∈ parts, ∀ a, part.1 = .atom a → a.IsPortable) :
    Lines.normalise (spelled parts) = spelled (parts.map normalisedPart) ∧
      (spelled parts).head? ≠ some '\n' := by
  induction parts with
  | nil => exact ⟨rfl, by simp [spelled]⟩
  | cons part parts ih =>
    obtain ⟨hnormalise, hhead⟩ := ih fun p hp => h p (by simp [hp])
    have hchars := Lexeme.allowed (h part (by simp))
    have hspelled : spelled (part :: parts) = part.1.chars ++ (part.2 ++ spelled parts) := by
      simp [spelled]
    rw [hspelled]
    constructor
    · rw [normalise_append_of_ne (fun c hc => (hchars c hc).2), normalise_append hhead, hnormalise]
      simp [spelled, normalisedPart]
    · obtain ⟨c, cs, hl, hmark⟩ := part.1.exists_chars
      have hc : c ≠ '\n' := by
        rintro rfl
        exact absurd hmark.2.2.2 (by decide)
      simp [hl, hc]

namespace Text

variable {d : Text}

/-- A portable text with its whitespace normalised is clean. -/
lemma IsPortable.clean (h : d.IsPortable) : Clean (d.parts.map normalisedPart) where
  blank part hpart := by
    obtain ⟨p, hp, rfl⟩ := List.mem_map.mp hpart
    exact normalise_subset (d.after_subset p hp) (h.no_tab p hp)
  portable part hpart a ha := by
    obtain ⟨p, hp, rfl⟩ := List.mem_map.mp hpart
    exact h.portable p hp a ha
  key_fits before name space space' after hparts := by
    obtain ⟨before, rest, hbefore, rfl, hrest⟩ := List.map_eq_append_iff.mp hparts
    obtain ⟨⟨l, space⟩, rest, rfl, hl, hrest⟩ := List.map_eq_cons_iff.mp hrest
    obtain ⟨⟨l', space'⟩, after, rfl, hl', -⟩ := List.map_eq_cons_iff.mp hrest
    obtain ⟨rfl, rfl⟩ := Prod.mk.inj hl
    obtain ⟨rfl, rfl⟩ := Prod.mk.inj hl'
    have hfits := h.key_fits before name space space' after hbefore
    have hsame : Lines.normalise space = space :=
      normalise_of_ne fun c hc hreturn => hfits.same_line.2 (hreturn ▸ hc)
    rw [hsame]
    exact hfits

/-- The characters of a normalised portable text. -/
lemma IsPortable.normalise_chars (h : d.IsPortable) :
    Lines.normalise d.chars =
      Lines.normalise d.first ++ spelled (d.parts.map normalisedPart) := by
  obtain ⟨hnormalise, hhead⟩ := normalise_spelled h.portable
  rw [chars, normalise_append hhead, hnormalise]

/-- A document may hold a normalised portable text. -/
lemma IsPortable.allowed (h : d.IsPortable) :
    (Lines.normalise d.chars).all isAllowed = true := by
  have hblank : ∀ c ∈ [' ', '\n'], isAllowed c = true :=
    List.all_iff_forall_prop.mp (by decide)
  rw [h.normalise_chars, List.all_eq_true]
  intro c hc
  rcases List.mem_append.mp hc with hc | hc
  · exact hblank c (normalise_subset d.first_subset h.no_tab_first hc)
  · obtain ⟨part, hpart, hc⟩ := List.mem_flatMap.mp hc
    rcases List.mem_append.mp hc with hc | hc
    · exact (Lexeme.allowed (h.clean.portable part hpart) c hc).1
    · exact hblank c (h.clean.blank part hpart hc)

/-- A portable text composes the node of its tree. -/
lemma IsPortable.compose_eq (h : d.IsPortable) :
    compose (Lines.normalise d.chars) = .ok (some d.tree.node) := by
  have hlexemes : (d.parts.map normalisedPart).map Prod.fst = d.tree.lexemes := by
    rw [List.map_map, ← d.lexemes_eq]
    rfl
  have htokens := tokens_of_clean (normalise_subset d.first_subset h.no_tab_first) h.clean hlexemes
  obtain ⟨t, ts, ht, hstarts⟩ := d.tree.composes.starts
  have hnode := d.tree.composes.composes
    (show 2 * d.tree.tokens.length ≤ 6 * d.tree.tokens.length + 8 by omega) true false []
  rw [h.normalise_chars]
  rw [ht] at htokens hnode
  exact Document.compose_eq htokens hstarts hnode

/-- The atoms of a portable text are portable. -/
lemma IsPortable.atoms (h : d.IsPortable) : ∀ a, Lexeme.atom a ∈ d.tree.lexemes → a.IsPortable := by
  intro a ha
  rw [← d.lexemes_eq] at ha
  obtain ⟨part, hpart, heq⟩ := List.mem_map.mp ha
  exact h.portable part hpart a heq

/-- **Portable texts.** A file that holds a portable text is read as what the text stands for. -/
theorem document_of_portable (h : d.IsPortable) {files : Files} {path : Path} {folder : String}
    (hfile : files path = .file (Utf8.encode d.chars) folder) :
    Loading.document files path = .ok (d.tree.value, folder) := by
  have hread : Document.read (Utf8.encode d.chars) = .ok d.tree.value := by
    unfold Document.read
    rw [Utf8.decode?_encode]
    show readText (Lines.normalise d.chars) = _
    unfold readText
    rw [if_pos h.allowed, h.compose_eq]
    show d.tree.node.meaning.value.mapError Prod.snd = _
    rw [d.tree.value_meaning h.atoms]
    rfl
  unfold Loading.document
  rw [hfile]
  dsimp only
  rw [hread]

/-- One digit. -/
def digit (c : Char) (h : Digit.isPlain c = true) : Digits := ⟨[c], by simp, by simpa using h⟩

/-- A name with escapes. -/
def sizeName : List Piece :=
  [.raw 's' (by decide), .letter ('/', '/') (by decide),
    .code ⟨"007a".toList, by decide, List.all_iff_forall_prop.mp (by decide)⟩ (by decide)]

/-- A number with a fraction and a signed exponent. -/
def sizeNumber : Number :=
  ⟨true, digit '1' rfl, some (digit '5' rfl), some ⟨false, some false, digit '3' rfl⟩, by decide⟩

/-- An object with one member, at the end of a line. -/
def sizeText : Text where
  tree := .object [(sizeName, .atom (.number sizeNumber))]
  first := []
  parts := [(.opening .curly, []), (.atom (.string sizeName), [' ']), (.colon, [' ']),
    (.atom (.number sizeNumber), []), (.closing .curly, ['\r', '\n'])]
  first_subset := by decide
  after_subset := by decide
  lexemes_eq := rfl

/-- The object is portable. -/
lemma isPortable_sizeText : sizeText.IsPortable where
  no_tab_first := by decide
  no_tab := by decide
  portable part hpart a ha := by
    have hname : (Atom.string sizeName).IsPortable := by
      refine ⟨?_, by simp [KeepsLines, sizeName, Piece.isSeparator, Piece.isSpace]⟩
      simp [sizeName, Piece.IsPortable, isAllowed]
    have hnumber : (Atom.number sizeNumber).IsPortable :=
      ⟨by simp [sizeNumber], by simp [sizeNumber]⟩
    simp only [sizeText, List.mem_cons, List.not_mem_nil, or_false] at hpart
    rcases hpart with rfl | rfl | rfl | rfl | rfl <;> cases ha
    · exact hname
    · exact hnumber
  key_fits before name space space' after h := by
    rcases before with _ | ⟨_, _ | ⟨_, _ | ⟨_, _ | ⟨_, _ | ⟨_, before⟩⟩⟩⟩⟩ <;> simp [sizeText] at h
    obtain ⟨-, ⟨rfl, rfl⟩, rfl, rfl⟩ := h
    exact ⟨by decide, by decide, by decide⟩

/-- A name with escapes, whitespace around a colon, a number with an exponent and a line end of two
characters are read as in JSON. -/
theorem document_of_portable_size :
    sizeText.IsPortable ∧
    sizeText.chars = "\x7b\"s\\/\\u007a\" : -1.5e+3\x7d\r\n".toList ∧
    Loading.document (fun _ => .file (Utf8.encode sizeText.chars) "app") (.ofText "app.json") =
      .ok (.map [(.str "s/z", .float (.ofDecimal true 15 2))], "app") := by
  refine ⟨isPortable_sizeText, by decide, ?_⟩
  have hvalue : sizeText.tree.value = .map [(.str "s/z", .float (.ofDecimal true 15 2))] := by rfl
  rw [← hvalue]
  exact document_of_portable isPortable_sizeText rfl

/-- A text with a tab between two lexemes. -/
def tabText : Text where
  tree := .array [.atom (.truth true)]
  first := []
  parts := [(.opening .square, ['\t']), (.atom (.truth true), []), (.closing .square, [])]
  first_subset := by decide
  after_subset := by decide
  lexemes_eq := rfl

/-- A number whose exponent comes without sign and without a fraction. -/
def exponentNumber : Number :=
  ⟨false, digit '1' rfl, none, some ⟨false, none, digit '5' rfl⟩, by decide⟩

/-- A text of this number. -/
def exponentText : Text where
  tree := .atom (.number exponentNumber)
  first := []
  parts := [(.atom (.number exponentNumber), [])]
  first_subset := by decide
  after_subset := by decide
  lexemes_eq := rfl

/-- **Texts that are not portable.** A JSON text with a tab between its lexemes is refused, and a
number whose exponent has no sign is not read as what it stands for. -/
theorem document_tab_and_exponent :
    (tabText.chars = "[\ttrue]".toList ∧ tabText.tree.value = .list [.bool true] ∧
      ∀ result, Loading.document (fun _ => .file (Utf8.encode tabText.chars) "app")
        (.ofText "app.json") ≠ .ok result) ∧
    (exponentText.chars = "1e5".toList ∧
      exponentText.tree.value = .float (.ofDecimal false 1 5) ∧
      ∀ folder, Loading.document (fun _ => .file (Utf8.encode exponentText.chars) "app")
        (.ofText "app.json") ≠ .ok (exponentText.tree.value, folder)) := by
  refine ⟨⟨by decide, by rfl, fun result h => ?_⟩, by decide, by rfl, fun folder h => ?_⟩
  · have hnone : (Loading.document (fun _ => .file (Utf8.encode tabText.chars) "app")
        (.ofText "app.json")).toOption.isNone = true := by decide +kernel
    rw [h] at hnone
    cases hnone
  · have hkind : ((Loading.document (fun _ => .file (Utf8.encode exponentText.chars) "app")
        (.ofText "app.json")).toOption.map fun result => result.1.kind) = some "str" := by
      decide +kernel
    rw [h] at hkind
    have hsame : "float" = "str" := Option.some.inj hkind
    exact absurd hsame (by decide)

end Text

end RunnerAtlas.Json
