import RunnerAtlas.Proofs.Json.Decoding

set_option relaxedAutoImplicit false
set_option autoImplicit false

/-!
# Only JSON texts are decoded

What the decoder gives a value for spells a tree with that value. Both machines account for all that
they have read: the one for characters by the lexemes before and what has been begun, the one for
lexemes by the arrays and objects that are open. So the decoder and the grammar agree, and a text
spells one value at most.

## Main definitions

* `RunnerAtlas.Json.Spells` — characters spell lexemes, with blanks between them.
* `RunnerAtlas.Json.Lexer.Accounts` — the machine for characters stands for what it has read.
* `RunnerAtlas.Json.Reader.read`, `RunnerAtlas.Json.Reader.IsSound` — the lexemes that the other
  machine has read.

## Main results

* `RunnerAtlas.Json.Lexer.spells_of_run` — the lexemes that are read are those that are spelled.
* `RunnerAtlas.Json.Reader.lexemes_of_run` — the tree that is read has the lexemes that are read.
* `RunnerAtlas.Json.decode_eq_some_iff` — a text is decoded to the value of the tree that it spells.
-/

namespace RunnerAtlas.Json

open RunnerAtlas.Text

/-! ### Words -/

/-- A run of digits consists of the characters from which it is read. -/
lemma val_of_digits? {cs : List Char} {digits : Digits} (h : digits? cs = some digits) :
    digits.val = cs := by
  unfold digits? at h
  split_ifs at h
  exact congrArg Subtype.val (Option.some.inj h).symm

/-- What is read after the digits before a point accounts for all characters. -/
lemma chars_of_fraction? {cs rest : List Char} {fraction : Option Digits}
    (h : fraction? cs = some (fraction, rest)) :
    (fraction.elim [] fun digits => '.' :: digits.val) ++ rest = cs := by
  unfold fraction? at h
  split at h
  · obtain ⟨digits, hdigits, heq⟩ := Option.map_eq_some_iff.mp h
    obtain ⟨rfl, rfl⟩ := Prod.mk.inj heq
    rw [Option.elim_some, val_of_digits? hdigits, List.cons_append, List.takeWhile_append_dropWhile]
  · obtain ⟨rfl, rfl⟩ := Prod.mk.inj (Option.some.inj h)
    rfl

/-- The sign of an exponent and what follows it are all its characters. -/
lemma chars_exponentSign (cs : List Char) :
    (exponentSign cs).1.toList.map (if · then '-' else '+') ++ (exponentSign cs).2 = cs := by
  unfold exponentSign
  split <;> rfl

/-- An exponent consists of the characters from which it is read. -/
lemma chars_of_exponent? {cs : List Char} {e : Option Exponent} (h : exponent? cs = some e) :
    e.elim [] Exponent.chars = cs := by
  cases cs with
  | nil =>
    cases h
    rfl
  | cons c rest =>
    rw [exponent?] at h
    split_ifs at h with hletter
    obtain ⟨digits, hdigits, rfl⟩ := Option.map_eq_some_iff.mp h
    have hrest := chars_exponentSign rest
    rw [← val_of_digits? hdigits] at hrest
    rw [Option.elim_some, Exponent.chars, hrest]
    rcases hletter with rfl | rfl <;> rfl

/-- A number without its sign consists of the characters from which it is read. -/
lemma body_of_magnitude? {isNegative : Bool} {cs : List Char} {n : Number}
    (h : magnitude? isNegative cs = some n) : n.isNegative = isNegative ∧ n.body = cs := by
  obtain ⟨whole, hwhole, h⟩ := Option.bind_eq_some_iff.mp h
  obtain ⟨⟨fraction, rest⟩, hfraction, h⟩ := Option.bind_eq_some_iff.mp h
  obtain ⟨exponent, hexponent, h⟩ := Option.bind_eq_some_iff.mp h
  split_ifs at h
  obtain rfl := Option.some.inj h
  refine ⟨rfl, ?_⟩
  rw [Number.body, Number.rest]
  dsimp only
  rw [chars_of_exponent? hexponent, chars_of_fraction? hfraction, val_of_digits? hwhole,
    List.takeWhile_append_dropWhile]

/-- A number consists of the characters from which it is read. -/
lemma chars_of_number? {cs : List Char} {n : Number} (h : number? cs = some n) : n.chars = cs := by
  rw [Number.chars_eq]
  unfold number? at h
  split at h
  · obtain ⟨hsign, rfl⟩ := body_of_magnitude? h
    rw [hsign]
    rfl
  · obtain ⟨hsign, rfl⟩ := body_of_magnitude? h
    rw [hsign]
    rfl

/-- An atom consists of the characters from which it is read. -/
lemma chars_of_atom? {cs : List Char} {a : Atom} (h : atom? cs = some a) : a.chars = cs := by
  unfold atom? at h
  split_ifs at h with hnull htrue hfalse
  · obtain rfl := Option.some.inj h
    exact hnull.symm
  · obtain rfl := Option.some.inj h
    exact htrue.symm
  · obtain rfl := Option.some.inj h
    exact hfalse.symm
  · obtain ⟨n, hn, rfl⟩ := Option.map_eq_some_iff.mp h
    exact chars_of_number? hn

/-! ### Lexemes in characters -/

/-- Characters spell lexemes, with blanks before, between and after them. -/
inductive Spells : List Char → List Lexeme → Prop where
  /-- Nothing has been spelled. -/
  | nothing : Spells [] []
  /-- A blank comes next. -/
  | blank {cs : List Char} {ls : List Lexeme} (h : Spells cs ls) {c : Char} (hc : c ∈ blanks) :
    Spells (cs ++ [c]) ls
  /-- A lexeme comes next. -/
  | lexeme {cs : List Char} {ls : List Lexeme} (h : Spells cs ls) (l : Lexeme) :
    Spells (cs ++ l.chars) (ls ++ [l])

/-- Characters that spell lexemes are blanks, and then the lexemes with blanks after each. -/
lemma Spells.exists_parts {cs : List Char} {ls : List Lexeme} (h : Spells cs ls) :
    ∃ first parts, first ⊆ blanks ∧ (∀ part ∈ parts, part.2 ⊆ blanks) ∧
      parts.map Prod.fst = ls ∧ first ++ spelled parts = cs := by
  induction h with
  | nothing => exact ⟨[], [], List.nil_subset _, by simp, rfl, rfl⟩
  | @blank cs ls _ c hc ih =>
    obtain ⟨first, parts, hfirst, hparts, rfl, rfl⟩ := ih
    rcases List.eq_nil_or_concat parts with rfl | ⟨init, ⟨l, space⟩, rfl⟩
    · refine ⟨first ++ [c], [], ?_, by simp, rfl, by simp [spelled]⟩
      exact List.append_subset.mpr ⟨hfirst, by simpa using hc⟩
    · rw [List.concat_eq_append, List.forall_mem_append] at hparts
      have hspace : space ⊆ blanks := hparts.2 _ (List.mem_singleton_self _)
      refine ⟨first, init ++ [(l, space ++ [c])], hfirst, ?_, by simp, by simp [spelled]⟩
      refine List.forall_mem_append.mpr ⟨hparts.1, List.forall_mem_singleton.mpr ?_⟩
      exact List.append_subset.mpr ⟨hspace, by simpa using hc⟩
  | @lexeme cs ls _ l ih =>
    obtain ⟨first, parts, hfirst, hparts, rfl, rfl⟩ := ih
    refine ⟨first, parts ++ [(l, [])], hfirst, ?_, by simp, by simp [spelled]⟩
    exact List.forall_mem_append.mpr ⟨hparts, by simp⟩

/-- Four hexadecimal digits are the characters from which they are read. -/
lemma val_of_hex? {cs : List Char} {digits : Hex} (h : hex? cs = some digits) :
    digits.val = cs := by
  unfold hex? at h
  split_ifs at h
  exact congrArg Subtype.val (Option.some.inj h).symm

/-- A lexeme of one character consists of it. -/
lemma chars_of_mark? {c : Char} {l : Lexeme} (h : mark? c = some l) : l.chars = [c] := by
  unfold mark? at h
  split at h <;> cases h <;> rfl

/-! ### The machine for characters -/

/-- The characters of the first escape of a pair, if there is one. -/
def charsOfHigh (high : Option High) : List Char :=
  high.elim [] fun high => '\\' :: 'u' :: high.val.val

/-- The characters of what has been begun. -/
def Begun.chars : Begun → List Char
  | word cs => cs
  | string pieces => '"' :: charsOf pieces
  | escape pieces => '"' :: charsOf pieces ++ ['\\']
  | code pieces first cs => '"' :: charsOf pieces ++ charsOfHigh first ++ '\\' :: 'u' :: cs
  | high pieces first => '"' :: charsOf pieces ++ charsOfHigh (some first)
  | highEscape pieces first => '"' :: charsOf pieces ++ charsOfHigh (some first) ++ ['\\']

/-- One more piece of a string comes with its characters. -/
lemma charsOf_concat (pieces : List Piece) (p : Piece) :
    charsOf (pieces ++ [p]) = charsOf pieces ++ p.chars := by
  simp [charsOf]

/-- A letter after the start of an escape is one more character. -/
lemma chars_of_escaped {pieces : List Piece} {c : Char} {b : Begun}
    (h : escaped pieces c = some b) : b.chars = '"' :: charsOf pieces ++ ['\\', c] := by
  unfold escaped at h
  split_ifs at h with hu
  · obtain rfl := Option.some.inj h
    rw [hu]
    simp [Begun.chars, charsOfHigh]
  · obtain ⟨entry, hentry, rfl⟩ := Option.map_eq_some_iff.mp h
    have hletter : entry.val.1 = c := by simpa using List.find?_some hentry
    rw [Begun.chars, charsOf_concat, Piece.chars, hletter]
    rfl

/-- The digits of an escape by number are what follows its mark. -/
lemma chars_of_coded {pieces : List Piece} {high : Option High} {digits : Hex} {b : Begun}
    (h : coded pieces high digits = some b) :
    b.chars = '"' :: charsOf pieces ++ charsOfHigh high ++ '\\' :: 'u' :: digits.val := by
  unfold coded at h
  split at h
  · split_ifs at h
    obtain rfl := Option.some.inj h
    rw [Begun.chars, charsOf_concat]
    simp [Piece.chars, charsOfHigh]
  · split_ifs at h
    · obtain rfl := Option.some.inj h
      simp [Begun.chars, charsOfHigh]
    · obtain rfl := Option.some.inj h
      rw [Begun.chars, charsOf_concat]
      simp [Piece.chars, charsOfHigh]

/-- The digits that have been read of an escape by number are what follows its mark. -/
lemma chars_of_digitsRead {pieces : List Piece} {high : Option High} {cs : List Char} {b : Begun}
    (h : digitsRead pieces high cs = some b) :
    b.chars = '"' :: charsOf pieces ++ charsOfHigh high ++ '\\' :: 'u' :: cs := by
  unfold digitsRead at h
  split_ifs at h
  · obtain rfl := Option.some.inj h
    rfl
  · obtain ⟨digits, hdigits, h⟩ := Option.bind_eq_some_iff.mp h
    rw [chars_of_coded h, val_of_hex? hdigits]

namespace Lexer

/-- The machine stands for all characters that it has read. -/
def Accounts (cs : List Char) (s : Lexer) : Prop :=
  ∃ before, Spells before s.lexemes ∧ before ++ s.begun.elim [] Begun.chars = cs

/-- A character between lexemes is accounted for. -/
lemma accounts_start {cs : List Char} {ls : List Lexeme} (h : Spells cs ls) {c : Char} {s : Lexer}
    (hs : start ls c = some s) : Accounts (cs ++ [c]) s := by
  unfold start at hs
  split_ifs at hs with hblank hquote hletter
  · obtain rfl := Option.some.inj hs
    exact ⟨_, h.blank hblank, List.append_nil _⟩
  · obtain rfl := Option.some.inj hs
    exact ⟨_, h, by rw [hquote]; rfl⟩
  · obtain rfl := Option.some.inj hs
    exact ⟨_, h, rfl⟩
  · obtain ⟨l, hl, rfl⟩ := Option.map_eq_some_iff.mp hs
    exact ⟨_, chars_of_mark? hl ▸ h.lexeme l, List.append_nil _⟩

/-- What has been begun goes on by a character. -/
lemma accounts_goOn {before : List Char} {ls : List Lexeme} (h : Spells before ls) {b b' : Begun}
    {c : Char} (hchars : b'.chars = b.chars ++ [c]) :
    Accounts (before ++ b.chars ++ [c]) ⟨ls, some b'⟩ :=
  ⟨before, h, by rw [List.append_assoc, ← hchars]; rfl⟩

/-- A character in a string is accounted for. -/
lemma accounts_stringStep {before : List Char} {ls : List Lexeme} (h : Spells before ls)
    {pieces : List Piece} {c : Char} {s : Lexer} (hs : stringStep ls pieces c = some s) :
    Accounts (before ++ (Begun.string pieces).chars ++ [c]) s := by
  unfold stringStep at hs
  split_ifs at hs with hquote hslash hraw
  · obtain rfl := Option.some.inj hs
    refine ⟨_, h.lexeme (.atom (.string pieces)), ?_⟩
    simp [Lexeme.chars, Atom.chars, quoted, Begun.chars, hquote]
  · obtain rfl := Option.some.inj hs
    exact accounts_goOn h (by rw [hslash]; rfl)
  · obtain rfl := Option.some.inj hs
    exact accounts_goOn h (by rw [Begun.chars, charsOf_concat]; rfl)

/-- **A character is accounted for.** The machine stands for one more character after it has taken
it.

**Proof sketch.** The cases are those of what has been begun. A character begins, goes on with or
ends it; that which ends a word also stands between lexemes (`accounts_start`,
`accounts_stringStep`). -/
lemma accounts_step {cs : List Char} {s s' : Lexer} (h : Accounts cs s) {c : Char}
    (hs : s.step c = some s') : Accounts (cs ++ [c]) s' := by
  obtain ⟨ls, begun⟩ := s
  obtain ⟨before, hbefore, rfl⟩ := h
  unfold step at hs
  dsimp only at hs hbefore ⊢
  cases begun with
  | none =>
    rw [Option.elim_none, List.append_nil]
    exact accounts_start hbefore hs
  | some b =>
    rw [Option.elim_some]
    cases b with
    | word word =>
      dsimp only at hs
      split_ifs at hs
      · obtain rfl := Option.some.inj hs
        exact accounts_goOn hbefore rfl
      · obtain ⟨a, ha, hs⟩ := Option.bind_eq_some_iff.mp hs
        have hword : Spells (before ++ word) (ls ++ [.atom a]) :=
          chars_of_atom? ha ▸ hbefore.lexeme (.atom a)
        exact accounts_start hword hs
    | string pieces => exact accounts_stringStep hbefore hs
    | escape pieces =>
      obtain ⟨b', hb', rfl⟩ := Option.map_eq_some_iff.mp hs
      exact accounts_goOn hbefore (by rw [chars_of_escaped hb', Begun.chars]; simp)
    | code pieces high digits =>
      obtain ⟨b', hb', rfl⟩ := Option.map_eq_some_iff.mp hs
      exact accounts_goOn hbefore (by rw [chars_of_digitsRead hb', Begun.chars]; simp)
    | high pieces first =>
      dsimp only at hs
      split_ifs at hs with hslash
      obtain rfl := Option.some.inj hs
      exact accounts_goOn hbefore (by rw [hslash]; rfl)
    | highEscape pieces first =>
      dsimp only at hs
      split_ifs at hs with hu
      obtain rfl := Option.some.inj hs
      exact accounts_goOn hbefore (by rw [hu]; simp [Begun.chars])

/-- At the end of the characters, the lexemes are all that has been read. -/
lemma spells_of_finish {cs : List Char} {s : Lexer} (h : Accounts cs s) {ls : List Lexeme}
    (hs : s.finish = some ls) : Spells cs ls := by
  obtain ⟨before, hbefore, rfl⟩ := h
  unfold finish at hs
  split at hs
  · next hbegun =>
    obtain rfl := Option.some.inj hs
    rw [hbegun, Option.elim_none, List.append_nil]
    exact hbefore
  · next word hbegun =>
    obtain ⟨a, ha, rfl⟩ := Option.map_eq_some_iff.mp hs
    rw [hbegun, Option.elim_some, Begun.chars, ← chars_of_atom? ha]
    exact hbefore.lexeme (.atom a)
  · cases hs

/-- **Lexemes are those that are spelled.** The lexemes that are read from characters are spelled by
them.

**Proof sketch.** Induction on the characters, each of which is accounted for
(`accounts_step`). -/
theorem spells_of_run {cs rest : List Char} {s : Lexer} (h : Accounts cs s) {ls : List Lexeme}
    (hrun : s.run rest = some ls) : Spells (cs ++ rest) ls := by
  induction rest generalizing cs s with
  | nil =>
    rw [List.append_nil]
    exact spells_of_finish h hrun
  | cons c rest ih =>
    obtain ⟨s', hstep, hrun⟩ := Option.bind_eq_some_iff.mp hrun
    have hrest := ih (accounts_step h hstep) hrun
    rwa [List.append_assoc, List.singleton_append] at hrest

end Lexer

/-! ### The machine for lexemes -/

/-- Parts of which each is followed by a separator are parts with separators between them and one at
the end. -/
lemma flatMap_concat_separator {α : Type} (separator : α) (part : List α) (rest : List (List α)) :
    (part :: rest).flatMap (· ++ [separator]) =
      separated separator (part :: rest) ++ [separator] := by
  induction rest generalizing part with
  | nil => simp [separated]
  | cons next rest ih =>
    rw [List.flatMap_cons, ih next, separated_cons_cons, List.append_assoc, List.append_assoc]
    rfl

/-- Another part comes after a separator. -/
lemma separated_concat {α : Type} (separator : α) (parts : List (List α)) (part : List α) :
    separated separator (parts ++ [part]) = parts.flatMap (· ++ [separator]) ++ part := by
  cases parts with
  | nil => simp [separated]
  | cons first rest =>
    rw [flatMap_concat_separator, List.cons_append, separated, separated]
    simp

/-- Another item comes after those before it. -/
lemma Tree.lexemesOfItems_concat (items : List Tree) (t : Tree) :
    lexemesOfItems (items ++ [t]) = lexemesOfItems items ++ [t.lexemes] := by
  induction items with
  | nil => rfl
  | cons item rest ih => rw [List.cons_append, lexemesOfItems, lexemesOfItems, ih, List.cons_append]

/-- Another member comes after those before it. -/
lemma Tree.lexemesOfMembers_concat (members : List (List Piece × Tree)) (name : List Piece)
    (t : Tree) : lexemesOfMembers (members ++ [(name, t)]) =
      lexemesOfMembers members ++ [.atom (.string name) :: .colon :: t.lexemes] := by
  induction members with
  | nil => rfl
  | cons member rest ih =>
    rw [List.cons_append, lexemesOfMembers, lexemesOfMembers, ih, List.cons_append]

/-- The lexemes before the next item of an array. -/
def itemsRead (items : List Tree) : List Lexeme :=
  .opening .square :: (Tree.lexemesOfItems items).flatMap (· ++ [.comma])

/-- The lexemes before the next name of an object. -/
def membersRead (members : List (List Piece × Tree)) : List Lexeme :=
  .opening .curly :: (Tree.lexemesOfMembers members).flatMap (· ++ [.comma])

/-- The lexemes of the arrays and objects that are open. -/
def framesRead : List Frame → List Lexeme
  | [] => []
  | .array items :: frames => framesRead frames ++ itemsRead items
  | .object members name :: frames =>
    framesRead frames ++ membersRead members ++ [.atom (.string name), .colon]

namespace Reader

/-- The lexemes that have been read. -/
def read : Reader → List Lexeme
  | value frames => framesRead frames
  | firstItem frames => framesRead frames ++ itemsRead []
  | firstName frames => framesRead frames ++ membersRead []
  | nextName frames members => framesRead frames ++ membersRead members
  | colon frames members name =>
    framesRead frames ++ membersRead members ++ [.atom (.string name)]
  | afterItem frames items =>
    framesRead frames ++ .opening .square :: separated .comma (Tree.lexemesOfItems items)
  | afterMember frames members =>
    framesRead frames ++ .opening .curly :: separated .comma (Tree.lexemesOfMembers members)
  | done t => t.lexemes

/-- After an item or a member there is one. -/
def IsSound : Reader → Prop
  | afterItem _ items => items ≠ []
  | afterMember _ members => members ≠ []
  | _ => True

/-- A tree that has been read is given to what it is a part of. -/
lemma read_give (frames : List Frame) (t : Tree) :
    (give frames t).IsSound ∧ (give frames t).read = framesRead frames ++ t.lexemes := by
  cases frames with
  | nil => exact ⟨trivial, rfl⟩
  | cons frame frames =>
    cases frame with
    | array items =>
      refine ⟨by simp [give, IsSound], ?_⟩
      rw [give, read, Tree.lexemesOfItems_concat, separated_concat]
      simp [framesRead, itemsRead]
    | object members name =>
      refine ⟨by simp [give, IsSound], ?_⟩
      rw [give, read, Tree.lexemesOfMembers_concat, separated_concat]
      simp [framesRead, membersRead]

/-- The first lexeme of a value is accounted for. -/
lemma read_start {frames : List Frame} {l : Lexeme} {r : Reader} (h : start frames l = some r) :
    r.IsSound ∧ r.read = framesRead frames ++ [l] := by
  unfold start at h
  split at h
  · obtain rfl := Option.some.inj h
    exact read_give frames _
  · obtain rfl := Option.some.inj h
    exact ⟨trivial, rfl⟩
  · obtain rfl := Option.some.inj h
    exact ⟨trivial, rfl⟩
  · cases h

/-- Before another item come those before it, each with a comma. -/
lemma itemsRead_of_ne_nil {items : List Tree} (h : items ≠ []) :
    itemsRead items =
      .opening .square :: separated .comma (Tree.lexemesOfItems items) ++ [.comma] := by
  obtain ⟨item, rest, rfl⟩ := List.exists_cons_of_ne_nil h
  rw [itemsRead, Tree.lexemesOfItems, flatMap_concat_separator, List.cons_append]

/-- Before another name come the members before it, each with a comma. -/
lemma membersRead_of_ne_nil {members : List (List Piece × Tree)} (h : members ≠ []) :
    membersRead members =
      .opening .curly :: separated .comma (Tree.lexemesOfMembers members) ++ [.comma] := by
  obtain ⟨⟨name, t⟩, rest, rfl⟩ := List.exists_cons_of_ne_nil h
  rw [membersRead, Tree.lexemesOfMembers, flatMap_concat_separator, List.cons_append]

/-- **A lexeme is accounted for.** The machine has read one more lexeme after it has taken it.

**Proof sketch.** The cases are those of a step. What ends an array or object gives it to what it is
a part of (`read_give`), and what begins a value is accounted for by `read_start`. -/
lemma read_step {r r' : Reader} (hr : r.IsSound) {l : Lexeme} (h : r.step l = some r') :
    r'.IsSound ∧ r'.read = r.read ++ [l] := by
  unfold step at h
  -- the cases are in the order of the definition
  split at h
  · exact read_start h
  · next frames =>
    obtain rfl := Option.some.inj h
    have hgive := read_give frames (.array [])
    refine ⟨hgive.1, hgive.2.trans ?_⟩
    simp [read, itemsRead, Tree.lexemes, Tree.lexemesOfItems, separated]
  · exact read_start h
  · next frames =>
    obtain rfl := Option.some.inj h
    have hgive := read_give frames (.object [])
    refine ⟨hgive.1, hgive.2.trans ?_⟩
    simp [read, membersRead, Tree.lexemes, Tree.lexemesOfMembers, separated]
  · obtain rfl := Option.some.inj h
    exact ⟨trivial, rfl⟩
  · obtain rfl := Option.some.inj h
    exact ⟨trivial, rfl⟩
  · obtain rfl := Option.some.inj h
    refine ⟨trivial, ?_⟩
    simp [read, framesRead]
  · obtain rfl := Option.some.inj h
    refine ⟨trivial, ?_⟩
    rw [read, framesRead, itemsRead_of_ne_nil hr]
    simp [read]
  · next frames items =>
    obtain rfl := Option.some.inj h
    have hgive := read_give frames (.array items)
    refine ⟨hgive.1, hgive.2.trans ?_⟩
    simp [read, Tree.lexemes]
  · obtain rfl := Option.some.inj h
    refine ⟨trivial, ?_⟩
    rw [read, membersRead_of_ne_nil hr]
    simp [read]
  · next frames members =>
    obtain rfl := Option.some.inj h
    have hgive := read_give frames (.object members)
    refine ⟨hgive.1, hgive.2.trans ?_⟩
    simp [read, Tree.lexemes]
  · cases h

/-- **A tree has the lexemes from which it is read.**

**Proof sketch.** Induction on the lexemes, each of which is accounted for (`read_step`). -/
theorem lexemes_of_run {r : Reader} (hr : r.IsSound) {ls : List Lexeme} {t : Tree}
    (h : r.run ls = some t) : t.lexemes = r.read ++ ls := by
  induction ls generalizing r with
  | nil =>
    cases r with
    | done _ =>
      obtain rfl := Option.some.inj h
      exact (List.append_nil _).symm
    | _ => cases h
  | cons l ls ih =>
    obtain ⟨r', hstep, hrun⟩ := Option.bind_eq_some_iff.mp h
    obtain ⟨hr', hread⟩ := read_step hr hstep
    rw [ih hr' hrun, hread, List.append_assoc, List.singleton_append]

end Reader

/-- **The decoder and the grammar agree.** A text is decoded to a value exactly if it spells a tree
with that value.

**Proof sketch.** From what spells a tree its value is read (`decode_chars`). Conversely, the
lexemes that are read are spelled by the text (`Lexer.spells_of_run`), and they are those of the
tree that is read from them (`Reader.lexemes_of_run`). -/
theorem decode_eq_some_iff (cs : List Char) (v : Value) :
    decode cs = some v ↔ ∃ d : Text, d.chars = cs ∧ d.tree.value = v := by
  constructor
  · intro h
    obtain ⟨t, htree, rfl⟩ := Option.map_eq_some_iff.mp h
    obtain ⟨ls, hls, hrun⟩ := Option.bind_eq_some_iff.mp htree
    have hspells : Spells cs ls := Lexer.spells_of_run ⟨[], .nothing, rfl⟩ hls
    have hsound : (Reader.value []).IsSound := trivial
    have hlexemes : t.lexemes = ls := Reader.lexemes_of_run hsound hrun
    obtain ⟨first, parts, hfirst, hparts, hmap, rfl⟩ := hspells.exists_parts
    exact ⟨⟨t, first, parts, hfirst, hparts, hmap.trans hlexemes.symm⟩, rfl, rfl⟩
  · rintro ⟨d, rfl, rfl⟩
    exact decode_chars d

end RunnerAtlas.Json
