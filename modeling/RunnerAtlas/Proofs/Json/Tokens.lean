import RunnerAtlas.Proofs.Document.Scanning
import RunnerAtlas.Proofs.Json.Numbers
import RunnerAtlas.Proofs.Json.Strings

set_option relaxedAutoImplicit false
set_option autoImplicit false

/-!
# Tokens of a JSON text

A JSON text whose whitespace consists of spaces and line feeds is cut into the tokens of its tree:
those of flow collections and scalars, with the tokens of a key and its value around each name. That
a name is a key shows only at the colon after it, so the colon has to follow on the same line and
not too far away.

## Main definitions

* `RunnerAtlas.Json.Tree.tokens` — the tokens of a tree.
* `RunnerAtlas.Json.Lexed` — lexemes and the tokens that they give.
* `RunnerAtlas.Json.KeyFits` — a name with the whitespace before its colon that is taken for a key.
* `RunnerAtlas.Json.Clean` — lexemes with whitespace after them that both formats read alike.

## Main results

* `RunnerAtlas.Json.lexed_tree` — the lexemes of a tree give its tokens.
* `RunnerAtlas.Json.run_of_lexed` — the scanner gives the tokens of clean lexemes.
-/

namespace RunnerAtlas.Json

open Document RunnerAtlas.Text

/-! ### Tokens -/

/-- The token of an atom: only strings are quoted. -/
def Atom.token : Atom → Token
  | .string pieces => .scalar (textOf pieces) false
  | a => .scalar (String.ofList a.chars) true

/-- The token that starts an array or object. -/
def Bracket.first : Bracket → Token
  | square => .flowSequence
  | curly => .flowMapping

/-- The token that ends an array or object. -/
def Bracket.last : Bracket → Token
  | square => .flowSequenceEnd
  | curly => .flowMappingEnd

mutual

/-- The tokens of a tree. -/
def Tree.tokens : Tree → List Token
  | .atom a => [a.token]
  | .array items =>
    .flowSequence :: separated .flowEntry (Tree.tokensOfItems items) ++ [.flowSequenceEnd]
  | .object members =>
    .flowMapping :: separated .flowEntry (Tree.tokensOfMembers members) ++ [.flowMappingEnd]

/-- The tokens of each item. -/
def Tree.tokensOfItems : List Tree → List (List Token)
  | [] => []
  | item :: rest => item.tokens :: Tree.tokensOfItems rest

/-- The tokens of each member. -/
def Tree.tokensOfMembers : List (List Piece × Tree) → List (List Token)
  | [] => []
  | (name, item) :: rest =>
    (.key :: .scalar (textOf name) false :: .value :: item.tokens) :: Tree.tokensOfMembers rest

end

/-! ### Lexemes and their tokens -/

/-- What may come after an atom inside a number of arrays and objects: nothing, or inside any of
them a comma or the end of one. -/
def EndsAtom (depth : Nat) : List Lexeme → Prop
  | [] => True
  | .comma :: _ => 0 < depth
  | .closing _ :: _ => 0 < depth
  | _ => False

/-- Lexemes inside a number of arrays and objects and the tokens that they give. A name may come
where a key may start. -/
inductive Lexed : Nat → Bool → List Lexeme → List Token → Prop where
  /-- No lexemes are left. -/
  | done {isStart : Bool} : Lexed 0 isStart [] []
  /-- An array or object starts. -/
  | opening {depth : Nat} {isStart : Bool} {ls : List Lexeme} {ts : List Token} (b : Bracket)
    (hrest : Lexed (depth + 1) true ls ts) : Lexed depth isStart (.opening b :: ls) (b.first :: ts)
  /-- An array or object ends. -/
  | closing {depth : Nat} {isStart : Bool} {ls : List Lexeme} {ts : List Token} (b : Bracket)
    (hrest : Lexed depth false ls ts) : Lexed (depth + 1) isStart (.closing b :: ls) (b.last :: ts)
  /-- An item or member is followed by another one. -/
  | comma {depth : Nat} {isStart : Bool} {ls : List Lexeme} {ts : List Token}
    (hrest : Lexed (depth + 1) true ls ts) :
    Lexed (depth + 1) isStart (.comma :: ls) (.flowEntry :: ts)
  /-- An atom. -/
  | atom {depth : Nat} {isStart : Bool} {ls : List Lexeme} {ts : List Token} (a : Atom)
    (hends : EndsAtom depth ls) (hrest : Lexed depth false ls ts) :
    Lexed depth isStart (.atom a :: ls) (a.token :: ts)
  /-- The name of a member. -/
  | name {depth : Nat} {ls : List Lexeme} {ts : List Token} (name : List Piece)
    (hrest : Lexed (depth + 1) false ls ts) :
    Lexed (depth + 1) true (.atom (.string name) :: .colon :: ls)
      (.key :: .scalar (textOf name) false :: .value :: ts)

section

variable {α : Type} (lexemes : α → List Lexeme) (tokens : α → List Token) {depth : Nat}

/-- What is left of a list of parts in an array or object: each part comes after a comma, and the
end of the list follows. -/
lemma lexed_rest (b : Bracket) {ls : List Lexeme} {ts : List Token}
    (hafter : Lexed depth false ls ts) : ∀ parts : List α,
      (∀ part ∈ parts, ∀ ls ts, EndsAtom (depth + 1) ls → Lexed (depth + 1) false ls ts →
        Lexed (depth + 1) true (lexemes part ++ ls) (tokens part ++ ts)) →
      EndsAtom (depth + 1) ((parts.map lexemes).flatMap (.comma :: ·) ++ .closing b :: ls) ∧
      Lexed (depth + 1) false ((parts.map lexemes).flatMap (.comma :: ·) ++ .closing b :: ls)
        ((parts.map tokens).flatMap (.flowEntry :: ·) ++ b.last :: ts)
  | [], _ => ⟨Nat.succ_pos _, .closing b hafter⟩
  | part :: parts, h => by
    obtain ⟨hends, hrest⟩ := lexed_rest b hafter parts fun p hp => h p (by simp [hp])
    have hpart := h part (by simp) _ _ hends hrest
    exact ⟨Nat.succ_pos _, by simpa using Lexed.comma hpart⟩

/-- The parts of an array or object give their tokens if each part does. -/
lemma lexed_separated (b : Bracket) {ls : List Lexeme} {ts : List Token}
    (hafter : Lexed depth false ls ts) (parts : List α)
    (h : ∀ part ∈ parts, ∀ ls ts, EndsAtom (depth + 1) ls → Lexed (depth + 1) false ls ts →
      Lexed (depth + 1) true (lexemes part ++ ls) (tokens part ++ ts)) :
    Lexed (depth + 1) true (separated .comma (parts.map lexemes) ++ .closing b :: ls)
      (separated .flowEntry (parts.map tokens) ++ b.last :: ts) := by
  cases parts with
  | nil => exact .closing b hafter
  | cons part parts =>
    obtain ⟨hends, hrest⟩ := lexed_rest lexemes tokens b hafter parts
      fun p hp => h p (by simp [hp])
    simpa [separated] using h part (by simp) _ _ hends hrest

end

namespace Tree

/-- The lexemes of each item. -/
lemma lexemesOfItems_eq (items : List Tree) : lexemesOfItems items = items.map lexemes := by
  induction items with
  | nil => rfl
  | cons item rest ih => rw [lexemesOfItems, ih, List.map_cons]

/-- The tokens of each item. -/
lemma tokensOfItems_eq (items : List Tree) : tokensOfItems items = items.map tokens := by
  induction items with
  | nil => rfl
  | cons item rest ih => rw [tokensOfItems, ih, List.map_cons]

/-- The lexemes of each member. -/
lemma lexemesOfMembers_eq (members : List (List Piece × Tree)) : lexemesOfMembers members =
    members.map fun m => .atom (.string m.1) :: .colon :: m.2.lexemes := by
  induction members with
  | nil => rfl
  | cons m rest ih => rw [lexemesOfMembers, ih, List.map_cons]

/-- The tokens of each member. -/
lemma tokensOfMembers_eq (members : List (List Piece × Tree)) : tokensOfMembers members =
    members.map fun m => .key :: .scalar (textOf m.1) false :: .value :: m.2.tokens := by
  induction members with
  | nil => rfl
  | cons m rest ih => rw [tokensOfMembers, ih, List.map_cons]

mutual

/-- **Tokens of a tree.** The lexemes of a tree give its tokens wherever an atom may stand. -/
theorem lexed : (t : Tree) → ∀ {depth : Nat} {isStart : Bool} {ls : List Lexeme} {ts : List Token},
    EndsAtom depth ls → Lexed depth false ls ts →
      Lexed depth isStart (t.lexemes ++ ls) (t.tokens ++ ts)
  | .atom a => fun hends hafter => by
    rw [lexemes, tokens]
    exact .atom a hends hafter
  | .array items => fun _ hafter => by
    rw [lexemes, tokens, lexemesOfItems_eq, tokensOfItems_eq, List.append_assoc, List.append_assoc]
    exact .opening .square (lexed_separated _ _ .square hafter items
      fun item hitem _ _ hends hrest => lexed_items items item hitem hends hrest)
  | .object members => fun _ hafter => by
    rw [lexemes, tokens, lexemesOfMembers_eq, tokensOfMembers_eq, List.append_assoc,
      List.append_assoc]
    exact .opening .curly (lexed_separated _ _ .curly hafter members
      fun m hm _ _ hends hrest => .name m.1 (lexed_members members m hm hends hrest))

/-- The lexemes of each item give its tokens. -/
theorem lexed_items : (items : List Tree) → ∀ item ∈ items, ∀ {depth : Nat} {isStart : Bool}
    {ls : List Lexeme} {ts : List Token}, EndsAtom depth ls → Lexed depth false ls ts →
      Lexed depth isStart (item.lexemes ++ ls) (item.tokens ++ ts)
  | [] => by simp
  | item :: rest => List.forall_mem_cons.mpr ⟨item.lexed, lexed_items rest⟩

/-- The lexemes of each member's value give its tokens. -/
theorem lexed_members : (members : List (List Piece × Tree)) → ∀ m ∈ members, ∀ {depth : Nat}
    {isStart : Bool} {ls : List Lexeme} {ts : List Token}, EndsAtom depth ls →
      Lexed depth false ls ts → Lexed depth isStart (m.2.lexemes ++ ls) (m.2.tokens ++ ts)
  | [] => by simp
  | (_, item) :: rest => List.forall_mem_cons.mpr ⟨item.lexed, lexed_members rest⟩

end

end Tree

/-! ### Lexemes that both formats read alike -/

/-- The atoms that both formats read alike. -/
def Atom.IsPortable : Atom → Prop
  | .number n => n.IsPortable
  | .string pieces => (∀ p ∈ pieces, p.IsPortable) ∧ KeepsLines pieces
  | _ => True

/-- A name with the whitespace before its colon that is taken for a key: both lie on one line and
are not too long. -/
structure KeyFits (name : List Piece) (space : List Char) : Prop where
  /-- The whitespace ends no line. -/
  same_line : '\n' ∉ space ∧ '\r' ∉ space
  /-- The name ends no line. -/
  not_separator : ∀ p ∈ name, p.isSeparator = false
  /-- The colon comes soon enough. -/
  length_le : (quoted name).length + space.length ≤ Scanner.maxKeyLength

/-- Lexemes with whitespace after them that both formats read alike. -/
structure Clean (parts : List (Lexeme × List Char)) : Prop where
  /-- The whitespace consists of spaces and line feeds. -/
  blank : ∀ part ∈ parts, part.2 ⊆ [' ', '\n']
  /-- The atoms are portable. -/
  portable : ∀ part ∈ parts, ∀ a, part.1 = .atom a → a.IsPortable
  /-- Each name is taken for a key. -/
  key_fits : ∀ before name space space' after,
    parts = before ++ (.atom (.string name), space) :: (.colon, space') :: after →
      KeyFits name space

/-- What comes after a clean lexeme is clean if all is. -/
lemma Clean.tail {part : Lexeme × List Char} {parts : List (Lexeme × List Char)}
    (h : Clean (part :: parts)) : Clean parts where
  blank p hp := h.blank p (List.mem_cons_of_mem _ hp)
  portable p hp := h.portable p (List.mem_cons_of_mem _ hp)
  key_fits before name space space' after hparts :=
    h.key_fits (part :: before) name space space' after (by rw [hparts]; rfl)

/-! ### Characters of lexemes -/

/-- A number begins a plain scalar. -/
lemma startsWord_number (n : Number) : Scanner.StartsWord n.chars := by
  obtain ⟨d, ds, -, hd, -, hbody⟩ := n.exists_body
  have hends : endsWord (some d) = false := by
    have hall : ∀ d ∈ Pattern.digits, endsWord (some d) = false :=
      List.all_iff_forall_prop.mp (by decide)
    exact hall d hd
  rw [Number.chars_eq, hbody]
  cases n.isNegative with
  | true => exact .minus _ hends (ne_sign_of_mem_digits hd).1
  | false =>
    have hall : ∀ d ∈ Pattern.digits, d ∉ '.' :: indicators :=
      List.all_iff_forall_prop.mp (by decide)
    exact .char _ hends (hall d hd)

/-- An atom that is no string is a word. -/
lemma Atom.word {a : Atom} (h : ∀ pieces, a ≠ .string pieces) :
    Scanner.StartsWord a.chars ∧ ∀ c ∈ a.chars, isWordChar c = true := by
  cases a with
  | null =>
    exact ⟨.char _ (by decide) (by decide), List.all_iff_forall_prop.mp (by decide)⟩
  | truth b =>
    cases b <;>
      exact ⟨.char _ (by decide) (by decide), List.all_iff_forall_prop.mp (by decide)⟩
  | number n =>
    exact ⟨startsWord_number n,
      fun c hc => (plain_of_mem_numberChars (n.chars_subset hc)).2.2.2.2.2⟩
  | string pieces => exact absurd rfl (h pieces)

/-- A lexeme begins with a character that stands for itself after blanks. -/
lemma Lexeme.exists_chars (l : Lexeme) : ∃ c cs, l.chars = c :: cs ∧ Scanner.IsMark c := by
  have hclosed : ∀ c ∈ ['[', ']', '\x7b', '\x7d', ',', ':', '"', 'n', 't', 'f'],
      Scanner.IsMark c := by
    unfold Scanner.IsMark
    exact List.all_iff_forall_prop.mp (by decide)
  cases l with
  | atom a =>
    cases a with
    | null => exact ⟨'n', _, rfl, hclosed _ (by decide)⟩
    | truth b => cases b <;> exact ⟨_, _, rfl, hclosed _ (by decide)⟩
    | string pieces => exact ⟨'"', _, rfl, hclosed _ (by decide)⟩
    | number n =>
      have hall : ∀ c ∈ '-' :: Pattern.digits, Scanner.IsMark c := by
        unfold Scanner.IsMark
        exact List.all_iff_forall_prop.mp (by decide)
      obtain ⟨d, ds, -, hd, -, hbody⟩ := n.exists_body
      show ∃ c cs, n.chars = c :: cs ∧ _
      rw [Number.chars_eq, hbody]
      cases n.isNegative with
      | true => exact ⟨_, _, rfl, hall _ (by simp)⟩
      | false => exact ⟨_, _, rfl, hall _ (by simp [hd])⟩
  | opening b => cases b <;> exact ⟨_, _, rfl, hclosed _ (by decide)⟩
  | closing b => cases b <;> exact ⟨_, _, rfl, hclosed _ (by decide)⟩
  | comma => exact ⟨_, _, rfl, hclosed _ (by decide)⟩
  | colon => exact ⟨_, _, rfl, hclosed _ (by decide)⟩

/-- A plain scalar ends where an atom does. -/
lemma EndsAtom.endsWords {depth : Nat} {parts : List (Lexeme × List Char)}
    (h : EndsAtom depth (parts.map Prod.fst)) : EndsWords (decide (0 < depth)) (spelled parts) := by
  match parts with
  | [] => trivial
  | (.comma, space) :: parts => exact ⟨decide_eq_true h, .inl rfl⟩
  | (.closing .square, space) :: parts => exact ⟨decide_eq_true h, .inr (.inl rfl)⟩
  | (.closing .curly, space) :: parts => exact ⟨decide_eq_true h, .inr (.inr rfl)⟩

/-- Hexadecimal digits lie between zero and the letter for fifteen. -/
lemma code_of_hex {c : Char} (h : (Digit.plainValue? 16 c).isSome = true) :
    0x30 ≤ c.toNat ∧ c.toNat ≤ 0x66 := by
  unfold Digit.plainValue? at h
  dsimp only at h
  split_ifs at h with hdigit hlower hupper
  · exact ⟨Char.le_def.mp hdigit.1, Nat.le_trans (Char.le_def.mp hdigit.2) (by decide)⟩
  · exact ⟨Nat.le_trans (by decide) (Char.le_def.mp hlower.1), Char.le_def.mp hlower.2⟩
  · exact ⟨Nat.le_trans (by decide) (Char.le_def.mp hupper.1),
      Nat.le_trans (Char.le_def.mp hupper.2) (by decide)⟩
  · cases h

/-- No hexadecimal digit ends a line. -/
lemma isBreak_of_hex {c : Char} (h : (Digit.plainValue? 16 c).isSome = true) :
    isBreak c = false := by
  have hcode := code_of_hex h
  by_contra hbreak
  have hc : isBreak c = true := by simpa using hbreak
  simp only [isBreak, Bool.or_eq_true, beq_iff_eq] at hc
  rcases hc with ((rfl | rfl) | rfl) | rfl <;> exact absurd hcode (by decide)

/-- No line ends inside a portable piece that is no separator. -/
lemma isBreak_of_mem_chars {p : Piece} (hp : p.IsPortable) (hseparator : p.isSeparator = false) :
    ∀ c ∈ p.chars, isBreak c = false := by
  cases p with
  | raw c h =>
    have hother : c ≠ '\u2028' ∧ c ≠ '\u2029' := by simpa [Piece.isSeparator] using hseparator
    have hnewline : c ≠ '\n' := by
      rintro rfl
      exact absurd h.1 (by decide)
    simpa [Piece.chars, isBreak, hnewline, hother] using hp.2
  | letter entry h =>
    have hall : ∀ entry ∈ letterEscapes, isBreak entry.1 = false := by decide
    simpa [Piece.chars, isBreak] using hall entry h
  | code digits _ =>
    have hdigits : ∀ c ∈ digits.val, isBreak c = false :=
      fun c hc => isBreak_of_hex (digits.2.2 c hc)
    exact List.forall_mem_cons.mpr ⟨rfl, List.forall_mem_cons.mpr ⟨rfl, hdigits⟩⟩
  | pair high low _ _ => exact absurd hp id

/-- No line ends inside a portable string without separators. -/
lemma isBreak_of_mem_quoted {ps : List Piece} (hps : ∀ p ∈ ps, p.IsPortable)
    (hseparator : ∀ p ∈ ps, p.isSeparator = false) : ∀ c ∈ quoted ps, isBreak c = false := by
  intro c hc
  rcases List.mem_append.mp hc with hc | hc
  · rcases List.mem_cons.mp hc with rfl | hc
    · rfl
    · obtain ⟨p, hp, hc⟩ := List.mem_flatMap.mp hc
      exact isBreak_of_mem_chars (hps p hp) (hseparator p hp) c hc
  · rw [List.mem_singleton.mp hc]
    rfl

/-! ### Steps of the scanner -/

/-- The scanner stands before lexemes, outside block collections and inside a number of flow
collections. -/
structure Before (s : Scanner) (depth : Nat) (isStart : Bool)
    (parts : List (Lexeme × List Char)) : Prop where
  /-- No block collection is open. -/
  calm : s.IsCalm depth
  /-- A key may start here. -/
  allowsKey : isStart = true → s.allowsKey = true
  /-- At most blanks stand before the lexemes. -/
  exists_rest : ∃ w, w ⊆ [' ', '\n'] ∧ s.feed.rest = w ++ spelled parts

section

variable {s : Scanner} {depth : Nat} {isStart : Bool} {l : Lexeme} {space : List Char}
  {parts : List (Lexeme × List Char)}

/-- The next token is that of the next lexeme. -/
lemma Before.exists_step (h : Before s depth isStart ((l, space) :: parts)) :
    ∃ (s₁ : Scanner) (c : Char) (cs : List Char), l.chars = c :: cs ∧ s₁.IsCalm depth ∧
      s₁.tokens = s.tokens ∧ s₁.feed.rest = l.chars ++ (space ++ spelled parts) ∧
      (isStart = true → s₁.allowsKey = true) ∧ s.step = (s₁.tokenAt c).map (·, false) := by
  obtain ⟨c, cs, hl, hmark⟩ := l.exists_chars
  obtain ⟨w, hw, hrest⟩ := h.exists_rest
  have hspelled : spelled ((l, space) :: parts) = c :: (cs ++ (space ++ spelled parts)) := by
    simp [spelled, hl]
  rw [hspelled] at hrest
  obtain ⟨s₁, hcalm, htokens, hfeed, hallows, -, hstep⟩ := h.calm.exists_step hw hmark hrest
  refine ⟨s₁, c, cs, hl, hcalm, htokens, ?_, fun hstart => hallows (h.allowsKey hstart), hstep⟩
  rw [hfeed, s.feed.rest_advanceBy_length hrest, hl]
  rfl

/-- A step takes a lexeme whose token is pushed for its characters. -/
lemma Before.exists_of_pushed {depth' : Nat} {isStart' : Bool} {t : Token}
    (h : Before s depth isStart ((l, space) :: parts)) (hspace : space ⊆ [' ', '\n'])
    (htoken : ∀ (s₁ : Scanner) (c : Char) (cs : List Char), l.chars = c :: cs → s₁.IsCalm depth →
      s₁.feed.rest = c :: (cs ++ (space ++ spelled parts)) →
      ∃ s', s₁.tokenAt c = .ok s' ∧ Scanner.Pushed s₁ s' depth' t l.chars.length ∧
        (isStart' = true → s'.allowsKey = true)) :
    ∃ s', s.step = .ok (s', false) ∧ s'.tokens = t :: s.tokens ∧
      Before s' depth' isStart' parts := by
  obtain ⟨s₁, c, cs, hl, hcalm, htokens, hrest, -, hstep⟩ := h.exists_step
  obtain ⟨s', hat, hpushed, hallows⟩ := htoken s₁ c cs hl hcalm (by rw [hrest, hl]; rfl)
  refine ⟨s', by rw [hstep, hat]; rfl, by rw [hpushed.tokens_eq, htokens], hpushed.calm, hallows,
    space, hspace, ?_⟩
  rw [hpushed.feed_eq, Feed.rest_advanceBy_length _ hrest]

/-- An array or object starts. -/
lemma Before.exists_opening {b : Bracket}
    (h : Before s depth isStart ((.opening b, space) :: parts))
    (hspace : space ⊆ [' ', '\n']) :
    ∃ s', s.step = .ok (s', false) ∧ s'.tokens = b.first :: s.tokens ∧
      Before s' (depth + 1) true parts :=
  h.exists_of_pushed hspace fun s₁ c cs hl hcalm hrest => by
    obtain ⟨s', hopen, hpushed, hallows⟩ := hcalm.exists_openFlow b.first
    refine ⟨s', ?_, by cases b <;> exact hpushed, fun _ => hallows⟩
    rw [← hopen]
    cases b <;> cases hl <;> exact Scanner.tokenAt_mark hrest (by decide)

/-- An array or object ends. -/
lemma Before.exists_closing {b : Bracket}
    (h : Before s (depth + 1) isStart ((.closing b, space) :: parts))
    (hspace : space ⊆ [' ', '\n']) :
    ∃ s', s.step = .ok (s', false) ∧ s'.tokens = b.last :: s.tokens ∧
      Before s' depth false parts :=
  h.exists_of_pushed hspace fun s₁ c cs hl hcalm hrest => by
    obtain ⟨s', hclose, hpushed⟩ := hcalm.exists_closeFlow b.last
    refine ⟨s', ?_, by cases b <;> exact hpushed, fun h => by cases h⟩
    rw [← hclose]
    cases b <;> cases hl <;> exact Scanner.tokenAt_mark hrest (by decide)

/-- An item or member is followed by another one. -/
lemma Before.exists_comma (h : Before s depth isStart ((.comma, space) :: parts))
    (hspace : space ⊆ [' ', '\n']) :
    ∃ s', s.step = .ok (s', false) ∧ s'.tokens = .flowEntry :: s.tokens ∧
      Before s' depth true parts :=
  h.exists_of_pushed hspace fun s₁ c cs hl hcalm hrest => by
    obtain ⟨s', hcomma, hpushed, hallows⟩ := hcalm.exists_flowEntry
    refine ⟨s', ?_, hpushed, fun _ => hallows⟩
    cases hl
    rw [← hcomma]
    exact Scanner.tokenAt_mark hrest (by decide)

/-- Where a string stands the scanner takes it, and it may be a key where one may start. -/
lemma exists_tokenAt_string {pieces : List Piece} (hpieces : ∀ p ∈ pieces, p.IsPortable)
    (hkeeps : KeepsLines pieces) {s₁ : Scanner} {tail : List Char} (hcalm : s₁.IsCalm depth)
    (hrest : s₁.feed.rest = quoted pieces ++ tail) :
    ∃ s', s₁.tokenAt '"' = .ok s' ∧
      Scanner.Pushed s₁ s' depth (.scalar (textOf pieces) false) (quoted pieces).length ∧
      (s₁.allowsKey = true → ∃ others, s'.candidates = (depth, s₁.candidate) :: others) := by
  have hat : s₁.tokenAt '"' = s₁.quoted true := Scanner.tokenAt_mark hrest (by decide)
  rw [hat]
  exact hcalm.exists_nodeToken
    ((takes_quotedScalar hpieces hkeeps tail).bind_pure fun text => Token.scalar text false) hrest

/-- An atom. -/
lemma Before.exists_atom {a : Atom} (h : Before s depth isStart ((.atom a, space) :: parts))
    (hspace : space ⊆ [' ', '\n']) (ha : a.IsPortable)
    (hends : EndsAtom depth (parts.map Prod.fst)) :
    ∃ s', s.step = .ok (s', false) ∧ s'.tokens = a.token :: s.tokens ∧
      Before s' depth false parts := by
  by_cases hstring : ∃ pieces, a = .string pieces
  · obtain ⟨pieces, rfl⟩ := hstring
    refine h.exists_of_pushed hspace fun s₁ c cs hl hcalm hrest => ?_
    cases hl
    obtain ⟨s', hat, hpushed, -⟩ := exists_tokenAt_string ha.1 ha.2 hcalm hrest
    exact ⟨s', hat, hpushed, fun h => by cases h⟩
  -- A plain scalar takes the blanks after it along.
  obtain ⟨hstarts, hchars⟩ := Atom.word fun pieces hpieces => hstring ⟨pieces, hpieces⟩
  have htoken : a.token = .scalar (String.ofList a.chars) true := by
    cases a with
    | string pieces => exact absurd ⟨pieces, rfl⟩ hstring
    | _ => rfl
  obtain ⟨s₁, c, cs, hl, hcalm, htokens, hrest, -, hstep⟩ := h.exists_step
  have hl : a.chars = c :: cs := hl
  have hrest : s₁.feed.rest = a.chars ++ space ++ spelled parts := by
    rw [hrest, List.append_assoc]
    rfl
  have hinFlow : s₁.inFlow = decide (0 < depth) := by rw [Scanner.inFlow, hcalm.depth_eq]
  obtain ⟨s', hplain, hpushed⟩ := hcalm.exists_plain (by rw [hl]; simp) hchars hspace
    (hinFlow ▸ hends.endsWords) hrest
  have hat : s₁.tokenAt c = s₁.plain := by
    have hword := hstarts.append (space ++ spelled parts)
    rw [hl] at hword
    exact Scanner.tokenAt_word (by rw [hrest, hl, List.append_assoc]; rfl) hword
  refine ⟨s', by rw [hstep, hat, hplain]; rfl, by rw [hpushed.tokens_eq, htokens, htoken],
    hpushed.calm, fun h => (by cases h), [], List.nil_subset _, ?_⟩
  rw [hpushed.feed_eq, Feed.rest_advanceBy_length _ hrest]
  rfl

/-- A name that fits is still a candidate for a key after the whitespace that follows it. -/
lemma KeyFits.not_isStale {name : List Piece} (h : KeyFits name space)
    (hname : ∀ p ∈ name, p.IsPortable) (hspace : space ⊆ [' ', '\n']) {s₁ s₂ : Scanner}
    {tail : List Char} (hrest : s₁.feed.rest = (quoted name ++ space) ++ tail)
    (hfeed : s₂.feed = s₁.feed.advanceBy (quoted name ++ space).length) :
    s₂.isStale s₁.candidate = false := by
  have hbreaks : ∀ c ∈ quoted name ++ space, isBreak c = false := by
    refine List.forall_mem_append.mpr ⟨isBreak_of_mem_quoted hname h.not_separator, fun c hc => ?_⟩
    have hne : c ≠ '\n' := fun hc' => h.same_line.1 (hc' ▸ hc)
    obtain rfl : c = ' ' := by simpa [hne] using hspace hc
    rfl
  have hline : s₂.feed.line = s₁.feed.line := by
    rw [hfeed]
    exact s₁.feed.line_advanceBy hrest hbreaks
  have hnear : ¬ Scanner.maxKeyLength < s₂.feed.index - s₁.feed.index := by
    rw [hfeed, s₁.feed.index_advanceBy hrest, Nat.add_sub_cancel_left, List.length_append]
    exact Nat.not_lt.mpr h.length_le
  simp [Scanner.isStale, Scanner.candidate, hline, hnear]

/-- The name of a member with its colon. -/
lemma Before.exists_name {name : List Piece} {space' : List Char}
    (h : Before s (depth + 1) true ((.atom (.string name), space) :: (.colon, space') :: parts))
    (hspace : space ⊆ [' ', '\n']) (hspace' : space' ⊆ [' ', '\n'])
    (hname : (Atom.string name).IsPortable) (hfits : KeyFits name space) :
    ∃ s₁ s', s.step = .ok (s₁, false) ∧ s₁.step = .ok (s', false) ∧
      s'.tokens = .value :: .scalar (textOf name) false :: .key :: s.tokens ∧
      Before s' (depth + 1) false parts := by
  obtain ⟨s₁, c, cs, hl, hcalm, htokens, hrest, hallows, hstep⟩ := h.exists_step
  obtain ⟨rfl, -⟩ := List.cons.inj hl
  have hrest : s₁.feed.rest = quoted name ++ (space ++ ':' :: (space' ++ spelled parts)) := hrest
  obtain ⟨s₂, hat, hpushed, hcandidate⟩ := exists_tokenAt_string hname.1 hname.2 hcalm hrest
  obtain ⟨others, hothers⟩ := hcandidate (hallows rfl)
  have hrest₂ : s₂.feed.rest = space ++ ':' :: (space' ++ spelled parts) := by
    rw [hpushed.feed_eq, Feed.rest_advanceBy_length _ hrest]
  obtain ⟨s₃, hcalm₃, htokens₃, hfeed₃, -, hcandidates₃, hstep₃⟩ :=
    hpushed.calm.exists_step hspace (by unfold Scanner.IsMark; decide) hrest₂
  -- At the colon the name is still a candidate.
  have hfeed : s₃.feed = s₁.feed.advanceBy (quoted name ++ space).length := by
    rw [hfeed₃, hpushed.feed_eq, List.length_append, Feed.advanceBy_add]
  rw [← List.append_assoc] at hrest
  have hstale : s₃.isStale s₁.candidate = false :=
    hfits.not_isStale hname.1 hspace hrest hfeed
  have hlookup : s₃.candidates.lookup (depth + 1) = some s₁.candidate := by
    rw [hcandidates₃, hothers]
    simp [hstale]
  obtain ⟨s', hvalue, hcalm', htokens', hfeed'⟩ :=
    hcalm₃.exists_value hlookup (htokens₃.trans hpushed.tokens_eq) rfl
  have hrest₃ : s₃.feed.rest = ':' :: (space' ++ spelled parts) := by
    rw [hfeed, Feed.rest_advanceBy_length _ hrest]
  have hcolon : s₃.tokenAt ':' = s₃.value :=
    Scanner.tokenAt_colon hrest₃ (by simp [Scanner.inFlow, hcalm₃.depth_eq])
  refine ⟨s₂, s', by rw [hstep, hat]; rfl, by rw [hstep₃, hcolon, hvalue]; rfl,
    by rw [htokens', htokens], hcalm', fun h => (by cases h), space', hspace', ?_⟩
  rw [hfeed', Feed.rest_advanceBy, hrest₃]
  rfl

/-! ### Runs of the scanner -/

/-- **Tokens of a text.** The scanner gives the tokens of clean lexemes that stand before it, and
then comes to the end of the text. -/
theorem run_of_lexed {ls : List Lexeme} {ts : List Token} (h : Lexed depth isStart ls ts)
    (hparts : parts.map Prod.fst = ls) (hclean : Clean parts) (hs : Before s depth isStart parts)
    (more : Nat) : Scanner.run (more + (parts.length + 1)) s = (s.tokens.reverse ++ ts, none) := by
  -- A lexeme that gives a token takes one step; the name of a member takes two with its colon.
  induction h generalizing parts s with
  | done =>
    obtain rfl : parts = [] := List.map_eq_nil_iff.mp hparts
    obtain ⟨w, hw, hrest⟩ := hs.exists_rest
    obtain ⟨s', htokens, hstep⟩ := hs.calm.exists_step_end (by rw [hrest]; simpa [spelled] using hw)
    exact (Scanner.run_of_last hstep more).trans (by rw [htokens, List.append_nil])
  | opening b _ ih =>
    obtain ⟨⟨_, space⟩, parts, rfl, rfl, hrest⟩ := List.map_eq_cons_iff.mp hparts
    obtain ⟨s', hstep, htokens, hs'⟩ := hs.exists_opening (hclean.blank _ (List.mem_cons_self ..))
    exact Scanner.run_of_token hstep htokens (ih hrest hclean.tail hs')
  | closing b _ ih =>
    obtain ⟨⟨_, space⟩, parts, rfl, rfl, hrest⟩ := List.map_eq_cons_iff.mp hparts
    obtain ⟨s', hstep, htokens, hs'⟩ := hs.exists_closing (hclean.blank _ (List.mem_cons_self ..))
    exact Scanner.run_of_token hstep htokens (ih hrest hclean.tail hs')
  | comma _ ih =>
    obtain ⟨⟨_, space⟩, parts, rfl, rfl, hrest⟩ := List.map_eq_cons_iff.mp hparts
    obtain ⟨s', hstep, htokens, hs'⟩ := hs.exists_comma (hclean.blank _ (List.mem_cons_self ..))
    exact Scanner.run_of_token hstep htokens (ih hrest hclean.tail hs')
  | atom a hends _ ih =>
    obtain ⟨⟨_, space⟩, parts, rfl, rfl, rfl⟩ := List.map_eq_cons_iff.mp hparts
    obtain ⟨s', hstep, htokens, hs'⟩ := hs.exists_atom (hclean.blank _ (List.mem_cons_self ..))
      (hclean.portable _ (List.mem_cons_self ..) a rfl) hends
    exact Scanner.run_of_token hstep htokens (ih rfl hclean.tail hs')
  | name name _ ih =>
    obtain ⟨⟨_, space⟩, rest, rfl, rfl, hrest⟩ := List.map_eq_cons_iff.mp hparts
    obtain ⟨⟨_, space'⟩, parts, rfl, rfl, hlater⟩ := List.map_eq_cons_iff.mp hrest
    obtain ⟨s₁, s', hstep, hstep', htokens, hs'⟩ := hs.exists_name
      (hclean.blank _ (List.mem_cons_self ..)) (hclean.tail.blank _ (List.mem_cons_self ..))
      (hclean.portable _ (List.mem_cons_self ..) _ rfl)
      (hclean.key_fits [] name space space' parts rfl)
    have hrun := ih hlater hclean.tail.tail hs'
    rw [htokens] at hrun
    refine (Scanner.run_of_step hstep _).trans ?_
    refine (Scanner.run_of_step hstep' _).trans (hrun.trans ?_)
    simp

end

/-- Every lexeme has a character. -/
lemma length_le_spelled (parts : List (Lexeme × List Char)) :
    parts.length ≤ (spelled parts).length := by
  induction parts with
  | nil => exact Nat.zero_le _
  | cons part parts ih =>
    obtain ⟨c, cs, hl, -⟩ := part.1.exists_chars
    simp only [spelled, List.flatMap_cons, hl, List.length_append, List.length_cons] at ih ⊢
    omega

/-- The tokens of clean lexemes that are those of a tree are the tree's. -/
theorem tokens_of_clean {tree : Tree} {w : List Char} {parts : List (Lexeme × List Char)}
    (hw : w ⊆ [' ', '\n']) (hclean : Clean parts) (hparts : parts.map Prod.fst = tree.lexemes) :
    tokens (w ++ spelled parts) = (tree.tokens, none) := by
  have hlexed : Lexed 0 true (tree.lexemes ++ []) (tree.tokens ++ []) :=
    tree.lexed (show EndsAtom 0 [] from trivial) .done
  rw [List.append_nil, List.append_nil] at hlexed
  have hbefore : Before (.start (w ++ spelled parts)) 0 true parts :=
    ⟨⟨rfl, rfl, rfl, by simp [Scanner.start]⟩, fun _ => rfl, w, hw, rfl⟩
  have hlength := length_le_spelled parts
  obtain ⟨more, hmore⟩ := Nat.exists_eq_add_of_le'
    (show parts.length + 1 ≤ (w ++ spelled parts).length + 1 by rw [List.length_append]; omega)
  unfold tokens
  rw [hmore]
  exact run_of_lexed hlexed hparts hclean hbefore more

end RunnerAtlas.Json
