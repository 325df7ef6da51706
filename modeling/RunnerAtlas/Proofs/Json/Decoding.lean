import Mathlib.Data.List.Chain
import RunnerAtlas.Proofs.Json.Decoder
import RunnerAtlas.Proofs.Json.Tokens

set_option relaxedAutoImplicit false
set_option autoImplicit false

/-!
# Every JSON text is decoded

The decoder reads back every text that spells a tree, in whatever layout and with whatever
escapes: it gives the value of the tree. So a text spells no two trees with different values. The
machine for characters gets from one lexeme to the next one, as no two atoms stand beside each
other, and the machine for lexemes gets from before a tree to where it is given.

## Main results

* `RunnerAtlas.Json.number?_chars` — a number is read from its characters.
* `RunnerAtlas.Json.Lexer.run_spelled` — lexemes are read from their characters.
* `RunnerAtlas.Json.Reader.run_lexemes` — a tree is read from its lexemes.
* `RunnerAtlas.Json.decode_chars` — the value of a tree is read from a text that spells it.
-/

namespace RunnerAtlas.Json

open RunnerAtlas.Text

/-! ### Numbers -/

/-- A run of digits is read from its characters. -/
lemma digits?_val (digits : Digits) : digits? digits.val = some digits :=
  dif_pos ⟨digits.property.1, List.all_eq_true.mpr digits.property.2⟩

/-- A run of digits is taken up to a character that is none. -/
lemma takeWhile_digits (digits : Digits) {more : List Char}
    (hmore : ∀ c ∈ more.head?, Digit.isPlain c = false) :
    (digits.val ++ more).takeWhile Digit.isPlain = digits.val := by
  rw [List.takeWhile_append_of_pos digits.property.2]
  cases more with
  | nil => simp
  | cons c more => simp [hmore c (by simp)]

/-- An exponent is read from its characters. -/
lemma exponent?_chars (e : Option Exponent) : exponent? (e.elim [] Exponent.chars) = some e := by
  cases e with
  | none => rfl
  | some e =>
    obtain ⟨isCapital, sign, digits⟩ := e
    have hsign : exponentSign (sign.toList.map (if · then '-' else '+') ++ digits.val) =
        (sign, digits.val) := by
      cases sign with
      | some isMinus => cases isMinus <;> rfl
      | none =>
        obtain ⟨hne, hdigits⟩ := digits.property
        obtain ⟨d, ds, hval⟩ := List.exists_cons_of_ne_nil hne
        have hd := ne_sign_of_mem_digits (mem_digits_of_isPlain (hdigits d (by simp [hval])))
        rw [hval]
        exact exponentSign.eq_3 _ (fun rest h => hd.1 (List.cons.inj h).1)
          (fun rest h => hd.2 (List.cons.inj h).1)
    cases isCapital <;> simp [Exponent.chars, exponent?, hsign, digits?_val]

/-- The digits after a point are read from the characters after those before it. -/
lemma fraction?_rest (n : Number) :
    fraction? n.rest = some (n.fraction, n.exponent.elim [] Exponent.chars) := by
  have hend : ∀ c ∈ (n.exponent.elim [] Exponent.chars).head?, Digit.isPlain c = false :=
    fun c hc => (Number.head_exponent c hc).1
  have hpoint (cs : List Char) : fraction? ('.' :: cs) =
      (digits? (cs.takeWhile Digit.isPlain)).map fun digits =>
        (some digits, cs.dropWhile Digit.isPlain) := rfl
  unfold Number.rest
  cases n.fraction with
  | some digits =>
    rw [Option.elim_some, List.cons_append, hpoint, takeWhile_digits digits hend, digits?_val,
      Number.dropWhile_digits (fun _ h => h) digits.property.2 hend]
    rfl
  | none =>
    cases n.exponent with
    | none => rfl
    | some e => cases hcapital : e.isCapital <;> simp [Exponent.chars, hcapital, fraction?]

/-- After the digits before a point comes none. -/
lemma head_rest (n : Number) : ∀ c ∈ n.rest.head?, Digit.isPlain c = false := by
  intro c hc
  unfold Number.rest at hc
  cases hfraction : n.fraction with
  | some digits =>
    obtain rfl : '.' = c := by simpa [hfraction] using hc
    decide
  | none =>
    rw [hfraction] at hc
    exact (Number.head_exponent c hc).1

/-- A number is read from its characters after the sign. -/
lemma magnitude?_body (n : Number) : magnitude? n.isNegative n.body = some n := by
  unfold magnitude? Number.body
  rw [takeWhile_digits n.whole (head_rest n), digits?_val,
    Number.dropWhile_digits (fun _ h => h) n.whole.property.2 (head_rest n), fraction?_rest]
  show (exponent? _).bind _ = _
  rw [exponent?_chars]
  exact dif_pos n.whole_eq

/-- A number is read from its characters. -/
lemma number?_chars (n : Number) : number? n.chars = some n := by
  have hbody := magnitude?_body n
  rw [Number.chars_eq]
  cases hsign : n.isNegative with
  | true => rwa [hsign] at hbody
  | false =>
    obtain ⟨d, ds, -, hd, -, hchars⟩ := n.exists_body
    rw [hsign] at hbody
    rw [if_neg (by simp), List.nil_append, hchars, number?]
    · rwa [← hchars]
    · exact fun rest h => (ne_sign_of_mem_digits hd).1 (List.cons.inj h).1

/-! ### Characters -/

/-- The characters of an atom that is no string are those that words consist of. -/
lemma isWordLetter_of_mem_chars {a : Atom} (ha : ∀ pieces, a ≠ .string pieces) {c : Char}
    (hc : c ∈ a.chars) : isWordLetter c = true := by
  have hword (word : List Char) (hall : word.all isWordLetter = true) (hmem : c ∈ word) :
      isWordLetter c = true := List.all_eq_true.mp hall c hmem
  cases a with
  | null => exact hword _ (by decide) hc
  | truth b => cases b <;> exact hword _ (by decide) hc
  | number n => exact hword numberChars (by decide) (n.chars_subset hc)
  | string pieces => exact absurd rfl (ha pieces)

/-- An atom that is no string is read from its characters. -/
lemma atom?_chars {a : Atom} (ha : ∀ pieces, a ≠ .string pieces) : atom? a.chars = some a := by
  cases a with
  | null => rfl
  | truth b => cases b <;> rfl
  | number n =>
    let begins (c : Char) : Bool := ('-' :: Pattern.digits).contains c
    have hne (word : String) (hword : (word.toList.head?.all fun c => !begins c) = true) :
        ¬ n.chars = word.toList := by
      intro h
      obtain ⟨c, hc⟩ : ∃ c, c ∈ n.chars.head? := by
        obtain ⟨d, ds, -, -, -, hbody⟩ := n.exists_body
        rw [Number.chars_eq, hbody]
        cases n.isNegative <;> simp
      have hbegins : begins c = true := List.contains_iff_mem.mpr (n.head_chars c hc)
      have hnot := (Option.all_eq_true _ _).mp hword c (h ▸ hc)
      rw [hbegins] at hnot
      cases hnot
    show atom? n.chars = _
    rw [atom?, if_neg (hne "null" (by decide)), if_neg (hne "true" (by decide)),
      if_neg (hne "false" (by decide)), number?_chars]
    rfl
  | string pieces => exact absurd rfl (ha pieces)

/-- Four hexadecimal digits are read from their characters. -/
lemma hex?_val (digits : Hex) : hex? digits.val = some digits :=
  dif_pos ⟨digits.property.1, List.all_eq_true.mpr digits.property.2⟩

namespace Lexer

variable {ls : List Lexeme} {tail : List Char}

lemma run_cons (s : Lexer) (c : Char) (cs : List Char) :
    s.run (c :: cs) = (s.step c).bind fun s => s.run cs := rfl

/-- Blanks between lexemes are skipped. -/
lemma run_blanks {space : List Char} (hspace : space ⊆ blanks) :
    run ⟨ls, none⟩ (space ++ tail) = run ⟨ls, none⟩ tail := by
  induction space with
  | nil => rfl
  | cons c space ih =>
    obtain ⟨hc, hspace⟩ := List.cons_subset.mp hspace
    have hstep : step ⟨ls, none⟩ c = some ⟨ls, none⟩ := if_pos hc
    rw [List.cons_append, run_cons, hstep]
    exact ih hspace

/-- The letters of a word are kept. -/
lemma run_word {cs word : List Char} (hcs : ∀ c ∈ cs, isWordLetter c = true) :
    run ⟨ls, some (.word word)⟩ (cs ++ tail) = run ⟨ls, some (.word (word ++ cs))⟩ tail := by
  induction cs generalizing word with
  | nil => rw [List.nil_append, List.append_nil]
  | cons c cs ih =>
    obtain ⟨hc, hcs⟩ := List.forall_mem_cons.mp hcs
    have hstep : step ⟨ls, some (.word word)⟩ c = some ⟨ls, some (.word (word ++ [c]))⟩ :=
      if_pos hc
    rw [List.cons_append, run_cons, hstep]
    show run _ (cs ++ tail) = _
    rw [ih hcs, List.append_assoc, List.singleton_append]

/-- A word ends at a character that belongs to none, or with the text. -/
lemma run_word_end {word : List Char} {a : Atom} (ha : atom? word = some a)
    (htail : ∀ c ∈ tail.head?, isWordLetter c = false) :
    run ⟨ls, some (.word word)⟩ tail = run ⟨ls ++ [.atom a], none⟩ tail := by
  cases tail with
  | nil =>
    show (atom? word).map _ = _
    rw [ha]
    rfl
  | cons c tail =>
    have hstep : step ⟨ls, some (.word word)⟩ c = step ⟨ls ++ [.atom a], none⟩ c := by
      show (if isWordLetter c then _ else (atom? word).bind _) = _
      rw [htail c rfl, ha]
      rfl
    rw [run_cons, run_cons, hstep]

/-- A character that words consist of begins a word. -/
lemma step_of_isWordLetter {c : Char} (hc : isWordLetter c = true) :
    step ⟨ls, none⟩ c = some ⟨ls, some (.word [c])⟩ := by
  have hne : ∀ d ∈ '"' :: blanks, c ≠ d := by
    rintro d hd rfl
    have hnone : ('"' :: blanks).all (fun d => !isWordLetter d) = true := by decide
    simpa [hc] using List.all_eq_true.mp hnone c hd
  have hblank : c ∉ blanks := fun h => hne c (List.mem_cons_of_mem _ h) rfl
  show start ls c = _
  rw [start, if_neg hblank, if_neg (hne '"' List.mem_cons_self), if_pos hc]

/-- A word is read up to a character that belongs to none. -/
lemma run_atom {a : Atom} (ha : ∀ pieces, a ≠ .string pieces)
    (htail : ∀ c ∈ tail.head?, isWordLetter c = false) :
    run ⟨ls, none⟩ (a.chars ++ tail) = run ⟨ls ++ [.atom a], none⟩ tail := by
  have hletters := fun c => isWordLetter_of_mem_chars ha (c := c)
  have hatom := atom?_chars ha
  cases hchars : a.chars with
  | nil =>
    rw [hchars] at hatom
    cases hatom
  | cons c cs =>
    rw [hchars] at hletters hatom
    have hcs : ∀ d ∈ cs, isWordLetter d = true := fun d hd => hletters d (List.mem_cons_of_mem _ hd)
    rw [List.cons_append, run_cons, step_of_isWordLetter (hletters c List.mem_cons_self)]
    show run _ _ = _
    rw [run_word hcs]
    exact run_word_end hatom htail

/-! ### Strings -/

variable {ps : List Piece}

/-- A digit of an escape by number. -/
lemma step_code (high : Option High) (cs : List Char) (c : Char) :
    step ⟨ls, some (.code ps high cs)⟩ c =
      (digitsRead ps high (cs ++ [c])).map fun b => ⟨ls, some b⟩ := rfl

/-- A digit of an escape by number that is not the last one is kept. -/
lemma run_digit {high : Option High} {cs : List Char} (c : Char) (h : cs.length < 3) :
    run ⟨ls, some (.code ps high cs)⟩ (c :: tail) =
      run ⟨ls, some (.code ps high (cs ++ [c]))⟩ tail := by
  have hlength : (cs ++ [c]).length < 4 := by
    rw [List.length_append, List.length_singleton]
    omega
  rw [run, step_code, digitsRead, if_pos hlength]
  rfl

/-- The digits of an escape by number are read. -/
lemma run_code (high : Option High) (digits : Hex) :
    run ⟨ls, some (.code ps high [])⟩ (digits.val ++ tail) =
      (coded ps high digits).bind fun b => run ⟨ls, some b⟩ tail := by
  have hhex := hex?_val digits
  obtain ⟨cs, hlength, hdigits⟩ := digits
  match cs, hlength with
  | [a, b, c, d], hlength =>
    have hlast : ¬ ([] ++ [a] ++ [b] ++ [c] ++ [d]).length < 4 := by simp
    have hread : hex? ([] ++ [a] ++ [b] ++ [c] ++ [d]) = some _ := hhex
    show run _ (a :: b :: c :: d :: tail) = _
    rw [run_digit a (by simp), run_digit b (by simp), run_digit c (by simp), run, step_code,
      digitsRead, if_neg hlast, hread, Option.bind_some, Option.bind_map]
    rfl

/-- The letter of an escape is read. -/
lemma escaped_letter {entry : Char × Char} (h : entry ∈ letterEscapes) :
    escaped ps entry.1 = some (.string (ps ++ [.letter entry h])) := by
  have hcases := h
  simp only [letterEscapes, List.mem_cons, List.not_mem_nil, or_false] at hcases
  rcases hcases with rfl | rfl | rfl | rfl | rfl | rfl | rfl | rfl <;> rfl

/-- A piece of a string is read.

**Proof sketch.** The cases are those of a piece. An escape by number is no surrogate, or the first
one of a pair, after which the second one is read. -/
lemma run_piece (p : Piece) :
    run ⟨ls, some (.string ps)⟩ (p.chars ++ tail) = run ⟨ls, some (.string (ps ++ [p]))⟩ tail := by
  cases p with
  | raw c h =>
    have hstep : step ⟨ls, some (.string ps)⟩ c = some ⟨ls, some (.string (ps ++ [.raw c h]))⟩ := by
      show stringStep ls ps c = _
      rw [stringStep, if_neg h.2.1, if_neg h.2.2, dif_pos h]
    rw [Piece.chars, List.singleton_append, run_cons, hstep]
    rfl
  | letter entry h =>
    show ((escaped ps entry.1).map _).bind _ = _
    rw [escaped_letter h]
    rfl
  | code digits h =>
    show run ⟨ls, some (.code ps none [])⟩ (digits.val ++ tail) = _
    rw [run_code, coded, dif_neg h]
    rfl
  | pair high low hhigh hlow =>
    have hsurrogate : 0xd800 ≤ high.code ∧ high.code < 0xe000 := by omega
    have hfirst : coded ps none high = some (.high ps ⟨high, hhigh⟩) := by
      rw [coded, dif_pos hsurrogate, dif_pos hhigh.2]
    have hchars : (Piece.pair high low hhigh hlow).chars ++ tail =
        '\\' :: 'u' :: (high.val ++ '\\' :: 'u' :: (low.val ++ tail)) := by
      simp [Piece.chars]
    rw [hchars]
    show run ⟨ls, some (.code ps none [])⟩ (high.val ++ _) = _
    rw [run_code, hfirst]
    show run ⟨ls, some (.code ps (some ⟨high, hhigh⟩) [])⟩ (low.val ++ tail) = _
    rw [run_code, coded, dif_pos hlow]
    rfl

/-- A string is read. -/
lemma run_quoted (pieces : List Piece) :
    run ⟨ls, none⟩ (quoted pieces ++ tail) = run ⟨ls ++ [.atom (.string pieces)], none⟩ tail := by
  have hpieces : ∀ rest ps : List Piece,
      run ⟨ls, some (.string ps)⟩ (charsOf rest ++ '"' :: tail) =
        run ⟨ls ++ [.atom (.string (ps ++ rest))], none⟩ tail := by
    intro rest
    induction rest with
    | nil =>
      intro ps
      rw [List.append_nil]
      rfl
    | cons p rest ih =>
      intro ps
      rw [charsOf, List.flatMap_cons, List.append_assoc, run_piece, ← charsOf, ih,
        List.append_assoc, List.singleton_append]
  have hstart : quoted pieces ++ tail = '"' :: (charsOf pieces ++ '"' :: tail) := by
    simp [quoted]
  rw [hstart]
  exact hpieces pieces []

/-! ### Lexemes one after the other -/

/-- A lexeme is read. If it is an atom, no letter of a word may follow. -/
lemma run_lexeme (l : Lexeme) (hl : ∀ a, l = .atom a → ∀ c ∈ tail.head?, isWordLetter c = false) :
    run ⟨ls, none⟩ (l.chars ++ tail) = run ⟨ls ++ [l], none⟩ tail := by
  cases l with
  | atom a =>
    by_cases ha : ∃ pieces, a = .string pieces
    · obtain ⟨pieces, rfl⟩ := ha
      exact run_quoted pieces
    · exact run_atom (fun pieces h => ha ⟨pieces, h⟩) (hl a rfl)
  | opening b => cases b <;> rfl
  | closing b => cases b <;> rfl
  | comma => rfl
  | colon => rfl

end Lexer

/-! ### Atoms beside each other -/

/-- No two atoms stand beside each other. -/
def AtomsApart (ls : List Lexeme) : Prop :=
  ls.IsChain fun l m => ∀ a b, l = .atom a → m ≠ .atom b

/-- Before other lexemes, a lexeme that is no atom keeps the atoms apart. -/
lemma AtomsApart.cons {l : Lexeme} {ls : List Lexeme} (h : AtomsApart ls)
    (hl : ∀ a, l ≠ .atom a) : AtomsApart (l :: ls) :=
  List.isChain_cons.mpr ⟨fun _ _ a _ ha => absurd ha (hl a), h⟩

/-- Lexemes that give tokens have their atoms apart. -/
lemma Lexed.atomsApart {depth : Nat} {isStart : Bool} {ls : List Lexeme}
    {ts : List Document.Token} (h : Lexed depth isStart ls ts) : AtomsApart ls := by
  induction h with
  | done => exact List.isChain_nil
  | opening b _ ih => exact ih.cons fun a h => by cases h
  | closing b _ ih => exact ih.cons fun a h => by cases h
  | comma _ ih => exact ih.cons fun a h => by cases h
  | atom a hends _ ih =>
    refine List.isChain_cons.mpr ⟨fun m hm b c _ hc => ?_, ih⟩
    rw [List.eq_cons_of_mem_head? hm, hc] at hends
    exact hends
  | name _ _ ih =>
    refine List.isChain_cons.mpr ⟨fun m hm b c _ hc => ?_, ih.cons fun a h => by cases h⟩
    obtain rfl : Lexeme.colon = m := Option.some.inj hm
    cases hc

/-- The lexemes of a tree have their atoms apart. -/
lemma atomsApart_lexemes (t : Tree) : AtomsApart t.lexemes := by
  have hlexed : Lexed 0 true (t.lexemes ++ []) (t.tokens ++ []) := t.lexed trivial .done
  rw [List.append_nil] at hlexed
  exact hlexed.atomsApart

/-- A lexeme that is no atom begins with no letter of a word. -/
lemma Lexeme.head_chars {l : Lexeme} (h : ∀ a, l ≠ .atom a) :
    ∃ c cs, l.chars = c :: cs ∧ isWordLetter c = false := by
  cases l with
  | atom a => exact absurd rfl (h a)
  | opening b => cases b <;> exact ⟨_, _, rfl, by decide⟩
  | closing b => cases b <;> exact ⟨_, _, rfl, by decide⟩
  | comma => exact ⟨_, _, rfl, by decide⟩
  | colon => exact ⟨_, _, rfl, by decide⟩

/-- Lexemes are read from their characters, with blanks between them as they may be.

**Proof sketch.** Induction on the lexemes. An atom is followed by a blank, by the end of the text
or by a lexeme that is none, so that no letter of a word comes after it. -/
theorem Lexer.run_spelled {ls : List Lexeme} {parts : List (Lexeme × List Char)}
    (hspaces : ∀ part ∈ parts, part.2 ⊆ blanks) (hapart : AtomsApart (parts.map Prod.fst)) :
    run ⟨ls, none⟩ (spelled parts) = some (ls ++ parts.map Prod.fst) := by
  induction parts generalizing ls with
  | nil =>
    rw [List.map_nil, List.append_nil]
    rfl
  | cons part rest ih =>
    obtain ⟨l, space⟩ := part
    obtain ⟨hspace, hrest⟩ := List.forall_mem_cons.mp hspaces
    rw [List.map_cons, AtomsApart, List.isChain_cons] at hapart
    have hafter : ∀ a, l = .atom a → ∀ c ∈ (space ++ spelled rest).head?,
        isWordLetter c = false := by
      intro a ha c hc
      cases space with
      | cons d space =>
        obtain rfl : d = c := Option.some.inj hc
        have hblank : blanks.all (fun d => !isWordLetter d) = true := by decide
        simpa using List.all_eq_true.mp hblank d (List.cons_subset.mp hspace).1
      | nil =>
        cases rest with
        | nil => cases hc
        | cons next rest =>
          obtain ⟨d, ds, hchars, hd⟩ := Lexeme.head_chars fun b => hapart.1 next.1 rfl a b ha
          obtain rfl : d = c := by simpa [spelled, hchars] using hc
          exact hd
    rw [spelled, List.flatMap_cons, ← spelled, List.append_assoc, run_lexeme l hafter,
      run_blanks hspace, ih hrest hapart.2, List.map_cons, List.append_assoc,
      List.singleton_append]

/-! ### Trees -/

namespace Reader

lemma run_cons (r : Reader) (l : Lexeme) (ls : List Lexeme) :
    r.run (l :: ls) = (r.step l).bind fun r => r.run ls := rfl

/-- A tree begins with a lexeme that begins a value, so that an array with items is begun by the
first one. -/
lemma run_firstItem (frames : List Frame) (t : Tree) (ls : List Lexeme) :
    run (.firstItem frames) (t.lexemes ++ ls) =
      run (.value (.array [] :: frames)) (t.lexemes ++ ls) := by
  cases t <;> rw [Tree.lexemes] <;> rfl

mutual

/-- **Trees from lexemes.** Where a value is expected, a tree is read from its lexemes and given to
what it is a part of. -/
theorem run_lexemes : (t : Tree) → ∀ (frames : List Frame) (ls : List Lexeme),
    run (.value frames) (t.lexemes ++ ls) = run (give frames t) ls
  | .atom a => fun frames ls => by
    rw [Tree.lexemes]
    rfl
  | .array [] => fun frames ls => by
    rw [Tree.lexemes]
    rfl
  | .array (item :: rest) => fun frames ls => by
    simp only [Tree.lexemes, Tree.lexemesOfItems, separated, List.cons_append, List.append_assoc,
      List.nil_append]
    show run (.firstItem frames) (item.lexemes ++ _) = _
    rw [run_firstItem, run_lexemes item]
    exact run_items rest frames [item] ls
  | .object [] => fun frames ls => by
    rw [Tree.lexemes]
    rfl
  | .object ((name, item) :: rest) => fun frames ls => by
    simp only [Tree.lexemes, Tree.lexemesOfMembers, separated, List.cons_append, List.append_assoc,
      List.nil_append]
    show run (.value (.object [] name :: frames)) (item.lexemes ++ _) = _
    rw [run_lexemes item]
    exact run_members rest frames [(name, item)] ls

/-- The other items of an array are read. -/
theorem run_items : (rest : List Tree) → ∀ (frames : List Frame) (items : List Tree)
    (ls : List Lexeme),
    run (.afterItem frames items)
        ((Tree.lexemesOfItems rest).flatMap (.comma :: ·) ++ .closing .square :: ls) =
      run (give frames (.array (items ++ rest))) ls
  | [] => fun frames items ls => by
    rw [List.append_nil]
    rfl
  | item :: rest => fun frames items ls => by
    rw [Tree.lexemesOfItems, List.flatMap_cons, List.append_assoc]
    show run (.value (.array items :: frames)) (item.lexemes ++ _) = _
    rw [run_lexemes item]
    simpa [give] using run_items rest frames (items ++ [item]) ls

/-- The other members of an object are read. -/
theorem run_members : (rest : List (List Piece × Tree)) → ∀ (frames : List Frame)
    (members : List (List Piece × Tree)) (ls : List Lexeme),
    run (.afterMember frames members)
        ((Tree.lexemesOfMembers rest).flatMap (.comma :: ·) ++ .closing .curly :: ls) =
      run (give frames (.object (members ++ rest))) ls
  | [] => fun frames members ls => by
    rw [List.append_nil]
    rfl
  | (name, item) :: rest => fun frames members ls => by
    rw [Tree.lexemesOfMembers, List.flatMap_cons, List.append_assoc]
    show run (.value (.object members name :: frames)) (item.lexemes ++ _) = _
    rw [run_lexemes item]
    simpa [give] using run_members rest frames (members ++ [(name, item)]) ls

end

end Reader

/-- **Every JSON text is decoded.** The value of a tree is read from every text that spells it. -/
theorem decode_chars (d : Text) : decode d.chars = some d.tree.value := by
  have hapart : AtomsApart (d.parts.map Prod.fst) := d.lexemes_eq ▸ atomsApart_lexemes d.tree
  have htree := Reader.run_lexemes d.tree [] []
  rw [List.append_nil] at htree
  rw [decode, Text.chars, Lexer.run_blanks d.first_subset, Lexer.run_spelled d.after_subset hapart,
    List.nil_append, d.lexemes_eq]
  show (Reader.run (.value []) d.tree.lexemes).map Tree.value = _
  rw [htree]
  rfl

end RunnerAtlas.Json
