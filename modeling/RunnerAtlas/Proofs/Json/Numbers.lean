import Mathlib.Data.Bool.AllAny
import RunnerAtlas.Proofs.Document.Words
import RunnerAtlas.Proofs.Json.Grammar
import RunnerAtlas.Proofs.Outcomes
import RunnerAtlas.Proofs.Pattern.Digits

set_option relaxedAutoImplicit false
set_option autoImplicit false

/-!
# JSON numbers in a document

A number of a JSON text is a plain scalar of a document. It suggests a whole number or a decimal if
its exponent, should it have one, has a sign and comes after a fraction, and it is read as what it
stands for.

## Main definitions

* `RunnerAtlas.Json.Number.IsPortable` — the numbers that both formats read alike.

## Main results

* `RunnerAtlas.Json.Number.scalarValue_suggested` — a number is read as what it stands for.
-/

namespace RunnerAtlas.Json

open Document Outcome RunnerAtlas.Text

namespace Number

/-- The numbers that both formats read alike. A document takes an exponent for one only after a
fraction and with a sign, and a whole number may not have more digits than are allowed. -/
def IsPortable (n : Number) : Prop :=
  (∀ e ∈ n.exponent, n.fraction.isSome = true ∧ e.sign.isSome = true) ∧
    (n.fraction = none → n.exponent = none → n.whole.val.length ≤ Decimal.maxDigits)

end Number

/-! ### Characters of numbers -/

/-- The characters of numbers. -/
def numberChars : List Char := "0123456789.-+eE".toList

/-- A decimal digit is one of ten characters. -/
lemma mem_digits_of_isPlain {c : Char} (h : Digit.isPlain c = true) : c ∈ Pattern.digits := by
  have hcode : 0x30 ≤ c.toNat ∧ c.toNat ≤ 0x39 := by
    simpa [Digit.isPlain, Digit.isPlainDigit] using h
  have hall : ∀ n < 0x3a, 0x30 ≤ n → Char.ofNat n ∈ Pattern.digits := by decide
  rw [← Char.ofNat_toNat c]
  exact hall c.toNat (by omega) hcode.1

/-- The ten digits are decimal digits. -/
lemma isPlain_of_mem_digits {c : Char} (h : c ∈ Pattern.digits) : Digit.isPlain c = true := by
  have hall : ∀ c ∈ Pattern.digits, Digit.isPlain c = true :=
    List.all_iff_forall_prop.mp (by decide)
  exact hall c h

/-- A decimal digit is no sign. -/
lemma ne_sign_of_mem_digits {c : Char} (h : c ∈ Pattern.digits) : c ≠ '-' ∧ c ≠ '+' :=
  ⟨(Pattern.plain_of_mem_digits h).2.2.1, (Pattern.plain_of_mem_digits h).2.2.2.1⟩

/-- Decimal digits are characters of numbers. -/
lemma mem_numberChars_of_isPlain {c : Char} (h : Digit.isPlain c = true) : c ∈ numberChars :=
  (by decide : Pattern.digits ⊆ numberChars) (mem_digits_of_isPlain h)

/-- The characters of an exponent are those of numbers. -/
lemma Exponent.chars_subset (e : Exponent) : e.chars ⊆ numberChars := by
  intro c hc
  simp only [chars, List.mem_cons, List.mem_append, List.mem_map] at hc
  rcases hc with rfl | ⟨sign, -, rfl⟩ | hc
  · cases e.isCapital <;> decide
  · cases sign <;> decide
  · exact mem_numberChars_of_isPlain (e.digits.2.2 c hc)

/-- The characters of a number are those of numbers. -/
lemma Number.chars_subset (n : Number) : n.chars ⊆ numberChars := by
  intro c hc
  simp only [chars, List.mem_append] at hc
  rcases hc with ((hc | hc) | hc) | hc
  · cases hsign : n.isNegative <;> simp [hsign] at hc
    subst hc
    decide
  · exact mem_numberChars_of_isPlain (n.whole.2.2 c hc)
  · cases hfraction : n.fraction with
    | none => simp [hfraction] at hc
    | some digits =>
      rcases List.mem_cons.mp (by simpa [hfraction] using hc) with rfl | hc
      · decide
      · exact mem_numberChars_of_isPlain (digits.2.2 c hc)
  · cases hexponent : n.exponent with
    | none => simp [hexponent] at hc
    | some e => exact e.chars_subset (by simpa [hexponent] using hc)

/-- The characters of numbers are read as they stand: none is a blank, a low line, a colon, or what
ends a word or line. -/
lemma plain_of_mem_numberChars {c : Char} (h : c ∈ numberChars) :
    Decimal.plainChar c = c ∧ Blank.isPlainBlank c.toNat = false ∧ c ≠ '_' ∧ c ≠ ':' ∧ c ≠ '\n' ∧
      isWordChar c = true := by
  have hall : numberChars.all (fun c => decide (Decimal.plainChar c = c ∧
      Blank.isPlainBlank c.toNat = false ∧ c ≠ '_' ∧ c ≠ ':' ∧ c ≠ '\n' ∧
        isWordChar c = true)) = true := by decide
  exact of_decide_eq_true (List.all_eq_true.mp hall c h)

namespace Number

/-- The characters of a number after the digits before its point. -/
def rest (n : Number) : List Char :=
  (n.fraction.elim [] fun digits => '.' :: digits.val) ++ n.exponent.elim [] Exponent.chars

/-- The characters of a number after its minus. -/
def body (n : Number) : List Char := n.whole.val ++ n.rest

/-- A number may have a minus before its other characters. -/
lemma chars_eq (n : Number) : n.chars = (if n.isNegative then ['-'] else []) ++ n.body := by
  simp [chars, body, rest]

/-- A number without its minus begins with a digit. -/
lemma exists_body (n : Number) :
    ∃ d ds, n.whole.val = d :: ds ∧ d ∈ Pattern.digits ∧ (∀ c ∈ ds, Digit.isPlain c = true) ∧
      n.body = d :: (ds ++ n.rest) := by
  obtain ⟨hne, hdigits⟩ := n.whole.2
  obtain ⟨d, ds, hwhole⟩ := List.exists_cons_of_ne_nil hne
  refine ⟨d, ds, hwhole, mem_digits_of_isPlain (hdigits d (by simp [hwhole])),
    fun c hc => hdigits c (by simp [hwhole, hc]), ?_⟩
  rw [body, hwhole]
  rfl

/-- The sign of a number is told from its digits. -/
lemma afterSign_chars (n : Number) : afterSign n.chars = n.body := by
  obtain ⟨d, ds, -, hd, -, hbody⟩ := n.exists_body
  have hsign := ne_sign_of_mem_digits hd
  rw [chars_eq]
  cases n.isNegative with
  | true => rfl
  | false => simp [hbody, afterSign, hsign]

/-- A number begins with a minus or a digit. -/
lemma head_chars (n : Number) : ∀ c ∈ n.chars.head?, c ∈ '-' :: Pattern.digits := by
  obtain ⟨d, ds, -, hd, -, hbody⟩ := n.exists_body
  rw [chars_eq]
  cases n.isNegative <;> simp [hbody, hd]

/-- A number is no word that begins with something else. -/
lemma ne_word (n : Number) (words : List String)
    (h : ∀ w ∈ words, w.toList.head?.any ('-' :: Pattern.digits).contains = false) {cs : List Char}
    (hcs : cs = n.chars ∨ cs = n.body) : String.ofList cs ∉ words := by
  have hhead : ∃ c ∈ '-' :: Pattern.digits, cs.head? = some c := by
    obtain ⟨d, ds, -, hd, -, hbody⟩ := n.exists_body
    rcases hcs with rfl | rfl
    · cases hsign : n.isNegative with
      | true => exact ⟨'-', by simp, by simp [chars_eq, hsign]⟩
      | false => exact ⟨d, by simp [hd], by simp [chars_eq, hsign, hbody]⟩
    · exact ⟨d, by simp [hd], by simp [hbody]⟩
  obtain ⟨c, hc, hhead⟩ := hhead
  intro hmem
  have hnone := h _ hmem
  rw [String.toList_ofList, hhead, Option.any_some, List.contains_iff_mem.mpr hc] at hnone
  cases hnone

/-- An exponent with a sign is one in a document. -/
lemma isExponent_chars {e : Exponent} (h : e.sign.isSome = true) : isExponent e.chars = true := by
  obtain ⟨isCapital, sign, ⟨digits, hne, hdigits⟩⟩ := e
  obtain ⟨isNegative, rfl⟩ := Option.isSome_iff_exists.mp h
  obtain ⟨d, ds, rfl⟩ := List.exists_cons_of_ne_nil hne
  have hall : (d :: ds).all Digit.isPlain = true := List.all_eq_true.mpr hdigits
  cases isCapital <;> cases isNegative <;> simpa [Exponent.chars, isExponent] using hall

/-- A run of digits ends at a character that is none. -/
lemma dropWhile_digits {test : Char → Bool} (htest : ∀ c, Digit.isPlain c = true → test c = true)
    {digits more : List Char} (hdigits : ∀ c ∈ digits, Digit.isPlain c = true)
    (hmore : ∀ c ∈ more.head?, test c = false) : (digits ++ more).dropWhile test = more := by
  rw [List.dropWhile_append_of_pos fun c hc => htest c (hdigits c hc)]
  cases more with
  | nil => rfl
  | cons c more => simp [hmore c (by simp)]

/-- After a fraction comes nothing but an exponent. -/
lemma head_exponent {e? : Option Exponent} :
    ∀ c ∈ (e?.elim [] Exponent.chars).head?, Digit.isPlain c = false ∧ isDigitOrLine c = false := by
  intro c hc
  cases e? with
  | none => cases hc
  | some e =>
    obtain rfl : (if e.isCapital then 'E' else 'e') = c := Option.some.inj hc
    cases e.isCapital <;> decide

/-- Digits are digits or low lines. -/
lemma isDigitOrLine_of_isPlain {c : Char} (h : Digit.isPlain c = true) :
    isDigitOrLine c = true := by
  simp [isDigitOrLine, h]

/-- The digits before the point end with what follows them. -/
lemma dropWhile_whole (n : Number) {digits : List Char}
    (hdigits : ∀ c ∈ digits, Digit.isPlain c = true) :
    (digits ++ n.rest).dropWhile isDigitOrLine = n.rest := by
  refine dropWhile_digits (fun c => isDigitOrLine_of_isPlain) hdigits fun c hc => ?_
  unfold rest at hc
  cases hfraction : n.fraction with
  | some digits =>
    obtain rfl : '.' = c := by simpa [hfraction] using hc
    decide
  | none =>
    rw [hfraction] at hc
    exact (head_exponent c hc).2

/-- A portable number without fraction has no exponent, so that nothing follows its digits. -/
lemma rest_eq_nil {n : Number} (h : n.IsPortable) (hfraction : n.fraction = none) :
    n.exponent = none ∧ n.rest = [] := by
  have hnone : n.exponent = none := by
    rw [Option.eq_none_iff_forall_not_mem]
    intro e he
    simpa [hfraction] using (h.1 e he).1
  exact ⟨hnone, by simp [rest, hfraction, hnone]⟩

/-- A portable number is a decimal if it has a fraction. -/
lemma isDecimal_chars {n : Number} (h : n.IsPortable) :
    isDecimal n.chars = n.fraction.isSome := by
  obtain ⟨d, ds, -, hd, hds, hbody⟩ := n.exists_body
  have hplain : Digit.isPlain d = true := isPlain_of_mem_digits hd
  have hinfinite := n.ne_word infinities (by decide) (.inr rfl)
  have hnumber := n.ne_word notNumbers (by decide) (.inl rfl)
  unfold isDecimal
  rw [afterSign_chars, if_neg (by simpa using hinfinite), if_neg (by simpa using hnumber)]
  split
  · next c rest hchars =>
    have := n.head_chars '.' (by simp [hchars])
    exact absurd this (by decide)
  · rw [hbody]
    dsimp only
    rw [hplain, n.dropWhile_whole hds, Bool.true_and]
    cases hfraction : n.fraction with
    | none =>
      rw [(rest_eq_nil h hfraction).2]
      rfl
    | some digits =>
      have hrest : n.rest = '.' :: (digits.val ++ n.exponent.elim [] Exponent.chars) := by
        simp [rest, hfraction]
      rw [hrest]
      show isFraction (digits.val ++ n.exponent.elim [] Exponent.chars) = true
      rw [isFraction, dropWhile_digits (fun c => isDigitOrLine_of_isPlain) digits.2.2
        fun c hc => (head_exponent c hc).2]
      cases hsome : n.exponent with
      | none => rfl
      | some e => exact isExponent_chars (h.1 e hsome).2

/-- A portable number without fraction is a whole number. -/
lemma isWhole_chars {n : Number} (h : n.IsPortable) (hfraction : n.fraction = none) :
    isWhole n.chars = true := by
  obtain ⟨d, ds, hwhole, hd, hds, hbody⟩ := n.exists_body
  have hplain : Digit.isPlain d = true := isPlain_of_mem_digits hd
  have hdrop := n.dropWhile_whole hds
  rw [(rest_eq_nil h hfraction).2, List.append_nil] at hbody hdrop
  unfold isWhole
  rw [afterSign_chars, hbody]
  rcases n.whole_eq with hzero | hzero
  · obtain ⟨rfl, rfl⟩ : d = '0' ∧ ds = [] := by simpa [hwhole] using hzero
    rfl
  · have hd : d ≠ '0' := by simpa [hwhole] using hzero
    simp [hd, hplain, hdrop]

/-- A text on one line suggests what the line does. -/
lemma suggested_eq_ofLine {cs : List Char} (hne : cs ≠ []) (hline : '\n' ∉ cs) :
    Tag.suggested cs = Tag.ofLine cs := by
  have hlast : cs.getLast? ≠ some '\n' := fun h => hline (List.mem_of_getLast? h)
  unfold Tag.suggested
  split
  · exact absurd rfl hne
  · exact absurd (by simp) hline
  · rw [if_neg hlast]

/-- A portable number suggests a decimal if it has a fraction, and else a whole number. -/
lemma suggested_chars {n : Number} (h : n.IsPortable) :
    Tag.suggested n.chars = if n.fraction.isSome then .float else .int := by
  have hne : n.chars ≠ [] := by
    obtain ⟨d, ds, -, -, -, hbody⟩ := n.exists_body
    simp [chars_eq, hbody]
  have hline : '\n' ∉ n.chars := fun hmem =>
    (plain_of_mem_numberChars (n.chars_subset hmem)).2.2.2.2.1 rfl
  have htruth := n.ne_word truthWords (by decide) (.inl rfl)
  rw [suggested_eq_ofLine hne hline, Tag.ofLine, if_neg (by simpa using htruth), isDecimal_chars h]
  cases hfraction : n.fraction with
  | none => simp [isWhole_chars h hfraction]
  | some digits => rfl

/-! ### Whole numbers -/

/-- Digits that do not begin with zero are read as the whole number that they spell, if they are not
too many. -/
lemma readMagnitude_whole {n : Number} (hlength : n.whole.val.length ≤ Decimal.maxDigits) :
    readMagnitude n.whole.val = .ok (numberOf n.whole.val : Int) := by
  obtain ⟨d, ds, hwhole, hd, hds, -⟩ := n.exists_body
  have hdigits : ∀ c ∈ n.whole.val, c ∈ Pattern.digits := fun c hc =>
    mem_digits_of_isPlain (n.whole.2.2 c hc)
  rcases n.whole_eq with hzero | hzero
  · rw [hzero]
    rfl
  · have hcolon : ':' ∉ n.whole.val := fun hmem => absurd (hdigits ':' hmem) (by decide)
    have hread : wholeIn 10 n.whole.val = .ok (numberOf n.whole.val : Int) := by
      rw [wholeIn, Pattern.readInt_ofList n.whole.2.1 hdigits, if_neg (by omega)]
      rfl
    rw [hwhole] at hzero hcolon hread ⊢
    have hd : d ≠ '0' := by simpa using hzero
    unfold readMagnitude
    split
    case h_6 => rw [if_neg (by simpa using hcolon), hread]
    all_goals simp_all

/-- The minus of a number is told from what follows it. -/
lemma signed_chars (n : Number) {c : Char} {cs : List Char} (hc : c ∈ Pattern.digits) :
    signed ((if n.isNegative then ['-'] else []) ++ c :: cs) = .ok (n.isNegative, c :: cs) := by
  have hsign := ne_sign_of_mem_digits hc
  cases n.isNegative with
  | true => rfl
  | false => simp [signed, hsign]

/-- No low line is dropped from a number. -/
lemma filter_chars (n : Number) : n.chars.filter (· != '_') = n.chars := by
  rw [List.filter_eq_self]
  intro c hc
  simpa using (plain_of_mem_numberChars (n.chars_subset hc)).2.2.1

/-- A portable number without fraction is read as the whole number that it spells. -/
lemma readWhole_chars {n : Number} (h : n.IsPortable) (hfraction : n.fraction = none) :
    (readWhole (String.ofList n.chars)).map Value.int = .ok n.value := by
  obtain ⟨hexponent, hrest⟩ := rest_eq_nil h hfraction
  obtain ⟨d, ds, hwhole, hd, -, hbody⟩ := n.exists_body
  have hmagnitude := readMagnitude_whole (h.2 hfraction hexponent)
  rw [hrest, List.append_nil] at hbody
  rw [hwhole] at hmagnitude
  unfold readWhole
  rw [String.toList_ofList, filter_chars, chars_eq, hbody, signed_chars n hd]
  show ((readMagnitude (d :: ds)).bind _).map Value.int = _
  rw [hmagnitude]
  simp only [value, hfraction, hexponent, hwhole]
  rfl

/-! ### Decimals -/

/-- A number with a small letter before its exponent. -/
def lower (n : Number) : Number :=
  { n with exponent := n.exponent.map fun e => { e with isCapital := false } }

/-- The case of a letter makes no difference to what a number stands for. -/
lemma value_lower (n : Number) : n.lower.value = n.value := by
  obtain ⟨isNegative, whole, fraction, _ | e, whole_eq⟩ := n <;> rfl

/-- Of the characters of numbers only one letter has a small form of its own. -/
lemma lowerText_of_ne {cs : List Char} (hcs : cs ⊆ numberChars) (hne : 'E' ∉ cs) :
    lowerText cs = cs := by
  have hall : ∀ c ∈ numberChars, c ≠ 'E' → lowerText [c] = [c] :=
    List.all_iff_forall_prop.mp (by decide +kernel)
  induction cs with
  | nil => rfl
  | cons c cs ih =>
    obtain ⟨hc, hcs⟩ := List.cons_subset.mp hcs
    have hfirst := hall c hc fun h => hne (by simp [h])
    rw [lowerText, List.flatMap_singleton] at hfirst
    rw [lowerText, List.flatMap_cons, hfirst]
    exact congrArg _ (ih hcs fun h => hne (by simp [h]))

/-- The letter before an exponent is made small. -/
lemma lowerText_chars (n : Number) : lowerText n.chars = n.lower.chars := by
  have happend : ∀ cs ds : List Char, lowerText (cs ++ ds) = lowerText cs ++ lowerText ds :=
    fun _ _ => List.flatMap_append
  have hdigits : ∀ digits : Digits, lowerText digits.val = digits.val := fun digits =>
    lowerText_of_ne (fun c hc => mem_numberChars_of_isPlain (digits.2.2 c hc)) fun hmem =>
      absurd (digits.2.2 'E' hmem) (by decide)
  have hexponent : ∀ e : Exponent, lowerText e.chars = { e with isCapital := false }.chars := by
    intro e
    have hsign : lowerText (e.sign.toList.map (if · then '-' else '+')) =
        e.sign.toList.map (if · then '-' else '+') := by
      rcases e.sign with _ | _ | _ <;> decide +kernel
    have hletter : lowerText [if e.isCapital then 'E' else 'e'] = ['e'] := by
      cases e.isCapital <;> decide +kernel
    have hsplit : e.chars = [if e.isCapital then 'E' else 'e'] ++
        (e.sign.toList.map (if · then '-' else '+') ++ e.digits.val) := rfl
    rw [hsplit, happend, happend, hletter, hsign, hdigits]
    rfl
  obtain ⟨isNegative, whole, fraction, exponent, whole_eq⟩ := n
  have hminus : lowerText (if isNegative then ['-'] else []) =
      if isNegative then ['-'] else [] := by
    cases isNegative <;> decide +kernel
  have hpoint : lowerText (fraction.elim [] fun digits => '.' :: digits.val) =
      fraction.elim [] fun digits => '.' :: digits.val := by
    cases fraction with
    | none => rfl
    | some digits =>
      have hdot : lowerText ['.'] = ['.'] := by decide +kernel
      show lowerText (['.'] ++ digits.val) = _
      rw [happend, hdot, hdigits]
      rfl
  simp only [chars, lower, happend, hminus, hdigits, hpoint]
  cases exponent with
  | none => rfl
  | some e => exact congrArg _ (hexponent e)

/-- Negation changes the sign of a decimal. -/
lemma neg_ofDecimal (digits : Nat) (exponent : Int) :
    (Binary64.ofDecimal false digits exponent).neg = Binary64.ofDecimal true digits exponent := by
  have hpack : ∀ (significand : Nat) (exponent : Int),
      (Binary64.pack false significand exponent).neg = Binary64.pack true significand exponent := by
    intro significand exponent
    simp only [Binary64.pack, apply_ite Binary64.neg]
    rfl
  have hratio : ∀ num den : Nat,
      (Binary64.ofRatio false num den).neg = Binary64.ofRatio true num den := by
    intro num den
    unfold Binary64.ofRatio
    split
    · rfl
    · exact hpack _ _
  unfold Binary64.ofDecimal
  dsimp only
  split
  · rfl
  split
  · rfl
  split
  · rfl
  cases exponent with
  | ofNat up => exact hratio _ _
  | negSucc down => exact hratio _ _

/-- An exponent is read as the number that it stands for. -/
lemma readExponent_chars (e : Exponent) : Decimal.readExponent e.chars = some e.value := by
  obtain ⟨isCapital, sign, ⟨digits, hne, hdigits⟩⟩ := e
  obtain ⟨d, ds, rfl⟩ := List.exists_cons_of_ne_nil hne
  have hsign := ne_sign_of_mem_digits (mem_digits_of_isPlain (hdigits d (by simp)))
  have hsplit : Decimal.splitSign (sign.toList.map (if · then '-' else '+') ++ d :: ds) =
      (decide (sign = some true), d :: ds) := by
    rcases sign with _ | _ | _
    · simp [Decimal.splitSign, hsign]
    · rfl
    · rfl
  have hall : (d :: ds).all Digit.isPlain = true := List.all_eq_true.mpr hdigits
  have hletter : (if isCapital then 'E' else 'e') = 'e' ∨
      (if isCapital then 'E' else 'e') = 'E' := by
    cases isCapital <;> simp
  rw [Exponent.chars, Decimal.readExponent]
  dsimp only
  rw [if_pos hletter, hsplit]
  dsimp only
  rw [if_neg (by simp [hall])]
  simp only [decide_eq_true_eq]
  rfl

/-- The body of a number consists of characters of numbers. -/
lemma body_subset (n : Number) : n.body ⊆ numberChars := by
  intro c hc
  exact n.chars_subset (by rw [chars_eq]; exact List.mem_append_right _ hc)

/-- The digits before and after the point of a number with a fraction are told from each other and
from what follows them. -/
lemma readDecimal_body {n : Number} {digits : Digits} (hfraction : n.fraction = some digits) :
    Decimal.readDecimal false n.body =
      some (Binary64.ofDecimal false (numberOf (n.whole.val ++ digits.val))
        (n.exponent.elim 0 Exponent.value - digits.val.length)) := by
  have hbody : n.body =
      n.whole.val ++ '.' :: (digits.val ++ n.exponent.elim [] Exponent.chars) := by
    simp [body, rest, hfraction]
  have hdot : ∀ {more : List Char}, ∀ c ∈ ('.' :: more).head?, Digit.isPlain c = false := by
    rintro more c hc
    obtain rfl : '.' = c := Option.some.inj hc
    decide
  have hletter : ∀ c ∈ (n.exponent.elim [] Exponent.chars).head?, Digit.isPlain c = false :=
    fun c hc => (head_exponent c hc).1
  have hexponent : Decimal.readExponent (n.exponent.elim [] Exponent.chars) =
      some (n.exponent.elim 0 Exponent.value) := by
    cases n.exponent with
    | none => rfl
    | some e => exact readExponent_chars e
  unfold Decimal.readDecimal
  rw [hbody, takeWhile_append n.whole.2.2 hdot, dropWhile_digits (fun _ h => h) n.whole.2.2 hdot]
  simp only [takeWhile_append digits.2.2 hletter,
    dropWhile_digits (fun _ h => h) digits.2.2 hletter, hexponent]
  rw [if_neg (by simp [n.whole.2.1])]
  rfl

/-- A number with a fraction is read, without its minus, as the decimal that it spells. -/
lemma decimalOf_body {n : Number} {digits : Digits} (hfraction : n.fraction = some digits) :
    decimalOf n.body = .ok (Binary64.ofDecimal false (numberOf (n.whole.val ++ digits.val))
      (n.exponent.elim 0 Exponent.value - digits.val.length)) := by
  obtain ⟨d, ds, -, hd, -, hbody⟩ := n.exists_body
  have hplain : Decimal.plainText n.body = n.body := Pattern.plainText_eq_self fun c hc =>
    ⟨(plain_of_mem_numberChars (n.body_subset hc)).1,
      (plain_of_mem_numberChars (n.body_subset hc)).2.1⟩
  have hlines : '_' ∉ n.body := fun hmem =>
    (plain_of_mem_numberChars (n.body_subset hmem)).2.2.1 rfl
  have hfilter : n.body.filter (· != '_') = n.body := by
    rw [List.filter_eq_self]
    intro c hc
    simpa using fun h : c = '_' => hlines (h ▸ hc)
  have hsplit : Decimal.splitSign n.body = (false, n.body) := by
    rw [hbody]
    simp [Decimal.splitSign, ne_sign_of_mem_digits hd]
  have hname : ∀ w ∈ ["inf", "infinity", "nan"], String.ofList (n.body.map Char.toLower) ≠ w := by
    intro w hw h
    have hhead := congrArg (fun s => s.toList.head?) h
    simp only [String.toList_ofList, hbody, List.map_cons, List.head?_cons] at hhead
    have hall : ∀ d ∈ Pattern.digits, ∀ w ∈ ["inf", "infinity", "nan"],
        some d.toLower ≠ w.toList.head? := List.all_iff_forall_prop.mp (by decide)
    exact hall d hd w hw hhead
  unfold decimalOf Decimal.readFloat
  simp only [String.toList_ofList, hplain]
  rw [if_neg (by simp [hlines]), hfilter, hsplit]
  dsimp only
  rw [if_neg (by simp [hname]), if_neg (hname "nan" (by simp)), readDecimal_body hfraction]
  rfl

/-- A number with a fraction is read as the decimal that it spells. -/
lemma readDecimal_chars {n : Number} {digits : Digits} (hfraction : n.fraction = some digits) :
    (readDecimal (String.ofList n.chars)).map Value.float = .ok n.value := by
  have hfraction' : n.lower.fraction = some digits := hfraction
  obtain ⟨d, ds, -, hd, -, hbody⟩ := n.lower.exists_body
  have hcolon : ':' ∉ n.lower.body := fun hmem =>
    (plain_of_mem_numberChars (n.lower.body_subset hmem)).2.2.2.1 rfl
  have hname : n.lower.body ≠ ".inf".toList ∧ n.lower.body ≠ ".nan".toList := by
    rw [hbody]
    constructor <;> intro h <;> rw [(List.cons.inj h).1] at hd <;> exact absurd hd (by decide)
  have hsize : readSize n.lower.body = decimalOf n.lower.body := by
    rw [readSize, if_neg (by simpa using hcolon)]
  unfold readDecimal
  rw [String.toList_ofList, filter_chars, lowerText_chars, chars_eq n.lower, hbody,
    signed_chars n.lower hd, ← hbody]
  show ((if n.lower.body = ".inf".toList then _ else if n.lower.body = ".nan".toList then _ else
    (readSize n.lower.body).bind _).map Value.float : Except ScalarFault Value) = _
  rw [if_neg hname.1, if_neg hname.2, hsize, decimalOf_body hfraction', ← value_lower]
  have hvalue : n.lower.value = .float (Binary64.ofDecimal n.lower.isNegative
      (numberOf (n.lower.whole.val ++ digits.val))
      (n.lower.exponent.elim 0 Exponent.value - digits.val.length)) := by
    simp [value, decimals, hfraction']
  rw [hvalue]
  cases n.lower.isNegative with
  | false => rfl
  | true =>
    rw [← neg_ofDecimal]
    rfl

/-- **Numbers in a document.** A portable number is read as what it stands for. -/
theorem scalarValue_suggested {n : Number} (h : n.IsPortable) :
    scalarValue (Tag.suggested n.chars) (String.ofList n.chars) = .ok n.value := by
  rw [suggested_chars h]
  cases hfraction : n.fraction with
  | none =>
    show ((readWhole (String.ofList n.chars)).map Value.int).mapError Fault.scalar = _
    rw [readWhole_chars h hfraction]
    rfl
  | some digits =>
    show ((readDecimal (String.ofList n.chars)).map Value.float).mapError Fault.scalar = _
    rw [readDecimal_chars hfraction]
    rfl

end Number

end RunnerAtlas.Json
