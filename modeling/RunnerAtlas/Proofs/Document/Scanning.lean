import RunnerAtlas.Document.Scanner
import RunnerAtlas.Proofs.Document.Words

set_option relaxedAutoImplicit false
set_option autoImplicit false

/-!
# Scanning outside block collections

Where no block collection is open and no key is required, what stands before a token is skipped, and
a token of a flow collection is pushed in one step. A scalar that starts where a key may start turns
out to be one at the colon after it, if that follows on its line and soon enough.

## Main definitions

* `RunnerAtlas.Document.Scanner.IsCalm` — outside block collections, with no key required.
* `RunnerAtlas.Document.Scanner.Pushed` — a token was pushed for a number of characters.

## Main results

* `RunnerAtlas.Document.Scanner.IsCalm.exists_step` — what stands before a token is skipped.
* `RunnerAtlas.Document.Scanner.IsCalm.exists_value` — the token of keys is put before a key.
-/

namespace RunnerAtlas.Document.Scanner

/-- Outside block collections, with no key required and a number of flow collections open. -/
structure IsCalm (s : Scanner) (depth : Nat) : Prop where
  /-- The number of flow collections. -/
  depth_eq : s.depth = depth
  /-- Outside block collections the indentation is minus one. -/
  indent_eq : s.indent = -1
  /-- There are no block collections. -/
  outer_eq : s.outer = []
  /-- No key is required. -/
  not_required : ∀ c ∈ s.candidates, c.2.isRequired = false

variable {s : Scanner} {depth : Nat}

/-! ### Candidates -/

/-- Candidates that are not required can be dropped. -/
lemma IsCalm.dropStale_eq (h : s.IsCalm depth) :
    s.dropStale = .ok { s with candidates := s.candidates.filter fun c => !s.isStale c.2 } := by
  unfold dropStale
  rw [if_neg]
  simp only [List.any_eq_true, not_exists, not_and]
  intro c hc
  simp [h.not_required c hc]

/-- The candidate of a flow collection that is not required can be dropped. -/
lemma IsCalm.dropCandidate_eq (h : s.IsCalm depth) :
    s.dropCandidate = .ok { s with candidates := s.candidates.filter fun c => c.1 != s.depth } := by
  unfold dropCandidate
  rw [if_neg]
  simp only [List.any_eq_true, not_exists, not_and]
  intro c hc
  simp [h.not_required c hc]

/-- Dropping candidates requires no key. -/
lemma IsCalm.filter (h : s.IsCalm depth) (test : Nat × Candidate → Bool) :
    { s with candidates := s.candidates.filter test }.IsCalm depth :=
  ⟨h.depth_eq, h.indent_eq, h.outer_eq, fun c hc => h.not_required c (List.mem_filter.mp hc).1⟩

/-- The candidate for a key that starts at the next character. -/
def candidate (s : Scanner) : Candidate :=
  ⟨s.tokens.length, false, s.feed.index, s.feed.line, s.feed.column⟩

/-- What is next becomes a candidate where a key may start. -/
lemma IsCalm.exists_addCandidate (h : s.IsCalm depth) :
    ∃ candidates, s.addCandidate = .ok { s with candidates := candidates } ∧
      { s with candidates := candidates }.IsCalm depth ∧
      (s.allowsKey = true → ∃ others, candidates = (depth, s.candidate) :: others) := by
  unfold addCandidate
  by_cases hallows : s.allowsKey = true
  · have hrequired : (!s.inFlow && s.indent == s.feed.column) = false := by
      have : s.indent ≠ s.feed.column := by rw [h.indent_eq]; omega
      simp [this]
    rw [if_pos hallows, h.dropCandidate_eq, hrequired]
    refine ⟨_, rfl, ⟨h.depth_eq, h.indent_eq, h.outer_eq, ?_⟩,
      fun _ => ⟨s.candidates.filter fun c => c.1 != s.depth, ?_⟩⟩
    · intro c hc
      rcases List.mem_cons.mp hc with rfl | hc
      · rfl
      · exact h.not_required c (List.mem_filter.mp hc).1
    · rw [← h.depth_eq]
      rfl
  · rw [if_neg hallows]
    exact ⟨s.candidates, rfl, h, fun hallows' => absurd hallows' hallows⟩

/-- Outside block collections none is ended. -/
lemma IsCalm.unwind_eq (h : s.IsCalm depth) (column : Int) : s.unwind column = s := by
  unfold unwind
  rw [h.outer_eq]
  exact ite_self _

/-! ### Blanks -/

/-- Whether a character stands for itself after blanks: it is no blank, no end of line, and starts
no comment. -/
def IsMark (c : Char) : Prop := c ≠ ' ' ∧ c ≠ '#' ∧ c ≠ '\ufeff' ∧ isBreak c = false

/-- One round of skipping passes the spaces and the end of a line after them. -/
lemma skipBlanks_succ {spaces rest : List Char} (hspaces : ∀ c ∈ spaces, c = ' ')
    (hrest : ∀ c ∈ rest.head?, c ≠ ' ' ∧ c ≠ '#') (fuel : Nat) (s : Scanner)
    (h : s.feed.rest = spaces ++ rest) :
    skipBlanks (fuel + 1) s =
      if rest.head?.any isBreak then
        skipBlanks fuel { (s.skip spaces.length).skip 1 with allowsKey := s.allowsKey || !s.inFlow }
      else s.skip spaces.length := by
  have htake : s.feed.rest.takeWhile (· == ' ') = spaces := by
    rw [h]
    exact takeWhile_append (by simpa using hspaces) (by simpa using fun c hc => (hrest c hc).1)
  have hat : (s.skip spaces.length).feed.at? 0 = rest.head? := by
    rw [Feed.at?, skip, s.feed.rest_advanceBy_length h, List.head?_eq_getElem?]
  have hcomment : (s.skip spaces.length).feed.at? 0 ≠ some '#' := by
    rw [hat]
    exact fun hc => (hrest '#' hc).2 rfl
  rw [← hat]
  conv_lhs => unfold skipBlanks
  dsimp only
  rw [htake, if_neg hcomment]
  rfl

/-- Blanks are skipped, after which a key may start where it could before. -/
lemma exists_skipBlanks {w tail : List Char} (hw : w ⊆ [' ', '\n'])
    (htail : ∀ c ∈ tail.head?, IsMark c) {fuel : Nat} (hfuel : w.length < fuel) (s : Scanner)
    (hrest : s.feed.rest = w ++ tail) :
    ∃ allows, skipBlanks fuel s =
        { s with feed := s.feed.advanceBy w.length, allowsKey := allows } ∧
      (s.allowsKey = true → allows = true) := by
  induction fuel generalizing s w with
  | zero => exact absurd hfuel (Nat.not_lt_zero _)
  | succ fuel ih =>
    obtain ⟨spaces, rest, rfl, hspaces, hmore⟩ := exists_spaces hw
    rw [List.append_assoc] at hrest
    rcases hmore with rfl | ⟨more, rfl, hmore⟩
    · have hround := skipBlanks_succ hspaces (fun c hc => ⟨(htail c hc).1, (htail c hc).2.1⟩) fuel s
        hrest
      have hend : ¬ tail.head?.any isBreak = true := by
        cases tail with
        | nil => simp
        | cons c tail => simp [(htail c rfl).2.2.2]
      rw [if_neg hend] at hround
      exact ⟨s.allowsKey, by rw [List.append_nil]; exact hround, id⟩
    · have hround := skipBlanks_succ hspaces (by simp) fuel s hrest
      have hnext : ((s.skip spaces.length).skip 1).feed.rest = more ++ tail := by
        show ((s.feed.advanceBy spaces.length).advanceBy 1).rest = _
        rw [Feed.rest_advanceBy, s.feed.rest_advanceBy_length hrest]
        rfl
      obtain ⟨allows, hskip, hallows⟩ := ih hmore (by simp at hfuel; omega)
        { (s.skip spaces.length).skip 1 with allowsKey := s.allowsKey || !s.inFlow } hnext
      have hend : ('\n' :: more ++ tail).head?.any isBreak = true := rfl
      refine ⟨allows, ?_, fun h => hallows (by simp [h])⟩
      rw [hround, if_pos hend, hskip, List.length_append, List.length_cons,
        Nat.add_comm more.length 1, ← Nat.add_assoc, Feed.advanceBy_add, Feed.advanceBy_add]
      rfl

/-- What stands before a token is skipped. -/
lemma exists_skipToToken {w tail : List Char} (hw : w ⊆ [' ', '\n'])
    (htail : ∀ c ∈ tail.head?, IsMark c) (s : Scanner) (hrest : s.feed.rest = w ++ tail) :
    ∃ allows, s.skipToToken = { s with feed := s.feed.advanceBy w.length, allowsKey := allows } ∧
      (s.allowsKey = true → allows = true) := by
  have hmark : s.feed.at? 0 ≠ some '\ufeff' := by
    rw [Feed.at?, hrest, ← List.head?_eq_getElem?]
    cases w with
    | nil => exact fun h => (htail _ h).2.2.1 rfl
    | cons c w =>
      obtain rfl | rfl : c = ' ' ∨ c = '\n' := by simpa using hw (List.mem_cons_self ..)
      · simp
      · simp
  unfold skipToToken
  rw [if_neg fun h => hmark h.2]
  exact exists_skipBlanks hw htail (by rw [hrest, List.length_append]; omega) s hrest

/-! ### Steps -/

/-- What stands before a token is skipped, and candidates are dropped that have become stale. -/
theorem IsCalm.exists_step (h : s.IsCalm depth) {w cs : List Char} {c : Char}
    (hw : w ⊆ [' ', '\n']) (hc : IsMark c) (hrest : s.feed.rest = w ++ c :: cs) :
    ∃ s₁ : Scanner, s₁.IsCalm depth ∧ s₁.tokens = s.tokens ∧
      s₁.feed = s.feed.advanceBy w.length ∧ (s.allowsKey = true → s₁.allowsKey = true) ∧
      s₁.candidates = s.candidates.filter (fun c => !s₁.isStale c.2) ∧
      s.step = (s₁.tokenAt c).map (·, false) := by
  have htail : ∀ d ∈ (c :: cs).head?, IsMark d := by simpa
  obtain ⟨allows, hskip, hallows⟩ := exists_skipToToken hw htail s hrest
  have hcalm : s.skipToToken.IsCalm depth := by
    rw [hskip]
    exact ⟨h.depth_eq, h.indent_eq, h.outer_eq, h.not_required⟩
  have hfeed : s.skipToToken.feed = s.feed.advanceBy w.length := by rw [hskip]
  have hdropped := hcalm.filter fun c => !s.skipToToken.isStale c.2
  refine ⟨_, hdropped, by rw [hskip], hfeed, by rw [hskip]; exact hallows, ?_, ?_⟩
  · rw [hskip]
    rfl
  · have hat : s.skipToToken.feed.at? 0 = some c := by
      rw [hfeed, Feed.at?, Feed.rest_advanceBy_length _ hrest]
      rfl
    unfold step
    rw [hcalm.dropStale_eq]
    dsimp only [bind, Except.bind]
    rw [hdropped.unwind_eq, hat]
    dsimp only
    generalize tokenAt _ c = result
    cases result <;> rfl

/-- At the end of a text no token is left. -/
theorem IsCalm.exists_step_end (h : s.IsCalm depth) (hrest : s.feed.rest ⊆ [' ', '\n']) :
    ∃ s₁ : Scanner, s₁.tokens = s.tokens ∧ s.step = .ok (s₁, true) := by
  obtain ⟨allows, hskip, -⟩ := exists_skipToToken hrest (by simp) s (List.append_nil _).symm
  have hcalm : s.skipToToken.IsCalm depth := by
    rw [hskip]
    exact ⟨h.depth_eq, h.indent_eq, h.outer_eq, h.not_required⟩
  have hdropped := hcalm.filter fun c => !s.skipToToken.isStale c.2
  have hat : s.skipToToken.feed.at? 0 = none := by
    rw [hskip, Feed.at?, Feed.rest_advanceBy, List.drop_length]
    rfl
  refine ⟨{ s.skipToToken with
    candidates := (s.skipToToken.candidates.filter fun c => !s.skipToToken.isStale c.2).filter
      fun c => c.1 != s.skipToToken.depth }, by rw [hskip], ?_⟩
  unfold step
  rw [hcalm.dropStale_eq]
  dsimp only [bind, Except.bind]
  rw [hdropped.unwind_eq, hat]
  dsimp only
  rw [hdropped.unwind_eq, hdropped.dropCandidate_eq]
  rfl

/-- A step of a run. -/
lemma run_of_step {s' : Scanner} (h : s.step = .ok (s', false)) (fuel : Nat) :
    run (fuel + 1) s = run fuel s' := by
  rw [run, h]

/-- A step of a run puts its token before those of the rest. -/
lemma run_of_token {s' : Scanner} {t : Token} {ts : List Token} {fuel : Nat}
    (hstep : s.step = .ok (s', false)) (htokens : s'.tokens = t :: s.tokens)
    (hrest : run fuel s' = (s'.tokens.reverse ++ ts, none)) :
    run (fuel + 1) s = (s.tokens.reverse ++ t :: ts, none) := by
  rw [run_of_step hstep, hrest, htokens, List.reverse_cons, List.append_assoc]
  rfl

/-- The last step of a run. -/
lemma run_of_last {s' : Scanner} (h : s.step = .ok (s', true)) (fuel : Nat) :
    run (fuel + 1) s = (s'.tokens.reverse, none) := by
  rw [run, h]

/-! ### Tokens -/

/-- A token was pushed for a number of characters. -/
structure Pushed (s s' : Scanner) (depth : Nat) (t : Token) (n : Nat) : Prop where
  /-- The number of flow collections after it. -/
  calm : s'.IsCalm depth
  /-- It is the latest token. -/
  tokens_eq : s'.tokens = t :: s.tokens
  /-- The characters were skipped. -/
  feed_eq : s'.feed = s.feed.advanceBy n

/-- A flow collection starts, in which a key may start. -/
lemma IsCalm.exists_openFlow (h : s.IsCalm depth) (t : Token) :
    ∃ s', s.openFlow t = .ok s' ∧ Pushed s s' (depth + 1) t 1 ∧ s'.allowsKey = true := by
  obtain ⟨candidates, hadd, hcalm, -⟩ := h.exists_addCandidate
  unfold openFlow
  rw [hadd]
  refine ⟨_, rfl, ⟨⟨?_, hcalm.indent_eq, hcalm.outer_eq, hcalm.not_required⟩, rfl, rfl⟩, rfl⟩
  exact congrArg (· + 1) h.depth_eq

/-- A flow collection ends. -/
lemma IsCalm.exists_closeFlow (h : s.IsCalm (depth + 1)) (t : Token) :
    ∃ s', s.closeFlow t = .ok s' ∧ Pushed s s' depth t 1 := by
  have hcalm := h.filter fun c => c.1 != s.depth
  unfold closeFlow
  rw [h.dropCandidate_eq]
  refine ⟨_, rfl, ⟨⟨?_, hcalm.indent_eq, hcalm.outer_eq, hcalm.not_required⟩, rfl, rfl⟩⟩
  exact congrArg (· - 1) h.depth_eq

/-- After the separator of a flow collection a key may start. -/
lemma IsCalm.exists_flowEntry (h : s.IsCalm depth) :
    ∃ s', s.flowEntry = .ok s' ∧ Pushed s s' depth .flowEntry 1 ∧ s'.allowsKey = true := by
  have hcalm : { s with allowsKey := true }.IsCalm depth :=
    ⟨h.depth_eq, h.indent_eq, h.outer_eq, h.not_required⟩
  have hfilter := hcalm.filter fun c => c.1 != s.depth
  unfold flowEntry
  rw [hcalm.dropCandidate_eq]
  exact ⟨_, rfl, ⟨⟨h.depth_eq, h.indent_eq, h.outer_eq, hfilter.not_required⟩, rfl, rfl⟩, rfl⟩

/-- A node may be a key if one may start where it stands. -/
lemma IsCalm.exists_nodeToken (h : s.IsCalm depth) {x : Scan Token} {cs tail : List Char}
    {t : Token} (hx : Takes x cs tail t) (hrest : s.feed.rest = cs ++ tail) :
    ∃ s', s.nodeToken x = .ok s' ∧ Pushed s s' depth t cs.length ∧
      (s.allowsKey = true → ∃ others, s'.candidates = (depth, s.candidate) :: others) := by
  obtain ⟨candidates, hadd, hcalm, hhead⟩ := h.exists_addCandidate
  unfold nodeToken
  rw [hadd]
  show ∃ s', (scan _ x >>= _) = _ ∧ _
  unfold scan
  dsimp only
  rw [hx s.feed hrest]
  exact ⟨_, rfl, ⟨⟨h.depth_eq, h.indent_eq, h.outer_eq, hcalm.not_required⟩, rfl, rfl⟩, hhead⟩

/-- A word is pushed with the blanks after it. -/
lemma IsCalm.exists_plain (h : s.IsCalm depth) {cs w tail : List Char} (hne : cs ≠ [])
    (hcs : ∀ c ∈ cs, isWordChar c = true) (hw : w ⊆ [' ', '\n'])
    (htail : EndsWords s.inFlow tail) (hrest : s.feed.rest = cs ++ w ++ tail) :
    ∃ s', s.plain = .ok s' ∧
      Pushed s s' depth (.scalar (String.ofList cs) true) (cs ++ w).length := by
  obtain ⟨candidates, hadd, hcalm, -⟩ := h.exists_addCandidate
  obtain ⟨newLine, htakes⟩ := exists_takes_plainScalar hne hcs hw htail
  unfold plain
  rw [hadd]
  show ∃ s', (scan _ (plainScalar s.inFlow s.indent) >>= _) = _ ∧ _
  unfold scan
  rw [h.indent_eq]
  dsimp only
  rw [htakes s.feed hrest]
  exact ⟨_, rfl, ⟨⟨h.depth_eq, rfl, h.outer_eq, hcalm.not_required⟩, rfl, rfl⟩⟩

/-- **Keys.** In a flow collection the candidate is a key if a value follows: the token of keys is
put before its own. -/
theorem IsCalm.exists_value (h : s.IsCalm (depth + 1)) {c : Candidate} {t : Token}
    {before : List Token} (hc : s.candidates.lookup (depth + 1) = some c)
    (htokens : s.tokens = t :: before) (hnumber : c.number = before.length) :
    ∃ s', s.value = .ok s' ∧ s'.IsCalm (depth + 1) ∧
      s'.tokens = .value :: t :: .key :: before ∧ s'.feed = s.feed.advanceBy 1 := by
  have hfilter := h.filter fun c => c.1 != s.depth
  have htokens' : s.tokens.take (s.tokens.length - c.number) ++
      .key :: s.tokens.drop (s.tokens.length - c.number) = t :: .key :: before := by
    rw [htokens, hnumber, List.length_cons, Nat.add_sub_cancel_left]
    rfl
  have hinsert : (({ s with candidates := s.candidates.filter fun c => c.1 != s.depth }).insert
      c.number .key) = { s with
        candidates := s.candidates.filter fun c => c.1 != s.depth,
        tokens := t :: .key :: before } := by
    rw [← htokens']
    rfl
  unfold value
  rw [show s.candidates.lookup s.depth = some c by rw [h.depth_eq, hc]]
  dsimp only
  rw [hinsert]
  simp only [inFlow, h.depth_eq, Nat.zero_lt_succ, decide_true, if_true]
  refine ⟨_, rfl, ⟨rfl, h.indent_eq, h.outer_eq, ?_⟩, rfl, rfl⟩
  rw [h.depth_eq] at hfilter
  exact hfilter.not_required

/-! ### The characters that start tokens -/

/-- The mark of a document's start or end begins with its character. -/
lemma isMark_eq_false {c d : Char} {cs : List Char} (hrest : s.feed.rest = c :: cs)
    (h : c = d → cs.head? ≠ some d) : s.isMark d = false := by
  unfold isMark
  rw [hrest]
  by_cases hc : c = d
  · have hcs := h hc
    cases cs with
    | nil => simp
    | cons e cs =>
      have he : e ≠ d := by simpa using hcs
      simp [he]
  · simp [hc]

/-- The marks of flow collections and quotes start their tokens. -/
lemma tokenAt_mark {c : Char} {cs : List Char} (hrest : s.feed.rest = c :: cs)
    (hc : c ∈ ['[', ']', '\x7b', '\x7d', ',', '"']) :
    s.tokenAt c = if c = '[' then s.openFlow .flowSequence
      else if c = '\x7b' then s.openFlow .flowMapping
      else if c = ']' then s.closeFlow .flowSequenceEnd
      else if c = '\x7d' then s.closeFlow .flowMappingEnd
      else if c = ',' then s.flowEntry
      else s.quoted true := by
  have hminus : s.isMark '-' = false :=
    isMark_eq_false hrest fun h => absurd hc (by rw [h]; decide)
  have hdot : s.isMark '.' = false :=
    isMark_eq_false hrest fun h => absurd hc (by rw [h]; decide)
  simp only [List.mem_cons, List.not_mem_nil, or_false] at hc
  unfold tokenAt
  rcases hc with rfl | rfl | rfl | rfl | rfl | rfl <;> simp [hminus, hdot]

/-- In a flow collection a colon is the mark of a value. -/
lemma tokenAt_colon {cs : List Char} (hrest : s.feed.rest = ':' :: cs) (h : s.inFlow = true) :
    s.tokenAt ':' = s.value := by
  have hminus : s.isMark '-' = false := isMark_eq_false hrest (by simp)
  have hdot : s.isMark '.' = false := isMark_eq_false hrest (by simp)
  unfold tokenAt
  simp [hminus, hdot, h]

/-- The marks that no plain scalar starts with. -/
lemma indicators_eq : indicators = ['-', '?', ':', ',', '[', ']', '#', '&', '*', '!', '|', '>',
    '\'', '"', '%', '@', '\x7b', '\x7d', '\x60'] := by decide

/-- Characters that begin a plain scalar whatever follows them: one that is no mark, or a minus that
goes on. -/
inductive StartsWord : List Char → Prop where
  /-- A character that is no mark. -/
  | char {c : Char} (cs : List Char) (hends : endsWord (some c) = false)
    (hc : c ∉ '.' :: indicators) : StartsWord (c :: cs)
  /-- A minus that goes on. -/
  | minus {d : Char} (cs : List Char) (hends : endsWord (some d) = false) (hd : d ≠ '-') :
    StartsWord ('-' :: d :: cs)

/-- What follows the beginning of a plain scalar may be any. -/
lemma StartsWord.append {cs : List Char} (h : StartsWord cs) (more : List Char) :
    StartsWord (cs ++ more) := by
  cases h with
  | char cs hends hc => exact .char _ hends hc
  | minus cs hends hd => exact .minus _ hends hd

/-- Where a plain scalar begins its token is a plain scalar. -/
lemma tokenAt_word {c : Char} {cs : List Char} (hrest : s.feed.rest = c :: cs)
    (h : StartsWord (c :: cs)) : s.tokenAt c = s.plain := by
  cases h with
  | char _ hends hc =>
    have hplain : startsPlain s.inFlow c (s.feed.at? 1) = true := by
      have : c ∉ indicators := fun h => hc (List.mem_cons_of_mem _ h)
      simp [startsPlain, hends, this]
    rw [indicators_eq] at hc
    simp only [List.mem_cons, not_or] at hc
    have hminus : s.isMark '-' = false := isMark_eq_false hrest fun h => absurd h hc.2.1
    have hdot : s.isMark '.' = false := isMark_eq_false hrest fun h => absurd h hc.1
    unfold tokenAt
    simp [hminus, hdot, hc, hplain]
  | @minus d cs hends hd =>
    have hminus : s.isMark '-' = false := isMark_eq_false hrest fun _ => by simpa using hd
    have hdot : s.isMark '.' = false := isMark_eq_false hrest (by simp)
    have hnext : s.feed.at? 1 = some d := by rw [Feed.at?, hrest]; rfl
    unfold tokenAt
    simp [hminus, hdot, hnext, hends, startsPlain]

end RunnerAtlas.Document.Scanner
