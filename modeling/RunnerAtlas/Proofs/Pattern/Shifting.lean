import RunnerAtlas.Proofs.Pattern.Reading

set_option relaxedAutoImplicit false
set_option autoImplicit false

/-!
# Reading in a longer text

Where reading a text succeeds, reading a longer text that begins with it and goes on with a bar does
the same and leaves what comes after the bar. This is shown step by step: each step is related to
itself in the longer text, and steps in a row are related if each of them is. The fuel of a loop may
be larger there.

## Main definitions

* `RunnerAtlas.Pattern.Reader.Moves` — a reader that has taken some pieces.
* `RunnerAtlas.Pattern.Carries` — reading that carries over to a longer text.

## Main results

* `RunnerAtlas.Pattern.Takes.ne_dangling` — a text that has been taken has no dangling backslash.
* `RunnerAtlas.Pattern.CarriesFrom.bind` — one step after another.
* `RunnerAtlas.Pattern.CarriesFrom.next_bind` — taking a piece.
* `RunnerAtlas.Pattern.carries_takeUpTo` — taking a run of characters.
-/

namespace RunnerAtlas.Pattern

variable {α β : Type}

/-! ### Readers that have moved on -/

/-- Pieces are taken one by one until some are left, and a backslash that dangles is never left
alone. -/
inductive Takes : List Lexeme → List Lexeme → Prop where
  /-- Nothing is taken. -/
  | done (ls : List Lexeme) : Takes ls ls
  /-- The first piece is taken. -/
  | step {l : Lexeme} {ls rest : List Lexeme} (hne : ls ≠ [.dangling]) (h : Takes ls rest) :
    Takes (l :: ls) rest

namespace Takes

variable {ls ls' ls'' : List Lexeme}

/-- Pieces may be taken in two goes. -/
lemma trans (h : Takes ls ls') (h' : Takes ls' ls'') : Takes ls ls'' := by
  induction h with
  | done => exact h'
  | step hne _ ih => exact .step hne (ih h')

/-- What is left ends the pieces. -/
lemma suffix (h : Takes ls ls') : ls' <:+ ls := by
  induction h with
  | done => exact List.suffix_rfl
  | step _ _ ih => exact ih.trans (List.suffix_cons _ _)

/-- If all pieces are taken, no backslash dangles at their end, unless it was there alone. -/
lemma ne_dangling (h : Takes ls ls') (hnil : ls' = []) (hne : ls ≠ [.dangling])
    (before : List Lexeme) : ls ≠ before ++ [.dangling] := by
  induction h generalizing before with
  | done => subst hnil; simp
  | step hstep _ ih =>
    cases before with
    | nil => exact hne
    | cons first before =>
      intro heq
      exact ih hnil hstep before (List.cons.inj heq).2

end Takes

/-- A reader moves on: it takes some pieces, and all else that it knows stays. -/
structure Reader.Moves (r r' : Reader) : Prop where
  /-- Pieces are taken. -/
  takes : Takes r.rest r'.rest
  /-- All else stays. -/
  eq : r' = { r with rest := r'.rest, position := r'.position }

namespace Reader

/-- A reader may stay. -/
lemma Moves.refl (r : Reader) : r.Moves r := ⟨.done _, rfl⟩

/-- A reader may move on twice. -/
lemma Moves.trans {r r' r'' : Reader} (h : r.Moves r') (h' : r'.Moves r'') : r.Moves r'' :=
  ⟨h.takes.trans h'.takes, by rw [h'.eq, h.eq]⟩

/-- The flags stay. -/
lemma Moves.flags_eq {r r' : Reader} (h : r.Moves r') : r'.flags = r.flags := by
  rw [h.eq]

/-- A reader with other pieces after its own, at another position. -/
def shift (tail : List Lexeme) (d : Nat) (r : Reader) : Reader :=
  { r with rest := r.rest ++ tail, position := r.position + d }

end Reader

/-! ### Reading in a longer text -/

/-- What may come after a text: nothing, or a bar. -/
def Ends (tail : List Lexeme) : Prop := ∀ l ∈ tail.head?, l = .plain '|'

/-- Nothing may come after a text. -/
lemma ends_nil : Ends [] := fun _ h => nomatch h

/-- A bar may come after a text. -/
lemma ends_bar (ls : List Lexeme) : Ends (.plain '|' :: ls) := fun _ h => (Option.some.inj h).symm

/-- Reading fails on a state. -/
def Fails (r : Reader) (x : Reading α) : Prop := ∀ p, x.run r ≠ .ok p

/-- If reading succeeds on a state, the outcome is of a kind, the reader has moved on from an
earlier state, and reading in a longer text has the same outcome and leaves the same pieces with the
others after them. -/
def CarriesFrom (r₀ : Reader) (tail : List Lexeme) (d : Nat) (r : Reader) (Q : α → Prop)
    (x x' : Reading α) : Prop :=
  ∀ a r', x.run r = .ok (a, r') →
    Q a ∧ r₀.Moves r' ∧ x'.run (r.shift tail d) = .ok (a, r'.shift tail d)

/-- Reading carries over to a longer text, where the reader moves on from where it was. -/
abbrev Carries (tail : List Lexeme) (d : Nat) (r : Reader) (Q : α → Prop) (x x' : Reading α) :
    Prop :=
  CarriesFrom r tail d r Q x x'

variable {r₀ : Reader} {tail : List Lexeme} {d : Nat} {r : Reader} {Q Q' : α → Prop} {R : β → Prop}
  {x x' : Reading α}

/-- An error is a failure. -/
lemma fails_throw (e : PatternError) : Fails r (throw e : Reading α) := fun _ h => nomatch h

/-- A fault at a position is a failure. -/
lemma fails_failAt (position : Nat) (fault : Fault) :
    Fails r (failAt position fault : Reading α) := fails_throw _

/-- A fault some characters back is a failure. -/
lemma fails_failBack (back : Nat) (fault : Fault) :
    Fails r (failBack back fault : Reading α) := fun _ h => nomatch h

namespace CarriesFrom

/-- What fails carries over. -/
lemma of_fails (h : Fails r x) : CarriesFrom r₀ tail d r Q x x' := fun _ _ hx => absurd hx (h _)

/-- Less may be asked of the outcome. -/
lemma mono (h : Carries tail d r Q x x') (hQ : ∀ a, Q a → Q' a) : Carries tail d r Q' x x' :=
  fun a r' hx => (h a r' hx).imp_left (hQ a)

/-- Giving a value carries over. -/
lemma pure {a : α} (h : Q a) : Carries tail d r Q (pure a) (pure a) := by
  intro b r' hx
  cases hx
  exact ⟨h, .refl r, rfl⟩

/-- What follows a step may be related to an earlier state. -/
lemma bind_from {f f' : α → Reading β} (hx : Carries tail d r Q x x')
    (hf : ∀ a r', Q a → r.Moves r' → CarriesFrom r₀ tail d r' R (f a) (f' a)) :
    CarriesFrom r₀ tail d r R (x >>= f) (x' >>= f') := by
  intro b r'' h
  obtain ⟨a, r', hrun, hf'⟩ := exists_of_run_bind h
  obtain ⟨hQ, hmoves, hx'⟩ := hx a r' hrun
  obtain ⟨hR, hmoves', hf'⟩ := hf a r' hQ hmoves b r'' hf'
  exact ⟨hR, hmoves', by rw [run_bind_of_ok hx', hf']⟩

/-- Reading moves on from an earlier state if it moves on from a state to which that one moves. -/
lemma of_moves (hmoves : r₀.Moves r) (h : Carries tail d r Q x x') :
    CarriesFrom r₀ tail d r Q x x' := by
  intro a r' hx
  obtain ⟨hQ, hmoves', hx'⟩ := h a r' hx
  exact ⟨hQ, hmoves.trans hmoves', hx'⟩

/-- One thing after another carries over if both do. -/
lemma bind {f f' : α → Reading β} (hx : Carries tail d r Q x x')
    (hf : ∀ a r', Q a → r.Moves r' → Carries tail d r' R (f a) (f' a)) :
    Carries tail d r R (x >>= f) (x' >>= f') :=
  hx.bind_from fun a r' ha hmoves => .of_moves hmoves (hf a r' ha hmoves)

/-- Applying a function carries over. -/
lemma map {g : α → β} (h : Carries tail d r (fun a => R (g a)) x x') :
    Carries tail d r R (g <$> x) (g <$> x') := by
  rw [← bind_pure_comp, ← bind_pure_comp]
  exact h.bind fun _ _ ha _ => pure ha

/-- Asking for the state, with which reading goes on. -/
lemma get_bind {f f' : Reader → Reading α}
    (h : Carries tail d r Q (f r) (f' (r.shift tail d))) :
    Carries tail d r Q (get >>= f) (get >>= f') :=
  h

/-- Looking at the next piece, with which reading goes on. At the end it is the first one of what
comes after. -/
lemma peek_bind {f f' : Option Lexeme → Reading α}
    (hnil : r.rest = [] → Carries tail d r Q (f none) (f' tail.head?))
    (hcons : ∀ l ls, r.rest = l :: ls → Carries tail d r Q (f (some l)) (f' (some l))) :
    Carries tail d r Q (peek >>= f) (peek >>= f') := by
  intro a r' h
  rw [run_bind_of_ok (run_peek _)] at h ⊢
  cases hrest : r.rest with
  | nil =>
    rw [hrest] at h
    simpa [Reader.shift, hrest] using hnil hrest a r' h
  | cons l ls =>
    rw [hrest] at h
    simpa [Reader.shift, hrest] using hcons l ls hrest a r' h

end CarriesFrom

/-- A dangling backslash after the next piece is a failure. -/
lemma run_next_dangling {l : Lexeme} (h : r.rest = [l, .dangling]) : Fails r next := by
  intro p hp
  unfold next at hp
  rw [run_bind_of_ok (run_get r)] at hp
  simp only [h] at hp
  cases hp

/-- At the end there is no piece to be taken. -/
lemma run_next_nil (h : r.rest = []) : next.run r = .ok (none, r) := by
  unfold next
  rw [run_bind_of_ok (run_get r)]
  simp only [h]
  rfl

/-- What comes after a text adds no dangling backslash. -/
lemma Ends.append_ne_dangling (htail : Ends tail) {ls : List Lexeme} (h : ls ≠ [.dangling]) :
    ls ++ tail ≠ [.dangling] := by
  intro heq
  rcases List.append_eq_singleton_iff.mp heq with ⟨-, rfl⟩ | ⟨rfl, -⟩
  · cases htail .dangling rfl
  · exact h rfl

namespace CarriesFrom

/-- Taking a piece that is there, after which reading goes on. -/
lemma next_cons_bind {f f' : Option Lexeme → Reading α} {l : Lexeme} {ls : List Lexeme}
    (htail : Ends tail) (hrest : r.rest = l :: ls)
    (h : ∀ r', r.Moves r' → r'.rest = ls → Carries tail d r' Q (f (some l)) (f' (some l))) :
    Carries tail d r Q (next >>= f) (next >>= f') := by
  intro a r'' hrun
  have hne : ls ≠ [.dangling] := by
    rintro rfl
    obtain ⟨taken, r', hnext, -⟩ := exists_of_run_bind hrun
    exact run_next_dangling hrest _ hnext
  have hshift : (r.shift tail d).rest = l :: (ls ++ tail) := by simp [Reader.shift, hrest]
  rw [run_bind_of_ok (run_next hrest hne)] at hrun
  rw [run_bind_of_ok (run_next hshift (htail.append_ne_dangling hne))]
  have hmoves : r.Moves { r with rest := ls, position := r.position + l.length } :=
    ⟨hrest ▸ .step hne (.done _), rfl⟩
  obtain ⟨hQ, hmoves', hrun'⟩ := h _ hmoves rfl a r'' hrun
  refine ⟨hQ, hmoves.trans hmoves', ?_⟩
  rw [← hrun']
  simp [Reader.shift, Nat.add_right_comm]

/-- Taking a piece carries over if the end is a failure. -/
lemma next_bind {f f' : Option Lexeme → Reading α} (htail : Ends tail) (hnone : Fails r (f none))
    (hsome : ∀ l r', r.Moves r' → Carries tail d r' Q (f (some l)) (f' (some l))) :
    Carries tail d r Q (next >>= f) (next >>= f') := by
  cases hrest : r.rest with
  | nil =>
    refine .of_fails fun p h => ?_
    rw [run_bind_of_ok (run_next_nil hrest)] at h
    exact hnone p h
  | cons l ls => exact .next_cons_bind htail hrest fun r' hmoves _ => hsome l r' hmoves

end CarriesFrom

/-- A character other than a bar is taken from a longer text if it is taken. -/
lemma carries_accept {c : Char} (hc : c ≠ '|') (htail : Ends tail) :
    Carries tail d r (fun _ => True) (accept c) (accept c) := by
  refine .peek_bind (fun _ => ?_) fun l ls hrest => ?_
  · rw [if_neg (by simp), if_neg]
    · exact .pure trivial
    · intro h
      exact hc (Lexeme.plain.inj (htail _ h))
  · split
    · exact .next_cons_bind htail hrest fun _ _ _ => .pure trivial
    · exact .pure trivial

/-- Asking whether one of some characters other than a bar is next carries over. -/
lemma carries_nextIsIn {cs : List Char} (hcs : '|' ∉ cs) (htail : Ends tail) :
    Carries tail d r (fun _ => True) (nextIsIn cs) (nextIsIn cs) := by
  refine .peek_bind (fun _ => ?_) fun l ls hrest => .pure trivial
  cases h : tail.head? with
  | none => exact .pure trivial
  | some l =>
    obtain rfl := htail l h
    have hbar : ((some (Lexeme.plain '|')).map fun l => l.isIn cs).getD false = false := by
      simpa [Lexeme.isIn] using hcs
    rw [hbar]
    exact .pure trivial

/-! ### Runs of characters and names -/

/-- No character of a list is taken where none of them is next. -/
lemma run_takeUpTo_of_head {cs : List Char} (h : ∀ c, r.rest.head? = some (.plain c) → c ∉ cs)
    (n : Nat) : (takeUpTo cs n).run r = .ok ([], r) := by
  cases n with
  | zero => rfl
  | succ n =>
    rw [takeUpTo, run_bind_of_ok (run_peek r)]
    split
    · rename_i c hc
      rw [if_neg (by simpa using h c hc)]
      rfl
    · rfl

/-- A run of characters other than a bar is taken from a longer text as it is, if it ends by the
same number of characters or by what comes after it. -/
lemma carries_takeUpTo {cs : List Char} (hcs : '|' ∉ cs) (htail : Ends tail) {n n' : Nat}
    (h : n = n' ∨ r.rest.length ≤ n ∧ r.rest.length ≤ n') :
    Carries tail d r (fun _ => True) (takeUpTo cs n) (takeUpTo cs n') := by
  induction n generalizing n' r with
  | zero =>
    intro tail' r' hrun
    cases hrun
    refine ⟨trivial, .refl r, ?_⟩
    rcases h with rfl | ⟨h, -⟩
    · rfl
    · refine run_takeUpTo_of_head (fun c hc => ?_) n'
      rw [Reader.shift, List.length_eq_zero_iff.mp (Nat.le_zero.mp h)] at hc
      rwa [Lexeme.plain.inj (htail _ hc)]
  | succ n ih =>
    by_cases hrest : r.rest = []
    · intro tail' r' hrun
      rw [run_takeUpTo_of_head (by simp [hrest])] at hrun
      cases hrun
      refine ⟨trivial, .refl r, run_takeUpTo_of_head (fun c hc => ?_) n'⟩
      rw [Reader.shift, hrest] at hc
      rwa [Lexeme.plain.inj (htail _ hc)]
    obtain ⟨n', rfl⟩ : ∃ m, n' = m + 1 := by
      rcases h with rfl | ⟨-, h⟩
      · exact ⟨n, rfl⟩
      · exact Nat.exists_eq_succ_of_ne_zero fun h0 => hrest (by simpa [h0] using h)
    refine .peek_bind (fun hnil => absurd hnil hrest) fun l ls hl => ?_
    cases l with
    | plain c =>
      dsimp only
      split
      · refine .next_cons_bind htail hl fun r' _ hr' => ?_
        refine (ih ?_).bind fun _ _ _ _ => .pure trivial
        rw [hl] at h
        rw [hr']
        simpa using h
      · exact .pure trivial
    | _ => exact .pure trivial

/-- All characters of a list other than a bar are taken from a longer text as they are. -/
lemma carries_takeAll {cs : List Char} (hcs : '|' ∉ cs) (htail : Ends tail) :
    Carries tail d r (fun _ => True) (takeAll cs) (takeAll cs) :=
  .get_bind (carries_takeUpTo hcs htail (.inr ⟨Nat.le_refl _, by simp [Reader.shift]⟩))

/-- A name is taken from a longer text as it is. -/
lemma carries_readUntil (what : String) (terminator : Char) (htail : Ends tail) {n n' : Nat}
    (hn : n ≤ n') (found : List Char) :
    Carries tail d r (fun _ => True) (readUntil what terminator n found)
      (readUntil what terminator n' found) := by
  induction n generalizing n' r found with
  | zero => exact .of_fails (fails_failBack _ _)
  | succ n ih =>
    obtain ⟨n', rfl⟩ : ∃ m, n' = m + 1 := ⟨n' - 1, by omega⟩
    refine .next_bind htail ?_ fun l r' _ => ?_
    · dsimp only
      split <;> exact fails_failBack _ _
    · dsimp only
      split
      · split
        · exact .of_fails (fails_failBack _ _)
        · exact .pure trivial
      · exact ih (by omega) _

/-- A name up to its terminator is taken from a longer text as it is. -/
lemma carries_readName (what : String) (terminator : Char) (htail : Ends tail) :
    Carries tail d r (fun _ => True) (readName what terminator) (readName what terminator) :=
  .get_bind (carries_readUntil what terminator htail (by simp [Reader.shift]) [])

end RunnerAtlas.Pattern
