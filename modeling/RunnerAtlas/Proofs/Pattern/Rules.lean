import RunnerAtlas.Proofs.Pattern.Excess
import RunnerAtlas.Proofs.Pattern.Reading

set_option relaxedAutoImplicit false
set_option autoImplicit false

/-!
# Rules for what reading ends in

Reading the pieces of a text is described by what holds of the state before it, and of the outcome
and the state after it; an error that ends it is an error of the text. The state is known by the
pieces that were taken last and by the flags that the text has set.

## Main definitions

* `RunnerAtlas.Pattern.Reader.IsAfter` — a state by the pieces taken last.
* `RunnerAtlas.Pattern.Reads` — reading with what holds before and after it.
* `RunnerAtlas.Pattern.Keeps` — reading that stays within the text.

## Main results

* `RunnerAtlas.Pattern.Reads.bind` — reading one thing after another.
* `RunnerAtlas.Pattern.reads_next` — taking a piece.
* `RunnerAtlas.Pattern.reads_accept` — taking a character that may follow.
* `RunnerAtlas.Pattern.reads_takeUpTo` — taking a run of characters.
-/

namespace RunnerAtlas.Pattern

variable {ls done : List Lexeme} {α β : Type}

/-- Flags that choose a character set are set by groups of the text. -/
structure Flags.SetIn (ls : List Lexeme) (f : Flags) : Prop where
  /-- The flag of ASCII is set by a group. -/
  ascii : f.ascii = true → SetsFlag ls 'a' 'u'
  /-- The flag of all scripts is set by a group. -/
  unicode : f.unicode = true → SetsFlag ls 'u' 'a'

/-- Flags of which each is in one of two sets of flags are set if those are. -/
lemma Flags.SetIn.union {f g : Flags} (hf : f.SetIn ls) (hg : g.SetIn ls) :
    (f.union g).SetIn ls where
  ascii h := (Bool.or_eq_true_iff.mp h).elim hf.ascii hg.ascii
  unicode h := (Bool.or_eq_true_iff.mp h).elim hf.unicode hg.unicode

/-- A reader of a text stands after some pieces of it, and its flags are those that the text has
set. -/
structure Reader.IsAfter (ls done : List Lexeme) (r : Reader) : Prop where
  /-- The pieces taken last and those to be read end the text. -/
  rest : done ++ r.rest <:+ ls
  /-- The flags are set by the text. -/
  flags : r.flags.SetIn ls

namespace Reader

/-- Some of the pieces taken last can be forgotten. -/
lemma IsAfter.drop {before : List Lexeme} {r : Reader} (h : r.IsAfter ls (before ++ done)) :
    r.IsAfter ls done where
  rest := (List.suffix_append before _).trans (by simpa using h.rest)
  flags := h.flags

/-- The pieces taken last can be forgotten. -/
lemma IsAfter.forget {r : Reader} (h : r.IsAfter ls done) : r.IsAfter ls [] := by
  have hall : r.IsAfter ls (done ++ []) := by simpa using h
  exact hall.drop

/-- The pieces taken last stand in the text. -/
lemma IsAfter.infix {r : Reader} (h : r.IsAfter ls done) : done <:+: ls :=
  (List.prefix_append done r.rest).isInfix.trans h.rest.isInfix

/-- Where a reader stands does not depend on what it knows of groups. -/
lemma IsAfter.of_eq {r r' : Reader} (h : r.IsAfter ls done) (hrest : r'.rest = r.rest)
    (hflags : r'.flags = r.flags) : r'.IsAfter ls done :=
  ⟨hrest ▸ h.rest, hflags ▸ h.flags⟩

end Reader

/-- From each state of a kind, reading ends in an outcome and a state that fit together, or in an
error of the text. -/
def Reads (ls : List Lexeme) (P : Reader → Prop) (x : Reading α) (Q : α → Reader → Prop) : Prop :=
  ∀ r, P r → match x.run r with
    | .ok (a, r') => Q a r'
    | .error e => Expected ls e

/-- Reading after some pieces stays within the text. -/
abbrev Keeps (ls done : List Lexeme) (x : Reading α) : Prop :=
  Reads ls (Reader.IsAfter ls done) x fun _ => Reader.IsAfter ls []

section Rules

variable {P P' : Reader → Prop} {Q Q' : α → Reader → Prop} {R : β → Reader → Prop}

/-- More may be known before and less be asked after. -/
lemma Reads.mono {x : Reading α} (h : Reads ls P x Q) (hP : ∀ r, P' r → P r)
    (hQ : ∀ a r, Q a r → Q' a r) : Reads ls P' x Q' := by
  intro r hr
  have hx := h r (hP r hr)
  split
  · rename_i a r' hrun
    rw [hrun] at hx
    exact hQ a r' hx
  · rename_i e hrun
    rw [hrun] at hx
    exact hx

/-- A fact that does not depend on the state can be used on its own. -/
lemma Reads.of_and {φ : Prop} {x : Reading α} (h : φ → Reads ls P x Q) :
    Reads ls (fun r => φ ∧ P r) x Q :=
  fun r hr => h hr.1 r hr.2

/-- What holds before can be used of the state that reading begins with. -/
lemma Reads.of_state {x : Reading α} (h : ∀ s, P s → Reads ls P x Q) : Reads ls P x Q :=
  fun r hr => h r hr r hr

/-- Giving a value ends in what holds before it. -/
lemma Reads.pure {a : α} (h : ∀ r, P r → Q a r) : Reads ls P (pure a : Reading α) Q :=
  h

/-- An error of the text may end reading. -/
lemma Reads.throw {e : PatternError} (h : Expected ls e) : Reads ls P (throw e : Reading α) Q :=
  fun _ _ => h

/-- What holds after a step holds before what follows it. -/
lemma Reads.bind {x : Reading α} {f : α → Reading β} (hx : Reads ls P x Q)
    (hf : ∀ a, Reads ls (Q a) (f a) R) : Reads ls P (x >>= f) R := by
  intro r hr
  have hstep := hx r hr
  rw [StateT.run_bind]
  cases hrun : x.run r with
  | error e =>
    rw [hrun] at hstep
    exact hstep
  | ok p =>
    rw [hrun] at hstep
    exact hf p.1 p.2 hstep

/-- Applying a function to an outcome. -/
lemma Reads.map {x : Reading α} {g : α → β} (h : Reads ls P x fun a => R (g a)) :
    Reads ls P (g <$> x) R := by
  rw [← bind_pure_comp]
  exact h.bind fun a => .pure fun _ hr => hr

/-- Asking for the state, with which reading goes on. -/
lemma Reads.get_bind {f : Reader → Reading α} (h : ∀ s, P s → Reads ls P (f s) Q) :
    Reads ls P (get >>= f) Q :=
  fun r hr => h r hr r hr

/-- Replacing the state. -/
lemma Reads.set {s : Reader} {Q : Reader → Prop} (h : Q s) :
    Reads ls P (set s : Reading Unit) fun _ => Q :=
  fun _ _ => h

/-- Changing the state. -/
lemma Reads.modify {g : Reader → Reader} {Q : Reader → Prop} (h : ∀ r, P r → Q (g r)) :
    Reads ls P (modify g : Reading Unit) fun _ => Q :=
  h

end Rules

section Keeping

variable {x : Reading α} {f : α → Reading β}

/-- Giving a value stays within the text. -/
lemma Keeps.pure (a : α) : Keeps ls done (pure a : Reading α) :=
  Reads.pure fun _ hr => hr.forget

/-- Going on after reading that stays within the text. -/
lemma Keeps.bind {R : β → Reader → Prop} (hx : Keeps ls done x)
    (hf : ∀ a, Reads ls (Reader.IsAfter ls []) (f a) R) :
    Reads ls (Reader.IsAfter ls done) (x >>= f) R :=
  Reads.bind hx hf

/-- Applying a function stays within the text. -/
lemma Keeps.map {g : α → β} (hx : Keeps ls done x) : Keeps ls done (g <$> x) :=
  Reads.map hx

end Keeping

/-! ### Steps -/

variable {P : Reader → Prop} {Q : α → Reader → Prop}

/-- A fault at a position is an error of the text. -/
lemma reads_failAt (position : Nat) (fault : Fault) : Reads ls P (failAt position fault) Q :=
  .throw (expected_malformed ls fault _)

/-- A fault some characters back is an error of the text. -/
lemma reads_failBack (back : Nat) (fault : Fault) : Reads ls P (failBack back fault) Q :=
  .get_bind fun _ _ => reads_failAt _ _

/-- A dangling backslash is an error of the text. -/
lemma reads_checkNext : Reads ls P checkNext fun _ => P := by
  refine .get_bind fun s _ => ?_
  split
  · exact reads_failAt _ _
  · exact .pure fun _ hr => hr

/-- Looking at the next piece. -/
lemma reads_peek : Reads ls P peek fun l r => P r ∧ r.rest.head? = l :=
  fun _ hr => ⟨hr, rfl⟩

/-- The piece that was looked at is the one taken, and then the last one taken. -/
lemma reads_next_of_head (l : Option Lexeme) :
    Reads ls (fun r => r.IsAfter ls done ∧ r.rest.head? = l) next
      fun taken r => taken = l ∧ r.IsAfter ls (done ++ l.toList) := by
  refine .get_bind fun s ⟨hs, hhead⟩ => ?_
  split
  · rename_i hrest
    obtain rfl : none = l := by rw [← hhead, hrest]; rfl
    exact .pure fun r hr => ⟨rfl, by simpa using hr.1⟩
  · rename_i first rest hrest
    obtain rfl : some first = l := by rw [← hhead, hrest]; rfl
    have hafter : Reader.IsAfter ls (done ++ [first])
        { s with rest := rest, position := s.position + first.length } :=
      ⟨by simpa [hrest] using hs.rest, hs.flags⟩
    exact (Reads.set hafter).bind fun _ => reads_checkNext.bind fun _ => .pure fun _ hr => ⟨rfl, hr⟩

/-- The next piece, once taken, is the last one taken. -/
lemma reads_next : Reads ls (Reader.IsAfter ls done) next
    fun l => Reader.IsAfter ls (done ++ l.toList) := by
  intro r hr
  refine (reads_next_of_head r.rest.head?).mono (fun _ h => h) ?_ r ⟨hr, rfl⟩
  rintro _ r' ⟨rfl, hr'⟩
  exact hr'

/-- A character that may follow is the last piece taken if it did follow. -/
lemma reads_accept (c : Char) : Reads ls (Reader.IsAfter ls done) (accept c)
    fun taken => Reader.IsAfter ls (done ++ if taken then [.plain c] else []) := by
  refine reads_peek.bind fun l => ?_
  split
  · rename_i hl
    subst hl
    refine (reads_next_of_head _).bind fun taken => .of_and fun _ => .pure fun _ hr => hr
  · exact .pure fun r hr => by simpa using hr.1

/-- Asking for the next piece stays within the text. -/
lemma nextIsIn_keeps (cs : List Char) : Keeps ls done (nextIsIn cs) :=
  reads_peek.bind fun _ => .pure fun _ hr => hr.1.forget

/-- A run of characters of a list are the last pieces taken. -/
lemma reads_takeUpTo (cs : List Char) (n : Nat) :
    Reads ls (Reader.IsAfter ls done) (takeUpTo cs n) fun tail r =>
      ((∀ c ∈ tail, c ∈ cs) ∧ tail.length ≤ n) ∧ r.IsAfter ls (done ++ tail.map .plain) := by
  have hnone : ∀ n done, Reads ls (Reader.IsAfter ls done) (pure [] : Reading (List Char))
      fun tail r => ((∀ c ∈ tail, c ∈ cs) ∧ tail.length ≤ n) ∧
        r.IsAfter ls (done ++ tail.map .plain) :=
    fun _ _ => .pure fun r hr => ⟨by simp, by simpa using hr⟩
  induction n generalizing done with
  | zero => exact hnone 0 done
  | succ n ih =>
    refine reads_peek.bind fun l => ?_
    split
    · rename_i c
      split
      · rename_i hc
        refine (reads_next_of_head _).bind fun _ => .of_and fun _ => ?_
        refine ih.bind fun tail => .of_and fun ⟨hmem, hlength⟩ => .pure fun r hr => ?_
        refine ⟨⟨?_, by simpa using hlength⟩, by simpa using hr⟩
        simpa using ⟨by simpa using hc, hmem⟩
      · exact (hnone _ done).mono (fun _ hr => hr.1) fun _ _ h => h
    · exact (hnone _ done).mono (fun _ hr => hr.1) fun _ _ h => h

/-- All characters of a list that follow are the last pieces taken. -/
lemma reads_takeAll (cs : List Char) :
    Reads ls (Reader.IsAfter ls done) (takeAll cs) fun tail r =>
      (∀ c ∈ tail, c ∈ cs) ∧ r.IsAfter ls (done ++ tail.map .plain) :=
  .get_bind fun _ _ => (reads_takeUpTo cs _).mono (fun _ hr => hr) fun _ _ h => ⟨h.1.1, h.2⟩

/-! ### Names and groups -/

/-- Taking a name stays within the text. -/
lemma readUntil_keeps (what : String) (terminator : Char) (fuel : Nat) (found : List Char) :
    Keeps ls done (readUntil what terminator fuel found) := by
  induction fuel generalizing done found with
  | zero => exact reads_failBack _ _
  | succ fuel ih =>
    refine reads_next.bind fun l => ?_
    split
    · split <;> exact reads_failBack _ _
    · split
      · split
        · exact reads_failBack _ _
        · exact Keeps.pure _
      · exact ih _

/-- Taking a name stays within the text. -/
lemma readName_keeps (what : String) (terminator : Char) :
    Keeps ls done (readName what terminator) :=
  .get_bind fun _ _ => readUntil_keeps _ _ _ _

/-- Checking a reference in a look-behind stays within the text. -/
lemma checkLookbehind_keeps (group : Nat) : Keeps ls done (checkLookbehind group) := by
  refine .get_bind fun s _ => ?_
  split
  · exact Keeps.pure _
  · split
    · exact reads_failBack _ _
    · split
      · exact reads_failBack _ _
      · exact Keeps.pure _

/-- Beginning a group stays within the text. -/
lemma beginGroup_keeps (name : Option String) : Keeps ls done (beginGroup name) := by
  refine .get_bind fun s hs => ?_
  dsimp only
  split
  · exact Keeps.bind (.set (hs.forget.of_eq rfl rfl)) fun _ => Keeps.pure _
  · split
    · exact Keeps.bind (reads_failBack _ _) fun _ => Keeps.pure _
    · exact Keeps.bind (.set (hs.forget.of_eq rfl rfl)) fun _ => Keeps.pure _

/-- Ending a group stays within the text. -/
lemma endGroup_keeps (group : Nat) (body : Node) : Keeps ls done (endGroup group body) :=
  .modify fun _ hr => hr.forget.of_eq rfl rfl

end RunnerAtlas.Pattern
