import Mathlib.Tactic.Lemma
import RunnerAtlas.Pattern.Basic

set_option relaxedAutoImplicit false
set_option autoImplicit false

/-!
# Running a reader

Each step of reading, run on a state in which it succeeds, with its outcome and the state after it.
A sequence of steps is run by taking these one after the other.

## Main definitions

* `RunnerAtlas.Pattern.Reader.Accepts` — a reader that has read all of a pattern.

## Main results

* `RunnerAtlas.Pattern.run_bind_of_ok`, `RunnerAtlas.Pattern.exists_of_run_bind` — what follows a
  step is run on the state after it.
* `RunnerAtlas.Pattern.run_next` — taking a piece.
* `RunnerAtlas.Pattern.run_accept_of_ne` — declining a piece.
* `RunnerAtlas.Pattern.compile_eq_ok_iff` — a pattern by its branches.
-/

namespace RunnerAtlas.Pattern

variable {α β : Type} {r r' : Reader}

/-- What follows a step that succeeds is run on the state after it. -/
lemma run_bind_of_ok {x : Reading α} {f : α → Reading β} {a : α} (h : x.run r = .ok (a, r')) :
    (x >>= f).run r = (f a).run r' := by
  rw [StateT.run_bind, h]
  rfl

/-- What follows a step is run on the state after it, if both succeed. -/
lemma exists_of_run_bind {x : Reading α} {f : α → Reading β} {p : β × Reader}
    (h : (x >>= f).run r = .ok p) :
    ∃ a r', x.run r = .ok (a, r') ∧ (f a).run r' = .ok p := by
  rw [StateT.run_bind] at h
  cases hrun : x.run r with
  | error e =>
    rw [hrun] at h
    cases h
  | ok p =>
    rw [hrun] at h
    exact ⟨p.1, p.2, rfl, h⟩

/-- What follows a step that fails is not run. -/
lemma run_bind_of_error {x : Reading α} {f : α → Reading β} {e : PatternError}
    (h : x.run r = .error e) : (x >>= f).run r = .error e := by
  rw [StateT.run_bind, h]
  rfl

/-- Asking for the state gives it and keeps it. -/
lemma run_get (r : Reader) : (get : Reading Reader).run r = .ok (r, r) := rfl

/-- Giving a value keeps the state. -/
lemma run_pure (a : α) (r : Reader) : (pure a : Reading α).run r = .ok (a, r) := rfl

/-- Looking at the next piece keeps the state. -/
lemma run_peek (r : Reader) : peek.run r = .ok (r.rest.head?, r) := rfl

/-- Where no backslash dangles next, the check for one does nothing. -/
lemma run_checkNext (h : r.rest ≠ [.dangling]) : checkNext.run r = .ok ((), r) := by
  unfold checkNext
  rw [run_bind_of_ok (run_get r)]
  split
  · rename_i hd
    exact absurd hd h
  · rfl

/-- Where a backslash dangles next, the check for one fails. -/
lemma not_run_checkNext (h : r.rest = [.dangling]) (p : Unit × Reader) :
    checkNext.run r ≠ .ok p := by
  unfold checkNext
  rw [run_bind_of_ok (run_get r)]
  simp only [h]
  exact nofun

/-- Taking a piece goes on by its characters, unless a backslash dangles after it. -/
lemma run_next {l : Lexeme} {rest : List Lexeme} (h : r.rest = l :: rest)
    (hd : rest ≠ [.dangling]) :
    next.run r = .ok (some l, { r with rest := rest, position := r.position + l.length }) := by
  unfold next
  rw [run_bind_of_ok (run_get r)]
  simp only [h]
  have hset : ∀ s : Reader, (set s : Reading Unit).run r = .ok ((), s) := fun _ => rfl
  rw [run_bind_of_ok (hset _), run_bind_of_ok (run_checkNext hd)]
  rfl

/-- A character that is the next piece is taken, unless a backslash dangles after it. -/
lemma run_accept {c : Char} {rest : List Lexeme} (h : r.rest = .plain c :: rest)
    (hd : rest ≠ [.dangling]) :
    (accept c).run r = .ok (true, { r with rest := rest, position := r.position + 1 }) := by
  unfold accept
  rw [run_bind_of_ok (run_peek r), if_pos (by simp [h]), run_bind_of_ok (run_next h hd)]
  rfl

/-- A character that is not the next piece is not taken. -/
lemma run_accept_of_ne {c : Char} (h : r.rest.head? ≠ some (.plain c)) :
    (accept c).run r = .ok (false, r) := by
  unfold accept
  rw [run_bind_of_ok (run_peek r), if_neg h]
  rfl

/-! ### Whole patterns -/

/-- A reader that has read the given branches to the end of a pattern, and finds nothing wrong with
the whole of it. -/
structure Reader.Accepts (r : Reader) (nodes : List Node) : Prop where
  /-- Nothing is left. -/
  rest : r.rest = []
  /-- The flags choose one character set at most. -/
  charset : (r.flags.ascii && r.flags.unicode) = false
  /-- The groups that are asked for are there. -/
  conditions : r.conditions.find? (fun condition => decide (r.widths.length < condition.1)) = none
  /-- The tree has no fault. -/
  fault : (Node.ofList nodes).fault? r.flags.template r.width = none

/-- **Patterns by their branches.** A text is a pattern exactly if it is no backslash alone, it is
read as branches to its end, and nothing is wrong with the whole. -/
theorem compile_eq_ok_iff {text : List Char} {flags : Flags} {c : Compiled} :
    compile text flags = .ok c ↔
      Lexeme.cut text ≠ [.dangling] ∧ ∃ nodes r,
        (readBranches (3 * (Lexeme.cut text).length + 4) flags.verbose true).run
            (Reader.start text flags) = .ok (nodes, r) ∧
          r.Accepts nodes ∧ c = ⟨Node.ofList nodes, r.flags, r.widths⟩ := by
  have hcompile : compile text flags = .ok c ↔
      ∃ r, readPattern.run (Reader.start text flags) = .ok (c, r) := by
    unfold compile
    cases readPattern.run (Reader.start text flags) with
    | error e => exact iff_of_false nofun nofun
    | ok p => simp [Except.map, Prod.ext_iff]
  rw [hcompile]
  unfold readPattern
  constructor
  · rintro ⟨r', h⟩
    obtain ⟨_, _, hcheck, h⟩ := exists_of_run_bind h
    have hne : Lexeme.cut text ≠ [.dangling] := fun heq => not_run_checkNext heq _ hcheck
    rw [run_checkNext (r := Reader.start text flags) hne] at hcheck
    cases hcheck
    rw [run_bind_of_ok (run_get _), run_bind_of_ok (run_get _)] at h
    obtain ⟨nodes, r, hnodes, h⟩ := exists_of_run_bind h
    refine ⟨hne, nodes, r, hnodes, ?_⟩
    rw [run_bind_of_ok (run_get _)] at h
    split at h
    · cases h
    rename_i hcharset
    split at h
    · cases h
    rename_i hrest
    split at h
    · cases h
    rename_i hconditions
    dsimp only at h
    split at h
    · cases h
    rename_i hfault
    cases h
    exact ⟨⟨by simpa using hrest, by simpa using hcharset, hconditions, hfault⟩, rfl⟩
  · rintro ⟨hne, nodes, r, hnodes, haccepts, rfl⟩
    refine ⟨r, ?_⟩
    rw [run_bind_of_ok (run_checkNext (r := Reader.start text flags) hne),
      run_bind_of_ok (run_get _), run_bind_of_ok (run_get _)]
    rw [Reader.start] at hnodes ⊢
    rw [run_bind_of_ok hnodes, run_bind_of_ok (run_get _)]
    simp only [haccepts.charset, haccepts.rest, haccepts.conditions, haccepts.fault,
      List.isEmpty_nil, Bool.not_true, Bool.false_eq_true, ↓reduceIte, run_pure]

end RunnerAtlas.Pattern
