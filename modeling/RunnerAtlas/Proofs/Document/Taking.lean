import Mathlib.Data.List.Basic
import Mathlib.Tactic.Lemma
import RunnerAtlas.Document.Plain

set_option relaxedAutoImplicit false
set_option autoImplicit false

/-!
# Taking characters of a document

A scan takes characters if it ends right after them wherever they stand in the document. Scans in
sequence take what each of them takes, so that what a loop over the characters takes is proved piece
by piece.

## Main definitions

* `RunnerAtlas.Document.Takes` — a scan takes characters before others and has a result.

## Main results

* `RunnerAtlas.Document.Takes.bind` — scans in sequence.
* `RunnerAtlas.Document.takes_takeWhile` — a run of characters.
-/

namespace RunnerAtlas.Document

/-! ### Feeds -/

namespace Feed

variable (f : Feed)

/-- Advancing twice is advancing by the sum. -/
lemma advanceBy_add (m n : Nat) : f.advanceBy (m + n) = (f.advanceBy m).advanceBy n := by
  induction m generalizing f with
  | zero => rw [Nat.zero_add]; rfl
  | succ m ih => rw [Nat.add_right_comm]; exact ih _

/-- The first character is dropped. -/
lemma rest_advance : f.advance.rest = f.rest.drop 1 := by
  unfold advance
  split
  · next h => simp [h]
  · next h => split <;> simp [h]

/-- The characters are dropped. -/
@[simp] lemma rest_advanceBy (n : Nat) : (f.advanceBy n).rest = f.rest.drop n := by
  induction n generalizing f with
  | zero => rfl
  | succ n ih => rw [advanceBy, ih, rest_advance, List.drop_drop, Nat.add_comm]

/-- The characters after those that were taken. -/
lemma rest_advanceBy_length {cs tail : List Char} (h : f.rest = cs ++ tail) :
    (f.advanceBy cs.length).rest = tail := by
  rw [rest_advanceBy, h, List.drop_left]

/-- Each character that is there counts. -/
lemma index_advanceBy {cs tail : List Char} (h : f.rest = cs ++ tail) :
    (f.advanceBy cs.length).index = f.index + cs.length := by
  induction cs generalizing f with
  | nil => rfl
  | cons c cs ih =>
    have hrest : f.advance.rest = cs ++ tail := by rw [rest_advance, h]; rfl
    have hindex : f.advance.index = f.index + 1 := by
      simp only [advance, h, List.cons_append]
      split <;> rfl
    rw [List.length_cons, advanceBy, ih f.advance hrest, hindex]
    omega

/-- Characters that end no line leave the line as it is. -/
lemma line_advanceBy {cs tail : List Char} (h : f.rest = cs ++ tail)
    (hbreaks : ∀ c ∈ cs, isBreak c = false) : (f.advanceBy cs.length).line = f.line := by
  induction cs generalizing f with
  | nil => rfl
  | cons c cs ih =>
    have hrest : f.advance.rest = cs ++ tail := by rw [rest_advance, h]; rfl
    have hline : f.advance.line = f.line := by
      simp [advance, h, hbreaks c]
    rw [List.length_cons, advanceBy, ih f.advance hrest fun d hd => hbreaks d (by simp [hd]), hline]

end Feed

/-! ### Scans that take characters -/

section

variable {α β : Type}

/-- A scan takes characters before others and has a result. -/
def Takes (x : Scan α) (cs tail : List Char) (a : α) : Prop :=
  ∀ f : Feed, f.rest = cs ++ tail → x.run f = .ok (a, f.advanceBy cs.length)

/-- No character is taken by giving a value. -/
lemma takes_pure (a : α) (tail : List Char) : Takes (pure a) [] tail a := fun _ _ => rfl

/-- **Scans in sequence.** The second scan takes what it takes after the first one. -/
lemma Takes.bind {x : Scan α} {y : α → Scan β} {cs ds tail : List Char} {a : α} {b : β}
    (hx : Takes x cs (ds ++ tail) a) (hy : Takes (y a) ds tail b) :
    Takes (x >>= y) (cs ++ ds) tail b := by
  intro f hf
  rw [List.append_assoc] at hf
  have hrest := f.rest_advanceBy_length hf
  rw [StateT.run_bind, hx f hf]
  show (y a).run (f.advanceBy cs.length) = _
  rw [hy _ hrest, List.length_append, Feed.advanceBy_add]

/-- A scan that takes nothing goes before another one. -/
lemma Takes.bind_nil {x : Scan α} {y : α → Scan β} {cs tail : List Char} {a : α} {b : β}
    (hx : Takes x [] (cs ++ tail) a) (hy : Takes (y a) cs tail b) : Takes (x >>= y) cs tail b :=
  hx.bind hy

/-- A scan goes before another one that takes nothing. -/
lemma Takes.bind_last {x : Scan α} {y : α → Scan β} {cs tail : List Char} {a : α} {b : β}
    (hx : Takes x cs tail a) (hy : Takes (y a) [] tail b) : Takes (x >>= y) cs tail b := by
  have h : Takes (x >>= y) (cs ++ []) tail b := hx.bind hy
  rwa [List.append_nil] at h

/-- A scan whose result is made into another one takes the same. -/
lemma Takes.bind_pure {x : Scan α} {cs tail : List Char} {a : α} (hx : Takes x cs tail a)
    (g : α → β) : Takes (x >>= fun a => pure (g a)) cs tail (g a) := by
  have h : Takes (x >>= fun a => pure (g a)) (cs ++ []) tail (g a) :=
    Takes.bind hx (takes_pure (g a) tail)
  rwa [List.append_nil] at h

/-- What is asked of the characters to come holds of those that a scan begins with. -/
lemma Takes.get_bind {y : Feed → Scan β} {cs tail : List Char} {b : β}
    (h : ∀ f : Feed, f.rest = cs ++ tail → Takes (y f) cs tail b) :
    Takes (get >>= y) cs tail b := fun f hf => h f hf f hf

/-- The column may be any. -/
lemma Takes.column_bind {y : Nat → Scan β} {cs tail : List Char} {b : β}
    (h : ∀ n, Takes (y n) cs tail b) : Takes (column >>= y) cs tail b :=
  fun f hf => h f.column f hf

/-- The character some places ahead is the one that stands there. -/
lemma takes_lookAt (n : Nat) (tail : List Char) : Takes (lookAt n) [] tail tail[n]? :=
  fun f hf => by
    show Except.ok (f.rest[n]?, f) = _
    rw [hf]
    rfl

/-- The next character is the first one. -/
lemma takes_look (tail : List Char) : Takes look [] tail tail.head? := by
  have h := takes_lookAt 0 tail
  rwa [← List.head?_eq_getElem?] at h

/-- As many characters are skipped as are asked for. -/
lemma takes_skip (cs tail : List Char) {n : Nat} (h : cs.length = n) : Takes (skip n) cs tail () :=
  fun f _ => by rw [h]; rfl

/-- The number of characters to come. -/
lemma takes_remaining (tail : List Char) : Takes remaining [] tail (tail.length + 1) :=
  fun f hf => by
    show Except.ok (f.rest.length + 1, f) = _
    rw [hf]
    rfl

/-- A run of characters up to the first one that fails a test. -/
lemma takeWhile_append {test : Char → Bool} {cs tail : List Char}
    (hcs : ∀ c ∈ cs, test c = true) (htail : ∀ c ∈ tail.head?, test c = false) :
    (cs ++ tail).takeWhile test = cs := by
  rw [List.takeWhile_append_of_pos hcs]
  cases tail with
  | nil => simp
  | cons c tail => simp [htail c (by simp)]

/-- A run of characters is taken up to the first one that fails a test. -/
lemma takes_takeWhile {test : Char → Bool} {cs tail : List Char}
    (hcs : ∀ c ∈ cs, test c = true) (htail : ∀ c ∈ tail.head?, test c = false) :
    Takes (takeWhile test) cs tail cs :=
  .get_bind fun f hf => by
    rw [hf, takeWhile_append hcs htail]
    exact (takes_skip cs tail rfl).bind_pure fun _ => cs

/-- No end of line is taken where none is next. -/
lemma takes_takeBreak_none {tail : List Char} (h : ∀ c ∈ tail.head?, isBreak c = false) :
    Takes takeBreak [] tail none := by
  refine (takes_look _).bind_nil ?_
  cases tail with
  | nil => exact takes_pure _ _
  | cons c tail =>
    show Takes (if isBreak c then _ else _) [] (c :: tail) none
    rw [h c (by simp)]
    exact takes_pure _ _

/-- An end of line that is next is taken. All ends count as a line feed but the separators of lines
and paragraphs. -/
lemma takes_takeBreak {c : Char} (tail : List Char) (h : isBreak c = true) :
    Takes takeBreak [c] tail (some (if c = '\x85' then '\n' else c)) := by
  refine (takes_look _).bind_nil ?_
  show Takes (if isBreak c then _ else _) [c] tail _
  rw [h]
  exact (takes_skip [c] tail rfl).bind_pure fun _ => some (if c = '\x85' then '\n' else c)

/-- Whether the mark of a document's start or end is next. -/
def startsMark (cs : List Char) : Bool :=
  (cs.take 3 == ['-', '-', '-'] || cs.take 3 == ['.', '.', '.']) && endsWord cs[3]?

/-- The mark of a document's start or end is looked for among the characters to come. -/
lemma takes_atMark (tail : List Char) : Takes atMark [] tail (startsMark tail) :=
  .get_bind fun f hf => by
    have h : Takes (pure (startsMark f.rest)) [] tail (startsMark tail) := by
      rw [hf]
      exact takes_pure _ _
    exact h

end

end RunnerAtlas.Document
