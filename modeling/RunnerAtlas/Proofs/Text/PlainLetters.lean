import Mathlib.Tactic.Lemma
import RunnerAtlas.Text.LetterCase

set_option relaxedAutoImplicit false
set_option autoImplicit false

/-!
# Letters of ASCII

The letters of ASCII are listed, and a fact about each of them is checked on the list.

## Main definitions

* `RunnerAtlas.Text.LetterCase.plainLetters` — the letters of ASCII.

## Main results

* `RunnerAtlas.Text.LetterCase.eq_or_isPlainCased` — code points with one small letter.
* `RunnerAtlas.Text.LetterCase.lower_plainLower` — the small letter in all scripts.
* `RunnerAtlas.Text.LetterCase.anyCased_of_between` — a letter between two bounds.
-/

namespace RunnerAtlas.Text.LetterCase

variable {code code' : Nat}

/-- The letters of ASCII. -/
def plainLetters : List Nat := (List.range 26).flatMap fun k => [0x41 + k, 0x61 + k]

/-- A letter of ASCII is one of the listed ones. -/
lemma mem_plainLetters (h : isPlainCased code = true) : code ∈ plainLetters := by
  simp only [isPlainCased, Bool.or_eq_true, Bool.and_eq_true, decide_eq_true_eq] at h
  simp only [plainLetters, List.mem_flatMap, List.mem_range, List.mem_cons, List.not_mem_nil,
    or_false]
  rcases h with h | h
  · exact ⟨code - 0x41, by omega, by omega⟩
  · exact ⟨code - 0x61, by omega, by omega⟩

/-- What holds of the listed letters holds of each letter of ASCII. -/
lemma of_isPlainCased {p : Nat → Bool} (hall : plainLetters.all p = true)
    (h : isPlainCased code = true) : p code = true :=
  List.all_eq_true.mp hall code (mem_plainLetters h)

/-- Code points that differ only in the case of a letter of ASCII are the same or both letters. -/
lemma eq_or_isPlainCased (h : plainLower code = plainLower code') :
    code = code' ∨ isPlainCased code = true ∧ isPlainCased code' = true := by
  simp only [isPlainCased, Bool.or_eq_true, Bool.and_eq_true, decide_eq_true_eq]
  unfold plainLower at h
  split at h <;> split at h <;> omega

/-- A small letter has itself as its small letter. -/
lemma plainLower_plainLower (code : Nat) : plainLower (plainLower code) = plainLower code := by
  unfold plainLower
  by_cases h : 0x41 ≤ code ∧ code ≤ 0x5a
  · rw [if_pos h, if_neg (by omega)]
  · rw [if_neg h, if_neg h]

/-- The small letter of a capital of ASCII in all scripts is the one in ASCII. -/
lemma lower_plainLower (code : Nat) : lower (plainLower code) = lower code := by
  cases h : isPlainCased code with
  | true =>
    have hall : (plainLetters.all fun code => lower (plainLower code) == lower code) = true := by
      decide +kernel
    exact eq_of_beq
      (of_isPlainCased (p := fun code => lower (plainLower code) == lower code) hall h)
  | false =>
    have hsame : plainLower code = code := by
      simp only [isPlainCased, Bool.or_eq_false_iff, Bool.and_eq_false_iff,
        decide_eq_false_iff_not] at h
      exact if_neg (by omega)
    rw [hsame]

/-- A letter of ASCII has letter case in all scripts. -/
lemma isCased_of_isPlainCased (h : isPlainCased code = true) : isCased code = true := by
  have hall : plainLetters.all isCased = true := by decide +kernel
  exact of_isPlainCased hall h

/-- Between bounds without letter case there is no letter of ASCII. -/
lemma anyPlainCased_of_between {low high : Nat} (h : isPlainCased code = true) (hlow : low ≤ code)
    (hhigh : code ≤ high) : anyPlainCased low high = true := by
  simp only [isPlainCased, anyPlainCased, Bool.or_eq_true, Bool.and_eq_true,
    decide_eq_true_eq] at h ⊢
  omega

/-- Between bounds without letter case there is no letter of ASCII. -/
lemma anyCased_of_between {low high : Nat} (h : isPlainCased code = true) (hlow : low ≤ code)
    (hhigh : code ≤ high) : anyCased low high = true := by
  have hmeets : ∀ run : Run, run.step = 1 → run.first ≤ code → code ≤ run.last →
      run.meets low high = true := by
    rintro ⟨first, last, step, distance⟩ rfl hfirst hlast
    simp only [Run.meets, Bool.and_eq_true, decide_eq_true_eq] at hfirst hlast ⊢
    split <;> omega
  simp only [isPlainCased, Bool.or_eq_true, Bool.and_eq_true, decide_eq_true_eq] at h
  rw [anyCased, Bool.or_eq_true]
  rcases h with h | h
  · exact .inl (List.any_eq_true.mpr ⟨⟨0x41, 0x5a, 1, 32⟩, .head _, hmeets _ rfl h.1 h.2⟩)
  · exact .inr (List.any_eq_true.mpr ⟨⟨0x61, 0x7a, 1, -32⟩, .head _, hmeets _ rfl h.1 h.2⟩)

end RunnerAtlas.Text.LetterCase
