import Mathlib.Algebra.Group.Nat.Defs
import Mathlib.Tactic.Lemma
import RunnerAtlas.Pattern.Repetition

set_option relaxedAutoImplicit false
set_option autoImplicit false

/-!
# Numbers in the digits of a pattern

The decimal digits that a pattern's reader collects are read as the number that they spell, unless
there are too many of them. Hexadecimal digits spell a number below a power of sixteen.

## Main results

* `RunnerAtlas.Pattern.readInt_ofList` — reading collected decimal digits.
* `RunnerAtlas.Pattern.boundOf_of_digits` — reading a bound of a repetition.
* `RunnerAtlas.Pattern.spelled_lt` — how large a number some digits can spell.
-/

namespace RunnerAtlas.Pattern

open RunnerAtlas.Text Decimal

/-- Decimal digits are read as they stand: no sign, no blank and no low line is among them. -/
lemma plain_of_mem_digits {c : Char} (h : c ∈ digits) :
    plainChar c = c ∧ Blank.isPlainBlank c.toNat = false ∧ c ≠ '-' ∧ c ≠ '+' ∧ c ≠ '_' ∧
      (Digit.plainValue? 10 c).isSome = true := by
  have hall : digits.all (fun c => decide (plainChar c = c ∧
      Blank.isPlainBlank c.toNat = false ∧ c ≠ '-' ∧ c ≠ '+' ∧ c ≠ '_' ∧
        (Digit.plainValue? 10 c).isSome = true)) = true := by decide
  exact of_decide_eq_true (List.all_eq_true.mp hall c h)

variable {cs : List Char}

/-- Where no character is a blank or read as another one, a text is read as it stands. -/
lemma plainText_eq_self (h : ∀ c ∈ cs, plainChar c = c ∧ Blank.isPlainBlank c.toNat = false) :
    plainText cs = cs := by
  have hmap : cs.map plainChar = cs :=
    (List.map_congr_left fun c hc => (h c hc).1).trans (List.map_id' cs)
  have hdrop : ∀ l : List Char, (∀ c ∈ l, c ∈ cs) →
      l.dropWhile (fun c => Blank.isPlainBlank c.toNat) = l := by
    rintro (_ | ⟨c, l⟩) hl
    · rfl
    · rw [List.dropWhile_cons_of_neg]
      simpa using (h c (hl c (by simp))).2
  unfold plainText
  simp only [hmap]
  rw [hdrop cs fun _ hc => hc, hdrop cs.reverse fun c hc => List.mem_reverse.mp hc,
    List.reverse_reverse]

/-- Where no blanks stand around decimal digits, none are taken away. -/
lemma plainText_of_digits (h : ∀ c ∈ cs, c ∈ digits) : plainText cs = cs :=
  plainText_eq_self fun c hc =>
    ⟨(plain_of_mem_digits (h c hc)).1, (plain_of_mem_digits (h c hc)).2.1⟩

/-- Decimal digits bear no sign. -/
lemma splitSign_of_digits (h : ∀ c ∈ cs, c ∈ digits) : splitSign cs = (false, cs) := by
  unfold splitSign
  split
  · exact absurd rfl (plain_of_mem_digits (h '-' (by simp))).2.2.1
  · exact absurd rfl (plain_of_mem_digits (h '+' (by simp))).2.2.2.1
  · rfl

/-- In base ten nothing marks the base. -/
lemma dropBaseMark_ten (cs : List Char) : dropBaseMark 10 cs = cs := by
  unfold dropBaseMark
  split
  · rw [if_neg (by simp)]
  · rfl

/-- All of a run of decimal digits is taken. -/
lemma takeDigits_of_digits (h : ∀ c ∈ cs, c ∈ digits) :
    takeDigits 10 cs = some (cs.filterMap (Digit.plainValue? 10), []) ∧
      (cs.filterMap (Digit.plainValue? 10)).length = cs.length := by
  induction cs with
  | nil => exact ⟨by simp [takeDigits], rfl⟩
  | cons c cs ih =>
    obtain ⟨htake, hlength⟩ := ih fun d hd => h d (by simp [hd])
    obtain ⟨-, -, -, -, hline, hvalue⟩ := plain_of_mem_digits (h c (by simp))
    obtain ⟨value, hvalue⟩ := Option.isSome_iff_exists.mp hvalue
    -- The equation for a digit asks that it be no low line, which `hline` says.
    simp [takeDigits, hvalue, htake, hlength]

/-- **Reading collected digits.** A bound in decimal digits is the number that they spell, unless
it has more digits than are allowed. -/
theorem readInt_ofList (hne : cs ≠ []) (h : ∀ c ∈ cs, c ∈ digits) :
    readInt 10 (String.ofList cs) =
      if maxDigits < cs.length then .error (.tooManyDigits cs.length)
      else .ok (spelled 10 cs) := by
  obtain ⟨htake, hlength⟩ := takeDigits_of_digits h
  have hhead : cs.head? ≠ some '_' := fun hline =>
    absurd rfl (plain_of_mem_digits (h '_' (List.mem_of_head? hline))).2.2.2.2.1
  have hvalues : cs.filterMap (Digit.plainValue? 10) ≠ [] := by
    rw [ne_eq, ← List.length_eq_zero_iff, hlength, List.length_eq_zero_iff]
    exact hne
  simp only [readInt, String.toList_ofList, plainText_of_digits h, splitSign_of_digits h,
    dropBaseMark_ten, if_neg hhead, htake, hlength]
  simp [hvalues, spelled]

/-- A bound of a repetition in decimal digits is the number that they spell, unless it has more
digits than are allowed or reaches the largest bound. -/
lemma boundOf_of_digits (hne : cs ≠ []) (h : ∀ c ∈ cs, c ∈ digits) :
    boundOf cs =
      if maxDigits < cs.length then throw (.number (.tooManyDigits cs.length))
      else if maxRepeat ≤ spelled 10 cs then throw .repetitionTooLarge
      else pure (some (spelled 10 cs)) := by
  unfold boundOf
  rw [if_neg (by simpa using hne), readInt_ofList hne h]
  by_cases hlong : maxDigits < cs.length
  · simp only [hlong, ↓reduceIte]
  · simp only [hlong, ↓reduceIte, Int.toNat_natCast]

/-- The value of a digit is below the base. -/
lemma lt_of_plainValue? {base value : Nat} {c : Char} (h : Digit.plainValue? base c = some value) :
    value < base := by
  unfold Digit.plainValue? at h
  simpa using (Option.filter_eq_some_iff.mp h).2

/-- Digits below a base, read after a number, make it smaller than the next number before as many
zeros. -/
lemma foldl_digits_lt {base : Nat} {values : List Nat} (h : ∀ v ∈ values, v < base) (n : Nat) :
    values.foldl (fun number digit => number * base + digit) n <
      (n + 1) * base ^ values.length := by
  induction values generalizing n with
  | nil => simp
  | cons v values ih =>
    have hv : v < base := h v (by simp)
    calc (v :: values).foldl (fun number digit => number * base + digit) n
        = values.foldl (fun number digit => number * base + digit) (n * base + v) := rfl
      _ < (n * base + v + 1) * base ^ values.length := ih (fun w hw => h w (by simp [hw])) _
      _ ≤ ((n + 1) * base) * base ^ values.length := by
          apply Nat.mul_le_mul_right
          rw [Nat.add_mul]
          omega
      _ = (n + 1) * base ^ (v :: values).length := by
          rw [List.length_cons, Nat.pow_succ', Nat.mul_assoc]

/-- Digits spell a number below the power of the base to their count. -/
theorem spelled_lt {base : Nat} (hbase : 0 < base) (cs : List Char) :
    spelled base cs < base ^ cs.length := by
  have hvalues : ∀ v ∈ cs.filterMap (Digit.plainValue? base), v < base := by
    intro v hv
    obtain ⟨c, -, hc⟩ := List.mem_filterMap.mp hv
    exact lt_of_plainValue? hc
  calc spelled base cs
      < (0 + 1) * base ^ (cs.filterMap (Digit.plainValue? base)).length :=
        foldl_digits_lt hvalues 0
    _ ≤ base ^ cs.length := by
        rw [Nat.zero_add, Nat.one_mul]
        exact Nat.pow_le_pow_right hbase (List.length_filterMap_le _ _)

end RunnerAtlas.Pattern
