import Mathlib.Tactic.ByContra
import RunnerAtlas.Pattern.Search
import RunnerAtlas.Proofs.Text.LetterCase

set_option relaxedAutoImplicit false
set_option autoImplicit false

/-!
# Members of sets without letter case

Where letter case is ignored, a set in which it makes no difference is compared with a character as
it is, and any other set with its small letter. Both come to the same: a set has a character if one
of its members stands for it. Only a capital letter beyond the basic plane does not stand for itself
in a set.

## Main definitions

* `RunnerAtlas.Pattern.Flags.IsCaseOnly` — flags without any but that of letter case.
* `RunnerAtlas.Pattern.Fold.itemHas` — a member of a set that stands for a character.
* `RunnerAtlas.Pattern.Fold.isLost` — the characters that do not stand for themselves.

## Main results

* `RunnerAtlas.Pattern.Fold.covers_lower` — members without letter case.
* `RunnerAtlas.Pattern.Fold.inSet_eq_any` — a set by its members.
* `RunnerAtlas.Pattern.Fold.itemHas_char` — a character as a member of a set.
-/

namespace RunnerAtlas.Pattern

open RunnerAtlas.Text

variable {fold : Fold} {item : SetItem} {items : List SetItem} {own code : Nat}

/-! ### Flags of letter case -/

/-- Flags of which only the one that ignores letter case may be set. -/
def Flags.IsCaseOnly (f : Flags) : Prop := f = { ignoreCase := f.ignoreCase }

/-- The flags of a platform are of this kind. -/
lemma Flags.isCaseOnly (ignoreCase : Bool) : IsCaseOnly { ignoreCase := ignoreCase } := rfl

namespace Flags.IsCaseOnly

variable {f : Flags} (hf : f.IsCaseOnly)

include hf

/-- Flags of letter case alone do not make a pattern verbose. -/
lemma verbose : f.verbose = false := by
  rw [hf]

/-- Flags of letter case alone do not choose ASCII. -/
lemma ascii : f.ascii = false := by
  rw [hf]

/-- Flags of letter case alone do not fold the letters of ASCII alone. -/
lemma fold_ne_plain : f.fold ≠ .plain := by
  unfold Flags.fold
  rw [hf.ascii]
  cases f.ignoreCase <;> decide

end Flags.IsCaseOnly

/-! ### Members without letter case -/

namespace Fold

/-- A code point whose small letter has no letter case is that letter. -/
lemma eq_of_lower_eq (hown : LetterCase.isCased own = false) :
    LetterCase.lower code = own ↔ code = own := by
  constructor
  · intro h
    by_contra hne
    have hmoved : LetterCase.lower code ≠ code := by
      rw [h]
      exact Ne.symm hne
    have hcased := LetterCase.isCased_lower hmoved
    rw [h, hown] at hcased
    cases hcased
  · rintro rfl
    simp only [LetterCase.isCased, Bool.or_eq_false_iff, bne_eq_false_iff_eq] at hown
    exact hown.1

/-- No other small letter is alike to a code point without letter case. -/
lemma not_mem_alikes {letter : Nat} (hown : LetterCase.isCased own = false) :
    letter ∉ LetterCase.alikes own := by
  intro h
  rw [(LetterCase.isCased_of_mem_alikes h).1] at hown
  cases hown

/-- A class has a code point if it has the small letter of it. -/
lemma has_lower (kind : Category) (code : Nat) :
    kind.has false (LetterCase.lower code) = kind.has false code := by
  cases kind with
  | digit => exact (LetterCase.isDigit_isBlank_lower code).1
  | blank => exact (LetterCase.isDigit_isBlank_lower code).2
  | word => exact LetterCase.isWord_lower code

/-- A member of a set that has no letter case covers the small letter of a code point exactly if it
covers that as it is. -/
lemma covers_lower (h : Fold.full.firstIsCased item = false) (code : Nat) :
    Fold.full.covers false (LetterCase.lower code) item = item.covers false code := by
  cases item with
  | char own =>
    have hown : LetterCase.isCased own = false := h
    have hlower : LetterCase.lower own = own := (eq_of_lower_eq hown).mpr rfl
    have hcontains : (LetterCase.alikes own).contains (LetterCase.lower code) = false := by
      rw [List.contains_eq_mem, decide_eq_false_iff_not]
      exact not_mem_alikes hown
    have hsame : (LetterCase.lower code == own) = (code == own) := by
      rw [Bool.eq_iff_iff, beq_iff_eq, beq_iff_eq, eq_of_lower_eq hown]
    simp only [covers, lower, alikes, hlower, hcontains, hsame, SetItem.covers, Bool.or_false,
      ite_self]
  | range low high =>
    obtain ⟨hhigh, hcased⟩ := Bool.or_eq_false_iff.mp h
    have hhigh : high ≤ lastBasic := by simpa using hhigh
    have hbetween : ∀ source, low ≤ source → source ≤ high → LetterCase.isCased source = false :=
      fun source => LetterCase.isCased_of_between hcased
    have hown : ∀ source, low ≤ source → source ≤ high → LetterCase.lower source = source :=
      fun source hlow hle => (eq_of_lower_eq (hbetween source hlow hle)).mpr rfl
    rw [Bool.eq_iff_iff]
    simp only [covers, SetItem.covers, alikes, sources, Bool.or_eq_true, Bool.and_eq_true,
      List.any_eq_true, decide_eq_true_eq]
    constructor
    · rintro (⟨letter, hletter, source, hsource, ⟨hlow, hle⟩, -⟩ | ⟨hlt, -⟩)
      · -- the source is a small letter without case, so that it can only be the code point itself
        have hsame : source = letter :=
          (hown source hlow hle).symm.trans (LetterCase.lower_of_mem_lowerSources hsource)
        subst hsame
        rcases List.mem_cons.mp hletter with heq | halike
        · rw [(eq_of_lower_eq (hbetween source hlow hle)).mp heq.symm]
          exact ⟨hlow, hle⟩
        · have hcased := (LetterCase.isCased_of_mem_alikes halike).2.1
          rw [hbetween source hlow hle] at hcased
          cases hcased
      · omega
    · rintro ⟨hlow, hle⟩
      have hlower := hown code hlow hle
      refine .inl ⟨code, ?_, code, LetterCase.mem_lowerSources_self hlower, ⟨hlow, hle⟩, by omega⟩
      rw [hlower]
      exact List.mem_cons_self
  | category kind negated => exact congrArg (· != negated) (has_lower kind code)

/-! ### Sets by their members -/

/-- Whether a member of a set stands for a code point, as letter case is ignored. -/
def itemHas (fold : Fold) (code : Nat) (item : SetItem) : Bool :=
  if fold = .none then item.covers false code else fold.covers false (fold.lower code) item

/-- Members of a set that make letter case matter to it are among those that make it matter to the
first character of a match. -/
lemma firstIsCased_of_itemIsCased (h : fold.itemIsCased item = false) :
    fold.firstIsCased item = false := by
  cases item with
  | char own => exact (Bool.or_eq_false_iff.mp h).2
  | range low high => exact h
  | category kind negated => rfl

/-- A member of a set that has no letter case stands for the code points that it covers. -/
lemma itemHas_eq_covers (hfold : fold ≠ .plain) (h : fold.firstIsCased item = false)
    (code : Nat) : fold.itemHas code item = item.covers false code := by
  cases fold with
  | none => rfl
  | plain => exact absurd rfl hfold
  | full => exact covers_lower h code

/-- Without letter case a member of a set stands for the code points whose small letter it
covers. -/
lemma itemHas_full :
    Fold.full.itemHas code item = Fold.full.covers false (LetterCase.lower code) item := rfl

/-- A set has what one of its members stands for. -/
lemma inSet_eq_any (hfold : fold ≠ .plain) (items : List SetItem) (code : Nat) :
    fold.inSet false items code = items.any fun item => fold.itemHas code item := by
  cases fold with
  | none => rfl
  | plain => exact absurd rfl hfold
  | full =>
    cases hcased : items.any Fold.full.itemIsCased with
    | true => simp [inSet, hcased, itemHas_full, lower]
    | false =>
      have hitems : ∀ item ∈ items, Fold.full.itemHas code item = item.covers false code :=
        fun item hitem => itemHas_eq_covers hfold (firstIsCased_of_itemIsCased
          (Bool.eq_false_iff.mpr (List.any_eq_false.mp hcased item hitem))) code
      rw [inSet, hcased, Bool.and_false, if_neg Bool.false_ne_true, Bool.eq_iff_iff,
        List.any_eq_true, List.any_eq_true]
      exact exists_congr fun item => and_congr_right fun hitem => by rw [hitems item hitem]

/-- Whether a character is a capital letter beyond the basic plane, which a set does not have where
letter case is ignored. -/
def isLost (fold : Fold) (own : Nat) : Bool :=
  decide (lastBasic < fold.lower own) && fold.lower own != own

/-- With letter case no character is lost. -/
lemma isLost_none (own : Nat) : Fold.none.isLost own = false := by
  simp [isLost, lower]

/-- A character that is lost stands in a set for nothing. -/
lemma itemHas_char_of_isLost (hfold : fold ≠ .plain) (hown : fold.isLost own = true) (code : Nat) :
    fold.itemHas code (.char own) = false := by
  cases fold with
  | none => rw [isLost_none] at hown; cases hown
  | plain => exact absurd rfl hfold
  | full =>
    obtain ⟨hbasic, hne⟩ := (Bool.and_eq_true _ _).mp hown
    have hbasic : lastBasic < LetterCase.lower own := of_decide_eq_true hbasic
    rw [itemHas_full, covers, lower, if_pos hbasic, beq_eq_false_iff_ne]
    exact LetterCase.lower_ne_of_lower_ne hbasic (bne_iff_ne.mp hne) code

/-- A character that is not lost stands in a set for what counts as the same. -/
lemma itemHas_char (hfold : fold ≠ .plain) (hown : fold.isLost own = false) (code : Nat) :
    fold.itemHas code (.char own) = fold.isSame own code := by
  cases fold with
  | none => rfl
  | plain => exact absurd rfl hfold
  | full =>
    cases hcased : LetterCase.isCased own with
    | false =>
      have hsame : Fold.full.isSame own code = (code == own) := by
        simp [isSame, isCased, hcased]
      have hfirst : Fold.full.firstIsCased (.char own) = false := hcased
      rw [itemHas_eq_covers hfold hfirst, hsame]
      rfl
    | true =>
      have hsame : Fold.full.isSame own code = (LetterCase.lower code == LetterCase.lower own ||
          (LetterCase.alikes (LetterCase.lower own)).contains (LetterCase.lower code)) := by
        simp [isSame, isCased, hcased, lower, alikes]
      rw [hsame]
      by_cases hbasic : lastBasic < LetterCase.lower own
      · have hlower : LetterCase.lower own = own := by
          simpa [isLost, lower, hbasic] using hown
        have hcontains : (LetterCase.alikes (LetterCase.lower own)).contains
            (LetterCase.lower code) = false := by
          rw [List.contains_eq_mem, decide_eq_false_iff_not]
          intro halike
          exact absurd (LetterCase.isCased_of_mem_alikes halike).2.2 (Nat.not_le.mpr hbasic)
        rw [hcontains, Bool.or_false, hlower]
        simp [itemHas, covers, lower, hlower, hlower ▸ hbasic]
      · simp [itemHas, covers, lower, alikes, hbasic]

end Fold

end RunnerAtlas.Pattern
