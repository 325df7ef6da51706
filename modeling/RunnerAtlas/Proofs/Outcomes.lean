import Mathlib.Data.List.Forall2
import Mathlib.Tactic.Lemma

set_option relaxedAutoImplicit false
set_option autoImplicit false

/-!
# Outcomes of composed steps

A step succeeds with a value or fails with an error, and the first failure ends what it is a part
of. The lemmas say what it takes for a composition to succeed and which part decides a failure.

## Main results

* `RunnerAtlas.Outcome.mapM_eq_ok_iff` — a list succeeds exactly if each member does.
* `RunnerAtlas.Outcome.mapM_eq_error_iff` — the first member that fails decides the error.
-/

namespace RunnerAtlas.Outcome

variable {ε ε' α β γ : Type}

/-! ### Two steps -/

/-- A continued step succeeds exactly if both parts do. -/
lemma bind_eq_ok_iff (x : Except ε α) (f : α → Except ε β) (b : β) :
    x >>= f = .ok b ↔ ∃ a, x = .ok a ∧ f a = .ok b := by
  cases x with
  | error e =>
    constructor
    · intro h; cases h
    · rintro ⟨a, h, _⟩; cases h
  | ok a =>
    refine ⟨fun h => ⟨a, rfl, h⟩, ?_⟩
    rintro ⟨_, h, hb⟩
    cases h; exact hb

/-- The error of a continued step is that of the first part, or else that of the second one. -/
lemma bind_eq_error_iff (x : Except ε α) (f : α → Except ε β) (e : ε) :
    x >>= f = .error e ↔ x = .error e ∨ ∃ a, x = .ok a ∧ f a = .error e := by
  cases x with
  | error e' =>
    refine ⟨fun h => Or.inl ?_, ?_⟩
    · cases h; rfl
    · rintro (h | ⟨a, h, _⟩)
      · cases h; rfl
      · cases h
  | ok a =>
    refine ⟨fun h => Or.inr ⟨a, rfl, h⟩, ?_⟩
    rintro (h | ⟨_, h, he⟩)
    · cases h
    · cases h; exact he

/-- A mapped step succeeds with the image of its value. -/
lemma map_eq_ok_iff (f : α → β) (x : Except ε α) (b : β) :
    x.map f = .ok b ↔ ∃ a, x = .ok a ∧ f a = b := by
  cases x <;> simp [Except.map]

/-- A mapped step fails as the step does. -/
lemma map_eq_error_iff (f : α → β) (x : Except ε α) (e : ε) :
    x.map f = .error e ↔ x = .error e := by
  cases x <;> simp [Except.map]

/-- A step whose error is seen as another one succeeds as the step does. -/
lemma mapError_eq_ok_iff (f : ε → ε') (x : Except ε α) (a : α) :
    x.mapError f = .ok a ↔ x = .ok a := by
  cases x with
  | error e => exact iff_of_false (fun h => nomatch h) (by simp)
  | ok a' =>
    show Except.ok a' = .ok a ↔ _
    simp

/-- A step whose error is seen as another one fails with the image of its error. -/
lemma mapError_eq_error_iff (f : ε → ε') (x : Except ε α) (e : ε') :
    x.mapError f = .error e ↔ ∃ e', x = .error e' ∧ f e' = e := by
  cases x with
  | error e₀ =>
    show Except.error (f e₀) = .error e ↔ _
    simp
  | ok a => exact iff_of_false (fun h => nomatch h) (by simp)

/-- A step that has a value succeeds with it. -/
lemma eq_ok_of_toOption {x : Except ε α} {a : α} (h : x.toOption = some a) : x = .ok a := by
  cases x with
  | error e => cases h
  | ok b => cases h; rfl

/-- An outcome that is some value is a success. -/
lemma exists_eq_ok_of_isSome {x : Except ε α} (h : x.toOption.isSome = true) :
    ∃ a, x = .ok a := by
  cases x with
  | ok a => exact ⟨a, rfl⟩
  | error e => cases h

/-- An outcome that is no value is a failure. -/
lemma exists_eq_error_of_isNone {x : Except ε α} (h : x.toOption.isNone = true) :
    ∃ e, x = .error e := by
  cases x with
  | ok a => cases h
  | error e => exact ⟨e, rfl⟩

/-! ### All members of a list, one after the other -/

/-- A list succeeds exactly if each member does, with their values in order. -/
theorem mapM_eq_ok_iff (f : α → Except ε β) (as : List α) (bs : List β) :
    as.mapM f = .ok bs ↔ List.Forall₂ (fun a b => f a = .ok b) as bs := by
  induction as generalizing bs with
  | nil =>
    rw [List.mapM_nil, List.forall₂_nil_left_iff]
    exact ⟨fun h => by cases h; rfl, fun h => by rw [h]; rfl⟩
  | cons a rest ih =>
    rw [List.mapM_cons, bind_eq_ok_iff, List.forall₂_cons_left_iff]
    constructor
    · rintro ⟨b, hb, h⟩
      obtain ⟨others, ho, h⟩ := (bind_eq_ok_iff _ _ _).mp h
      cases h
      exact ⟨b, others, hb, (ih others).mp ho, rfl⟩
    · rintro ⟨b, others, hb, ho, rfl⟩
      exact ⟨b, hb, (bind_eq_ok_iff _ _ _).mpr ⟨others, (ih others).mpr ho, rfl⟩⟩

/-- The first member that fails decides the error of a list.

**Proof sketch.** Induction on the list. Either its first member fails, with nothing before it, or
it succeeds and goes before the members that succeed in the rest. -/
theorem mapM_eq_error_iff (f : α → Except ε β) (as : List α) (e : ε) :
    as.mapM f = .error e ↔ ∃ before a after, as = before ++ a :: after ∧
      (∀ x ∈ before, ∃ b, f x = .ok b) ∧ f a = .error e := by
  induction as with
  | nil =>
    constructor
    · intro h; cases h
    · rintro ⟨before, a, after, h, _⟩; simp at h
  | cons a rest ih =>
    rw [List.mapM_cons, bind_eq_error_iff]
    constructor
    · rintro (h | ⟨b, hb, h⟩)
      · exact ⟨[], a, rest, rfl, by simp, h⟩
      · obtain h | ⟨_, _, h⟩ := (bind_eq_error_iff _ _ _).mp h
        · obtain ⟨before, x, after, rfl, hbefore, hx⟩ := ih.mp h
          refine ⟨a :: before, x, after, rfl, ?_, hx⟩
          exact List.forall_mem_cons.mpr ⟨⟨b, hb⟩, hbefore⟩
        · cases h
    · rintro ⟨before, x, after, h, hbefore, hx⟩
      rcases before with _ | ⟨y, before⟩
      · cases h; exact Or.inl hx
      · cases h
        obtain ⟨⟨b, hb⟩, hbefore⟩ := List.forall_mem_cons.mp hbefore
        refine Or.inr ⟨b, hb, (bind_eq_error_iff _ _ _).mpr (Or.inl ?_)⟩
        exact ih.mpr ⟨before, x, after, rfl, hbefore, hx⟩

/-- A list whose members are mapped on succeeds or fails as the list does. -/
lemma mapM_map_eq (f : α → Except ε β) (g : β → γ) (as : List α) :
    as.mapM (fun a => (f a).map g) = (as.mapM f).map (List.map g) := by
  induction as with
  | nil => rfl
  | cons a rest ih =>
    rw [List.mapM_cons, List.mapM_cons, ih]
    cases f a with
    | error e => rfl
    | ok b => cases rest.mapM f <;> rfl

/-- A list succeeds exactly if each member succeeds. -/
lemma exists_mapM_eq_ok_iff (f : α → Except ε β) (as : List α) :
    (∃ bs, as.mapM f = .ok bs) ↔ ∀ a ∈ as, ∃ b, f a = .ok b := by
  induction as with
  | nil => simpa using ⟨[], rfl⟩
  | cons a rest ih =>
    simp only [List.mapM_cons, bind_eq_ok_iff, List.forall_mem_cons, ← ih]
    constructor
    · rintro ⟨_, b, hb, others, ho, _⟩
      exact ⟨⟨b, hb⟩, others, ho⟩
    · rintro ⟨⟨b, hb⟩, others, ho⟩
      exact ⟨b :: others, b, hb, others, ho, rfl⟩

end RunnerAtlas.Outcome
