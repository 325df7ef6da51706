import Mathlib.Tactic.Lemma
import RunnerAtlas.Pattern.Basic

set_option relaxedAutoImplicit false
set_option autoImplicit false

/-!
# Branches that are joined

The branches of an alternation are the common beginning with what each of them has left after it.
Joined, they are the common beginning with a set or a choice after it.

## Main definitions

* `RunnerAtlas.Pattern.commonOf`, `RunnerAtlas.Pattern.residues` — the common beginning of branches,
  and what they have left.
* `RunnerAtlas.Pattern.Node.IsPiece` — the trees of patterns without groups.

## Main results

* `RunnerAtlas.Pattern.map_residues` — what branches consist of.
* `RunnerAtlas.Pattern.joinBranches_eq` — what joined branches consist of.
* `RunnerAtlas.Pattern.fault?_joinBranches` — joined branches without groups have no fault.
-/

namespace RunnerAtlas.Pattern

/-! ### Joined branches -/

/-- Each branch is the common beginning, of trees without parts, and what is left of it.

**Proof sketch.** Induction on the first branch. As long as its next tree has no parts and begins
all others, it is taken from each of them. -/
lemma takeCommon_spec (branch : List Node) (others : List (List Node)) :
    branch = (takeCommon branch others).1 ++ (takeCommon branch others).2.1 ∧
      others = (takeCommon branch others).2.2.map ((takeCommon branch others).1 ++ ·) ∧
      ∀ n ∈ (takeCommon branch others).1, n.isLeaf = true := by
  induction branch generalizing others with
  | nil => simp [takeCommon]
  | cons n rest ih =>
    rw [takeCommon]
    split
    · rename_i hcommon
      obtain ⟨hleaf, hall⟩ := (Bool.and_eq_true _ _).mp hcommon
      obtain ⟨hbranch, hothers, hleaves⟩ := ih (others.map List.tail)
      have hcons : others = (others.map List.tail).map (n :: ·) := by
        have hid : others.map (fun branch => n :: branch.tail) = others.map id := by
          refine List.map_congr_left fun branch hmem => ?_
          have hhead := eq_of_beq (List.all_eq_true.mp hall branch hmem)
          obtain ⟨tail, rfl⟩ := List.head?_eq_some_iff.mp hhead
          rfl
        rw [List.map_map]
        exact (List.map_id others).symm.trans hid.symm
      refine ⟨by simpa using hbranch, ?_, by simpa using ⟨hleaf, hleaves⟩⟩
      refine hcons.trans ((congrArg (List.map (n :: ·)) hothers).trans ?_)
      rw [List.map_map]
      rfl
    · simp

/-- What the branches of an alternation have after their common beginning. -/
def residues : List (List Node) → List (List Node)
  | [] => []
  | branch :: others => (takeCommon branch others).2.1 :: (takeCommon branch others).2.2

/-- The common beginning of the branches of an alternation. -/
def commonOf : List (List Node) → List Node
  | [] => []
  | branch :: others => (takeCommon branch others).1

/-- Each branch is the common beginning with what it has after it. -/
lemma map_residues (bs : List (List Node)) : bs = (residues bs).map (commonOf bs ++ ·) := by
  cases bs with
  | nil => rfl
  | cons branch others =>
    obtain ⟨hbranch, hothers, -⟩ := takeCommon_spec branch others
    simp only [residues, commonOf, List.map_cons]
    rw [← hbranch, ← hothers]

/-- The common beginning with what a branch has after it is that branch. -/
lemma append_mem_of_mem_residues {bs : List (List Node)} {b : List Node} (h : b ∈ residues bs) :
    commonOf bs ++ b ∈ bs := by
  have hmem := List.mem_map_of_mem (f := (commonOf bs ++ ·)) h
  rwa [← map_residues] at hmem

/-- The common beginning has trees without parts only. -/
lemma isLeaf_of_mem_commonOf {bs : List (List Node)} {n : Node} (h : n ∈ commonOf bs) :
    n.isLeaf = true := by
  cases bs with
  | nil => cases h
  | cons branch others => exact (takeCommon_spec branch others).2.2 n h

/-- Several branches are joined to their common beginning with a set or a choice after it. -/
lemma joinBranches_eq {bs : List (List Node)} (h : 2 ≤ bs.length) :
    joinBranches bs = commonOf bs ++
      [match asSet? (residues bs) with
        | some items => .set false (distinct items)
        | none => Node.ofBranches (residues bs)] := by
  match bs, h with
  | branch :: other :: others, _ =>
    simp only [joinBranches, commonOf, residues]
    cases asSet? _ <;> rfl

/-! ### Faults of pieces -/

/-- The trees of patterns without groups: those without parts, and repetitions of one of them. -/
def Node.IsPiece (n : Node) : Prop :=
  n.isLeaf = true ∨ ∃ greed least most body, n = .loop greed least most body ∧ body.isLeaf = true

/-- A tree without parts has no fault of its own. -/
lemma Node.fault?_of_isLeaf {n : Node} (h : n.isLeaf = true) (template : Bool)
    (groups : Nat → Width) : n.fault? template groups = none := by
  cases n <;> first | rfl | cases h

/-- A piece without groups has no fault of its own, unless it is read as a template. -/
lemma Node.IsPiece.fault? {n : Node} (h : n.IsPiece) (groups : Nat → Width) :
    n.fault? false groups = none := by
  rcases h with hleaf | ⟨greed, least, most, body, rfl, hbody⟩
  · exact fault?_of_isLeaf hleaf _ _
  · exact fault?_of_isLeaf hbody _ _

/-- A sequence of trees has no fault if none of them has one. -/
lemma Node.fault?_ofList {template : Bool} {groups : Nat → Width} {ns : List Node}
    (h : ∀ n ∈ ns, n.fault? template groups = none) :
    (ofList ns).fault? template groups = none := by
  induction ns with
  | nil => rfl
  | cons n ns ih =>
    obtain ⟨hn, hns⟩ := List.forall_mem_cons.mp h
    cases ns with
    | nil => exact hn
    | cons =>
      simp only [ofList, Node.fault?, hn, ih hns]
      rfl

/-- A choice between sequences has no fault if none of their trees has one. -/
lemma Node.fault?_ofBranches {template : Bool} {groups : Nat → Width} {bs : List (List Node)}
    (h : ∀ b ∈ bs, ∀ n ∈ b, n.fault? template groups = none) :
    (ofBranches bs).fault? template groups = none := by
  induction bs with
  | nil => rfl
  | cons b bs ih =>
    obtain ⟨hb, hbs⟩ := List.forall_mem_cons.mp h
    cases bs with
    | nil => exact fault?_ofList hb
    | cons =>
      simp only [ofBranches, Node.fault?, fault?_ofList hb, ih hbs]
      rfl

/-- What branches have after their common beginning are as many as the branches. -/
lemma length_residues (bs : List (List Node)) : (residues bs).length = bs.length := by
  have h := congrArg List.length (map_residues bs)
  rw [List.length_map] at h
  exact h.symm

/-- A tree of joined branches is a piece without groups or the choice between what they have left,
if the branches are of such pieces. -/
lemma isPiece_or_eq_ofBranches {bs : List (List Node)} (h : ∀ b ∈ bs, ∀ n ∈ b, n.IsPiece)
    {n : Node} (hn : n ∈ joinBranches bs) :
    n.IsPiece ∨ 2 ≤ bs.length ∧ n = Node.ofBranches (residues bs) := by
  match bs with
  | [] => cases hn
  | [b] => exact .inl (h b (by simp) n hn)
  | b₁ :: b₂ :: rest =>
    rw [joinBranches_eq (by simp)] at hn
    rcases List.mem_append.mp hn with hn | hn
    · exact .inl (.inl (isLeaf_of_mem_commonOf hn))
    · rw [List.mem_singleton] at hn
      split at hn
      · rw [hn]
        exact .inl (.inl rfl)
      · exact .inr ⟨by simp, hn⟩

/-- Joined branches of pieces without groups have no fault. -/
lemma fault?_joinBranches {bs : List (List Node)} (h : ∀ b ∈ bs, ∀ n ∈ b, n.IsPiece)
    (groups : Nat → Width) : (Node.ofList (joinBranches bs)).fault? false groups = none := by
  refine Node.fault?_ofList fun n hn => ?_
  rcases isPiece_or_eq_ofBranches h hn with hpiece | ⟨-, rfl⟩
  · exact hpiece.fault? groups
  · exact Node.fault?_ofBranches fun b hb n hn => Node.IsPiece.fault?
      (h _ (append_mem_of_mem_residues hb) n (List.mem_append_right _ hn)) groups

end RunnerAtlas.Pattern
