import Mathlib.Data.List.Basic
import Mathlib.Tactic.Lemma
import RunnerAtlas.Document.Node

set_option relaxedAutoImplicit false
set_option autoImplicit false

/-!
# Composing flow collections

Tokens compose a result if reading them gives it and stops right after them, whatever comes later.
The node of a scalar or flow collection is composed of its tokens, those of a collection of the
tokens of its members.

## Main definitions

* `RunnerAtlas.Document.Composes` — tokens before others compose a result.
* `RunnerAtlas.Document.Token.startsNode` — the tokens that start scalars and flow collections.

## Main results

* `RunnerAtlas.Document.composes_node` — a node is composed of its content.
* `RunnerAtlas.Document.composes_items`, `RunnerAtlas.Document.composes_entries` — a member of a
  flow collection comes before the others.
* `RunnerAtlas.Document.compose_eq` — a node that is all of a document.
-/

namespace RunnerAtlas.Document

variable {α β : Type}

/-- Tokens before others compose a result: they are dropped, and nothing else changes. -/
def Composes (x : Compose α) (ts tail : List Token) (a : α) : Prop :=
  ∀ c : Composer, c.tokens = ts ++ tail → c.fault = none →
    x.run c = .ok (a, { c with tokens := tail })

/-! ### Rules -/

/-- No token is needed for a value that is given. -/
lemma composes_pure (a : α) (tail : List Token) : Composes (pure a) [] tail a := by
  rintro ⟨tokens, fault, handles, anchors⟩ rfl _
  rfl

/-- Readings in sequence. The second one reads what the first one leaves. -/
lemma Composes.bind {x : Compose α} {y : α → Compose β} {ts us tail : List Token} {a : α} {b : β}
    (hx : Composes x ts (us ++ tail) a) (hy : Composes (y a) us tail b) :
    Composes (x >>= y) (ts ++ us) tail b := by
  intro c hc hfault
  rw [StateT.run_bind, hx c (by rw [hc, List.append_assoc]) hfault]
  exact hy _ rfl hfault

/-- A reading that leaves all tokens goes before another one. -/
lemma Composes.bind_nil {x : Compose α} {y : α → Compose β} {ts tail : List Token} {a : α} {b : β}
    (hx : Composes x [] (ts ++ tail) a) (hy : Composes (y a) ts tail b) :
    Composes (x >>= y) ts tail b :=
  hx.bind hy

/-- A reading goes before another one that leaves all tokens. -/
lemma Composes.bind_last {x : Compose α} {y : α → Compose β} {ts tail : List Token} {a : α} {b : β}
    (hx : Composes x ts tail a) (hy : Composes (y a) [] tail b) : Composes (x >>= y) ts tail b := by
  have h : Composes (x >>= y) (ts ++ []) tail b := hx.bind hy
  rwa [List.append_nil] at h

/-- The next token stays. -/
lemma composes_peekToken (tail : List Token) : Composes peekToken [] tail tail.head? := by
  rintro ⟨tokens, fault, handles, anchors⟩ rfl rfl
  cases tokens <;> rfl

/-- The next token is dropped. -/
lemma composes_dropToken (t : Token) (tail : List Token) : Composes dropToken [t] tail () := by
  intro c hc _
  show Except.ok ((), { c with tokens := c.tokens.tail }) = _
  rw [hc]
  rfl

/-- A token that is next is accepted. -/
lemma composes_acceptToken (t : Token) (tail : List Token) :
    Composes (acceptToken t) [t] tail true := by
  refine (composes_peekToken _).bind_nil ?_
  rw [if_pos (by rfl)]
  exact (composes_dropToken t tail).bind_last (composes_pure _ _)

/-- A token that is not next is not accepted. -/
lemma composes_acceptToken_of_ne {t : Token} {tail : List Token} (h : tail.head? ≠ some t) :
    Composes (acceptToken t) [] tail false := by
  refine (composes_peekToken _).bind_nil ?_
  rw [List.nil_append, if_neg h]
  exact composes_pure _ _

/-- Where a token is not next, what is read without it counts. -/
lemma composes_unless {u : Token} {x y : Compose α} {ts tail : List Token} {a : α}
    (hu : (ts ++ tail).head? ≠ some u) (h : Composes y ts tail a) :
    Composes (do if ← acceptToken u then x else y) ts tail a :=
  (composes_acceptToken_of_ne hu).bind_nil h

/-- Whether the next token is one of a list. -/
lemma composes_nextIs (ts tail : List Token) :
    Composes (nextIs ts) [] tail (tail.head?.any ts.contains) :=
  (composes_peekToken tail).bind_nil (composes_pure _ _)

/-! ### Nodes -/

/-- Whether a token starts a scalar or a flow collection. -/
def Token.startsNode : Token → Bool
  | scalar _ _ => true
  | flowSequence => true
  | flowMapping => true
  | _ => false

/-- The token of a node is none of the others. -/
lemma ne_of_startsNode {t u : Token} (ht : t.startsNode = true) (hu : u.startsNode = false) :
    t ≠ u := by
  rintro rfl
  rw [ht] at hu
  cases hu

variable {fuel : Nat} {inBlock mayBeFlat : Bool} {t : Token} {ts us tail : List Token} {n : Node}

/-- A node without properties is composed of its content. -/
lemma composes_node (ht : t.startsNode = true)
    (h : Composes (composeContent fuel inBlock mayBeFlat false none) (t :: ts) tail n) :
    Composes (composeNode (fuel + 1) inBlock mayBeFlat) (t :: ts) tail n := by
  have hproperties : Composes takeProperties [] (t :: ts ++ tail) ⟨none, none⟩ := by
    have hanchor : Composes takeAnchor [] (t :: ts ++ tail) none := by
      refine (composes_peekToken _).bind_last ?_
      cases t <;> first | exact composes_pure _ _ | cases ht
    have htag : Composes takeTag [] (t :: ts ++ tail) none := by
      refine (composes_peekToken _).bind_last ?_
      cases t <;> first | exact composes_pure _ _ | cases ht
    exact hanchor.bind_last (htag.bind_last (composes_pure _ _))
  have hrest : Composes (do
      let properties ← takeProperties
      let text? ← properties.tag.mapM tagText
      let _ ← peekToken
      beginAnchor properties.anchor
      let isNamed := properties.anchor.isSome || properties.tag.isSome
      let n ← composeContent fuel inBlock mayBeFlat isNamed text?
      endAnchor properties.anchor n
      pure n) (t :: ts) tail n :=
    hproperties.bind_nil ((composes_pure none _).bind_nil ((composes_peekToken _).bind_nil
      ((composes_pure () _).bind_nil (h.bind_last
        ((composes_pure () _).bind_nil (composes_pure _ _))))))
  unfold composeNode
  refine (composes_peekToken _).bind_nil ?_
  cases t <;> first | exact hrest | cases ht

/-- A scalar without tag. -/
lemma composes_scalar (text : String) (isPlain : Bool) (tail : List Token) :
    Composes (composeNode (fuel + 2) inBlock mayBeFlat) [.scalar text isPlain] tail
      (.scalar (scalarTag none text isPlain) text) := by
  refine composes_node rfl ?_
  unfold composeContent
  refine (composes_peekToken _).bind_nil ?_
  exact (composes_dropToken _ tail).bind_last (composes_pure _ _)

/-- A flow sequence without tag is composed of its members. -/
lemma composes_sequence {ns : List Node} (h : Composes (composeFlowItems fuel true) ts tail ns) :
    Composes (composeNode (fuel + 2) inBlock mayBeFlat) (.flowSequence :: ts) tail
      (.sequence .seq ns) := by
  refine composes_node rfl ?_
  unfold composeContent
  refine (composes_peekToken _).bind_nil ?_
  exact (composes_dropToken _ _).bind (h.bind_last (composes_pure _ _))

/-- A flow mapping without tag is composed of its entries. -/
lemma composes_mapping {entries : List (Node × Node)}
    (h : Composes (composeFlowEntries fuel true) ts tail entries) :
    Composes (composeNode (fuel + 2) inBlock mayBeFlat) (.flowMapping :: ts) tail
      (.mapping .map entries) := by
  refine composes_node rfl ?_
  unfold composeContent
  refine (composes_peekToken _).bind_nil ?_
  exact (composes_dropToken _ _).bind (h.bind_last (composes_pure _ _))

/-! ### Members of flow collections -/

/-- What stands before a member of a flow collection: a separator, unless it is the first one. -/
def separator (isFirst : Bool) : List Token := if isFirst then [] else [.flowEntry]

/-- The separator before a member is taken. -/
lemma composes_separator (isFirst : Bool) {y : Unit → Compose α} {a : α}
    (h : Composes (y ()) ts tail a) :
    Composes (if !isFirst then do
        let isThere ← acceptToken .flowEntry
        if !isThere then reject >>= y else y ()
      else y ()) (separator isFirst ++ ts) tail a := by
  cases isFirst with
  | true => exact h
  | false => exact (composes_acceptToken .flowEntry (ts ++ tail)).bind h

/-- No members are left in a flow sequence. -/
lemma composes_items_nil (isFirst : Bool) (tail : List Token) :
    Composes (composeFlowItems (fuel + 1) isFirst) [.flowSequenceEnd] tail [] := by
  unfold composeFlowItems
  exact (composes_acceptToken _ _).bind_last (composes_pure _ _)

/-- A member of a flow sequence comes before the others. -/
lemma composes_items (isFirst : Bool) {ns : List Node} (ht : t.startsNode = true)
    (hn : Composes (composeNode fuel false false) (t :: ts) (us ++ tail) n)
    (hns : Composes (composeFlowItems fuel false) us tail ns) :
    Composes (composeFlowItems (fuel + 1) isFirst) (separator isFirst ++ (t :: ts ++ us)) tail
      (n :: ns) := by
  have hkey : t ≠ .key := ne_of_startsNode ht rfl
  have hend : t ≠ .flowSequenceEnd := ne_of_startsNode ht rfl
  have hfirst : (separator isFirst ++ (t :: ts ++ us) ++ tail).head? ≠ some .flowSequenceEnd := by
    cases isFirst <;> simp [separator, hend]
  unfold composeFlowItems
  refine composes_unless hfirst (composes_separator isFirst ?_)
  refine composes_unless (by simpa using hkey) (composes_unless (by simpa using hend) ?_)
  exact hn.bind (hns.bind_last (composes_pure _ _))

/-- No entries are left in a flow mapping. -/
lemma composes_entries_nil (isFirst : Bool) (tail : List Token) :
    Composes (composeFlowEntries (fuel + 1) isFirst) [.flowMappingEnd] tail [] := by
  unfold composeFlowEntries
  exact (composes_acceptToken _ _).bind_last (composes_pure _ _)

/-- A key or value that is written is a node. -/
lemma composes_part {ends : List Token} (ht : t.startsNode = true)
    (hends : ∀ u ∈ ends, u.startsNode = false)
    (hn : Composes (composeNode fuel false false) (t :: ts) tail n) :
    Composes (composeFlowPart (fuel + 1) ends) (t :: ts) tail n := by
  have hnone : ends.contains t = false := by
    have : t ∉ ends := fun h => ne_of_startsNode ht (hends t h) rfl
    simpa using this
  unfold composeFlowPart
  refine (composes_nextIs ends _).bind_nil ?_
  show Composes (if ends.contains t = true then _ else _) _ _ _
  rw [hnone]
  exact hn

/-- A quoted scalar as key with its value. -/
lemma composes_pair (text : String) (ht : t.startsNode = true)
    (hn : Composes (composeNode (fuel + 2) false false) (t :: ts) tail n) :
    Composes (composeFlowPair (fuel + 4) .flowMappingEnd)
      ([.scalar text false] ++ ([.value] ++ t :: ts)) tail (.scalar .str text, n) := by
  have hkey : ∀ tail, Composes (composeFlowPart (fuel + 3) [.value, .flowEntry, .flowMappingEnd])
      [.scalar text false] tail (.scalar .str text) :=
    fun tail => composes_part rfl (by decide) (composes_scalar text false tail)
  have hvalue := composes_part ht
    (by decide : ∀ u ∈ [Token.flowEntry, .flowMappingEnd], u.startsNode = false) hn
  unfold composeFlowPair
  exact (hkey _).bind ((composes_acceptToken _ _).bind (hvalue.bind_last (composes_pure _ _)))

/-- An entry of a flow mapping whose key is a quoted scalar comes before the others. -/
lemma composes_entries (isFirst : Bool) (text : String) {entries : List (Node × Node)}
    (ht : t.startsNode = true)
    (hn : Composes (composeNode (fuel + 2) false false) (t :: ts) (us ++ tail) n)
    (hentries : Composes (composeFlowEntries (fuel + 4) false) us tail entries) :
    Composes (composeFlowEntries (fuel + 5) isFirst)
      (separator isFirst ++ (.key :: .scalar text false :: .value :: t :: ts ++ us)) tail
      ((.scalar .str text, n) :: entries) := by
  have hfirst : (separator isFirst ++ (.key :: .scalar text false :: .value :: t :: ts ++ us) ++
      tail).head? ≠ some .flowMappingEnd := by
    cases isFirst <;> simp [separator]
  unfold composeFlowEntries
  refine composes_unless hfirst (composes_separator isFirst ?_)
  exact (composes_acceptToken .key _).bind
    ((composes_pair text ht hn).bind (hentries.bind_last (composes_pure _ _)))

/-! ### Documents -/

/-- Marks of a document's end are skipped, of which there are none at the end of the tokens. -/
lemma composes_skipEnds : Composes (skipEnds fuel) [] [] () := by
  cases fuel with
  | zero => exact composes_pure _ _
  | succ fuel => exact (composes_acceptToken_of_ne (by simp)).bind_nil (composes_pure _ _)

/-- A node that is all of a document. -/
lemma composes_document (ht : t.startsNode = true)
    (hn : Composes (composeNode fuel true false) (t :: ts) [] n) :
    Composes (composeDocument fuel) (t :: ts) [] (some n) := by
  have hroot : Composes (composeRoot fuel) (t :: ts) [] n := by
    have hend : Composes atDocumentEnd [] (t :: ts ++ []) false := by
      refine (composes_peekToken _).bind_last ?_
      cases t <;> first | exact composes_pure _ _ | cases ht
    have hrest : Composes (do
        if ← atDocumentEnd then
          let handles ← composeDirectives fuel false []
          modify fun c => { c with handles := handles ++ standardHandles }
          if ← acceptToken .documentStart then
            if ← atDocumentEnd then pure .nothing else composeNode fuel true false
          else reject
        else composeNode fuel true false) (t :: ts) [] n := hend.bind_nil hn
    refine (composes_peekToken _).bind_nil ?_
    cases t <;> first | exact hrest | cases ht
  refine (composes_peekToken _).bind_nil ?_
  refine hroot.bind_last (composes_skipEnds.bind_nil ?_)
  exact (composes_peekToken []).bind_nil (composes_pure _ _)

/-- The tokens of a text that compose a node make up its document. -/
theorem compose_eq {cs : List Char} (htokens : tokens cs = (t :: ts, none))
    (ht : t.startsNode = true)
    (hn : Composes (composeNode (6 * (t :: ts).length + 8) true false) (t :: ts) [] n) :
    compose cs = .ok (some n) := by
  unfold compose
  rw [htokens]
  show ((composeDocument _).run ⟨t :: ts, none, standardHandles, []⟩).map Prod.fst = _
  rw [composes_document ht hn _ (List.append_nil _).symm rfl]
  rfl

end RunnerAtlas.Document
