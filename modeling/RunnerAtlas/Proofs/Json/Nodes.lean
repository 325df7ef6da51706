import RunnerAtlas.Proofs.Document.Composing
import RunnerAtlas.Proofs.Document.Keys
import RunnerAtlas.Proofs.Json.Tokens
import RunnerAtlas.Proofs.Mappings

set_option relaxedAutoImplicit false
set_option autoImplicit false

/-!
# Nodes of a JSON text

The tokens of a tree compose one node. What it stands for is what the tree stands for: under the tag
that its text suggests each atom has its value, and members with one name overwrite each other.

## Main definitions

* `RunnerAtlas.Json.Tree.node` — the node of a tree.

## Main results

* `RunnerAtlas.Json.Tree.composes` — the tokens of a tree compose its node.
* `RunnerAtlas.Json.Tree.value_meaning` — the node stands for the value of the tree.
-/

namespace RunnerAtlas.Json

open Document Outcome RunnerAtlas.Text

/-- The node of an atom. The text of an atom that is no string suggests its tag. -/
def Atom.node : Atom → Node
  | .string pieces => .scalar .str (textOf pieces)
  | a => .scalar (Tag.suggested a.chars) (String.ofList a.chars)

mutual

/-- The node of a tree. -/
def Tree.node : Tree → Node
  | .atom a => a.node
  | .array items => .sequence .seq (Tree.nodesOfItems items)
  | .object members => .mapping .map (Tree.nodesOfMembers members)

/-- The node of each item. -/
def Tree.nodesOfItems : List Tree → List Node
  | [] => []
  | item :: rest => item.node :: Tree.nodesOfItems rest

/-- The name and the node of each member. -/
def Tree.nodesOfMembers : List (List Piece × Tree) → List (Node × Node)
  | [] => []
  | (name, item) :: rest => (.scalar .str (textOf name), item.node) :: Tree.nodesOfMembers rest

end

/-! ### Composing -/

/-- Parts of a flow collection with separators between them, and before the first one unless it
starts the collection. -/
def joined (isFirst : Bool) : List (List Token) → List Token
  | [] => []
  | part :: rest => separator isFirst ++ (part ++ joined false rest)

/-- After the first part each comes after a separator. -/
lemma joined_false (parts : List (List Token)) :
    joined false parts = parts.flatMap (.flowEntry :: ·) := by
  induction parts with
  | nil => rfl
  | cons part rest ih => simp [joined, ih, separator]

/-- All parts of a flow collection have separators between them. -/
lemma joined_true (parts : List (List Token)) : joined true parts = separated .flowEntry parts := by
  cases parts with
  | nil => rfl
  | cons part rest => simp [joined, joined_false, separated, separator]

/-- Tokens compose a node, which the first of them starts, inside a flow collection or outside. -/
structure ComposesNode (ts : List Token) (n : Node) : Prop where
  /-- The first token starts the node. -/
  starts : ∃ t more, ts = t :: more ∧ t.startsNode = true
  /-- The tokens compose the node. -/
  composes : ∀ {fuel : Nat}, 2 * ts.length ≤ fuel → ∀ (inBlock mayBeFlat : Bool)
    (tail : List Token), Composes (composeNode fuel inBlock mayBeFlat) ts tail n

/-- The token of an atom composes its node. -/
lemma composesNode_atom (a : Atom) : ComposesNode [a.token] a.node := by
  have htoken : ∃ text isPlain, a.token = .scalar text isPlain ∧
      a.node = .scalar (scalarTag none text isPlain) text := by
    cases a with
    | string pieces => exact ⟨_, _, rfl, rfl⟩
    | _ => exact ⟨_, _, rfl, by simp [Atom.node, scalarTag]⟩
  obtain ⟨text, isPlain, htoken, hnode⟩ := htoken
  rw [htoken, hnode]
  refine ⟨⟨_, _, rfl, rfl⟩, fun {fuel} hfuel inBlock mayBeFlat tail => ?_⟩
  obtain ⟨fuel, rfl⟩ := Nat.exists_eq_add_of_le' (show 2 ≤ fuel from hfuel)
  exact composes_scalar text isPlain tail

/-- The items compose the members of a flow sequence if each composes a node. -/
lemma composes_joined_items (tail : List Token) : ∀ (items : List Tree) (isFirst : Bool),
    (∀ item ∈ items, ComposesNode item.tokens item.node) → ∀ {fuel : Nat},
    2 * (joined isFirst (items.map Tree.tokens)).length + 1 ≤ fuel →
    Composes (composeFlowItems fuel isFirst)
      (joined isFirst (items.map Tree.tokens) ++ [.flowSequenceEnd]) tail (items.map Tree.node)
  | [], isFirst, _, fuel, hfuel => by
    obtain ⟨fuel, rfl⟩ := Nat.exists_eq_add_of_le' hfuel
    exact composes_items_nil isFirst tail
  | item :: rest, isFirst, h, fuel, hfuel => by
    have hitem := h item (by simp)
    obtain ⟨t, ts, htokens, ht⟩ := hitem.starts
    obtain ⟨fuel, rfl⟩ := Nat.exists_eq_add_of_le' (Nat.le_trans (Nat.le_add_left 1 _) hfuel)
    simp only [List.map_cons, joined, htokens, List.length_append, List.length_cons] at hfuel
    have hnode := hitem.composes (show 2 * item.tokens.length ≤ fuel by
      rw [htokens, List.length_cons]; omega) false false
      (joined false (rest.map Tree.tokens) ++ [.flowSequenceEnd] ++ tail)
    have hrest := composes_joined_items tail rest false (fun i hi => h i (by simp [hi]))
      (show 2 * (joined false (rest.map Tree.tokens)).length + 1 ≤ fuel by omega)
    rw [htokens] at hnode
    have hitems := composes_items isFirst ht hnode hrest
    rw [List.map_cons, List.map_cons, joined, htokens, List.append_assoc, List.append_assoc]
    exact hitems

/-- The members compose the entries of a flow mapping if the value of each composes a node. -/
lemma composes_joined_members (tail : List Token) :
    ∀ (members : List (List Piece × Tree)) (isFirst : Bool),
    (∀ m ∈ members, ComposesNode m.2.tokens m.2.node) → ∀ {fuel : Nat},
    2 * (joined isFirst (Tree.tokensOfMembers members)).length + 1 ≤ fuel →
    Composes (composeFlowEntries fuel isFirst)
      (joined isFirst (Tree.tokensOfMembers members) ++ [.flowMappingEnd]) tail
      (Tree.nodesOfMembers members)
  | [], isFirst, _, fuel, hfuel => by
    obtain ⟨fuel, rfl⟩ := Nat.exists_eq_add_of_le' hfuel
    exact composes_entries_nil isFirst tail
  | (name, item) :: rest, isFirst, h, fuel, hfuel => by
    have hitem : ComposesNode item.tokens item.node := h (name, item) (by simp)
    obtain ⟨t, ts, htokens, ht⟩ := hitem.starts
    simp only [Tree.tokensOfMembers, joined, htokens, List.length_append, List.length_cons] at hfuel
    obtain ⟨fuel, rfl⟩ := Nat.exists_eq_add_of_le' (show 5 ≤ fuel by omega)
    have hnode := hitem.composes (show 2 * item.tokens.length ≤ fuel + 2 by
      rw [htokens, List.length_cons]; omega) false false
      (joined false (Tree.tokensOfMembers rest) ++ [.flowMappingEnd] ++ tail)
    have hrest := composes_joined_members tail rest false (fun i hi => h i (by simp [hi]))
      (show 2 * (joined false (Tree.tokensOfMembers rest)).length + 1 ≤ fuel + 4 by omega)
    rw [htokens] at hnode
    have hentries := composes_entries isFirst (textOf name) ht hnode hrest
    rw [Tree.tokensOfMembers, Tree.nodesOfMembers, joined, htokens, List.append_assoc,
      List.append_assoc]
    exact hentries

/-- The node of each item. -/
lemma Tree.nodesOfItems_eq (items : List Tree) : nodesOfItems items = items.map node := by
  induction items with
  | nil => rfl
  | cons item rest ih => rw [nodesOfItems, ih, List.map_cons]

mutual

/-- **The node of a tree.** The tokens of a tree compose its node. -/
theorem Tree.composes : (t : Tree) → ComposesNode t.tokens t.node
  | .atom a => by
    rw [Tree.tokens, Tree.node]
    exact composesNode_atom a
  | .array items => by
    rw [Tree.tokens, Tree.node, tokensOfItems_eq, nodesOfItems_eq, ← joined_true]
    refine ⟨⟨_, _, rfl, rfl⟩, fun {fuel} hfuel inBlock mayBeFlat tail => ?_⟩
    simp only [List.cons_append, List.length_append, List.length_cons] at hfuel
    obtain ⟨fuel, rfl⟩ := Nat.exists_eq_add_of_le' (show 2 ≤ fuel by omega)
    exact composes_sequence (composes_joined_items tail items true (Tree.composes_items items)
      (by omega))
  | .object members => by
    rw [Tree.tokens, Tree.node, ← joined_true]
    refine ⟨⟨_, _, rfl, rfl⟩, fun {fuel} hfuel inBlock mayBeFlat tail => ?_⟩
    simp only [List.cons_append, List.length_append, List.length_cons] at hfuel
    obtain ⟨fuel, rfl⟩ := Nat.exists_eq_add_of_le' (show 2 ≤ fuel by omega)
    exact composes_mapping (composes_joined_members tail members true
      (Tree.composes_members members) (by omega))

/-- The tokens of each item compose its node. -/
theorem Tree.composes_items : (items : List Tree) →
    ∀ item ∈ items, ComposesNode item.tokens item.node
  | [] => by simp
  | item :: rest => List.forall_mem_cons.mpr ⟨item.composes, Tree.composes_items rest⟩

/-- The tokens of each member's value compose its node. -/
theorem Tree.composes_members : (members : List (List Piece × Tree)) →
    ∀ m ∈ members, ComposesNode m.2.tokens m.2.node
  | [] => by simp
  | (_, item) :: rest => List.forall_mem_cons.mpr ⟨item.composes, Tree.composes_members rest⟩

end

/-! ### Values -/

/-- The value of a scalar is that of its text, unless its tag has none. -/
lemma value_scalar {tag : Tag} {text : String} {v : Value}
    (htag : tag ∈ [Tag.null, .bool, .int, .float, .str]) (h : scalarValue tag text = .ok v) :
    (Node.scalar tag text).meaning.value = .ok v := by
  have htext : textValue tag true (some text) = .ok v := by
    simp [textValue, h, Except.mapError]
  simp only [List.mem_cons, List.not_mem_nil, or_false] at htag
  rcases htag with rfl | rfl | rfl | rfl | rfl <;> exact htext

/-- The node of a portable atom stands for what the atom stands for. -/
lemma value_atom {a : Atom} (h : a.IsPortable) : a.node.meaning.value = .ok a.value := by
  cases a with
  | null => exact value_scalar (by decide) rfl
  | truth b => cases b <;> exact value_scalar (by decide) (by rfl)
  | string pieces => exact value_scalar (by decide) rfl
  | number n =>
    refine value_scalar ?_ (Number.scalarValue_suggested h)
    rw [show (Atom.number n).chars = n.chars from rfl, Number.suggested_chars h]
    split <;> decide

/-- The meaning of each node. -/
lemma meaningsOf_eq (ns : List Node) : meaningsOf ns = ns.map Node.meaning := by
  induction ns with
  | nil => rfl
  | cons n rest ih => rw [meaningsOf, ih, List.map_cons]

/-- A sequence stands for the values of its members. -/
lemma value_sequence {ns : List Node} {vs : List Value}
    (h : List.Forall₂ (fun n v => n.meaning.value = .ok v) ns vs) :
    (Node.sequence .seq ns).meaning.value = .ok (.list vs) := by
  have hall : Ranked.all ((meaningsOf ns).map Meaning.value) = .ok vs := by
    rw [meaningsOf_eq, List.map_map, Ranked.all_eq_ok_iff]
    exact List.forall₂_map_left_iff.mpr h
  show Ranked.deeper ((Ranked.all ((meaningsOf ns).map Meaning.value)).map Value.list) = _
  rw [hall]
  rfl

/-- The entry of a text that is no key of mappings to be merged. -/
lemma putEntry_eq_put (entries : Mapping) (name : String) (v : Value) :
    putEntry entries (.str name, v) = entries.put (.str name) v := by
  induction entries with
  | nil => rfl
  | cons first rest ih =>
    have hkey : isSameKey first.1 (.str name) = first.1.sameKey (.str name) := by
      cases first.1 <;> simp [isSameKey]
    rw [putEntry, Mapping.put, hkey, ih]

/-- The entries of a mapping whose keys are quoted scalars are all its own. -/
lemma flattened_of_texts {entries : List (Node × Node)} {pairs : List (Value × Value)}
    (h : List.Forall₂ (fun e p => ∃ name, e.1 = .scalar .str name ∧ p.1 = .str name ∧
      e.2.meaning.value = .ok p.2) entries pairs) :
    flattened (entryMeanings entries) = some (pairs.map fun p => (.ok p.1, .ok p.2)) := by
  have hown : (∀ e ∈ entryMeanings entries, e.1.tag = .str) ∧
      (entryMeanings entries).map (fun e => (keyValue e.1, e.2.value)) =
        pairs.map fun p => (.ok p.1, .ok p.2) := by
    induction h with
    | nil => exact ⟨by simp [entryMeanings], rfl⟩
    | @cons e p entries pairs hentry _ ih =>
      obtain ⟨key, n⟩ := e
      obtain ⟨name, rfl, hp, hn⟩ := hentry
      refine ⟨List.forall_mem_cons.mpr ⟨rfl, ih.1⟩, ?_⟩
      have hkey : keyValue (Node.scalar .str name).meaning = .ok p.1 := by rw [hp]; rfl
      simp only [entryMeanings, List.map_cons, ih.2, hkey, hn]
  obtain ⟨htags, hvalues⟩ := hown
  have hmerged : (entryMeanings entries).filter (fun e => e.1.tag == .merge) = [] :=
    List.filter_eq_nil_iff.mpr fun e he => by rw [htags e he]; decide
  have hothers : (entryMeanings entries).filter (fun e => e.1.tag != .merge) =
      entryMeanings entries :=
    List.filter_eq_self.mpr fun e he => by rw [htags e he]; decide
  unfold flattened
  rw [hmerged, hothers, hvalues]
  rfl

/-- A mapping whose keys are quoted scalars stands for their texts with the values under them. -/
lemma value_mapping {entries : List (Node × Node)} {pairs : List (Value × Value)}
    (h : List.Forall₂ (fun e p => ∃ name, e.1 = .scalar .str name ∧ p.1 = .str name ∧
      e.2.meaning.value = .ok p.2) entries pairs) :
    (Node.mapping .map entries).meaning.value = .ok (.map (Mapping.ofEntries pairs)) := by
  have hflattened := flattened_of_texts h
  have hnames : ∀ p ∈ pairs, ∃ name, p.1 = .str name := by
    clear hflattened
    induction h with
    | nil => simp
    | cons hentry _ ih =>
      obtain ⟨name, -, hname, -⟩ := hentry
      exact List.forall_mem_cons.mpr ⟨⟨name, hname⟩, ih⟩
  have hall : Ranked.all ((pairs.map fun p => ((.ok p.1, .ok p.2) : Document.Entry)).map
      fun entry => Ranked.both (checkedKey entry.1) entry.2) = .ok pairs := by
    rw [List.map_map, Ranked.all_eq_ok_iff, List.forall₂_map_left_iff, List.forall₂_same]
    intro p hp
    obtain ⟨key, v⟩ := p
    obtain ⟨name, rfl⟩ := hnames _ hp
    rfl
  have hput : pairs.foldl putEntry [] = Mapping.ofEntries pairs :=
    List.foldl_ext _ _ _ fun entries p hp => by
      obtain ⟨key, v⟩ := p
      obtain ⟨name, rfl⟩ := hnames _ hp
      exact putEntry_eq_put entries name v
  rw [Node.meaning]
  unfold mappingMeaning
  dsimp only
  rw [hflattened]
  show Ranked.deeper ((mappingOf _).map Value.map) = _
  rw [mappingOf, hall, ← hput]
  rfl

/-- What is in a part is among the parts with separators between them. -/
lemma mem_separated {α : Type} {x separator : α} {part : List α} {parts : List (List α)}
    (hpart : part ∈ parts) (hx : x ∈ part) : x ∈ separated separator parts := by
  cases parts with
  | nil => cases hpart
  | cons first rest =>
    rcases List.mem_cons.mp hpart with rfl | hpart
    · exact List.mem_append_left _ hx
    · exact List.mem_append_right _
        (List.mem_flatMap.mpr ⟨part, hpart, List.mem_cons_of_mem _ hx⟩)

mutual

/-- **The value of a tree.** The node of a tree whose atoms are portable stands for what the tree
stands for. -/
theorem Tree.value_meaning : (t : Tree) →
    (∀ a, Lexeme.atom a ∈ t.lexemes → a.IsPortable) → t.node.meaning.value = .ok t.value
  | .atom a => fun h => by
    rw [Tree.node, Tree.value]
    exact value_atom (h a (by simp [Tree.lexemes]))
  | .array items => fun h => by
    rw [Tree.node, Tree.value]
    refine value_sequence (Tree.values_meaning items fun item hitem a ha => h a ?_)
    rw [lexemes, lexemesOfItems_eq]
    exact List.mem_append_left _ (List.mem_cons_of_mem _
      (mem_separated (List.mem_map_of_mem hitem) ha))
  | .object members => fun h => by
    rw [Tree.node, Tree.value]
    refine value_mapping (Tree.entries_meaning members fun m hm a ha => h a ?_)
    rw [lexemes, lexemesOfMembers_eq]
    exact List.mem_append_left _ (List.mem_cons_of_mem _
      (mem_separated (List.mem_map_of_mem hm) (List.mem_cons_of_mem _ (List.mem_cons_of_mem _ ha))))

/-- The nodes of items stand for what the items stand for. -/
theorem Tree.values_meaning : (items : List Tree) →
    (∀ item ∈ items, ∀ a, Lexeme.atom a ∈ item.lexemes → a.IsPortable) →
      List.Forall₂ (fun n v => n.meaning.value = .ok v) (Tree.nodesOfItems items)
        (Tree.valuesOfItems items)
  | [] => fun _ => .nil
  | item :: rest => fun h => by
    obtain ⟨hitem, hrest⟩ := List.forall_mem_cons.mp h
    exact .cons (item.value_meaning hitem) (Tree.values_meaning rest hrest)

/-- The names and nodes of members stand for their names and what the members stand for. -/
theorem Tree.entries_meaning : (members : List (List Piece × Tree)) →
    (∀ m ∈ members, ∀ a, Lexeme.atom a ∈ m.2.lexemes → a.IsPortable) →
      List.Forall₂ (fun e p => ∃ name, e.1 = .scalar .str name ∧ p.1 = .str name ∧
        e.2.meaning.value = .ok p.2) (Tree.nodesOfMembers members) (Tree.valuesOfMembers members)
  | [] => fun _ => .nil
  | (name, item) :: rest => fun h => by
    obtain ⟨hitem, hrest⟩ := List.forall_mem_cons.mp h
    exact .cons ⟨textOf name, rfl, rfl, item.value_meaning hitem⟩ (Tree.entries_meaning rest hrest)

end

end RunnerAtlas.Json
