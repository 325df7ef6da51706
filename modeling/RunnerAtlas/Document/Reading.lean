import RunnerAtlas.Document.Node
import RunnerAtlas.Document.Scalar
import RunnerAtlas.Text.Lines
import RunnerAtlas.Value.Mapping

/-!
# Reading a document

The nodes of a document stand for values. Collections are filled level by level: of several faults
the one on the outermost level counts, and on one level the first one.

## Main definitions

* `RunnerAtlas.Document.Ranked` — an outcome whose fault has a level.
* `RunnerAtlas.Document.Meaning` — what a node stands for wherever it may stand.
* `RunnerAtlas.Document.Node.meaning` — the meaning of a node.
* `RunnerAtlas.Document.readText`, `RunnerAtlas.Document.read` — the value of a document.
-/

set_option autoImplicit false

namespace RunnerAtlas.Document

open RunnerAtlas.Text

/-- An outcome whose fault has a level, zero being the outermost one. -/
abbrev Ranked (α : Type) := Except (Nat × Fault) α

namespace Ranked

variable {α β : Type}

/-- The form of a node is wrong. -/
def malformed : Ranked α := .error (0, .malformed)

/-- Two outcomes in order. Of two faults the one on the outer level counts. -/
def both (x : Ranked α) (y : Ranked β) : Ranked (α × β) :=
  match x, y with
  | .ok a, .ok b => .ok (a, b)
  | .ok _, .error f => .error f
  | .error f, .ok _ => .error f
  | .error f, .error g => .error (if f.1 ≤ g.1 then f else g)

/-- Outcomes in order. -/
def all : List (Ranked α) → Ranked (List α)
  | [] => .ok []
  | x :: rest => (both x (all rest)).map fun result => result.1 :: result.2

/-- An outcome one level further in. -/
def deeper (x : Ranked α) : Ranked α := x.mapError fun f => (f.1 + 1, f.2)

end Ranked

/-- A key with its value. -/
abbrev Entry := Ranked Value × Ranked Value

/-- What a node stands for wherever it may stand. -/
structure Meaning where
  /-- Its tag. -/
  tag : Tag
  /-- Its value. -/
  value : Ranked Value
  /-- Its text where a scalar is needed. -/
  text : Option String
  /-- Its entries where a mapping is needed. -/
  entries : Option (List Entry)
  /-- The entries that it contributes under the key of mappings to be merged. -/
  merged : Option (List Entry)
  /-- Its key and value as they are written, if it is a mapping of one entry. -/
  pair : Option (Ranked (Value × Value))

/-- Whether a value may be a key. -/
def isKey : Value → Bool
  | .list _ => false
  | .set _ => false
  | .map _ => false
  | _ => true

/-- A key, which is no list, set or mapping. -/
def checkedKey (x : Ranked Value) : Ranked Value :=
  match x with
  | .ok v => if isKey v then .ok v else .malformed
  | .error (0, f) => .error (0, f)
  | .error _ => .malformed

/-- Whether two values are one key of a document's mapping. There is one not-a-number. -/
def isSameKey (v w : Value) : Bool :=
  match v, w with
  | .float .nan, .float .nan => true
  | v, w => v.sameKey w

/-- An entry written into a mapping. -/
def putEntry : Mapping → Value × Value → Mapping
  | [], entry => [entry]
  | first :: rest, entry =>
    if isSameKey first.1 entry.1 then (first.1, entry.2) :: rest
    else first :: putEntry rest entry

/-- The mapping of entries. -/
def mappingOf (entries : List Entry) : Ranked Mapping :=
  (Ranked.all (entries.map fun entry => Ranked.both (checkedKey entry.1) entry.2)).map
    fun entries => entries.foldl putEntry []

/-- What a key stands for in a mapping. The key of the value that a mapping stands for is a text
there. -/
def keyValue (key : Meaning) : Ranked Value :=
  if key.tag = .value then
    match key.text with
    | some s => .ok (.str s)
    | none => .malformed
  else key.value

/-- The entries of a mapping: first those that are merged into it, then its own. -/
def flattened (entries : List (Meaning × Meaning)) : Option (List Entry) := do
  let merged ← (entries.filter fun entry => entry.1.tag == .merge).mapM fun entry => entry.2.merged
  let own := (entries.filter fun entry => entry.1.tag != .merge).map fun entry =>
    (keyValue entry.1, entry.2.value)
  pure (merged.flatten ++ own)

/-- The value of a scalar's text, if there is one. A moment needs a scalar of its own. -/
def textValue (tag : Tag) (isScalar : Bool) (text : Option String) : Ranked Value :=
  match text with
  | none => .malformed
  | some s =>
    if tag = .timestamp ∧ !isScalar then .error (0, .scalar .momentNoText)
    else (scalarValue tag s).mapError fun f => (0, f)

/-- The value of a sequence of mappings of one entry each. -/
def pairsOf (items : List Meaning) : Ranked Value :=
  (Ranked.all (items.map fun item =>
    match item.pair with
    | some pair => pair.map fun pair => Value.tuple [pair.1, pair.2]
    | none => .malformed)).map .list

/-- The value of a node under its tag, from its text, its members and its entries. -/
def nodeValue (tag : Tag) (isScalar : Bool) (text : Option String) (items : Option (List Meaning))
    (entries : Option (List Entry)) : Ranked Value :=
  match tag with
  | .seq =>
    Ranked.deeper <| match items with
      | some items => (Ranked.all (items.map Meaning.value)).map .list
      | none => .malformed
  | .pairs =>
    Ranked.deeper <| match items with
      | some items => pairsOf items
      | none => .malformed
  | .map =>
    Ranked.deeper <| match entries with
      | some entries => (mappingOf entries).map .map
      | none => .malformed
  | .set =>
    Ranked.deeper <| match entries with
      | some entries => (mappingOf entries).map fun mapping => .set (mapping.map (·.1))
      | none => .malformed
  | .merge => .malformed
  | .value => .malformed
  | .unknown => .malformed
  | tag => textValue tag isScalar text

/-- The meaning of a scalar. -/
def scalarMeaning (tag : Tag) (text : String) : Meaning :=
  ⟨tag, nodeValue tag true (some text) none none, some text, none, none, none⟩

/-- The meaning of a sequence. Under the key of mappings to be merged, the entries of its last
member come first. -/
def sequenceMeaning (tag : Tag) (items : List Meaning) : Meaning :=
  let merged := (items.mapM Meaning.entries).map fun groups => groups.reverse.flatten
  ⟨tag, nodeValue tag false none (some items) none, none, none, merged, none⟩

/-- The meaning of a mapping. -/
def mappingMeaning (tag : Tag) (parts : List (Meaning × Meaning)) : Meaning :=
  let text := (parts.find? fun part => part.1.tag == .value).bind fun part => part.2.text
  let entries := flattened parts
  let pair := match parts with
    | [part] => some (Ranked.both part.1.value part.2.value)
    | _ => none
  ⟨tag, nodeValue tag false text none entries, text, entries, entries, pair⟩

mutual

/-- The meaning of a node. -/
def Node.meaning : Node → Meaning
  | .scalar tag text => scalarMeaning tag text
  | .sequence tag items => sequenceMeaning tag (meaningsOf items)
  | .mapping tag entries => mappingMeaning tag (entryMeanings entries)

/-- The meanings of nodes. -/
def meaningsOf : List Node → List Meaning
  | [] => []
  | n :: rest => n.meaning :: meaningsOf rest

/-- The meanings of keys and values. -/
def entryMeanings : List (Node × Node) → List (Meaning × Meaning)
  | [] => []
  | (key, value) :: rest => (key.meaning, value.meaning) :: entryMeanings rest

end

/-- The value of the text of a document; a text without document has the absent value. -/
def readText (cs : List Char) : Except Fault Value :=
  if cs.all isAllowed then do
    match ← compose cs with
    | none => pure .null
    | some n => n.meaning.value.mapError Prod.snd
  else .error .malformed

/-- The value of the octets of a document. -/
def read (octets : List UInt8) : Except Fault Value :=
  match Utf8.decode? octets with
  | some cs => readText (Lines.normalise cs)
  | none => .error .undecodable

end RunnerAtlas.Document
