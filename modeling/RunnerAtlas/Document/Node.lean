import RunnerAtlas.Document.Scanner
import RunnerAtlas.Document.Tag

/-!
# Nodes of a document

The tokens of a document make up one tree of scalars, sequences and mappings. A reference to an
anchor stands for the whole node that has it.

## Main definitions

* `RunnerAtlas.Document.Node` — the trees.
* `RunnerAtlas.Document.Composer`, `RunnerAtlas.Document.Compose` — reading tokens.
* `RunnerAtlas.Document.composeNode` — one node.
* `RunnerAtlas.Document.compose` — the node of a whole document, if it has one.
-/

set_option autoImplicit false

namespace RunnerAtlas.Document

/-- The trees. -/
inductive Node where
  /-- A text. -/
  | scalar (tag : Tag) (text : String)
  /-- Nodes in order. -/
  | sequence (tag : Tag) (items : List Node)
  /-- Nodes under nodes, in order. -/
  | mapping (tag : Tag) (entries : List (Node × Node))

instance : Inhabited Node := ⟨.scalar .null ""⟩

/-- The scalar where nothing is written. -/
def Node.nothing : Node := .scalar .null ""

/-- The state of reading tokens. -/
structure Composer where
  /-- The tokens to come. -/
  tokens : List Token
  /-- The fault that ends the tokens, if one does. -/
  fault : Option Fault
  /-- The handles of tags and what they stand for. -/
  handles : List (String × String)
  /-- The anchors and their nodes, as far as these are complete. -/
  anchors : List (String × Option Node)

/-- Reading tokens, with possible failure. -/
abbrev Compose := StateT Composer (Except Fault)

/-- Refuses the document. -/
def reject {α : Type} : Compose α := throw .malformed

/-- The next token, which stays there; none at the end. -/
def peekToken : Compose (Option Token) := do
  let c ← get
  match c.tokens, c.fault with
  | t :: _, _ => pure (some t)
  | [], none => pure none
  | [], some fault => throw fault

/-- Drops the next token. -/
def dropToken : Compose Unit := modify fun c => { c with tokens := c.tokens.tail }

/-- Whether the next token is one of a list. -/
def nextIs (ts : List Token) : Compose Bool := do
  return (← peekToken).any ts.contains

/-- Drops the next token if it is the given one. -/
def acceptToken (t : Token) : Compose Bool := do
  if (← peekToken) = some t then
    dropToken
    pure true
  else pure false

/-- The properties of a node: its anchor, and its tag as handle and suffix. -/
structure Properties where
  /-- The anchor. -/
  anchor : Option String
  /-- The tag. -/
  tag : Option (Option String × String)

/-- The anchor before a node, if there is one. -/
def takeAnchor : Compose (Option String) := do
  match ← peekToken with
  | some (.anchor name) =>
    dropToken
    pure (some name)
  | _ => pure none

/-- The tag before a node, if there is one. -/
def takeTag : Compose (Option (Option String × String)) := do
  match ← peekToken with
  | some (.tag handle suffix) =>
    dropToken
    pure (some (handle, suffix))
  | _ => pure none

/-- The properties before a node, in any order. -/
def takeProperties : Compose Properties := do
  match ← takeAnchor with
  | some name => return ⟨some name, ← takeTag⟩
  | none =>
    match ← takeTag with
    | some tag => return ⟨← takeAnchor, some tag⟩
    | none => pure ⟨none, none⟩

/-- The text of a tag. A tag without handle is its suffix. -/
def tagText (tag : Option String × String) : Compose String := do
  match tag with
  | (none, suffix) => pure suffix
  | (some handle, suffix) =>
    match (← get).handles.lookup handle with
    | some start => pure (start ++ suffix)
    | none => reject

/-- The tag of a node that is a collection or has no form of its own: the one given, or else a
default. The tag of one exclamation mark leaves the choice open. -/
def tagOr (text? : Option String) (default : Tag) : Tag :=
  match text? with
  | none => default
  | some text => if text = "!" then default else .ofText text

/-- The tag of a scalar. If the choice is left open the text of a plain scalar suggests it. -/
def scalarTag (text? : Option String) (text : String) (isPlain : Bool) : Tag :=
  let suggested := Tag.suggested text.toList
  match text? with
  | none => if isPlain then suggested else .str
  | some "!" => suggested
  | some tag => .ofText tag

/-- Begins the node of an anchor, which no other node may have. -/
def beginAnchor (anchor : Option String) : Compose Unit := do
  match anchor with
  | none => pure ()
  | some name =>
    if ((← get).anchors.lookup name).isSome then reject
    else modify fun c => { c with anchors := (name, none) :: c.anchors }

/-- Ends the node of an anchor. -/
def endAnchor (anchor : Option String) (n : Node) : Compose Unit := do
  match anchor with
  | none => pure ()
  | some name =>
    modify fun c => { c with anchors := (name, some n) :: c.anchors.filter fun a => a.1 != name }

/-- The node of an anchor. Inside the anchored node itself the name is refused: what it would name
there is a node that holds itself, which no finite tree is. -/
def anchored (name : String) : Compose Node := do
  match (← get).anchors.lookup name with
  | some (some n) => pure n
  | _ => reject

/-- The tokens that follow a key or value that is not written in a block mapping. -/
def blockEnds : List Token := [.key, .value, .blockEnd]

mutual

/-- One node. In a block it may be a block collection, and a sequence under a key need not be
indented. That its anchor is free is asked only after its content has begun. -/
def composeNode : Nat → Bool → Bool → Compose Node
  | 0, _, _ => reject
  | fuel + 1, inBlock, mayBeFlat => do
    match ← peekToken with
    | some (.alias name) =>
      dropToken
      anchored name
    | _ =>
      let properties ← takeProperties
      let text? ← properties.tag.mapM tagText
      let _ ← peekToken
      beginAnchor properties.anchor
      let isNamed := properties.anchor.isSome || properties.tag.isSome
      let n ← composeContent fuel inBlock mayBeFlat isNamed text?
      endAnchor properties.anchor n
      pure n

/-- The content of a node after its properties, which may stand alone. -/
def composeContent : Nat → Bool → Bool → Bool → Option String → Compose Node
  | 0, _, _, _, _ => reject
  | fuel + 1, inBlock, mayBeFlat, isNamed, text? => do
    match ← peekToken, inBlock with
    | some (.scalar text isPlain), _ =>
      dropToken
      pure (.scalar (scalarTag text? text isPlain) text)
    | some .flowSequence, _ =>
      dropToken
      return .sequence (tagOr text? .seq) (← composeFlowItems fuel true)
    | some .flowMapping, _ =>
      dropToken
      return .mapping (tagOr text? .map) (← composeFlowEntries fuel true)
    | some .blockSequence, true =>
      dropToken
      return .sequence (tagOr text? .seq) (← composeBlockItems fuel)
    | some .blockMapping, true =>
      dropToken
      return .mapping (tagOr text? .map) (← composeBlockEntries fuel)
    | t, _ =>
      if t = some .blockEntry ∧ mayBeFlat then
        return .sequence (tagOr text? .seq) (← composeFlatItems fuel)
      else if isNamed then pure (.scalar (scalarTag text? "" (text?.isNone)) "")
      else reject

/-- The members of a block sequence, up to its end. -/
def composeBlockItems : Nat → Compose (List Node)
  | 0 => reject
  | fuel + 1 => do
    if ← acceptToken .blockEntry then
      let n ←
        if ← nextIs [.blockEntry, .blockEnd] then pure .nothing
        else composeNode fuel true false
      return n :: (← composeBlockItems fuel)
    else if ← acceptToken .blockEnd then pure []
    else reject

/-- The members of a block sequence that is not indented, up to what is none. -/
def composeFlatItems : Nat → Compose (List Node)
  | 0 => reject
  | fuel + 1 => do
    if ← acceptToken .blockEntry then
      let n ←
        if ← nextIs (.blockEntry :: blockEnds) then pure .nothing
        else composeNode fuel true false
      return n :: (← composeFlatItems fuel)
    else pure []

/-- A key or value of a block mapping, which may be missing. -/
def composeBlockPart : Nat → Compose Node
  | 0 => reject
  | fuel + 1 => do
    if ← nextIs blockEnds then pure .nothing else composeNode fuel true true

/-- The entries of a block mapping, up to its end. -/
def composeBlockEntries : Nat → Compose (List (Node × Node))
  | 0 => reject
  | fuel + 1 => do
    if ← acceptToken .key then
      let key ← composeBlockPart fuel
      let value ← if ← acceptToken .value then composeBlockPart fuel else pure .nothing
      return (key, value) :: (← composeBlockEntries fuel)
    else if ← acceptToken .blockEnd then pure []
    else reject

/-- A key or value of a flow collection with the given end, which may be missing. -/
def composeFlowPart : Nat → List Token → Compose Node
  | 0, _ => reject
  | fuel + 1, ends => do
    if ← nextIs ends then pure .nothing else composeNode fuel false false

/-- A key and its value in a flow collection with the given end, after the mark of the key. -/
def composeFlowPair : Nat → Token → Compose (Node × Node)
  | 0, _ => reject
  | fuel + 1, last => do
    let key ← composeFlowPart fuel [.value, .flowEntry, last]
    let value ←
      if ← acceptToken .value then composeFlowPart fuel [.flowEntry, last] else pure .nothing
    pure (key, value)

/-- The members of a flow sequence, up to its end. A key with its value is a mapping of one
entry. -/
def composeFlowItems : Nat → Bool → Compose (List Node)
  | 0, _ => reject
  | fuel + 1, isFirst => do
    if ← acceptToken .flowSequenceEnd then pure []
    else
      if !isFirst then
        if !(← acceptToken .flowEntry) then reject
      if ← acceptToken .key then
        let pair ← composeFlowPair fuel .flowSequenceEnd
        return .mapping .map [pair] :: (← composeFlowItems fuel false)
      else if ← acceptToken .flowSequenceEnd then pure []
      else
        let n ← composeNode fuel false false
        return n :: (← composeFlowItems fuel false)

/-- The entries of a flow mapping, up to its end. A node without the mark of a key is one without
a value. -/
def composeFlowEntries : Nat → Bool → Compose (List (Node × Node))
  | 0, _ => reject
  | fuel + 1, isFirst => do
    if ← acceptToken .flowMappingEnd then pure []
    else
      if !isFirst then
        if !(← acceptToken .flowEntry) then reject
      if ← acceptToken .key then
        let pair ← composeFlowPair fuel .flowMappingEnd
        return pair :: (← composeFlowEntries fuel false)
      else if ← acceptToken .flowMappingEnd then pure []
      else
        let n ← composeNode fuel false false
        return (n, .nothing) :: (← composeFlowEntries fuel false)

end

/-- The handles of tags that every document has. -/
def standardHandles : List (String × String) := [("!", "!"), ("!!", Tag.start)]

/-- The directives before a document, with the version and the handles they declare, neither of
them twice. -/
def composeDirectives : Nat → Bool → List (String × String) → Compose (List (String × String))
  | 0, _, _ => reject
  | fuel + 1, hasVersion, handles => do
    match ← peekToken with
    | some (.version major) =>
      dropToken
      if hasVersion ∨ major ≠ 1 then reject else composeDirectives fuel true handles
    | some (.tagHandle handle start) =>
      dropToken
      if (handles.lookup handle).isSome then reject
      else composeDirectives fuel hasVersion ((handle, start) :: handles)
    | some .directive =>
      dropToken
      composeDirectives fuel hasVersion handles
    | _ => pure handles

/-- Skips the marks of a document's end. -/
def skipEnds : Nat → Compose Unit
  | 0 => pure ()
  | fuel + 1 => do
    if ← acceptToken .documentEnd then skipEnds fuel

/-- Whether the next token cannot begin the node of a document. -/
def atDocumentEnd : Compose Bool := do
  match ← peekToken with
  | none => pure true
  | some .documentStart => pure true
  | some .documentEnd => pure true
  | some .directive => pure true
  | some (.version _) => pure true
  | some (.tagHandle _ _) => pure true
  | _ => pure false

/-- The node of a document after its mark, or that of one without a mark. -/
def composeRoot (fuel : Nat) : Compose Node := do
  match ← peekToken with
  | some .documentEnd => composeNode fuel true false
  | _ =>
    if ← atDocumentEnd then
      let handles ← composeDirectives fuel false []
      modify fun c => { c with handles := handles ++ standardHandles }
      if ← acceptToken .documentStart then
        if ← atDocumentEnd then pure .nothing else composeNode fuel true false
      else reject
    else composeNode fuel true false

/-- The only document of a text, if it has one. A second one is refused once the directives before
it are read. -/
def composeDocument (fuel : Nat) : Compose (Option Node) := do
  if (← peekToken) = none then pure none
  else
    let n ← composeRoot fuel
    skipEnds fuel
    if (← peekToken) = none then pure (some n)
    else
      let _ ← composeDirectives fuel false []
      reject

/-- The node of the only document of a text, if it has one. -/
def compose (cs : List Char) : Except Fault (Option Node) :=
  let (ts, fault) := tokens cs
  let start : Composer := ⟨ts, fault, standardHandles, []⟩
  ((composeDocument (6 * ts.length + 8)).run start).map Prod.fst

end RunnerAtlas.Document
