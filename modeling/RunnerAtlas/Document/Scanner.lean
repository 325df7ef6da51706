import RunnerAtlas.Document.Token

/-!
# Scanning a document

The tokens of a document are produced from left to right. That a node is a key shows only at the
colon after it: until then it is kept as a candidate, and the token that starts the key is put in
front of it afterwards. A key of this kind lies on one line and within 1024 characters.

## Main definitions

* `RunnerAtlas.Document.Candidate` — a node that may turn out to be a key.
* `RunnerAtlas.Document.Scanner` — the state of scanning.
* `RunnerAtlas.Document.Scanner.step` — one more token.
* `RunnerAtlas.Document.tokens` — the tokens of a text and the fault that ends them, if one does.
-/

set_option autoImplicit false

namespace RunnerAtlas.Document

/-- A node that may turn out to be a key. -/
structure Candidate where
  /-- The number of tokens before it. -/
  number : Nat
  /-- Whether nothing but a key can stand there. -/
  isRequired : Bool
  /-- The number of characters before it. -/
  index : Nat
  /-- Its line. -/
  line : Nat
  /-- Its column. -/
  column : Nat

/-- The state of scanning. -/
structure Scanner where
  /-- The characters to come. -/
  feed : Feed
  /-- The tokens so far, latest first. -/
  tokens : List Token
  /-- How many flow collections are open. -/
  depth : Nat
  /-- The indentation of the innermost block collection; minus one outside all. -/
  indent : Int
  /-- The indentations of the block collections around it, innermost first. -/
  outer : List Int
  /-- Whether a key may start here. -/
  allowsKey : Bool
  /-- The candidates, each with the number of flow collections around it. -/
  candidates : List (Nat × Candidate)

namespace Scanner

/-- The state before the first character. -/
def start (cs : List Char) : Scanner := ⟨.ofText cs, [], 0, -1, [], true, []⟩

/-- Whether a flow collection is open. -/
def inFlow (s : Scanner) : Bool := decide (0 < s.depth)

/-- One more token. -/
def push (s : Scanner) (t : Token) : Scanner := { s with tokens := t :: s.tokens }

/-- A token put before the tokens from a number on. -/
def insert (s : Scanner) (number : Nat) (t : Token) : Scanner :=
  let after := s.tokens.length - number
  { s with tokens := s.tokens.take after ++ t :: s.tokens.drop after }

/-- The greatest distance between the start of a key and the colon after it. -/
def maxKeyLength : Nat := 1024

/-- Whether a candidate is on an earlier line or too far back. -/
def isStale (s : Scanner) (c : Candidate) : Bool :=
  c.line != s.feed.line || decide (maxKeyLength < s.feed.index - c.index)

/-- Drops the candidates that are stale. -/
def dropStale (s : Scanner) : Except Fault Scanner :=
  if s.candidates.any fun c => s.isStale c.2 && c.2.isRequired then .error .malformed
  else .ok { s with candidates := s.candidates.filter fun c => !s.isStale c.2 }

/-- The number of tokens before the first one that may still turn out to start a key. -/
def settled (s : Scanner) : Nat :=
  (s.candidates.filter fun c => !s.isStale c.2).foldl (fun n c => min n c.2.number)
    s.tokens.length

/-- Drops the candidate of the current flow collection. -/
def dropCandidate (s : Scanner) : Except Fault Scanner :=
  if s.candidates.any fun c => c.1 == s.depth && c.2.isRequired then .error .malformed
  else .ok { s with candidates := s.candidates.filter fun c => c.1 != s.depth }

/-- Makes what is next a candidate, if a key may start here. -/
def addCandidate (s : Scanner) : Except Fault Scanner :=
  if s.allowsKey then do
    let isRequired := !s.inFlow && s.indent == s.feed.column
    let s ← s.dropCandidate
    let candidate := ⟨s.tokens.length, isRequired, s.feed.index, s.feed.line, s.feed.column⟩
    .ok { s with candidates := (s.depth, candidate) :: s.candidates }
  else .ok s

/-- Ends the block collections that are indented more than a column. -/
def unwindFrom (column : Int) : List Int → Scanner → Scanner
  | [], s => s
  | indent :: outer, s =>
    if column < s.indent then
      unwindFrom column outer { s.push .blockEnd with indent := indent, outer := outer }
    else s

/-- Ends the block collections that are indented more than a column, unless a flow collection is
open. -/
def unwind (s : Scanner) (column : Int) : Scanner :=
  if s.inFlow then s else unwindFrom column s.outer s

/-- Begins a block collection at a column that is indented more than the innermost one: the token
is put before the tokens from a number on. -/
def begin (s : Scanner) (column : Nat) (number : Nat) (t : Token) : Scanner :=
  if s.indent < column then
    { s.insert number t with indent := column, outer := s.indent :: s.outer }
  else s

/-- Runs a scan of the characters to come. -/
def scan {α : Type} (s : Scanner) (x : Scan α) : Except Fault (α × Scanner) :=
  (x.run s.feed).map fun result => (result.1, { s with feed := result.2 })

/-- Skips characters. -/
def skip (s : Scanner) (n : Nat) : Scanner := { s with feed := s.feed.advanceBy n }

/-- Skips spaces, comments and ends of lines. A new line outside flow collections may start with a
key. -/
def skipBlanks : Nat → Scanner → Scanner
  | 0, s => s
  | fuel + 1, s =>
    let spaces := (s.feed.rest.takeWhile (· == ' ')).length
    let s := s.skip spaces
    let comment :=
      if s.feed.at? 0 = some '#' then (s.feed.rest.takeWhile fun c => !isBreak c).length else 0
    let s := s.skip comment
    if (s.feed.at? 0).any isBreak then
      skipBlanks fuel { s.skip 1 with allowsKey := s.allowsKey || !s.inFlow }
    else s

/-- Skips what stands before the next token. A byte order mark may start the text. -/
def skipToToken (s : Scanner) : Scanner :=
  let s := if s.feed.index = 0 ∧ s.feed.at? 0 = some '\ufeff' then s.skip 1 else s
  skipBlanks (s.feed.rest.length + 1) s

/-- Ends all block collections and forgets the candidates: what is next stands outside. -/
def leaveBlocks (s : Scanner) : Except Fault Scanner := do
  let s ← (s.unwind (-1)).dropCandidate
  pure { s with allowsKey := false }

/-- A directive. -/
def directive (s : Scanner) : Except Fault Scanner := do
  let (t, s) ← (← s.leaveBlocks).scan scanDirective
  pure (s.push t)

/-- The mark of a document's start or end. -/
def mark (s : Scanner) (t : Token) : Except Fault Scanner := do
  let s ← s.leaveBlocks
  pure ((s.skip 3).push t)

/-- The start of a flow collection, which may be a key. -/
def openFlow (s : Scanner) (t : Token) : Except Fault Scanner := do
  let s ← s.addCandidate
  pure ({ s with depth := s.depth + 1, allowsKey := true }.skip 1 |>.push t)

/-- The end of a flow collection. -/
def closeFlow (s : Scanner) (t : Token) : Except Fault Scanner := do
  let s ← s.dropCandidate
  pure ({ s with depth := s.depth - 1, allowsKey := false }.skip 1 |>.push t)

/-- The separator of a flow collection. -/
def flowEntry (s : Scanner) : Except Fault Scanner := do
  let s ← { s with allowsKey := true }.dropCandidate
  pure ((s.skip 1).push .flowEntry)

/-- The start of a member of a block sequence, which may start the sequence. -/
def blockEntry (s : Scanner) : Except Fault Scanner := do
  if !s.inFlow && !s.allowsKey then throw .malformed
  let s := if s.inFlow then s else s.begin s.feed.column s.tokens.length .blockSequence
  let s ← { s with allowsKey := true }.dropCandidate
  pure ((s.skip 1).push .blockEntry)

/-- The mark of a key, which may start a block mapping. -/
def key (s : Scanner) : Except Fault Scanner := do
  if !s.inFlow && !s.allowsKey then throw .malformed
  let s := if s.inFlow then s else s.begin s.feed.column s.tokens.length .blockMapping
  let s ← { s with allowsKey := !s.inFlow }.dropCandidate
  pure ((s.skip 1).push .key)

/-- The mark of a value. If there is a candidate it is the key; otherwise the key is empty or had
a mark of its own. -/
def value (s : Scanner) : Except Fault Scanner := do
  let s ← match s.candidates.lookup s.depth with
    | some c =>
      let s := { s with candidates := s.candidates.filter fun c => c.1 != s.depth }
      let s := s.insert c.number .key
      let s := if s.inFlow then s else s.begin c.column c.number .blockMapping
      pure { s with allowsKey := false }
    | none =>
      if !s.inFlow && !s.allowsKey then throw .malformed
      let s := if s.inFlow then s else s.begin s.feed.column s.tokens.length .blockMapping
      { s with allowsKey := !s.inFlow }.dropCandidate
  pure ((s.skip 1).push .value)

/-- A token of a node, which may be a key. -/
def nodeToken (s : Scanner) (x : Scan Token) : Except Fault Scanner := do
  let s ← s.addCandidate
  let (t, s) ← { s with allowsKey := false }.scan x
  pure (s.push t)

/-- A block scalar, after which a key may start. -/
def block (s : Scanner) (isFolded : Bool) : Except Fault Scanner := do
  let s ← { s with allowsKey := true }.dropCandidate
  let (text, s) ← s.scan (blockScalar isFolded s.indent)
  pure (s.push (.scalar text false))

/-- A quoted scalar. -/
def quoted (s : Scanner) (double : Bool) : Except Fault Scanner :=
  s.nodeToken do
    return .scalar (← quotedScalar double) false

/-- A plain scalar. A key may start after it if a new line follows. -/
def plain (s : Scanner) : Except Fault Scanner := do
  let s ← s.addCandidate
  let ((text, newLine), s) ← s.scan (plainScalar s.inFlow s.indent)
  pure ({ s with allowsKey := newLine }.push (.scalar text true))

/-- Whether three equal characters start a line and are followed by a blank. -/
def isMark (s : Scanner) (c : Char) : Bool :=
  s.feed.column == 0 && s.feed.rest.take 3 == [c, c, c] && endsWord (s.feed.at? 3)

/-- The token that starts with a character. -/
def tokenAt (s : Scanner) (c : Char) : Except Fault Scanner :=
  let next := s.feed.at? 1
  if c = '%' ∧ s.feed.column = 0 then s.directive
  else if s.isMark '-' then s.mark .documentStart
  else if s.isMark '.' then s.mark .documentEnd
  else if c = '[' then s.openFlow .flowSequence
  else if c = '\x7b' then s.openFlow .flowMapping
  else if c = ']' then s.closeFlow .flowSequenceEnd
  else if c = '\x7d' then s.closeFlow .flowMappingEnd
  else if c = ',' then s.flowEntry
  else if c = '-' ∧ endsWord next then s.blockEntry
  else if c = '?' ∧ (s.inFlow ∨ endsWord next) then s.key
  else if c = ':' ∧ (s.inFlow ∨ endsWord next) then s.value
  else if c = '*' then s.nodeToken (.alias <$> scanName)
  else if c = '&' then s.nodeToken (.anchor <$> scanName)
  else if c = '!' then s.nodeToken scanTag
  else if c = '|' ∧ !s.inFlow then s.block false
  else if c = '>' ∧ !s.inFlow then s.block true
  else if c = '\'' then s.quoted false
  else if c = '"' then s.quoted true
  else if startsPlain s.inFlow c next then s.plain
  else .error .malformed

/-- One more token, and those that go before it; none at the end of the text. -/
def step (s : Scanner) : Except Fault (Scanner × Bool) := do
  let s ← s.skipToToken.dropStale
  let s := s.unwind s.feed.column
  match s.feed.at? 0 with
  | some c => return (← s.tokenAt c, false)
  | none => return (← (s.unwind (-1)).dropCandidate, true)

/-- All tokens from a state on, and the fault that ends them, if one does. Of the tokens before a
fault only those that are settled count. -/
def run : Nat → Scanner → List Token × Option Fault
  | 0, s => (s.tokens.reverse, some .malformed)
  | fuel + 1, s =>
    match s.step with
    | .error fault => (s.tokens.reverse.take s.settled, some fault)
    | .ok (s, true) => (s.tokens.reverse, none)
    | .ok (s, false) => run fuel s

end Scanner

/-- The tokens of a text and the fault that ends them, if one does. -/
def tokens (cs : List Char) : List Token × Option Fault :=
  Scanner.run (cs.length + 1) (.start cs)

end RunnerAtlas.Document
