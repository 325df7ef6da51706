import RunnerAtlas.Document.Literal
import RunnerAtlas.Document.Plain
import RunnerAtlas.Text.Utf8

/-!
# Tokens

A document is cut into tokens: its scalars with the properties before them, the marks of flow
collections, and the starts and ends of block collections, which only the indentation shows.

## Main definitions

* `RunnerAtlas.Document.Token` — the tokens.
* `RunnerAtlas.Document.scanDirective`, `RunnerAtlas.Document.scanName`,
  `RunnerAtlas.Document.scanTag` — directives, names of anchors and tags.
-/

set_option autoImplicit false

namespace RunnerAtlas.Document

open RunnerAtlas.Text

/-- The tokens. -/
inductive Token where
  /-- The version that a document follows, of which the first number counts. -/
  | version (major : Nat)
  /-- A short form for the beginning of tags. -/
  | tagHandle (handle start : String)
  /-- Another directive, which has no effect. -/
  | directive
  /-- The mark of a document's start. -/
  | documentStart
  /-- The mark of a document's end. -/
  | documentEnd
  /-- The start of a block sequence. -/
  | blockSequence
  /-- The start of a block mapping. -/
  | blockMapping
  /-- The end of a block collection. -/
  | blockEnd
  /-- The start of a flow sequence. -/
  | flowSequence
  /-- The end of a flow sequence. -/
  | flowSequenceEnd
  /-- The start of a flow mapping. -/
  | flowMapping
  /-- The end of a flow mapping. -/
  | flowMappingEnd
  /-- The start of a member of a block sequence. -/
  | blockEntry
  /-- The separator of a flow collection. -/
  | flowEntry
  /-- The start of a key. -/
  | key
  /-- The start of a value. -/
  | value
  /-- A reference to an anchor. -/
  | alias (name : String)
  /-- The name of the node that follows. -/
  | anchor (name : String)
  /-- The tag of the node that follows: a handle, if it has one, and a suffix. -/
  | tag (handle : Option String) (suffix : String)
  /-- A scalar, plain or not. -/
  | scalar (text : String) (isPlain : Bool)
  deriving DecidableEq

/-- The characters of names. -/
def isNameChar (c : Char) : Bool :=
  c.isAlphanum || c == '-' || c == '_'

/-- The characters of tags. -/
def isTagChar (c : Char) : Bool :=
  c.isAlphanum || "-;/?:@&=+$,_.!~*'()[]%".toList.contains c

/-- What may follow the name of an anchor. -/
def endsName (c? : Option Char) : Bool :=
  endsWord c? || c?.any fun c => "?:,]%@".toList.contains c || c == '\x7d' || c == '\x60'

/-- The name of an anchor or of a reference to one, its mark being next. -/
def scanName : Scan String := do
  skip 1
  let name ← takeWhile isNameChar
  if name.isEmpty ∨ ¬ endsName (← look) then refuse
  else pure (String.ofList name)

/-- The octets of escapes by number in a tag. -/
def tagOctets : Nat → Scan (List UInt8)
  | 0 => pure []
  | fuel + 1 => do
    if (← look) = some '%' then
      let digits := ((← get).rest.drop 1).take 2
      if digits.length < 2 ∨ ¬ digits.all fun c => (Digit.plainValue? 16 c).isSome then refuse
      else
        skip 3
        let octet := Digit.ofDigits 16 (digits.filterMap (Digit.plainValue? 16))
        return UInt8.ofNat octet :: (← tagOctets fuel)
    else pure []

/-- The characters of a tag, with its escapes by number. -/
def tagChars : Nat → Scan (List Char)
  | 0 => pure []
  | fuel + 1 => do
    match ← look with
    | some '%' =>
      match Utf8.decode? (← tagOctets (← remaining)) with
      | some cs => return cs ++ (← tagChars fuel)
      | none => refuse
    | some c =>
      if isTagChar c then
        skip 1
        return c :: (← tagChars fuel)
      else pure []
    | none => pure []

/-- The characters of a tag, of which there is one at least. -/
def scanSuffix : Scan String := do
  let before := (← get).index
  let chars ← tagChars (← remaining)
  if (← get).index = before then refuse else pure (String.ofList chars)

/-- The handle of a tag: an exclamation mark, or a name between two. -/
def scanHandle : Scan String := do
  if (← look) = some '!' then
    skip 1
    if (← look) = some ' ' then pure "!"
    else
      let name ← takeWhile isNameChar
      if (← look) = some '!' then
        skip 1
        pure (String.ofList ('!' :: name ++ ['!']))
      else refuse
  else refuse

/-- The handle and the suffix of a tag. -/
def scanTagParts : Scan (Option String × String) := do
  let next ← lookAt 1
  if next = some '<' then
    skip 2
    let suffix ← scanSuffix
    if (← look) = some '>' then
      skip 1
      pure (none, suffix)
    else refuse
  else if endsWord next then
    skip 1
    pure (none, "!")
  else
    let word := ((← get).rest.drop 1).takeWhile fun c => !endsItem (some c)
    if word.contains '!' then
      let handle ← scanHandle
      pure (some handle, ← scanSuffix)
    else
      skip 1
      pure (some "!", ← scanSuffix)

/-- A tag, its mark being next. -/
def scanTag : Scan Token := do
  let (handle, suffix) ← scanTagParts
  if endsItem (← look) then pure (.tag handle suffix) else refuse

/-- A number of a directive. -/
def scanNumber : Scan Nat := do
  let digits ← takeWhile Digit.isPlain
  if digits.isEmpty then refuse
  else match Decimal.readInt 10 (String.ofList digits) with
    | .ok n => pure n.toNat
    | .error cause => throw (.scalar (.number cause))

/-- The version after the name of its directive. -/
def scanVersion : Scan Token := do
  skipSpaces
  let major ← scanNumber
  if (← look) = some '.' then
    skip 1
    let _ ← scanNumber
    if endsItem (← look) then pure (.version major) else refuse
  else refuse

/-- The short form of tags after the name of its directive. -/
def scanTagDirective : Scan Token := do
  skipSpaces
  let handle ← scanHandle
  if (← look) = some ' ' then
    skipSpaces
    let start ← scanSuffix
    if endsItem (← look) then pure (.tagHandle handle start) else refuse
  else refuse

/-- A directive with the rest of its line, its mark being next. -/
def scanDirective : Scan Token := do
  skip 1
  let name ← takeWhile isNameChar
  if name.isEmpty ∨ ¬ endsItem (← look) then refuse
  else
    let token ←
      if name = "YAML".toList then scanVersion
      else if name = "TAG".toList then scanTagDirective
      else do
        let _ ← takeWhile fun c => !isBreak c
        pure .directive
    skipLineEnd
    pure token

end RunnerAtlas.Document
