import RunnerAtlas.Pattern.Basic
import RunnerAtlas.Pattern.Membership

/-!
# Searching a text for a pattern

A tree is tried at a position of a text together with what has to follow it. The choices of the
tree are tried in order, and the first one with which the rest succeeds counts.

## Main definitions

* `RunnerAtlas.Pattern.Cursor` — a position and the groups that have matched.
* `RunnerAtlas.Pattern.Node.run` — a tree tried at a cursor.
* `RunnerAtlas.Pattern.Compiled.matchesIn` — whether a pattern occurs in a text.
-/

set_option autoImplicit false

namespace RunnerAtlas.Pattern

open RunnerAtlas.Text

/-- A position in a text and where groups began and ended, the latest first. -/
structure Cursor where
  /-- The position. -/
  position : Nat
  /-- Where groups began. -/
  opened : List (Nat × Nat) := []
  /-- Where groups ended. -/
  closed : List (Nat × Nat) := []
  deriving DecidableEq

/-- The ends of what a group has matched, if it has. -/
def Cursor.span? (s : Cursor) (group : Nat) : Option (Nat × Nat) :=
  match s.opened.lookup group, s.closed.lookup group with
  | some first, some last => if first ≤ last then some (first, last) else none
  | _, _ => none

/-- What has to follow a match. -/
abbrev Rest := Cursor → Option Cursor

/-- What tries to match at a cursor before what follows. -/
abbrev Step := Cursor → Rest → Option Cursor

/-- A character that passes a test. -/
def testChar (text : Array Nat) (test : Nat → Bool) : Step := fun s k =>
  match text[s.position]? with
  | some code => if test code then k { s with position := s.position + 1 } else none
  | none => none

/-- Whether a position lies between a word character and another one. A text without characters
has no such position and no other one either. -/
def isBoundary (text : Array Nat) (ascii : Bool) (position : Nat) : Bool :=
  let isWord (code? : Option Nat) : Bool := code?.any (Category.has ascii · .word)
  let before := if position = 0 then none else text[position - 1]?
  isWord before != isWord text[position]?

/-- Whether a position passes a test. -/
def Anchor.holds (text : Array Nat) (f : Flags) (position : Nat) : Anchor → Bool
  | lineStart => position == 0 || (f.multiline && text[position - 1]? == some 0xa)
  | lineEnd =>
    position == text.size || (text[position]? == some 0xa &&
      (f.multiline || position + 1 == text.size))
  | textStart => position == 0
  | textEnd => position == text.size
  | boundary => !text.isEmpty && isBoundary text f.ascii position
  | noBoundary => !text.isEmpty && !isBoundary text f.ascii position

/-- The position after a second occurrence of a part of the text, if there is one. -/
def repeated (text : Array Nat) (fold : Fold) : Nat → Nat → Nat → Option Nat
  | 0, _, position => some position
  | count + 1, first, position =>
    match text[first]?, text[position]? with
    | some a, some b =>
      if fold.lower a = fold.lower b then repeated text fold count (first + 1) (position + 1)
      else none
    | _, _ => none

/-- A step a number of times. -/
def times (step : Step) : Nat → Step
  | 0, s, k => k s
  | n + 1, s, k => step s fun s => times step n s k

/-- A step as often as possible up to a number of times, fewer times if the rest fails. It is not
taken again where the time before has not moved on. -/
def greedily (step : Step) : Nat → Option Nat → Step
  | 0, _, s, k => k s
  | n + 1, last, s, k =>
    if last = some s.position then k s
    else (step s fun next => greedily step n (some s.position) next k) <|> k s

/-- A step as seldom as possible, more times if the rest fails. -/
def idly (step : Step) : Nat → Option Nat → Step
  | 0, _, s, k => k s
  | n + 1, last, s, k =>
    k s <|>
      if last = some s.position then none
      else step s fun next => idly step n (some s.position) next k

/-- A step as often as possible, each time with its first match only. -/
def possessively (step : Step) : Nat → Option Nat → Cursor → Cursor
  | 0, _, s => s
  | n + 1, last, s =>
    if last = some s.position then s
    else match step s some with
      | some next => possessively step n (some s.position) next
      | none => s

/-- A step repeated between two numbers of times. Beyond the least number every repetition but the
last moves on, so the rest of the text bounds their number. -/
def repetition (text : Array Nat) (greed : Greed) (least : Nat) (most : Option Nat) (step : Step) :
    Step := fun s k =>
  let more (s : Cursor) : Nat :=
    let bound := text.size - s.position + 1
    match most with
    | some most => min (most - least) bound
    | none => bound
  match greed with
  | .greedy => times step least s fun s => greedily step (more s) none s k
  | .idle => times step least s fun s => idly step (more s) none s k
  | .possessive =>
    match times (fun s k => (step s some).bind k) least s some with
    | some s => k (possessively step (more s) none s)
    | none => none

/-- Tries a tree at a cursor, with what has to follow it. -/
def Node.run (text : Array Nat) (widths : Nat → Width) : Node → Flags → Step
  | .empty, _ => fun s k => k s
  | .seq first rest, f => fun s k => first.run text widths f s fun s => rest.run text widths f s k
  | .char own, f => testChar text (f.fold.isSame own)
  | .notChar own, f => testChar text fun code => !f.fold.isSame own code
  | .any, f => testChar text fun code => f.dotAll || code != 0xa
  | .set negated items, f => testChar text fun code => f.fold.inSet f.ascii items code != negated
  | .anchor test, f => fun s k => if test.holds text f s.position then k s else none
  | .backref group, f => fun s k =>
    match s.span? group with
    | some (first, last) =>
      match repeated text f.fold (last - first) first s.position with
      | some position => k { s with position := position }
      | none => none
    | none => none
  | .alt first second, f => fun s k =>
    first.run text widths f s k <|> second.run text widths f s k
  | .loop greed least most body, f => repetition text greed least most (body.run text widths f)
  | .capture group body, f => fun s k =>
    body.run text widths f { s with opened := (group, s.position) :: s.opened } fun s =>
      k { s with closed := (group, s.position) :: s.closed }
  | .scoped on off body, f => body.run text widths (f.change on off)
  | .atomic body, f => fun s k => (body.run text widths f s some).bind k
  | .look ahead negated body, f => fun s k =>
    let back := if ahead then 0 else (body.width widths).least
    let found :=
      if s.position < back then none
      else body.run text widths f { s with position := s.position - back } some
    if negated then if found.isNone then k s else none
    else match found with
      | some inner => k { inner with position := s.position }
      | none => none
  | .cond group yes no, f => fun s k =>
    if (s.span? group).isSome then yes.run text widths f s k else no.run text widths f s k

/-- Whether a member of a first set has letter case. -/
def Fold.firstIsCased (fold : Fold) : SetItem → Bool
  | .char own => fold.isCased own
  | .range low high => decide (Fold.lastBasic < high) || fold.anyCased low high
  | .category _ _ => false

/-- The set that the first character of a match belongs to, as far as it is plain to see: the
first piece of the pattern is a set whose members have no letter case where case is ignored. -/
def Node.firstSet? : Node → Flags → Option (Bool × List SetItem)
  | .seq first _, f => first.firstSet? f
  | .set negated items, f =>
    if f.fold != .none && items.any f.fold.firstIsCased then none else some (negated, items)
  | .capture _ body, f => body.firstSet? f
  | .scoped on off body, f => body.firstSet? (f.change on off)
  | _, _ => none

/-- Whether a match may start at a position: if the first character is known to be of a set, that
set is read under the flags of the whole pattern. -/
def Compiled.mayStart (p : Compiled) (text : Array Nat) (position : Nat) : Bool :=
  match p.node.firstSet? p.flags with
  | some (negated, items) =>
    text[position]?.any fun code => items.any (SetItem.covers p.flags.ascii code) != negated
  | none => true

/-- Whether a pattern occurs in a text. -/
def Compiled.matchesIn (p : Compiled) (text : List Char) : Bool :=
  let codes := (text.map Char.toNat).toArray
  let widths (group : Nat) : Width := match p.widths[group - 1]? with
    | some (some w) => w
    | _ => .zero
  (List.range (codes.size + 1)).any fun position =>
    p.mayStart codes position &&
      (p.node.run codes widths p.flags { position := position } some).isSome

end RunnerAtlas.Pattern
