import RunnerAtlas.Text.Ranges

/-!
# Patterns as trees

A pattern is a tree of tests and of ways to combine them. Flags are no part of the tree except
where a part of the pattern changes them.

## Main definitions

* `RunnerAtlas.Pattern.Flags` — how a pattern is read, with `Flags.change`.
* `RunnerAtlas.Pattern.SetItem` — members of a character set.
* `RunnerAtlas.Pattern.Node` — the trees.
* `RunnerAtlas.Pattern.Width`, `RunnerAtlas.Pattern.Node.width` — how long the matches of a tree
  can be.
-/

set_option autoImplicit false

namespace RunnerAtlas.Pattern

/-- The flags of a pattern. -/
structure Flags where
  /-- Letter case is ignored. -/
  ignoreCase : Bool := false
  /-- The line anchors hold at every line. -/
  multiline : Bool := false
  /-- The point matches a line feed too. -/
  dotAll : Bool := false
  /-- Blanks and comments in the text of the pattern are skipped. -/
  verbose : Bool := false
  /-- Classes and letter case are those of ASCII. -/
  ascii : Bool := false
  /-- Classes and letter case are those of all scripts, which is also the default. -/
  unicode : Bool := false
  /-- The pattern is read as a template. -/
  template : Bool := false
  deriving DecidableEq

namespace Flags

/-- The flags that one of two sets has. -/
def union (f g : Flags) : Flags :=
  ⟨f.ignoreCase || g.ignoreCase, f.multiline || g.multiline, f.dotAll || g.dotAll,
    f.verbose || g.verbose, f.ascii || g.ascii, f.unicode || g.unicode, f.template || g.template⟩

/-- Whether two sets have a flag in common. -/
def meets (f g : Flags) : Bool :=
  (f.ignoreCase && g.ignoreCase) || (f.multiline && g.multiline) || (f.dotAll && g.dotAll) ||
    (f.verbose && g.verbose) || (f.ascii && g.ascii) || (f.unicode && g.unicode) ||
    (f.template && g.template)

/-- The flags after some are switched on and others off. Choosing a character set ends the
choice before it. -/
def change (f on off : Flags) : Flags :=
  let chooses := on.ascii || on.unicode
  { ignoreCase := (f.ignoreCase || on.ignoreCase) && !off.ignoreCase
    multiline := (f.multiline || on.multiline) && !off.multiline
    dotAll := (f.dotAll || on.dotAll) && !off.dotAll
    verbose := (f.verbose || on.verbose) && !off.verbose
    ascii := if chooses then on.ascii else f.ascii
    unicode := if chooses then on.unicode else f.unicode
    template := f.template }

/-- The flag of a letter. -/
def ofLetter? : Char → Option Flags
  | 'i' => some { ignoreCase := true }
  | 'm' => some { multiline := true }
  | 's' => some { dotAll := true }
  | 'x' => some { verbose := true }
  | 'a' => some { ascii := true }
  | 'u' => some { unicode := true }
  | 't' => some { template := true }
  | _ => none

end Flags

/-- The classes of characters that have an escape. -/
inductive Category where
  /-- Decimal digits. -/
  | digit
  /-- Blank characters. -/
  | blank
  /-- Word characters. -/
  | word
  deriving DecidableEq

/-- The members of a character set. -/
inductive SetItem where
  /-- One code point. -/
  | char (code : Nat)
  /-- The code points between two bounds, both included. -/
  | range (low high : Nat)
  /-- A class or, if it is negated, all that is outside it. -/
  | category (kind : Category) (negated : Bool)
  deriving DecidableEq

/-- The tests of a position. -/
inductive Anchor where
  /-- The start of the text or, in a multiline pattern, of a line. -/
  | lineStart
  /-- The end of the text, or before the line feed at its end or, in a multiline pattern, before
  any line feed. -/
  | lineEnd
  /-- The start of the text. -/
  | textStart
  /-- The end of the text. -/
  | textEnd
  /-- Between a word character and another one. -/
  | boundary
  /-- Not at a boundary. -/
  | noBoundary
  deriving DecidableEq

/-- How a repetition uses its freedom. -/
inductive Greed where
  /-- As often as possible, fewer times if the rest fails. -/
  | greedy
  /-- As seldom as possible, more times if the rest fails. -/
  | idle
  /-- As often as possible, once and for all. -/
  | possessive
  deriving DecidableEq

/-- The trees. -/
inductive Node where
  /-- Nothing. -/
  | empty
  /-- One tree after the other. -/
  | seq (first rest : Node)
  /-- A character. -/
  | char (code : Nat)
  /-- Any character but one. -/
  | notChar (code : Nat)
  /-- Any character, line feeds being excluded by default. -/
  | any
  /-- A character of a set or, if it is negated, one outside it. -/
  | set (negated : Bool) (items : List SetItem)
  /-- A test of the position. -/
  | anchor (test : Anchor)
  /-- The text that a group matched. -/
  | backref (group : Nat)
  /-- One tree or the other. -/
  | alt (first second : Node)
  /-- A tree repeated between two numbers of times. -/
  | loop (greed : Greed) (least : Nat) (most : Option Nat) (body : Node)
  /-- A tree whose match is remembered. -/
  | capture (group : Nat) (body : Node)
  /-- A tree under changed flags. -/
  | scoped (on off : Flags) (body : Node)
  /-- A tree of which only the first match counts. -/
  | atomic (body : Node)
  /-- A test of what follows or precedes. -/
  | look (ahead negated : Bool) (body : Node)
  /-- A choice by whether a group has matched. -/
  | cond (group : Nat) (yes no : Node)
  deriving DecidableEq

namespace Node

/-- Trees one after the other. -/
def ofList : List Node → Node
  | [] => empty
  | [n] => n
  | n :: rest => seq n (ofList rest)

/-- A choice between sequences. -/
def ofBranches : List (List Node) → Node
  | [] => empty
  | [branch] => ofList branch
  | branch :: rest => alt (ofList branch) (ofBranches rest)

/-- Whether a tree has no parts. -/
def isLeaf : Node → Bool
  | char _ => true
  | notChar _ => true
  | any => true
  | set _ _ => true
  | anchor _ => true
  | backref _ => true
  | _ => false

end Node

/-- How long a match is at least and, if there is a bound, at most. -/
structure Width where
  /-- The least length. -/
  least : Nat
  /-- The greatest length, if there is one. -/
  most : Option Nat
  deriving DecidableEq

namespace Width

/-- The width of nothing. -/
def zero : Width := ⟨0, some 0⟩

/-- The width of one character. -/
def one : Width := ⟨1, some 1⟩

/-- The width of two matches in a row. -/
def add (v w : Width) : Width :=
  ⟨v.least + w.least, match v.most, w.most with
    | some m, some n => some (m + n)
    | _, _ => none⟩

/-- The width of one of two matches. -/
def max (v w : Width) : Width :=
  ⟨Nat.min v.least w.least, match v.most, w.most with
    | some m, some n => some (Nat.max m n)
    | _, _ => none⟩

/-- The width of a repeated match. Without a bound only empty matches stay bounded, and a match
that is repeated no times has no length. -/
def times (w : Width) (least : Nat) (most : Option Nat) : Width :=
  ⟨w.least * least, match w.most, most with
    | some m, some n => some (m * n)
    | some 0, none => some 0
    | none, some 0 => some 0
    | _, _ => none⟩

end Width

/-- How long the matches of a tree can be, from the widths of the groups it refers to. -/
def Node.width (groups : Nat → Width) : Node → Width
  | .empty => .zero
  | .seq first rest => (first.width groups).add (rest.width groups)
  | .char _ => .one
  | .notChar _ => .one
  | .any => .one
  | .set _ _ => .one
  | .anchor _ => .zero
  | .backref group => groups group
  | .alt first second => (first.width groups).max (second.width groups)
  | .loop _ least most body => (body.width groups).times least most
  | .capture _ body => body.width groups
  | .scoped _ _ body => body.width groups
  | .atomic body => body.width groups
  | .look _ _ _ => .zero
  | .cond _ yes no => (yes.width groups).max (no.width groups)

end RunnerAtlas.Pattern
