import RunnerAtlas.Pattern.Node
import RunnerAtlas.Text.Blank
import RunnerAtlas.Text.Digit
import RunnerAtlas.Text.Letter
import RunnerAtlas.Text.LetterCase

/-!
# Which characters a test accepts

A test of one character compares code points as they are or, where letter case is ignored, by
their small letters. Small letters that share their capital are alike.

## Main definitions

* `RunnerAtlas.Pattern.Fold` — how letter case is ignored.
* `RunnerAtlas.Pattern.Category.has` — the members of a class.
* `RunnerAtlas.Pattern.Fold.isSame` — whether two characters count as the same.
* `RunnerAtlas.Pattern.Fold.inSet` — whether a set has a character.
-/

set_option autoImplicit false

namespace RunnerAtlas.Pattern

open RunnerAtlas.Text

/-- How letter case is ignored. -/
inductive Fold where
  /-- Not at all. -/
  | none
  /-- For the letters of ASCII. -/
  | plain
  /-- For the letters of all scripts. -/
  | full
  deriving DecidableEq

/-- How flags ignore letter case. -/
def Flags.fold (f : Flags) : Fold :=
  if !f.ignoreCase then .none else if f.ascii then .plain else .full

/-- Whether a class, of ASCII or of all scripts, has a code point. -/
def Category.has (ascii : Bool) (code : Nat) : Category → Bool
  | digit => if ascii then Digit.isPlainDigit code else Digit.isDigit code
  | blank => if ascii then Blank.isPlainBlank code else Blank.isBlank code
  | word => if ascii then Letter.isPlainWord code else Letter.isWord code

/-- Whether a member of a set covers a code point as it is. -/
def SetItem.covers (ascii : Bool) (code : Nat) : SetItem → Bool
  | char own => code == own
  | range low high => decide (low ≤ code) && decide (code ≤ high)
  | category kind negated => kind.has ascii code != negated

namespace Fold

/-- The small letter of a code point. -/
def lower : Fold → Nat → Nat
  | none, code => code
  | plain, code => LetterCase.plainLower code
  | full, code => LetterCase.lower code

/-- Whether a code point has letter case. -/
def isCased : Fold → Nat → Bool
  | none, _ => false
  | plain, code => LetterCase.isPlainCased code
  | full, code => LetterCase.isCased code

/-- Whether a code point between two bounds has letter case. -/
def anyCased : Fold → Nat → Nat → Bool
  | none, _, _ => false
  | plain, low, high => LetterCase.anyPlainCased low high
  | full, low, high => LetterCase.anyCased low high

/-- The other small letters that count as the same as a small letter. -/
def alikes : Fold → Nat → List Nat
  | full, code => LetterCase.alikes code
  | _, _ => []

/-- The code points with a small letter. -/
def sources : Fold → Nat → List Nat
  | none, code => [code]
  | plain, code =>
    if 0x61 ≤ code ∧ code ≤ 0x7a then [code, code - 0x20]
    else if 0x41 ≤ code ∧ code ≤ 0x5a then [] else [code]
  | full, code => LetterCase.lowerSources code

/-- Whether a character counts as the same as the one of a pattern. -/
def isSame (fold : Fold) (own code : Nat) : Bool :=
  if fold.isCased own then
    fold.lower code == fold.lower own || (fold.alikes (fold.lower own)).contains (fold.lower code)
  else code == own

/-- The last code point of the basic plane, within which sets are folded member by member. -/
def lastBasic : Nat := 0xffff

/-- Whether a member of a set makes letter case matter to the set. -/
def itemIsCased (fold : Fold) : SetItem → Bool
  | .char own => decide (lastBasic < fold.lower own) || fold.isCased own
  | .range low high => decide (lastBasic < high) || fold.anyCased low high
  | .category _ _ => false

/-- Whether a member of a set covers a small letter. Members of the basic plane are compared by
their small letters; a character beyond it is covered as it is, and a range beyond it also covers
the small letters of its capitals. -/
def covers (fold : Fold) (ascii : Bool) (code : Nat) : SetItem → Bool
  | .char own =>
    if lastBasic < fold.lower own then code == own
    else code == fold.lower own || (fold.alikes (fold.lower own)).contains code
  | .range low high =>
    let isMember (source : Nat) : Bool :=
      decide (low ≤ source) && decide (source ≤ high) && decide (source ≤ lastBasic)
    (code :: fold.alikes code).any (fun letter => (fold.sources letter).any isMember) ||
      (decide (lastBasic < high) &&
        ((SetItem.range low high).covers ascii code ||
          (SetItem.range low high).covers ascii (LetterCase.upper code)))
  | .category kind negated => (SetItem.category kind negated).covers ascii code

/-- Whether a set has a character. -/
def inSet (fold : Fold) (ascii : Bool) (items : List SetItem) (code : Nat) : Bool :=
  if fold != none && items.any fold.itemIsCased then
    items.any (fold.covers ascii (fold.lower code))
  else items.any (SetItem.covers ascii code)

end Fold

end RunnerAtlas.Pattern
