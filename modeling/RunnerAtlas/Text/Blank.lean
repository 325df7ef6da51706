import RunnerAtlas.Text.Ranges

/-!
# Blank characters

The characters that count as white space: those of the bidirectional classes WS, B and S, and the
space separators.

## Main definitions

* `RunnerAtlas.Text.Blank.isBlank` — the test.
* `RunnerAtlas.Text.Blank.strip` — a text without the blanks at its ends.
-/

set_option autoImplicit false

namespace RunnerAtlas.Text.Blank

/-- The blank code points. -/
def ranges : Ranges :=
  [(0x9, 0xd), (0x1c, 0x20), (0x85, 0x85), (0xa0, 0xa0), (0x1680, 0x1680), (0x2000, 0x200a),
   (0x2028, 0x2029), (0x202f, 0x202f), (0x205f, 0x205f), (0x3000, 0x3000)]

/-- Whether a code point is blank. -/
def isBlank (code : Nat) : Bool := ranges.has code

/-- The blank code points of ASCII that patterns know: tab, line feed, vertical tab, form feed,
carriage return and space. -/
def isPlainBlank (code : Nat) : Bool := code == 0x20 || (decide (0x9 ≤ code) && decide (code ≤ 0xd))

/-- The text without the blank characters at its two ends. -/
def strip (cs : List Char) : List Char :=
  ((cs.dropWhile fun c => isBlank c.toNat).reverse.dropWhile fun c => isBlank c.toNat).reverse

end RunnerAtlas.Text.Blank
