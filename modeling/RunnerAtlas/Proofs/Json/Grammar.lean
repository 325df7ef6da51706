import RunnerAtlas.Document.Scalar
import RunnerAtlas.Value.Mapping

set_option relaxedAutoImplicit false
set_option autoImplicit false

/-!
# JSON texts

A JSON text spells a tree of atoms, arrays and objects. Its lexemes are those of the tree, and
whitespace may stand before the first one and after each. What an atom looks like is carried along
with it, since many spellings stand for one value.

## Main definitions

* `RunnerAtlas.Json.Number`, `RunnerAtlas.Json.Piece`, `RunnerAtlas.Json.Atom` — numbers, pieces of
  strings and atoms as they are spelled, with what they stand for.
* `RunnerAtlas.Json.Tree` — the trees, with `Tree.value` and `Tree.lexemes`.
* `RunnerAtlas.Json.Text` — a text that spells a tree.
-/

namespace RunnerAtlas.Json

open RunnerAtlas.Text

/-! ### Numbers -/

/-- A run of decimal digits. -/
abbrev Digits := {cs : List Char // cs ≠ [] ∧ ∀ c ∈ cs, Digit.isPlain c = true}

/-- The exponent of a number. -/
structure Exponent where
  /-- Whether its letter is a capital. -/
  isCapital : Bool
  /-- Its sign, if it has one: whether that is a minus. -/
  sign : Option Bool
  /-- Its digits. -/
  digits : Digits

namespace Exponent

/-- The characters of an exponent. -/
def chars (e : Exponent) : List Char :=
  (if e.isCapital then 'E' else 'e') ::
    (e.sign.toList.map (if · then '-' else '+') ++ e.digits.val)

/-- The number that an exponent stands for. -/
def value (e : Exponent) : Int :=
  let size : Int := Document.numberOf e.digits.val
  if e.sign = some true then -size else size

end Exponent

/-- A number. -/
structure Number where
  /-- Whether it has a minus. -/
  isNegative : Bool
  /-- The digits before the point. -/
  whole : Digits
  /-- The digits after the point, if there is one. -/
  fraction : Option Digits
  /-- The exponent, if there is one. -/
  exponent : Option Exponent
  /-- Only zero begins with a zero. -/
  whole_eq : whole.val = ['0'] ∨ whole.val.head? ≠ some '0'

namespace Number

/-- The digits after the point. -/
def decimals (n : Number) : List Char := n.fraction.elim [] Subtype.val

/-- The characters of a number. -/
def chars (n : Number) : List Char :=
  (if n.isNegative then ['-'] else []) ++ n.whole.val ++
    (n.fraction.elim [] fun digits => '.' :: digits.val) ++ n.exponent.elim [] Exponent.chars

/-- What a number stands for: without point and exponent a whole number, and else a floating-point
number. -/
def value (n : Number) : Value :=
  if n.fraction.isNone ∧ n.exponent.isNone then
    let size : Int := Document.numberOf n.whole.val
    .int (if n.isNegative then -size else size)
  else
    .float (Binary64.ofDecimal n.isNegative (Document.numberOf (n.whole.val ++ n.decimals))
      (n.exponent.elim 0 Exponent.value - n.decimals.length))

end Number

/-! ### Strings -/

/-- The escapes of one letter, each with the character that it stands for. -/
def letterEscapes : List (Char × Char) :=
  [('"', '"'), ('\\', '\\'), ('/', '/'), ('b', '\x08'), ('f', '\x0c'), ('n', '\n'), ('r', '\r'),
    ('t', '\t')]

/-- Four hexadecimal digits. -/
abbrev Hex := {cs : List Char // cs.length = 4 ∧ ∀ c ∈ cs, (Digit.plainValue? 16 c).isSome = true}

/-- The number that hexadecimal digits spell. -/
def Hex.code (digits : Hex) : Nat :=
  Digit.ofDigits 16 (digits.val.filterMap (Digit.plainValue? 16))

/-- A piece of a string, which stands for one character. -/
inductive Piece where
  /-- The character itself. -/
  | raw (c : Char) (h : 0x20 ≤ c.toNat ∧ c ≠ '"' ∧ c ≠ '\\')
  /-- An escape of one letter. -/
  | letter (entry : Char × Char) (h : entry ∈ letterEscapes)
  /-- An escape by number. -/
  | code (digits : Hex) (h : ¬ (0xd800 ≤ digits.code ∧ digits.code < 0xe000))
  /-- Two escapes by number that are a pair of surrogates. -/
  | pair (high low : Hex) (hhigh : 0xd800 ≤ high.code ∧ high.code < 0xdc00)
    (hlow : 0xdc00 ≤ low.code ∧ low.code < 0xe000)

namespace Piece

/-- The characters of a piece. -/
def chars : Piece → List Char
  | raw c _ => [c]
  | letter entry _ => ['\\', entry.1]
  | code digits _ => '\\' :: 'u' :: digits.val
  | pair high low _ _ => '\\' :: 'u' :: high.val ++ '\\' :: 'u' :: low.val

/-- The character that a piece stands for. -/
def char : Piece → Char
  | raw c _ => c
  | letter entry _ => entry.2
  | code digits _ => Char.ofNat digits.code
  | pair high low _ _ => Char.ofNat (0x10000 + (high.code - 0xd800) * 0x400 + (low.code - 0xdc00))

end Piece

/-- The characters of a string between its quotes. -/
def charsOf (pieces : List Piece) : List Char := pieces.flatMap Piece.chars

/-- The characters of a string with its quotes. -/
def quoted (pieces : List Piece) : List Char := '"' :: charsOf pieces ++ ['"']

/-- The text that a string stands for. -/
def textOf (pieces : List Piece) : String := String.ofList (pieces.map Piece.char)

/-! ### Trees -/

/-- A value without members. -/
inductive Atom where
  /-- The absent value. -/
  | null
  /-- A truth value. -/
  | truth (b : Bool)
  /-- A number. -/
  | number (n : Number)
  /-- A string. -/
  | string (pieces : List Piece)

namespace Atom

/-- The characters of an atom. -/
def chars : Atom → List Char
  | null => "null".toList
  | truth true => "true".toList
  | truth false => "false".toList
  | number n => n.chars
  | string pieces => quoted pieces

/-- What an atom stands for. -/
def value : Atom → Value
  | null => .null
  | truth b => .bool b
  | number n => n.value
  | string pieces => .str (textOf pieces)

end Atom

/-- A tree of atoms, arrays and objects. -/
inductive Tree where
  /-- An atom. -/
  | atom (a : Atom)
  /-- An array. -/
  | array (items : List Tree)
  /-- An object: trees under strings. -/
  | object (members : List (List Piece × Tree))

/-- The brackets of arrays and objects. -/
inductive Bracket where
  /-- That of an array. -/
  | square
  /-- That of an object. -/
  | curly

/-- The words and marks of which a text consists. -/
inductive Lexeme where
  /-- An atom. -/
  | atom (a : Atom)
  /-- The start of an array or object. -/
  | opening (b : Bracket)
  /-- The end of an array or object. -/
  | closing (b : Bracket)
  /-- The mark between items or members. -/
  | comma
  /-- The mark after the name of a member. -/
  | colon

/-- The characters of a lexeme. -/
def Lexeme.chars : Lexeme → List Char
  | atom a => a.chars
  | opening .square => ['[']
  | opening .curly => ['\x7b']
  | closing .square => [']']
  | closing .curly => ['\x7d']
  | comma => [',']
  | colon => [':']

/-- Parts with a separator between them. -/
def separated {α : Type} (separator : α) : List (List α) → List α
  | [] => []
  | part :: rest => part ++ rest.flatMap (separator :: ·)

/-- After a part that is not the last one comes a separator. -/
theorem separated_cons_cons {α : Type} (separator : α) (part next : List α)
    (rest : List (List α)) : separated separator (part :: next :: rest) =
      part ++ separator :: separated separator (next :: rest) := rfl

namespace Tree

mutual

/-- The lexemes of a tree. -/
def lexemes : Tree → List Lexeme
  | atom a => [.atom a]
  | array items => .opening .square :: separated .comma (lexemesOfItems items) ++ [.closing .square]
  | object members =>
    .opening .curly :: separated .comma (lexemesOfMembers members) ++ [.closing .curly]

/-- The lexemes of each item. -/
def lexemesOfItems : List Tree → List (List Lexeme)
  | [] => []
  | item :: rest => item.lexemes :: lexemesOfItems rest

/-- The lexemes of each member. -/
def lexemesOfMembers : List (List Piece × Tree) → List (List Lexeme)
  | [] => []
  | (name, item) :: rest =>
    (.atom (.string name) :: .colon :: item.lexemes) :: lexemesOfMembers rest

end

mutual

/-- What a tree stands for. Of two members with one name the second one counts, in the place of the
first one. -/
def value : Tree → Value
  | atom a => a.value
  | array items => .list (valuesOfItems items)
  | object members => .map (Mapping.ofEntries (valuesOfMembers members))

/-- What each item stands for. -/
def valuesOfItems : List Tree → List Value
  | [] => []
  | item :: rest => item.value :: valuesOfItems rest

/-- The name of each member with what the member stands for. -/
def valuesOfMembers : List (List Piece × Tree) → List (Value × Value)
  | [] => []
  | (name, item) :: rest => (.str (textOf name), item.value) :: valuesOfMembers rest

end

end Tree

/-! ### Texts -/

/-- The characters of whitespace. -/
def blanks : List Char := [' ', '\t', '\n', '\r']

/-- Lexemes spelled out, each with what comes after it. -/
def spelled (parts : List (Lexeme × List Char)) : List Char :=
  parts.flatMap fun part => part.1.chars ++ part.2

/-- A text that spells a tree. -/
structure Text where
  /-- The tree. -/
  tree : Tree
  /-- The whitespace before the first lexeme. -/
  first : List Char
  /-- The lexemes, each with the whitespace after it. -/
  parts : List (Lexeme × List Char)
  /-- Before the first lexeme stands only whitespace. -/
  first_subset : first ⊆ blanks
  /-- After a lexeme stands only whitespace. -/
  after_subset : ∀ part ∈ parts, part.2 ⊆ blanks
  /-- The lexemes are those of the tree. -/
  lexemes_eq : parts.map Prod.fst = tree.lexemes

/-- The characters of a text. -/
def Text.chars (d : Text) : List Char := d.first ++ spelled d.parts

end RunnerAtlas.Json
