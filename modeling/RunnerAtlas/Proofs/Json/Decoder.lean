import RunnerAtlas.Proofs.Json.Grammar

set_option relaxedAutoImplicit false
set_option autoImplicit false

/-!
# A decoder of JSON texts

A text is read one character after the other into lexemes, and these one after the other into a
tree. Both readers are machines that take one step for each thing that they read, and refuse what
they do not expect.

## Main definitions

* `RunnerAtlas.Json.number?`, `RunnerAtlas.Json.atom?` — the number or atom that a word spells.
* `RunnerAtlas.Json.Lexer` — the machine that reads characters, with `Lexer.step` and `Lexer.run`.
* `RunnerAtlas.Json.Reader` — the machine that reads lexemes, with `Reader.step` and `Reader.run`.
* `RunnerAtlas.Json.decode` — the value of a text.
-/

namespace RunnerAtlas.Json

open RunnerAtlas.Text

/-! ### Words -/

/-- Characters that are a run of digits. -/
def digits? (cs : List Char) : Option Digits :=
  if h : cs ≠ [] ∧ cs.all Digit.isPlain = true then some ⟨cs, h.1, List.all_eq_true.mp h.2⟩
  else none

/-- The digits after a point, if there is one, and what follows them. -/
def fraction? : List Char → Option (Option Digits × List Char)
  | '.' :: rest =>
    (digits? (rest.takeWhile Digit.isPlain)).map fun digits =>
      (some digits, rest.dropWhile Digit.isPlain)
  | rest => some (none, rest)

/-- The sign of an exponent, if it has one, and what follows it. -/
def exponentSign : List Char → Option Bool × List Char
  | '-' :: rest => (some true, rest)
  | '+' :: rest => (some false, rest)
  | rest => (none, rest)

/-- An exponent, or nothing at the end of a number without one. -/
def exponent? : List Char → Option (Option Exponent)
  | [] => some none
  | c :: rest =>
    if c = 'e' ∨ c = 'E' then
      (digits? (exponentSign rest).2).map fun digits =>
        some ⟨c == 'E', (exponentSign rest).1, digits⟩
    else none

/-- The number with a sign that follows it in digits. -/
def magnitude? (isNegative : Bool) (cs : List Char) : Option Number := do
  let whole ← digits? (cs.takeWhile Digit.isPlain)
  let (fraction, rest) ← fraction? (cs.dropWhile Digit.isPlain)
  let exponent ← exponent? rest
  if h : whole.val = ['0'] ∨ whole.val.head? ≠ some '0' then
    some ⟨isNegative, whole, fraction, exponent, h⟩
  else none

/-- The number that a word spells. -/
def number? : List Char → Option Number
  | '-' :: rest => magnitude? true rest
  | cs => magnitude? false cs

/-- The atom that a word spells. -/
def atom? (cs : List Char) : Option Atom :=
  if cs = "null".toList then some .null
  else if cs = "true".toList then some (.truth true)
  else if cs = "false".toList then some (.truth false)
  else (number? cs).map .number

/-! ### Strings -/

/-- The escapes by number that are the first one of a pair. -/
abbrev High := {digits : Hex // 0xd800 ≤ digits.code ∧ digits.code < 0xdc00}

/-- Characters that are four hexadecimal digits. -/
def hex? (cs : List Char) : Option Hex :=
  if h : cs.length = 4 ∧ cs.all (fun c => (Digit.plainValue? 16 c).isSome) = true then
    some ⟨cs, h.1, List.all_eq_true.mp h.2⟩
  else none

/-- A lexeme that has been read in part. -/
inductive Begun where
  /-- A word. -/
  | word (cs : List Char)
  /-- A string. -/
  | string (pieces : List Piece)
  /-- A string after the start of an escape. -/
  | escape (pieces : List Piece)
  /-- A string after some digits of an escape by number, which may be the second one of a pair. -/
  | code (pieces : List Piece) (high : Option High) (cs : List Char)
  /-- A string after the first escape of a pair. -/
  | high (pieces : List Piece) (high : High)
  /-- A string after the start of the second escape of a pair. -/
  | highEscape (pieces : List Piece) (high : High)

/-- A string after the letter of an escape. -/
def escaped (pieces : List Piece) (c : Char) : Option Begun :=
  if c = 'u' then some (.code pieces none [])
  else (letterEscapes.attach.find? fun entry => entry.val.1 == c).map fun entry =>
    .string (pieces ++ [.letter entry.val entry.property])

/-- A string after an escape by number. -/
def coded (pieces : List Piece) (high : Option High) (digits : Hex) : Option Begun :=
  match high with
  | some high =>
    if h : 0xdc00 ≤ digits.code ∧ digits.code < 0xe000 then
      some (.string (pieces ++ [.pair high.val digits high.property h]))
    else none
  | none =>
    if h : 0xd800 ≤ digits.code ∧ digits.code < 0xe000 then
      if hhigh : digits.code < 0xdc00 then some (.high pieces ⟨digits, h.1, hhigh⟩) else none
    else some (.string (pieces ++ [.code digits h]))

/-- A string after digits of an escape by number. -/
def digitsRead (pieces : List Piece) (high : Option High) (cs : List Char) : Option Begun :=
  if cs.length < 4 then some (.code pieces high cs) else (hex? cs).bind (coded pieces high)

/-! ### Characters -/

/-- The machine that reads characters. -/
structure Lexer where
  /-- The lexemes that have been read. -/
  lexemes : List Lexeme
  /-- What has been read of another one. -/
  begun : Option Begun

/-- The characters that words consist of. -/
def isWordLetter (c : Char) : Bool := c.isAlphanum || c == '+' || c == '-' || c == '.'

/-- The lexemes of one character. -/
def mark? : Char → Option Lexeme
  | '[' => some (.opening .square)
  | ']' => some (.closing .square)
  | '\x7b' => some (.opening .curly)
  | '\x7d' => some (.closing .curly)
  | ',' => some .comma
  | ':' => some .colon
  | _ => none

namespace Lexer

/-- A character between lexemes. -/
def start (lexemes : List Lexeme) (c : Char) : Option Lexer :=
  if c ∈ blanks then some ⟨lexemes, none⟩
  else if c = '"' then some ⟨lexemes, some (.string [])⟩
  else if isWordLetter c then some ⟨lexemes, some (.word [c])⟩
  else (mark? c).map fun l => ⟨lexemes ++ [l], none⟩

/-- A character in a string. -/
def stringStep (lexemes : List Lexeme) (pieces : List Piece) (c : Char) : Option Lexer :=
  if c = '"' then some ⟨lexemes ++ [.atom (.string pieces)], none⟩
  else if c = '\\' then some ⟨lexemes, some (.escape pieces)⟩
  else if h : 0x20 ≤ c.toNat ∧ c ≠ '"' ∧ c ≠ '\\' then
    some ⟨lexemes, some (.string (pieces ++ [.raw c h]))⟩
  else none

/-- The next character. -/
def step (s : Lexer) (c : Char) : Option Lexer :=
  let goOn (b : Begun) : Lexer := ⟨s.lexemes, some b⟩
  match s.begun with
  | none => start s.lexemes c
  | some (.word cs) =>
    if isWordLetter c then some (goOn (.word (cs ++ [c])))
    else (atom? cs).bind fun a => start (s.lexemes ++ [.atom a]) c
  | some (.string pieces) => stringStep s.lexemes pieces c
  | some (.escape pieces) => (escaped pieces c).map goOn
  | some (.code pieces high cs) => (digitsRead pieces high (cs ++ [c])).map goOn
  | some (.high pieces high) => if c = '\\' then some (goOn (.highEscape pieces high)) else none
  | some (.highEscape pieces high) =>
    if c = 'u' then some (goOn (.code pieces (some high) [])) else none

/-- The lexemes at the end of the characters, where a string must be closed. -/
def finish (s : Lexer) : Option (List Lexeme) :=
  match s.begun with
  | none => some s.lexemes
  | some (.word cs) => (atom? cs).map fun a => s.lexemes ++ [.atom a]
  | _ => none

/-- All characters, one after the other. -/
def run (s : Lexer) : List Char → Option (List Lexeme)
  | [] => s.finish
  | c :: cs => (s.step c).bind fun s => s.run cs

end Lexer

/-! ### Lexemes -/

/-- An array or object of which a member is being read. -/
inductive Frame where
  /-- An array with the items before it. -/
  | array (items : List Tree)
  /-- An object with the members before it, and its name. -/
  | object (members : List (List Piece × Tree)) (name : List Piece)

/-- The machine that reads lexemes, by what it expects next. It keeps the arrays and objects that
have been begun, the innermost one first. -/
inductive Reader where
  /-- A value. -/
  | value (frames : List Frame)
  /-- The first item of an array, or its end. -/
  | firstItem (frames : List Frame)
  /-- The first name of an object, or its end. -/
  | firstName (frames : List Frame)
  /-- Another name of an object. -/
  | nextName (frames : List Frame) (members : List (List Piece × Tree))
  /-- The colon after a name. -/
  | colon (frames : List Frame) (members : List (List Piece × Tree)) (name : List Piece)
  /-- A comma, or the end of an array. -/
  | afterItem (frames : List Frame) (items : List Tree)
  /-- A comma, or the end of an object. -/
  | afterMember (frames : List Frame) (members : List (List Piece × Tree))
  /-- Nothing more. -/
  | done (tree : Tree)

namespace Reader

/-- A value has been read. -/
def give : List Frame → Tree → Reader
  | [], t => .done t
  | .array items :: frames, t => .afterItem frames (items ++ [t])
  | .object members name :: frames, t => .afterMember frames (members ++ [(name, t)])

/-- The first lexeme of a value. -/
def start (frames : List Frame) : Lexeme → Option Reader
  | .atom a => some (give frames (.atom a))
  | .opening .square => some (.firstItem frames)
  | .opening .curly => some (.firstName frames)
  | _ => none

/-- The next lexeme. -/
def step : Reader → Lexeme → Option Reader
  | value frames, l => start frames l
  | firstItem frames, .closing .square => some (give frames (.array []))
  | firstItem frames, l => start (.array [] :: frames) l
  | firstName frames, .closing .curly => some (give frames (.object []))
  | firstName frames, .atom (.string name) => some (colon frames [] name)
  | nextName frames members, .atom (.string name) => some (colon frames members name)
  | colon frames members name, .colon => some (value (.object members name :: frames))
  | afterItem frames items, .comma => some (value (.array items :: frames))
  | afterItem frames items, .closing .square => some (give frames (.array items))
  | afterMember frames members, .comma => some (nextName frames members)
  | afterMember frames members, .closing .curly => some (give frames (.object members))
  | _, _ => none

/-- The tree at the end of the lexemes. -/
def finish : Reader → Option Tree
  | done t => some t
  | _ => none

/-- All lexemes, one after the other. -/
def run (r : Reader) : List Lexeme → Option Tree
  | [] => r.finish
  | l :: ls => (r.step l).bind fun r => r.run ls

end Reader

/-- The value of a JSON text. -/
def decode (cs : List Char) : Option Value :=
  ((Lexer.run ⟨[], none⟩ cs).bind (Reader.run (.value []))).map Tree.value

end RunnerAtlas.Json
