import RunnerAtlas.Text.Printable

/-!
# Quoted texts

How a text or a string of octets is shown inside a message: between single quotes, or between
double quotes if it holds a single quote and no double one, with a backslash escape for whatever
is not printable.

## Main definitions

* `RunnerAtlas.Text.Quoted.hex` — a number in lower-case hexadecimal digits of a fixed width.
* `RunnerAtlas.Text.Quoted.ofText` — a quoted text.
* `RunnerAtlas.Text.Quoted.ofOctets` — quoted octets, after the letter `b`.
-/

set_option autoImplicit false

namespace RunnerAtlas.Text.Quoted

/-- One hexadecimal digit. -/
def hexDigit (value : Nat) : Char :=
  if value < 10 then Char.ofNat (0x30 + value) else Char.ofNat (0x57 + value)

/-- The last `width` hexadecimal digits of a number. -/
def hex (value : Nat) : Nat → List Char
  | 0 => []
  | width + 1 => hex (value / 16) width ++ [hexDigit (value % 16)]

/-- The quote around a text: double if the text holds single quotes only, single otherwise. -/
def quoteFor (single double : Bool) : Char := if single && !double then '"' else '\''

/-- One character between quotes. -/
def escape (quote c : Char) : List Char :=
  if c == quote || c == '\\' then ['\\', c]
  else if c == '\n' then ['\\', 'n']
  else if c == '\r' then ['\\', 'r']
  else if c == '\t' then ['\\', 't']
  else if Printable.isPrintable c then [c]
  else if c.toNat < 0x100 then '\\' :: 'x' :: hex c.toNat 2
  else if c.toNat < 0x10000 then '\\' :: 'u' :: hex c.toNat 4
  else '\\' :: 'U' :: hex c.toNat 8

/-- A text between quotes. -/
def ofText (s : String) : String :=
  let cs := s.toList
  let quote := quoteFor (cs.contains '\'') (cs.contains '"')
  String.ofList (quote :: cs.flatMap (escape quote) ++ [quote])

/-- One octet between quotes. -/
def escapeOctet (quote : Char) (octet : UInt8) : List Char :=
  let c := Char.ofNat octet.toNat
  if octet < 0x7f then escape quote c else '\\' :: 'x' :: hex octet.toNat 2

/-- Octets between quotes, after the letter `b`. -/
def ofOctets (octets : List UInt8) : String :=
  let quote := quoteFor (octets.contains 0x27) (octets.contains 0x22)
  String.ofList ('b' :: quote :: octets.flatMap (escapeOctet quote) ++ [quote])

end RunnerAtlas.Text.Quoted
