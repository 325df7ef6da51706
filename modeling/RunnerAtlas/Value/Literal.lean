import RunnerAtlas.Decimal.Reading
import RunnerAtlas.Decimal.Shortest
import RunnerAtlas.Text.Quoted
import RunnerAtlas.Value.Basic

/-!
# Values as text

A value is shown inside a message by its literal, in which texts are quoted. Where a value itself
becomes a text, a text stays as it is and a day or moment is written in its international form.
A whole number has a text only if it has no more digits than are allowed.

## Main definitions

* `RunnerAtlas.Value.literal` — the literal.
* `RunnerAtlas.Value.display` — the value as a text.
* `RunnerAtlas.Value.isShowable` — whether the value has a text.
* `RunnerAtlas.Value.unshowableMessage` — the message for one that has none.
-/

set_option autoImplicit false

namespace RunnerAtlas.Value

open RunnerAtlas.Text

/-- The literal of a sequence of fixed length, from the literals of its members: one member alone
is followed by a comma. -/
def tupleText (items : List String) : String :=
  match items with
  | [item] => s!"({item},)"
  | items => "(" ++ String.intercalate ", " items ++ ")"

/-- The literal of a set, from the literals of its members. -/
def setText (items : List String) : String :=
  if items.isEmpty then "set()" else "\x7b" ++ String.intercalate ", " items ++ "\x7d"

mutual

/-- The literal of a value. -/
def literal : Value → String
  | null => "None"
  | bool b => if b then "True" else "False"
  | int n => toString n
  | float x => Decimal.floatText x
  | str s => Quoted.ofText s
  | bytes octets => Quoted.ofOctets octets
  | date d => d.literal
  | moment t => t.literal
  | list items => "[" ++ String.intercalate ", " (literals items) ++ "]"
  | tuple items => tupleText (literals items)
  | set items => setText (literals items)
  | map entries => "\x7b" ++ String.intercalate ", " (entryLiterals entries) ++ "\x7d"

/-- The literals of the members of a sequence. -/
def literals : List Value → List String
  | [] => []
  | v :: vs => literal v :: literals vs

/-- The literals of the entries of a mapping. -/
def entryLiterals : List (Value × Value) → List String
  | [] => []
  | (key, value) :: rest => (literal key ++ ": " ++ literal value) :: entryLiterals rest

end

/-- A value as a text. -/
def display : Value → String
  | str s => s
  | date d => d.isoText
  | moment t => t.isoText " "
  | v => v.literal

mutual

/-- Whether a value has a text: no whole number in it has too many digits. -/
def isShowable : Value → Bool
  | int n => decide ((Nat.toDigits 10 n.natAbs).length ≤ Decimal.maxDigits)
  | list items => areShowable items
  | tuple items => areShowable items
  | set items => areShowable items
  | map entries => entriesAreShowable entries
  | _ => true

/-- Whether the members of a sequence have texts. -/
def areShowable : List Value → Bool
  | [] => true
  | v :: vs => isShowable v && areShowable vs

/-- Whether the keys and values of a mapping have texts. -/
def entriesAreShowable : List (Value × Value) → Bool
  | [] => true
  | (key, value) :: rest => isShowable key && isShowable value && entriesAreShowable rest

end

/-- The message for a value without a text. -/
def unshowableMessage : String :=
  s!"Exceeds the limit ({Decimal.maxDigits} digits) for integer string conversion; " ++
    "use sys.set_int_max_str_digits() to increase the limit"

end RunnerAtlas.Value
