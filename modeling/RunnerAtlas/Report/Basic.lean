import RunnerAtlas.Text.Quoted

/-!
# Reports

What a run hands to other programs is written as JSON in ASCII: texts, lists and records, one item
to a line.

## Main definitions

* `RunnerAtlas.Report` — texts, lists and records.
* `RunnerAtlas.Report.quoted` — a text between double quotes.
* `RunnerAtlas.Report.pretty` — a report in lines.
* `RunnerAtlas.Report.line` — a record of texts in one line.
-/

set_option autoImplicit false

namespace RunnerAtlas

open RunnerAtlas.Text

/-- What a run hands to other programs. -/
inductive Report where
  /-- A text. -/
  | text (s : String)
  /-- A list. -/
  | list (items : List Report)
  /-- A record: values under names. -/
  | record (fields : List (String × Report))

namespace Report

/-- A unit of sixteen bits as an escape. -/
def unitEscape (unit : Nat) : List Char := '\\' :: 'u' :: Quoted.hex unit 4

/-- A character between double quotes. What is not printable ASCII is escaped, beyond sixteen bits
by a pair of surrogates. -/
def escape (c : Char) : List Char :=
  if c = '"' ∨ c = '\\' then ['\\', c]
  else if c = '\n' then ['\\', 'n']
  else if c = '\r' then ['\\', 'r']
  else if c = '\t' then ['\\', 't']
  else if c = '\x08' then ['\\', 'b']
  else if c = '\x0c' then ['\\', 'f']
  else if 0x20 ≤ c.toNat ∧ c.toNat ≤ 0x7e then [c]
  else if c.toNat < 0x10000 then unitEscape c.toNat
  else
    let rest := c.toNat - 0x10000
    unitEscape (0xd800 + rest / 0x400) ++ unitEscape (0xdc00 + rest % 0x400)

/-- A text between double quotes. -/
def quoted (s : String) : List Char := '"' :: s.toList.flatMap escape ++ ['"']

/-- Parts with a separator between them. -/
def joined (separator : List Char) : List (List Char) → List Char
  | [] => []
  | [part] => part
  | part :: rest => part ++ separator ++ joined separator rest

/-- A new line at a depth. -/
def newLine (depth : Nat) : List Char := '\n' :: List.replicate (2 * depth) ' '

/-- Parts on lines of their own, one level deeper, between brackets. -/
def bracketed (opening closing : Char) (depth : Nat) (parts : List (List Char)) : List Char :=
  if parts.isEmpty then [opening, closing]
  else
    opening :: newLine (depth + 1) ++ joined (',' :: newLine (depth + 1)) parts ++
      newLine depth ++ [closing]

mutual

/-- A report at a depth. -/
def written (depth : Nat) : Report → List Char
  | text s => quoted s
  | list items => bracketed '[' ']' depth (writtenItems (depth + 1) items)
  | record fields => bracketed '\x7b' '\x7d' depth (writtenFields (depth + 1) fields)

/-- The items of a list at a depth. -/
def writtenItems (depth : Nat) : List Report → List (List Char)
  | [] => []
  | item :: rest => written depth item :: writtenItems depth rest

/-- The fields of a record at a depth. -/
def writtenFields (depth : Nat) : List (String × Report) → List (List Char)
  | [] => []
  | (name, value) :: rest =>
    (quoted name ++ ':' :: ' ' :: written depth value) :: writtenFields depth rest

end

/-- A report in lines, each deeper level indented by two spaces. -/
def pretty (r : Report) : String := String.ofList (written 0 r)

/-- A record of texts in one line without spaces. -/
def line (fields : List (String × String)) : String :=
  let parts := fields.map fun field => quoted field.1 ++ ':' :: quoted field.2
  String.ofList ('\x7b' :: joined [','] parts ++ ['\x7d'])

end Report

end RunnerAtlas
