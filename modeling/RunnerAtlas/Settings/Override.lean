import RunnerAtlas.Decimal.Reading
import RunnerAtlas.Text.LetterCase
import RunnerAtlas.Value.Literal
import RunnerAtlas.Value.Mapping

/-!
# Settings from the environment

A variable of the environment overrides a value of a mapping. Its name is made of the keys that
lead to the value, which need to have texts for this, and its text is read as the kind of value that
it replaces.

## Main definitions

* `RunnerAtlas.Environment` — variables and their texts.
* `RunnerAtlas.OverrideError` — why a variable cannot override a value.
* `RunnerAtlas.Override.join` — the path to a key below another path.
* `RunnerAtlas.Override.variableName` — the name of the variable of a path.
* `RunnerAtlas.Override.mapping` — a mapping with its values overridden.
* `RunnerAtlas.Override.variableNamesUnder` — the names of the variables that matter for a mapping.
-/

set_option autoImplicit false

namespace RunnerAtlas

open RunnerAtlas.Text

/-- Variables and their texts. -/
abbrev Environment := List (String × String)

/-- Why a variable cannot override a value. -/
inductive OverrideError where
  /-- A key of a kind that makes no name of a variable. -/
  | unnameable (kind : String)
  /-- A path or a key below it has no text. -/
  | unshowable
  /-- The text of the variable is no number. -/
  | number (cause : Decimal.NumberError)
  deriving DecidableEq

/-- The message of an error. -/
def OverrideError.message : OverrideError → String
  | unnameable kind => s!"'{kind}' object has no attribute 'upper'"
  | unshowable => Value.unshowableMessage
  | number cause => cause.message

namespace Override

/-- What the name of every variable begins with. -/
def start : String := "TARGETRUNNERS_"

/-- The path and the key below it as one. A path that counts as absent contributes nothing, so a key
at the top is its own path. -/
def joined (path key : Value) : Value :=
  if path.isEmpty then key else .str (path.display ++ "__" ++ key.display)

/-- The path to a key below another path. Unless that contributes nothing, both need a text. -/
def join (path key : Value) : Except OverrideError Value :=
  if path.isEmpty || path.isShowable && key.isShowable then .ok (joined path key)
  else .error .unshowable

/-- The octets with the small letters of ASCII made capitals. -/
def upperOctets (octets : List UInt8) : List UInt8 :=
  octets.map fun octet => if 0x61 ≤ octet ∧ octet ≤ 0x7a then octet - 0x20 else octet

/-- The name of the variable of a path, in capitals. -/
def variableName : Value → Except OverrideError String
  | .str s => .ok (start ++ LetterCase.upperText s)
  | .bytes octets => .ok (start ++ Quoted.ofOctets (upperOctets octets))
  | v => .error (.unnameable v.kind)

/-- The words that stand for truth in a variable. -/
def trueWords : List String := ["true", "1", "yes"]

/-- The text of a variable read as the kind of value that it replaces. -/
def converted (old : Value) (text : String) : Except OverrideError Value :=
  match old with
  | .bool _ => .ok (.bool (trueWords.contains (LetterCase.plainLowerText text)))
  | .int _ => ((Decimal.readInt 10 text).map Value.int).mapError .number
  | .float _ => ((Decimal.readFloat text).map Value.float).mapError .number
  | _ => .ok (.str text)

/-- A value that is no mapping, overridden if its variable is set. -/
def leaf (env : Environment) (path old : Value) : Except OverrideError Value := do
  match env.lookup (← variableName path) with
  | some text => converted old text
  | none => pure old

mutual

/-- A value under a path, overridden. -/
def value (env : Environment) : Value → Value → Except OverrideError Value
  | .map entries, path => (entriesUnder env entries path).map .map
  | v, path => leaf env path v

/-- The entries of a mapping under a path, with their values overridden. -/
def entriesUnder (env : Environment) :
    List (Value × Value) → Value → Except OverrideError (List (Value × Value))
  | [], _ => .ok []
  | (key, old) :: rest, path => do
    let below ← join path key
    let new ← value env old below
    let others ← entriesUnder env rest path
    pure ((key, new) :: others)

end

mutual

/-- The names of the variables that can override a value under a path. -/
def variableNamesOf : Value → Value → List String
  | .map entries, path => variableNamesUnder entries path
  | _, path => (variableName path).toOption.toList

/-- The names of the variables that can override values of a mapping under a path. -/
def variableNamesUnder : List (Value × Value) → Value → List String
  | [], _ => []
  | (key, old) :: rest, path =>
    variableNamesOf old (joined path key) ++ variableNamesUnder rest path

end

/-- A mapping with its values overridden. -/
def mapping (env : Environment) (entries : Mapping) (path : String) :
    Except OverrideError Mapping :=
  entriesUnder env entries (.str path)

end Override

end RunnerAtlas
