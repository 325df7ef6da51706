/-!
# Problems of a record

A record that does not fit its model is reported with all its problems at once, in the order of
the model's fields, each with the place where it was found.

## Main definitions

* `RunnerAtlas.Validation.Step` — one step of a place.
* `RunnerAtlas.Validation.ProblemKind`, `RunnerAtlas.Validation.Problem` — problems.
* `RunnerAtlas.Validation.Invalid` — the report on a record, with `Invalid.message`.
-/

set_option autoImplicit false

namespace RunnerAtlas.Validation

/-- One step of the place of a problem. -/
inductive Step where
  /-- A field or the key of a mapping. -/
  | field (name : String)
  /-- A member of a sequence. -/
  | index (n : Nat)
  /-- The key itself, where the key of a mapping is at fault. -/
  | key
  deriving DecidableEq

/-- A step as text. A name that holds a point is set between grave accents. -/
def Step.text : Step → String
  | field name => if name.toList.contains '.' then "\x60" ++ name ++ "\x60" else name
  | index n => toString n
  | key => "[key]"

/-- What is wrong with a value. -/
inductive ProblemKind where
  /-- A field without default is absent. -/
  | missing
  /-- The value is no text. -/
  | noText
  /-- The octets do not spell a text. -/
  | unreadableText
  /-- The text has no character. -/
  | emptyText
  /-- The text is not of the form that the pattern describes. -/
  | mismatch (pattern : String)
  /-- The value is of a kind that no truth value comes from. -/
  | noTruth
  /-- The value does not spell a truth value. -/
  | unreadableTruth
  /-- The value is no sequence. -/
  | noSequence
  /-- The value is no mapping. -/
  | noMapping
  /-- The value is not a record of the model. -/
  | noRecord (model : String)
  /-- A record cannot be changed. -/
  | frozen
  deriving DecidableEq

/-- The text of a problem, with its code. -/
def ProblemKind.text : ProblemKind → String
  | missing => "Field required [type=missing]"
  | noText => "Input should be a valid string [type=string_type]"
  | unreadableText =>
    "Input should be a valid string, unable to parse raw data as a unicode string " ++
      "[type=string_unicode]"
  | emptyText => "String should have at least 1 character [type=string_too_short]"
  | mismatch pattern =>
    "String should match pattern '" ++ pattern ++ "' [type=string_pattern_mismatch]"
  | noTruth => "Input should be a valid boolean [type=bool_type]"
  | unreadableTruth =>
    "Input should be a valid boolean, unable to interpret input [type=bool_parsing]"
  | noSequence => "Input should be a valid tuple [type=tuple_type]"
  | noMapping => "Input should be a valid dictionary [type=dict_type]"
  | noRecord model =>
    "Input should be a valid dictionary or instance of " ++ model ++ " [type=model_type]"
  | frozen => "Instance is frozen [type=frozen_instance]"

/-- A problem and its place, the outermost step first. -/
structure Problem where
  /-- The place. -/
  place : List Step
  /-- What is wrong there. -/
  kind : ProblemKind
  deriving DecidableEq

/-- The lines that report a problem; one with the whole record has no line for its place. -/
def Problem.text (p : Problem) : String :=
  let place := if p.place.isEmpty then "" else
    "\n" ++ String.intercalate "." (p.place.map Step.text)
  place ++ "\n  " ++ p.kind.text

/-- The report on a record that does not fit its model. -/
structure Invalid where
  /-- The name of the model. -/
  model : String
  /-- The problems, in the order of the fields. -/
  problems : List Problem
  deriving DecidableEq

/-- The report as text. -/
def Invalid.message (report : Invalid) : String :=
  let count := report.problems.length
  let noun := if count = 1 then "validation error" else "validation errors"
  s!"{count} {noun} for {report.model}" ++ String.join (report.problems.map Problem.text)

end RunnerAtlas.Validation
