import RunnerAtlas.Text.LetterCase
import RunnerAtlas.Text.Utf8
import RunnerAtlas.Validation.Problem
import RunnerAtlas.Value.Mapping

/-!
# Checks of values

A check reads a value as something more definite or gives all problems that it has. Checks of
several fields are combined so that no problem is lost.

## Main definitions

* `RunnerAtlas.Validation.Checked` — the outcome of a check.
* `RunnerAtlas.Validation.Checked.ap` — two checks side by side.
* `RunnerAtlas.Validation.text`, `RunnerAtlas.Validation.choice`, `RunnerAtlas.Validation.truth`,
  `RunnerAtlas.Validation.sequence` — checks of one value.
* `RunnerAtlas.Validation.required`, `RunnerAtlas.Validation.optional` — checks of a field.
-/

set_option autoImplicit false

namespace RunnerAtlas.Validation

open RunnerAtlas.Text

/-- The outcome of a check: the value that was read, or the problems found. -/
abbrev Checked (α : Type) := Except (List Problem) α

namespace Checked

variable {α β : Type}

/-- Two checks side by side: a function of one applied to the value of the other, or the problems
of both in this order. -/
def ap (f : Checked (α → β)) (x : Checked α) : Checked β :=
  match f, x with
  | .ok f, .ok x => .ok (f x)
  | .error p, .ok _ => .error p
  | .ok _, .error q => .error q
  | .error p, .error q => .error (p ++ q)

/-- A check that found one problem with the value itself. -/
def fail (kind : ProblemKind) : Checked α := .error [⟨[], kind⟩]

/-- The check of a part, its problems placed under the step that leads to it. -/
def under (step : Step) (x : Checked α) : Checked α :=
  x.mapError fun problems => problems.map fun p => ⟨step :: p.place, p.kind⟩

/-- The report of a check of a whole record. -/
def report (model : String) (x : Checked α) : Except Invalid α :=
  x.mapError fun problems => ⟨model, problems⟩

/-- The report of a check that succeeds is its value. -/
theorem report_ok (model : String) (a : α) : report model (.ok a) = .ok a := rfl

/-- A check that succeeds stays as it is under a step. -/
theorem under_ok (step : Step) (a : α) : under step (.ok a) = .ok a := rfl

/-- Two checks side by side succeed exactly if both do. -/
theorem ap_eq_ok_iff (f : Checked (α → β)) (x : Checked α) (b : β) :
    f.ap x = .ok b ↔ ∃ g a, f = .ok g ∧ x = .ok a ∧ g a = b := by
  cases f <;> cases x <;> simp [ap]

end Checked

/-- Where octets stand for a text they must spell one. -/
def decoded (octets : List UInt8) : Checked String :=
  match Utf8.decode? octets with
  | some cs => .ok (String.ofList cs)
  | none => .fail .unreadableText

/-- A text, or octets that spell one. -/
def text : Value → Checked String
  | .str s => .ok s
  | .bytes octets => decoded octets
  | _ => .fail .noText

/-- A text with at least one character. -/
def nonemptyText (v : Value) : Checked String := do
  let s ← text v
  if s = "" then .fail .emptyText else pure s

/-- The absent value or a text. -/
def text? : Value → Checked (Option String)
  | .null => .ok none
  | v => (text v).map some

/-- The text of a fixed list of choices that a pattern describes. -/
def choice (pattern : String) (choices : List String) (v : Value) : Checked String := do
  let s ← text v
  if choices.contains s then pure s else .fail (.mismatch pattern)

/-- The words that stand for truth. -/
def trueWords : List String := ["1", "on", "t", "true", "y", "yes"]

/-- The words that stand for falsehood. -/
def falseWords : List String := ["0", "off", "f", "false", "n", "no"]

/-- The truth value that a word stands for, without regard to the case of ASCII letters. -/
def truthOfWord (word : String) : Checked Bool :=
  let word := LetterCase.plainLowerText word
  if trueWords.contains word then .ok true
  else if falseWords.contains word then .ok false
  else .fail .unreadableTruth

/-- The truth value that a whole number stands for: one or zero, within the range of 64 bits. -/
def truthOfInt (n : Int) : Checked Bool :=
  if n < -0x8000000000000000 ∨ 0x8000000000000000 ≤ n then .fail .noTruth
  else if n = 1 then .ok true
  else if n = 0 then .ok false
  else .fail .unreadableTruth

/-- A truth value, or a number or word that stands for one. -/
def truth : Value → Checked Bool
  | .bool b => .ok b
  | .int n => truthOfInt n
  | .float x =>
    match x.toInt? with
    | some n => truthOfInt n
    | none => .fail .noTruth
  | .str s => truthOfWord s
  | .bytes octets =>
    match Utf8.decode? octets with
    | some cs => truthOfWord (String.ofList cs)
    | none => .fail .unreadableTruth
  | _ => .fail .noTruth

/-- The members of a sequence or set. -/
def members? : Value → Option (List Value)
  | .list items => some items
  | .tuple items => some items
  | .set items => some items
  | _ => none

/-- All members of a sequence from a position on, each by one check. -/
def all {α : Type} (check : Value → Checked α) : Nat → List Value → Checked (List α)
  | _, [] => .ok []
  | n, v :: vs =>
    Checked.ap (((check v).under (.index n)).map List.cons) (all check (n + 1) vs)

/-- A sequence or set whose members pass a check. -/
def sequence {α : Type} (check : Value → Checked α) (v : Value) : Checked (List α) :=
  match members? v with
  | some items => all check 0 items
  | none => .fail .noSequence

/-- The entries of a record of a model. -/
def record (model : String) : Value → Checked Mapping
  | .map entries => .ok entries
  | _ => .fail (.noRecord model)

/-- A field that must be present. -/
def required {α : Type} (entries : Mapping) (name : String) (check : Value → Checked α) :
    Checked α :=
  match entries.find? name with
  | some v => (check v).under (.field name)
  | none => (Checked.fail .missing).under (.field name)

/-- A field that has a default. -/
def optional {α : Type} (entries : Mapping) (name : String) (check : Value → Checked α)
    (default : α) : Checked α :=
  match entries.find? name with
  | some v => (check v).under (.field name)
  | none => .ok default

end RunnerAtlas.Validation
