import RunnerAtlas.Project.Basic

/-!
# Definitions of projects

A project is defined by a mapping with a `targets` entry, which maps the name of each target to a
mapping with its `platform`. A key or name that has no text ends the reading of a definition.

## Main definitions

* `RunnerAtlas.DefinitionError` — what is malformed about a definition.
* `RunnerAtlas.Definition.target` — the target of one entry.
* `RunnerAtlas.Definition.project` — the project of a definition.
-/

set_option autoImplicit false

namespace RunnerAtlas

open Validation

/-- What is malformed about a definition. -/
inductive DefinitionError where
  /-- The definition is no mapping. -/
  | noMapping
  /-- The definition has no mapping of targets. -/
  | noTargets
  /-- The entry of a target is no mapping. -/
  | targetNoMapping (key : Value)
  /-- The entry of a target does not fit the model. -/
  | invalidTarget (key : Value) (report : Invalid)
  /-- The key of a target or the name of the project has no text. -/
  | unshowable

/-- The message of an error. -/
def DefinitionError.message : DefinitionError → String
  | noMapping => "Project definition must be a mapping"
  | noTargets => "Project definition is missing a 'targets' mapping"
  | targetNoMapping key => s!"Target {key.literal} must be a mapping"
  | invalidTarget key report => s!"Invalid target {key.literal}: {report.message}"
  | unshowable => Value.unshowableMessage

/-- Whether an error blames the definition for its form. -/
def DefinitionError.isMalformed : DefinitionError → Bool
  | unshowable => false
  | _ => true

/-- The report that an error was caused by. -/
def DefinitionError.cause? : DefinitionError → Option Invalid
  | invalidTarget _ report => some report
  | _ => none

namespace Definition

/-- The platforms that an entry gives. An entry without platforms has the empty list. -/
def platformOf (spec : Mapping) : Value :=
  let platform := Mapping.findD spec "platform"
  if platform.isEmpty then .list [] else platform

/-- The target of one entry. -/
def target (key spec : Value) : Except DefinitionError Target :=
  if key.isShowable then
    match spec with
    | .map spec =>
      (Target.ofRecord [(.str "name", .str key.display),
        (.str "platform", platformOf spec)]).mapError (.invalidTarget key)
    | _ => .error (.targetNoMapping key)
  else .error .unshowable

/-- The targets of entries, put one after the other under the texts of their keys. -/
def targetsInto : NamedTargets → Mapping → Except DefinitionError NamedTargets
  | targets, [] => .ok targets
  | targets, (key, spec) :: rest => do
    let t ← target key spec
    targetsInto (targets.put key.display t) rest

/-- The name of a project: the one it gives itself, or else the fallback. -/
def nameOf (entries : Mapping) (fallback : Option String) :
    Except DefinitionError (Option String) :=
  let own := Mapping.findD entries "name"
  if own.isEmpty then .ok fallback
  else if own.isShowable then .ok (some own.display)
  else .error .unshowable

/-- The project of a definition. -/
def project (data : Value) (fallback : Option String) : Except DefinitionError Project :=
  match data with
  | .map entries =>
    match Mapping.find? entries "targets" with
    | some (.map targets) => do
      let targets ← targetsInto .empty targets
      let name ← nameOf entries fallback
      pure ⟨name, targets⟩
    | _ => .error .noTargets
  | _ => .error .noMapping

end Definition

end RunnerAtlas
