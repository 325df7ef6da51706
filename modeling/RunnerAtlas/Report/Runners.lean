import RunnerAtlas.Project.Basic
import RunnerAtlas.Report.Basic

/-!
# Reports on runners

The runners of a platform and the entries of a project as reports.

## Main definitions

* `RunnerAtlas.Runner.report`, `RunnerAtlas.Entry.report` — the record of a runner or an entry.
* `RunnerAtlas.Report.ofRunners`, `RunnerAtlas.Report.ofEntries` — the lists of records.
-/

set_option autoImplicit false

namespace RunnerAtlas

/-- The record of a runner. -/
def Runner.report (r : Runner) : Report := .record [("name", .text r.name), ("udid", .text r.udid)]

/-- The list of runners. -/
def Report.ofRunners (runners : List Runner) : Report := .list (runners.map Runner.report)

/-- The record of an entry. -/
def Entry.report (e : Entry) : Report :=
  .record [("name", .text e.name), ("target", .text e.target), ("platform", .text e.platform),
    ("runners", .ofRunners e.runners)]

/-- The list of entries. -/
def Report.ofEntries (entries : List Entry) : Report := .list (entries.map Entry.report)

end RunnerAtlas
