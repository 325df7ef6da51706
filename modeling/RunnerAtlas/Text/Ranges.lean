/-!
# Sets of code points

A set of code points is given by the list of its inclusive ranges, the form in which the
character tables of the other `Text` modules are written.

## Main definitions

* `RunnerAtlas.Text.Ranges` — a list of inclusive ranges of code points.
* `RunnerAtlas.Text.Ranges.has` — membership of a code point.
-/

set_option autoImplicit false

namespace RunnerAtlas.Text

/-- A set of code points as a list of inclusive ranges. -/
abbrev Ranges := List (Nat × Nat)

/-- Whether a code point lies in one of the ranges. -/
def Ranges.has (ranges : Ranges) (code : Nat) : Bool :=
  ranges.any fun range => decide (range.1 ≤ code) && decide (code ≤ range.2)

/-- Membership is lying in one of the listed ranges. -/
theorem Ranges.has_iff (ranges : Ranges) (code : Nat) :
    ranges.has code = true ↔ ∃ range ∈ ranges, range.1 ≤ code ∧ code ≤ range.2 := by
  simp [Ranges.has]

end RunnerAtlas.Text
