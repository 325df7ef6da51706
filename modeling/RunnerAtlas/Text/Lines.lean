/-!
# Line ends

A text file may end its lines by a line feed, by a carriage return, or by both; its text has line
feeds only.

## Main definitions

* `RunnerAtlas.Text.Lines.normalise` — the text with every line end written as a line feed.
-/

set_option autoImplicit false

namespace RunnerAtlas.Text.Lines

/-- The text with every line end written as one line feed. -/
def normalise : List Char → List Char
  | [] => []
  | '\r' :: '\n' :: rest => '\n' :: normalise rest
  | '\r' :: rest => '\n' :: normalise rest
  | c :: rest => c :: normalise rest

/-- No carriage return is left. -/
theorem normalise_no_return (cs : List Char) : '\r' ∉ normalise cs := by
  fun_induction normalise cs with
  | case1 => simp
  | case2 rest ih => simpa using ih
  | case3 rest _ ih => simpa using ih
  | case4 c rest _ hc ih =>
    intro h
    rcases List.mem_cons.1 h with h | h
    · exact hc h.symm
    · exact ih h

end RunnerAtlas.Text.Lines
