/-!
# Automata

An automaton takes inputs one after the other. Each input is answered, and it may change the state
in which the next one is taken.

## Main definitions

* `RunnerAtlas.Automaton.trace` — the answers to inputs, with the states that they leave.
* `RunnerAtlas.Automaton.stateAfter` — the state that all of them leave.
-/

set_option autoImplicit false

namespace RunnerAtlas.Automaton

variable {σ ι ω : Type}

/-- The answers to inputs from a state on, each with the state that the input leaves. -/
def trace (step : σ → ι → ω × σ) : σ → List ι → List (ω × σ)
  | _, [] => []
  | s, i :: rest => step s i :: trace step (step s i).2 rest

/-- The state that inputs leave. -/
def stateAfter (step : σ → ι → ω × σ) (s : σ) (inputs : List ι) : σ :=
  inputs.foldl (fun s i => (step s i).2) s

end RunnerAtlas.Automaton
