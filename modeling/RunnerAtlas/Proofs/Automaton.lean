import Mathlib.Data.List.Induction
import Mathlib.Tactic.Lemma
import RunnerAtlas.Automaton

set_option relaxedAutoImplicit false
set_option autoImplicit false

/-!
# Runs of automata

What an automaton answers at a place of a run depends on the inputs before it only, through the
state that they leave. Some inputs may set something in the state that the others keep. Then a whole
run leaves what the last of them has set.

## Main results

* `RunnerAtlas.Automaton.getElem?_trace` — the answer at a place of a run.
* `RunnerAtlas.Automaton.stateAfter_of_last` — what a run leaves, by the last input that sets
  something.
-/

namespace RunnerAtlas.Automaton

variable {σ ι ω β : Type} {step : σ → ι → ω × σ}

/-! ### Runs in parts -/

/-- A run goes on from the state that its first part leaves. -/
lemma stateAfter_append (s : σ) (past future : List ι) :
    stateAfter step s (past ++ future) = stateAfter step (stateAfter step s past) future :=
  List.foldl_append

/-- The last input of a run is taken in the state that those before it leave. -/
lemma stateAfter_concat (s : σ) (past : List ι) (i : ι) :
    stateAfter step s (past ++ [i]) = (step (stateAfter step s past) i).2 :=
  stateAfter_append s past [i]

/-- The answers of a run are those of its first part and those from the state which that leaves. -/
lemma trace_append (s : σ) (past future : List ι) :
    trace step s (past ++ future) =
      trace step s past ++ trace step (stateAfter step s past) future := by
  induction past generalizing s with
  | nil => rfl
  | cons i rest ih =>
    rw [List.cons_append, trace, trace, ih, List.cons_append]
    rfl

/-- Each input has one answer. -/
lemma length_trace (s : σ) (inputs : List ι) : (trace step s inputs).length = inputs.length := by
  induction inputs generalizing s with
  | nil => rfl
  | cons i rest ih => rw [trace, List.length_cons, List.length_cons, ih]

/-- The answer at a place of a run is that in the state which the inputs before it leave. What comes
after makes no difference. -/
theorem getElem?_trace (s : σ) (past future : List ι) (i : ι) :
    (trace step s (past ++ i :: future))[past.length]? =
      some (step (stateAfter step s past) i) := by
  have hlength : (trace step s past).length ≤ past.length := Nat.le_of_eq (length_trace s past)
  rw [trace_append, List.getElem?_append_right hlength, length_trace, Nat.sub_self, trace]
  rfl

/-! ### What the last input has set -/

/-- **The last input counts.** Some inputs set something, and a property relates what was set last,
or that nothing was set, to the state. If the property holds at the start, an input that sets
something makes it hold of that, and all others keep it, then it holds after every run whose answers
are fine.

**Proof sketch.** Induction on the run from its end. The last input either sets what is set last, or
leaves that to the inputs before it. -/
theorem stateAfter_of_last {sets : ι → Option β} {s : σ} (Holds : Option β → σ → Prop)
    (Fine : ω → Prop) (hstart : Holds none s)
    (hset : ∀ last s i b, sets i = some b → Fine (step s i).1 → Holds last s →
      Holds (some b) (step s i).2)
    (hkeep : ∀ last s i, sets i = none → Fine (step s i).1 → Holds last s →
      Holds last (step s i).2)
    (inputs : List ι) (hfine : ∀ x ∈ trace step s inputs, Fine x.1) :
    Holds (inputs.filterMap sets).getLast? (stateAfter step s inputs) := by
  induction inputs using List.reverseRecOn with
  | nil => exact hstart
  | append_singleton past i ih =>
    rw [trace_append] at hfine
    have hpast := ih fun x hx => hfine x (List.mem_append_left _ hx)
    have hi : Fine (step (stateAfter step s past) i).1 :=
      hfine _ (List.mem_append_right _ (List.mem_singleton_self _))
    rw [stateAfter_concat, List.filterMap_append]
    cases hsets : sets i with
    | none =>
      have hnothing : [i].filterMap sets = [] := List.filterMap_cons_none hsets
      rw [hnothing, List.append_nil]
      exact hkeep _ _ _ hsets hi hpast
    | some b =>
      have hlast : [i].filterMap sets = [b] := List.filterMap_cons_some hsets
      rw [hlast, List.getLast?_concat]
      exact hset _ _ _ _ hsets hi hpast

end RunnerAtlas.Automaton
