import Mathlib.Data.List.Nodup
import Mathlib.Tactic.Lemma
import RunnerAtlas.CommandLine.Run

set_option relaxedAutoImplicit false
set_option autoImplicit false

/-!
# Records and warnings in what is written as errors

What a run writes as errors are the pieces of the console, one for each record that it passes on,
and between them the warnings, of which none is repeated. To take the warnings away leaves what the
console writes for the records alone, and each of them adds two lines to that.

## Main definitions

* `RunnerAtlas.CommandLine.pieces` — what a console writes for records, piece by piece.
* `RunnerAtlas.CommandLine.Origin.IsPlain` — a place and a line without breaks.

## Main results

* `RunnerAtlas.CommandLine.Outcome.written_ofExecution`,
  `RunnerAtlas.CommandLine.Outcome.errors_ofExecution` — the errors without the warnings.
* `RunnerAtlas.CommandLine.Outcome.mem_warnings_ofExecution`,
  `RunnerAtlas.CommandLine.Outcome.nodup_warnings_ofExecution` — the warnings.
* `RunnerAtlas.CommandLine.Outcome.count_standardError` — the number of lines.
-/

namespace RunnerAtlas.CommandLine

open Journal

/-! ### Pieces -/

/-- What a console writes for the records that it passes on, one piece for each. -/
def pieces (console : Console) (seconds : Int) (records : List Record) : List String :=
  (records.filter fun r => console.isEnabled r.level).map (console.written seconds)

/-- For other records the console writes nothing. -/
lemma join_pieces (console : Console) (seconds : Int) (records : List Record) :
    String.join (pieces console seconds records) = console.writtenAll seconds records := by
  unfold pieces Console.writtenAll
  induction records with
  | nil => rfl
  | cons r rest ih =>
    cases hr : console.isEnabled r.level with
    | true => simp [hr, ih]
    | false =>
      have hnothing : console.written seconds r = "" := if_neg (by simp [hr])
      simp [hr, ih, hnothing]

section Pieces

variable (console : Console) (seconds : Int) (given : List String) (events : List Event)

/-- The console writes one piece for each record that it passes on. -/
lemma filterMap_written_chunksFrom :
    (chunksFrom console seconds given events).filterMap Chunk.written? =
      pieces console seconds (events.filterMap Event.record?) := by
  unfold pieces
  fun_induction chunksFrom console seconds given events with
  | case1 => rfl
  | case2 given r rest others h ih =>
    simp only [List.filterMap_cons, Chunk.written?, Event.record?, List.filter_cons, if_pos h,
      List.map_cons]
    rw [ih]
  | case3 given r rest others h ih =>
    simp only [List.filterMap_cons, Event.record?, List.filter_cons, if_neg h]
    rw [ih]
  | case4 given text rest h ih => simpa only [List.filterMap_cons, Event.record?] using ih
  | case5 given text rest h ih =>
    simpa only [List.filterMap_cons, Chunk.written?, Event.record?] using ih

/-- What the pieces warn of has happened, and was not given before. -/
lemma mem_warnings_chunksFrom (text : String) :
    text ∈ (chunksFrom console seconds given events).filterMap Chunk.warning? ↔
      .warned text ∈ events ∧ text ∉ given := by
  fun_induction chunksFrom console seconds given events with
  | case1 => simp
  | case2 given r rest others h ih =>
    simp only [List.filterMap_cons, Chunk.warning?]
    rw [ih]
    simp
  | case3 given r rest others h ih =>
    rw [ih]
    simp
  | case4 given text' rest h ih =>
    have hgiven : text' ∈ given := List.contains_iff_mem.mp h
    rw [ih, List.mem_cons]
    refine and_congr_left fun hnew => ⟨.inr, fun hmem => hmem.resolve_left ?_⟩
    rintro ⟨⟩
    exact hnew hgiven
  | case5 given text' rest h ih =>
    have hgiven : text' ∉ given := fun hmem => h (List.contains_iff_mem.mpr hmem)
    simp only [List.filterMap_cons, Chunk.warning?]
    rw [List.mem_cons, ih, List.mem_cons, List.mem_cons]
    by_cases heq : text = text'
    · subst heq
      simp [hgiven]
    · simp [heq]

/-- No warning is repeated. -/
lemma nodup_warnings_chunksFrom :
    ((chunksFrom console seconds given events).filterMap Chunk.warning?).Nodup := by
  fun_induction chunksFrom console seconds given events with
  | case1 => exact .nil
  | case2 given r rest others h ih => exact ih
  | case3 given r rest others h ih => exact ih
  | case4 given text rest h ih => exact ih
  | case5 given text rest h ih =>
    refine List.nodup_cons.mpr ⟨fun hmem => ?_, ih⟩
    exact ((mem_warnings_chunksFrom console seconds _ rest text).mp hmem).2 List.mem_cons_self

end Pieces

/-! ### Outcomes -/

/-- The records of a course that succeeds are those of its events. -/
lemma recordsOf_of_ok {course : Logged CommandError Report} {report : Report}
    (h : course.outcome = .ok report) : recordsOf course = course.records := by
  rw [recordsOf, eventsOf, h]
  rfl

/-- The records of a course that fails are those of its events and the one of its failure. -/
lemma recordsOf_of_error {course : Logged CommandError Report} {e : CommandError}
    (h : course.outcome = .error e) : recordsOf course = course.records ++ [failureRecord e] := by
  rw [recordsOf, eventsOf, h]
  exact List.filterMap_append

namespace Outcome

variable (seconds : Int) (e : Execution)

/-- The pieces of the outcome of a course. -/
lemma chunks_ofExecution :
    (ofExecution seconds e).chunks = chunksFrom e.console seconds [] (eventsOf e.course) := by
  unfold ofExecution
  cases e.course.outcome <;> rfl

/-- What a course writes as errors, but for warnings, are the pieces of the console for its
records. -/
theorem written_ofExecution :
    (ofExecution seconds e).written = pieces e.console seconds (recordsOf e.course) := by
  rw [written, chunks_ofExecution, filterMap_written_chunksFrom]
  rfl

/-- What a course writes as errors, but for warnings, is what the console writes for its records. -/
theorem errors_ofExecution :
    (ofExecution seconds e).errors = e.console.writtenAll seconds (recordsOf e.course) := by
  rw [errors, written_ofExecution, join_pieces]

/-- A course has warned of what is warned of in its events. -/
theorem mem_warnings_ofExecution (text : String) :
    text ∈ (ofExecution seconds e).warnings ↔ .warned text ∈ e.course.events := by
  rw [warnings, chunks_ofExecution, mem_warnings_chunksFrom, eventsOf]
  cases e.course.outcome <;> simp

/-- A course warns of nothing twice. -/
theorem nodup_warnings_ofExecution : (ofExecution seconds e).warnings.Nodup := by
  rw [warnings, chunks_ofExecution]
  exact nodup_warnings_chunksFrom _ _ _ _

end Outcome

/-! ### Lines -/

/-- A place and a line without breaks. -/
structure Origin.IsPlain (origin : Origin) : Prop where
  /-- The place has no break. -/
  place : '\n' ∉ origin.place.toList
  /-- The line has no break. -/
  line : '\n' ∉ origin.line.toList

/-- A warning without breaks takes two lines. -/
lemma Origin.IsPlain.count_text {origin : Origin} (h : origin.IsPlain) {text : String}
    (htext : '\n' ∉ text.toList) : ((Chunk.warning text).text origin).toList.count '\n' = 2 := by
  have hplace := List.count_eq_zero.mpr h.place
  have hline := List.count_eq_zero.mpr h.line
  have htext := List.count_eq_zero.mpr htext
  show (origin.place ++ ": FutureWarning: " ++ text ++ "\n  " ++ origin.line ++ "\n").toList.count
    '\n' = 2
  simp only [String.toList_append, List.count_append, hplace, hline, htext]
  decide

namespace Outcome

/-- Without warnings nothing else is written as errors. -/
theorem standardError_eq {o : Outcome} (h : o.warnings = []) (origin : Origin) :
    o.standardError origin = o.errors := by
  have hchunks : ∀ chunks : List Chunk, chunks.filterMap Chunk.warning? = [] →
      chunks.map (Chunk.text origin) = chunks.filterMap Chunk.written? := by
    intro chunks hnone
    induction chunks with
    | nil => rfl
    | cons chunk rest ih =>
      cases chunk with
      | warning text => cases hnone
      | written text => exact congrArg (text :: ·) (ih hnone)
  rw [standardError, hchunks _ h, errors, written]

/-- Each warning adds two lines to what else is written as errors. -/
theorem count_standardError {o : Outcome} (h : ∀ text ∈ o.warnings, '\n' ∉ text.toList)
    {origin : Origin} (horigin : origin.IsPlain) :
    (o.standardError origin).toList.count '\n' =
      o.errors.toList.count '\n' + 2 * o.warnings.length := by
  have hchunks : ∀ chunks : List Chunk,
      (∀ text ∈ chunks.filterMap Chunk.warning?, '\n' ∉ text.toList) →
      (String.join (chunks.map (Chunk.text origin))).toList.count '\n' =
        (String.join (chunks.filterMap Chunk.written?)).toList.count '\n' +
          2 * (chunks.filterMap Chunk.warning?).length := by
    intro chunks hplain
    induction chunks with
    | nil => rfl
    | cons chunk rest ih =>
      rw [List.map_cons, String.join_cons, String.toList_append, List.count_append]
      cases chunk with
      | warning text =>
        obtain ⟨htext, hrest⟩ := List.forall_mem_cons.mp hplain
        simp only [List.filterMap_cons, Chunk.warning?, Chunk.written?, List.length_cons]
        rw [horigin.count_text htext, ih hrest]
        omega
      | written text =>
        have hsame : (Chunk.written text).text origin = text := rfl
        simp only [List.filterMap_cons, Chunk.warning?, Chunk.written?]
        rw [hsame, ih hplain, String.join_cons, String.toList_append, List.count_append]
        omega
  exact hchunks o.chunks h

end Outcome

end RunnerAtlas.CommandLine
