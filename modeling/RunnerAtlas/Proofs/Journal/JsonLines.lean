import RunnerAtlas.Proofs.Journal.Sessions
import RunnerAtlas.Proofs.Json.Output

set_option relaxedAutoImplicit false
set_option autoImplicit false

/-!
# Records in lines of JSON

In JSON a record is one line of printable ASCII, whatever characters stand in it, and the decoder
reads back its moment, the name of its level, its source and its message. So nothing in a message
ends the line or passes for another record. What the console writes in JSON is read back, line by
line, as the records that it has passed on.

## Main definitions

* `RunnerAtlas.Json.decodeLines` — the values of lines.
* `RunnerAtlas.Journal.Record.value` — what a record stands for in JSON.
* `RunnerAtlas.Journal.InJsonLines` — a text is read back as records, one from each line.
* `RunnerAtlas.Journal.Console.passedIn`, `RunnerAtlas.Journal.Console.writtenIn` — the records that
  a console passes on in a session, and what it writes.

## Main results

* `RunnerAtlas.Journal.decode_lineOf_json` — a record in JSON is read back.
* `RunnerAtlas.Journal.inJsonLines_jsonText` — records in JSON are read back line by line.
* `RunnerAtlas.Journal.jsonText_eq_iff` — records that are written alike stand for the same.
* `RunnerAtlas.Journal.Console.writtenIn_eq` — what a session in JSON writes.
-/

namespace RunnerAtlas

/-! ### Lines -/

namespace Json

/-- The values of lines, if each of them spells one and ends with a break. -/
def decodeLines (cs : List Char) : Option (List Value) :=
  let parts := cs.splitOn '\n'
  if parts.getLast? = some [] then parts.dropLast.mapM decode else none

/-- A line is decoded before the lines that follow it. -/
lemma decodeLines_append {line rest : List Char} {v : Value} {vs : List Value}
    (hbreak : '\n' ∉ line) (hline : decode line = some v) (hrest : decodeLines rest = some vs) :
    decodeLines (line ++ '\n' :: rest) = some (v :: vs) := by
  have hsplit : (line ++ '\n' :: rest).splitOn '\n' = line :: rest.splitOn '\n' := by
    rw [List.splitOn_eq_splitOnP, List.splitOn_eq_splitOnP]
    refine List.splitOnP_append_cons_of_forall_mem (fun c hc => ?_) '\n' (by decide) _
    exact beq_eq_false_iff_ne.mpr fun h => hbreak (h ▸ hc)
  have hparts : rest.splitOn '\n' ≠ [] := List.splitOn_ne_nil _ _
  unfold decodeLines at hrest ⊢
  dsimp only at hrest ⊢
  rw [hsplit]
  generalize rest.splitOn '\n' = parts at hrest hparts
  split_ifs at hrest with hlast
  have hlast' : (line :: parts).getLast? = some [] := by
    rw [List.getLast?_cons, hlast, Option.getD_some]
  rw [if_pos hlast', List.dropLast_cons_of_ne_nil hparts, List.mapM_cons, hline, hrest]
  rfl

end Json

namespace Journal

open Automaton Calendar

/-! ### Records -/

/-- What a record stands for in JSON, at a moment. -/
def Record.value (t : Moment) (r : Record) : Value :=
  .map [(.str "ts", .str (stampText t)), (.str "level", .str (levelName r.level)),
    (.str "logger", .str r.source), (.str "msg", .str r.message)]

/-- A record in JSON is printable. -/
lemma isPrintable_lineOf_json (t : Moment) (r : Record) :
    ∀ c ∈ (lineOf .json t r).toList, Report.IsPrintable c :=
  Report.isPrintable_line _

/-- A record in JSON is read back. -/
theorem decode_lineOf_json (t : Moment) (r : Record) :
    Json.decode (lineOf .json t r).toList = some (r.value t) :=
  Report.decode_line _

/-- A record in JSON has no break inside. -/
lemma break_notMem_lineOf_json (t : Moment) (r : Record) : '\n' ∉ (lineOf .json t r).toList :=
  fun h => absurd (isPrintable_lineOf_json t r _ h) (by decide)

/-- Records in JSON, one on each line. -/
def jsonText (records : List (Moment × Record)) : String :=
  String.join (records.map fun x => lineOf .json x.1 x.2 ++ "\n")

/-- The line of the first record comes before the others. -/
lemma jsonText_cons (x : Moment × Record) (xs : List (Moment × Record)) :
    jsonText (x :: xs) = lineOf .json x.1 x.2 ++ "\n" ++ jsonText xs := by
  rw [jsonText, List.map_cons, String.join_cons]
  rfl

/-- Records in JSON come one after the other. -/
lemma jsonText_append (xs ys : List (Moment × Record)) :
    jsonText (xs ++ ys) = jsonText xs ++ jsonText ys := by
  rw [jsonText, List.map_append, String.join_append]
  rfl

/-- A text in printable ASCII and breaks has one line for each of some records, and these are read
back from the lines in their order. -/
structure InJsonLines (text : String) (records : List (Moment × Record)) : Prop where
  /-- Apart from the breaks, the text is in printable ASCII. -/
  laidOut : ∀ c ∈ text.toList, Report.IsLaidOut c
  /-- There are as many breaks as records. -/
  breaks : text.toList.count '\n' = records.length
  /-- The lines are decoded to the records. -/
  decoded : Json.decodeLines text.toList = some (records.map fun x => x.2.value x.1)

/-- **Records in JSON are read back.** The lines of records in JSON are as many as the records, and
are decoded to them.

**Proof sketch.** Induction on the records. The line of the first one has no break but at its end
(`break_notMem_lineOf_json`), so that it is decoded by itself (`Json.decodeLines_append`). -/
theorem inJsonLines_jsonText (records : List (Moment × Record)) :
    InJsonLines (jsonText records) records := by
  induction records with
  | nil => exact ⟨fun c h => absurd h List.not_mem_nil, rfl, rfl⟩
  | cons x rest ih =>
    have htext : (jsonText (x :: rest)).toList =
        (lineOf .json x.1 x.2).toList ++ '\n' :: (jsonText rest).toList := by
      rw [jsonText_cons, String.toList_append, String.toList_append, List.append_assoc]
      rfl
    have hbreak := break_notMem_lineOf_json x.1 x.2
    refine ⟨fun c hc => ?_, ?_, ?_⟩
    · rw [htext, List.mem_append, List.mem_cons] at hc
      rcases hc with hc | hc | hc
      · exact .inl (isPrintable_lineOf_json _ _ c hc)
      · exact .inr hc
      · exact ih.laidOut c hc
    · rw [htext, List.count_append, List.count_cons_self, ih.breaks,
        List.count_eq_zero_of_not_mem hbreak, List.length_cons, Nat.zero_add]
    · rw [htext, List.map_cons]
      exact Json.decodeLines_append hbreak (decode_lineOf_json _ _) ih.decoded

/-- Records that stand for the same are written in the same line. -/
lemma lineOf_json_eq_of_value {t t' : Moment} {r r' : Record} (h : r.value t = r'.value t') :
    lineOf .json t r = lineOf .json t' r' := by
  simp only [Record.value, Value.map.injEq, List.cons.injEq, Prod.mk.injEq, Value.str.injEq] at h
  obtain ⟨⟨-, hstamp⟩, ⟨-, hlevel⟩, ⟨-, hsource⟩, ⟨-, hmessage⟩, -⟩ := h
  rw [lineOf, lineOf, hstamp, hlevel, hsource, hmessage]

/-- **No record is forged.** Records are written alike in JSON exactly if they stand for the same,
one for one: nothing in a message passes for another record.

**Proof sketch.** The same lines are decoded to the same values (`inJsonLines_jsonText`), and
records with the same values have the same lines (`lineOf_json_eq_of_value`). -/
theorem jsonText_eq_iff (xs ys : List (Moment × Record)) :
    jsonText xs = jsonText ys ↔
      (xs.map fun x => x.2.value x.1) = ys.map fun y => y.2.value y.1 := by
  constructor
  · intro h
    have hxs := (inJsonLines_jsonText xs).decoded
    rw [h, (inJsonLines_jsonText ys).decoded] at hxs
    exact (Option.some.inj hxs).symm
  · intro h
    induction xs generalizing ys with
    | nil => rw [List.map_eq_nil_iff.mp h.symm]
    | cons x xs ih =>
      cases ys with
      | nil => cases h
      | cons y ys =>
        obtain ⟨hline, hrest⟩ := List.cons.inj h
        rw [jsonText_cons, jsonText_cons, ih ys hrest, lineOf_json_eq_of_value hline]

/-! ### Sessions -/

/-- A step keeps to JSON: it configures that format, or it logs and its values fit its template. -/
def SessionStep.InJson : SessionStep → Prop
  | configure _ format => format = "json"
  | log call => call.record?.isSome

/-- The names by which the console was configured last give the format of its handler, also if the
name of the level was refused. -/
lemma handlers_consoleAfter {past : List SessionStep} {level format : String}
    (h : lastNames past = some (level, format)) :
    (consoleAfter past).handlers = [⟨.ofName format, true⟩] := by
  let HandledBy (names? : Option (String × String)) (c : Console) : Prop :=
    c.handlers = names?.toList.map fun names => ⟨.ofName names.2, true⟩
  have hhandled : HandledBy (lastNames past) (consoleAfter past) := by
    refine stateAfter_of_last HandledBy (fun _ => True) rfl ?_ ?_ past fun _ _ => trivial
    · intro last c i names hnames _ hc
      cases i with
      | log call => cases hnames
      | configure level format =>
        cases hnames
        refine Console.handlers_configure_of_isOwn (fun handler hmem => ?_) level format
        rw [hc] at hmem
        obtain ⟨_, -, rfl⟩ := List.mem_map.mp hmem
        rfl
    · intro last c i hnames _ hc
      cases i with
      | log call => exact hc
      | configure level format => cases hnames
  rw [h] at hhandled
  exact hhandled

namespace Console

/-- The records that a console passes on in a step, with their moments. -/
def passed (c : Console) : SessionStep → List (Moment × Record)
  | .configure _ _ => []
  | .log call =>
    (call.record?.filter fun r => c.isEnabled r.level).toList.map fun r =>
      (ofUnixSeconds call.seconds, r)

/-- The records that are passed on in a session, from a console on. -/
def passedIn (c : Console) : List SessionStep → List (Moment × Record)
  | [] => []
  | i :: rest => c.passed i ++ passedIn (c.step i).2 rest

/-- What is written in a session, from a console on. -/
def writtenIn (c : Console) (steps : List SessionStep) : String :=
  String.join ((trace Console.step c steps).map fun x => x.1.written)

/-- What a console with one handler for JSON writes in a step are the records that it passes on. A
step that keeps to JSON leaves such a console. -/
lemma step_inJson {c : Console} (hc : c.handlers = [⟨.json, true⟩]) {i : SessionStep}
    (hi : i.InJson) :
    (c.step i).1.written = jsonText (c.passed i) ∧ (c.step i).2.handlers = [⟨.json, true⟩] := by
  cases i with
  | configure level format =>
    cases hi
    exact ⟨rfl, handlers_configure_of_isOwn (by simp [hc]) level "json"⟩
  | log call =>
    refine ⟨?_, hc⟩
    obtain ⟨r, hr⟩ := Option.isSome_iff_exists.mp hi
    have hwritten : (c.step (.log call)).1.written = c.written call.seconds r := by
      simp [Console.step, hr]
    rw [hwritten, written_of_configured hc, passed, hr]
    by_cases h : 0 < r.level ∧ c.level ≤ r.level
    · rw [if_pos h, Option.filter_some, if_pos ((c.isEnabled_iff _).mpr h)]
      exact String.empty_append.symm
    · rw [if_neg h, Option.filter_some, if_neg (mt (c.isEnabled_iff _).mp h)]
      rfl

/-- **What a session in JSON writes.** From a console with one handler for JSON on, as long as all
steps keep to JSON, the lines of the records that are passed on are written.

**Proof sketch.** Induction on the steps, each of which keeps the handler (`step_inJson`). -/
theorem writtenIn_eq {c : Console} (hc : c.handlers = [⟨.json, true⟩]) {steps : List SessionStep}
    (hsteps : ∀ i ∈ steps, i.InJson) : c.writtenIn steps = jsonText (c.passedIn steps) := by
  induction steps generalizing c with
  | nil => rfl
  | cons i rest ih =>
    obtain ⟨hi, hrest⟩ := List.forall_mem_cons.mp hsteps
    obtain ⟨hwritten, hhandlers⟩ := step_inJson hc hi
    have hcons : c.writtenIn (i :: rest) =
        (c.step i).1.written ++ (c.step i).2.writtenIn rest := by
      rw [writtenIn, trace, List.map_cons, String.join_cons]
      rfl
    rw [hcons, hwritten, ih hhandlers hrest, passedIn, jsonText_append]

end Console

end Journal

end RunnerAtlas
