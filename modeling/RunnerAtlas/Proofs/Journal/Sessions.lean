import RunnerAtlas.Journal.Session
import RunnerAtlas.Proofs.Automaton

set_option relaxedAutoImplicit false
set_option autoImplicit false

/-!
# What a session writes

Until the console is configured in a session, the messages of warnings and failures are written
bare. From then on there is one handler of its own at a time. It writes each record that is passed
on once, in the format and from the level on by which the console was configured last.

## Main definitions

* `RunnerAtlas.Journal.LevelNamed` — the number of the level that a name stands for.
* `RunnerAtlas.Journal.lastNames` — the names by which the console was configured last.
* `RunnerAtlas.Journal.Writes` — what a session writes for a call.

## Main results

* `RunnerAtlas.Journal.LevelNamed.unique` — a name stands for one level.
* `RunnerAtlas.Journal.Console.ownHandlers_configure` — a console has one handler of its own after
  it is configured.
* `RunnerAtlas.Journal.Console.written_of_configured` — what a console with one handler writes.
* `RunnerAtlas.Journal.session_writes` — what sessions of any length leave behind and write.
-/

namespace RunnerAtlas.Journal

open Automaton Calendar RunnerAtlas.Text

/-! ### Names of levels -/

/-- A name stands for the level with a number. Letter case makes no difference, and an unknown name
stands for the course of a run. -/
inductive LevelNamed (name : String) : Int → Prop where
  /-- The name is known. -/
  | known {level : Level} (h : (LetterCase.upperText name, level) ∈ levelNames) :
    LevelNamed name level.number
  /-- The name is unknown. -/
  | unknown (h : ∀ level, (LetterCase.upperText name, level) ∉ levelNames) :
    LevelNamed name Level.info.number

/-- A name stands for one level. -/
theorem LevelNamed.unique {name : String} {m n : Int} (hm : LevelNamed name m)
    (hn : LevelNamed name n) : m = n := by
  have hdistinct : ∀ x ∈ levelNames, ∀ y ∈ levelNames, x.1 = y.1 → x.2 = y.2 := by decide
  cases hm with
  | known hm =>
    cases hn with
    | known hn => exact congrArg Level.number (hdistinct _ hm _ hn rfl)
    | unknown hn => exact absurd hm (hn _)
  | unknown hm =>
    cases hn with
    | known hn => exact absurd hn (hm _)
    | unknown => rfl

/-- A name that is not refused stands for the level that it is read as. -/
lemma levelNamed_of_eq_ok {name : String} {level : Level} (h : levelNamed name = .ok level) :
    LevelNamed name level.number := by
  unfold levelNamed at h
  dsimp only at h
  split_ifs at h
  cases hlookup : levelNames.lookup (LetterCase.upperText name) with
  | some found =>
    rw [hlookup] at h
    cases h
    obtain ⟨before, after, hsplit, -⟩ := List.lookup_eq_some_iff.mp hlookup
    exact .known (hsplit ▸ List.mem_append_right _ (List.mem_cons_self ..))
  | none =>
    rw [hlookup] at h
    cases h
    refine .unknown fun level hmem => ?_
    exact bne_iff_ne.mp (List.lookup_eq_none_iff.mp hlookup _ hmem) rfl

/-! ### The console -/

namespace Console

/-- To configure the console puts one handler in place of those of its own, after the others. -/
lemma handlers_configure (level format : String) (c : Console) :
    (c.configure level format).handlers =
      c.handlers.filter (fun handler => !handler.isOwn) ++ [⟨.ofName format, true⟩] := rfl

/-- To configure a console that has no other handlers leaves one. -/
lemma handlers_configure_of_isOwn {c : Console} (h : ∀ handler ∈ c.handlers, handler.isOwn = true)
    (level format : String) : (c.configure level format).handlers = [⟨.ofName format, true⟩] := by
  have hothers : c.handlers.filter (fun handler => !handler.isOwn) = [] :=
    List.filter_eq_nil_iff.mpr fun handler hmem => by rw [h handler hmem]; decide
  rw [handlers_configure, hothers, List.nil_append]

/-- A console that is configured has one handler of its own, whatever handlers it had before. -/
theorem ownHandlers_configure (level format : String) (c : Console) :
    (c.configure level format).ownHandlers = [⟨.ofName format, true⟩] := by
  have hothers : (c.handlers.filter fun handler => !handler.isOwn).filter Handler.isOwn = [] := by
    rw [List.filter_filter, List.filter_eq_nil_iff]
    intro handler _
    cases handler.isOwn <;> decide
  rw [ownHandlers, handlers_configure, List.filter_append, hothers]
  rfl

/-- A name that is not refused sets the level. -/
lemma level_configure {level : String} {found : Level} (h : levelNamed level = .ok found)
    (format : String) (c : Console) : (c.configure level format).level = found.number := by
  rw [configure, h]

/-- A level is passed on if it is positive and not less than that of the console. -/
lemma isEnabled_iff (c : Console) (level : Int) :
    c.isEnabled level = true ↔ 0 < level ∧ c.level ≤ level := by
  rw [isEnabled, Bool.and_eq_true, decide_eq_true_iff, decide_eq_true_iff]

/-- Before the console is configured, the messages of warnings and failures are written bare. -/
lemma written_fresh (seconds : Int) (r : Record) :
    fresh.written seconds r = if 30 ≤ r.level then r.message ++ "\n" else "" := by
  have hlevel : fresh.isEnabled r.level = true ↔ 30 ≤ r.level := by
    have hnumber : fresh.level = 30 := rfl
    rw [isEnabled_iff, hnumber]
    omega
  by_cases h : 30 ≤ r.level
  · rw [written, if_pos (hlevel.mpr h), if_pos h]
    exact if_pos h
  · rw [written, if_neg (mt hlevel.mp h), if_neg h]

/-- A console with one handler writes each record that is passed on once, in the format of the
handler. -/
lemma written_of_configured {c : Console} {handler : Handler} (hc : c.handlers = [handler])
    (seconds : Int) (r : Record) :
    c.written seconds r = if 0 < r.level ∧ c.level ≤ r.level then
      lineOf handler.format (ofUnixSeconds seconds) r ++ "\n" else "" := by
  rw [written, hc]
  by_cases h : 0 < r.level ∧ c.level ≤ r.level
  · rw [if_pos ((c.isEnabled_iff _).mpr h), if_pos h]
    exact String.empty_append
  · rw [if_neg (mt (c.isEnabled_iff _).mp h), if_neg h]

end Console

/-! ### Sessions -/

/-- The names by which the console was configured last in a session, if it was configured. -/
def lastNames (past : List SessionStep) : Option (String × String) :=
  (past.filterMap SessionStep.names?).getLast?

/-- The console after a session. -/
def consoleAfter (past : List SessionStep) : Console := stateAfter Console.step .fresh past

/-- A session writes a text for a call that comes after a first part, whatever comes later. -/
def Writes (past : List SessionStep) (call : LogCall) (text : String) : Prop :=
  ∀ future, (trace Console.step .fresh (past ++ .log call :: future))[past.length]?.map
    (fun x => x.1.written) = some text

/-- A session writes for a call what the console does for its record. -/
lemma writes_of_record {call : LogCall} {r : Record} (h : call.record? = some r)
    (past : List SessionStep) : Writes past call ((consoleAfter past).written call.seconds r) := by
  intro future
  rw [getElem?_trace]
  simp [Console.step, consoleAfter, h]

/-- The console is configured by names, or it has not been configured. -/
inductive Console.IsConfigured : Option (String × String) → Console → Prop where
  /-- It has not been configured. -/
  | fresh : IsConfigured none .fresh
  /-- It has one handler, in the format of the name for that, and the level of its name. -/
  | configured {level format : String} {c : Console}
    (hhandlers : c.handlers = [⟨.ofName format, true⟩]) (hlevel : LevelNamed level c.level) :
    IsConfigured (some (level, format)) c

/-- A console that is configured once more is configured by the new names, if they are not
refused. -/
lemma Console.IsConfigured.configure {names? : Option (String × String)} {c : Console}
    (h : c.IsConfigured names?) {level : String} {found : Level}
    (hlevel : levelNamed level = .ok found) (format : String) :
    (c.configure level format).IsConfigured (some (level, format)) := by
  have hown : ∀ handler ∈ c.handlers, handler.isOwn = true := by
    cases h with
    | fresh => exact fun _ hmem => absurd hmem List.not_mem_nil
    | configured hhandlers => simp [hhandlers]
  refine .configured ?_ ?_
  · exact handlers_configure_of_isOwn hown level format
  · rw [level_configure hlevel]
    exact levelNamed_of_eq_ok hlevel

/-- A configuration that is not refused has the name of a level. -/
lemma exists_level_of_not_refused {c : Console} {level format : String}
    (h : (c.step (.configure level format)).1.isRefused = false) :
    ∃ found, levelNamed level = .ok found := by
  cases hlevel : levelNamed level with
  | ok found => exact ⟨found, rfl⟩
  | error e =>
    rw [Console.step, hlevel] at h
    cases h

/-- If no configuration of a session is refused, the console is configured by the last names. -/
lemma isConfigured_consoleAfter {past : List SessionStep}
    (h : ∀ x ∈ trace Console.step .fresh past, x.1.isRefused = false) :
    (consoleAfter past).IsConfigured (lastNames past) := by
  refine stateAfter_of_last Console.IsConfigured
    (fun report : StepReport => report.isRefused = false) .fresh ?_ ?_ past h
  · intro last c i names hnames haccepted hc
    cases i with
    | log call => cases hnames
    | configure level format =>
      cases hnames
      obtain ⟨found, hfound⟩ := exists_level_of_not_refused haccepted
      exact hc.configure hfound format
  · intro last c i hnames _ hc
    cases i with
    | log call => exact hc
    | configure level format => cases hnames

/-- **What sessions write.** Let no configuration of a session be refused. If the console has not
been configured, it has no handler of its own, and the bare message of each record is written whose
level is 30 or more. If it has been configured, it has one handler of its own, in the format of the
last name for that, and its level is the one that the last name for it stands for; each record whose
level is positive and not less is written once in that format, and no other record is.

**Proof sketch.** Induction on the session: the console is configured by the names that came last
(`isConfigured_consoleAfter`). What it writes then is read off its handlers
(`Console.written_fresh`, `Console.written_of_configured`), and what comes later makes no difference
(`writes_of_record`). -/
theorem session_writes {past : List SessionStep}
    (h : ∀ x ∈ trace Console.step .fresh past, x.1.isRefused = false) :
    (lastNames past = none → (consoleAfter past).ownHandlers = [] ∧
      ∀ call r, call.record? = some r →
        Writes past call (if 30 ≤ r.level then r.message ++ "\n" else "")) ∧
    ∀ level format, lastNames past = some (level, format) →
      (consoleAfter past).ownHandlers = [⟨.ofName format, true⟩] ∧
      LevelNamed level (consoleAfter past).level ∧
      ∀ call r, call.record? = some r → Writes past call
        (if 0 < r.level ∧ (consoleAfter past).level ≤ r.level then
          lineOf (.ofName format) (ofUnixSeconds call.seconds) r ++ "\n" else "") := by
  have hconfigured := isConfigured_consoleAfter h
  constructor
  · intro hlast
    rw [hlast] at hconfigured
    generalize hc : consoleAfter past = c at hconfigured
    cases hconfigured
    refine ⟨rfl, fun call r hr => ?_⟩
    have hwrites := writes_of_record hr past
    rwa [hc, Console.written_fresh] at hwrites
  · intro level format hlast
    rw [hlast] at hconfigured
    cases hconfigured with
    | configured hhandlers hlevel =>
      refine ⟨?_, hlevel, fun call r hr => ?_⟩
      · rw [Console.ownHandlers, hhandlers]
        rfl
      · have hwrites := writes_of_record hr past
        rwa [Console.written_of_configured hhandlers] at hwrites

/-- A console that is configured twice, the second time with an unknown name for the level. -/
theorem session_writes_reconfigured :
    let early : LogCall := ⟨40, "files", "lost", [], 0⟩
    let late : LogCall := ⟨20, "files", "%d of %s", [.int 1, .str "two"], 3723⟩
    let past : List SessionStep :=
      [.log early, .configure "error" "json", .log early, .configure "loud" "plain", .log early]
    (consoleAfter past).ownHandlers = [⟨.readable, true⟩] ∧
      Writes [] early "lost\n" ∧ Writes past late "01:02:03 | INFO | 1 of two\n" := by
  intro early late past
  let r : Record := ⟨20, "files", "1 of two"⟩
  have haccepted : ∀ x ∈ trace Console.step .fresh past, x.1.isRefused = false := by decide +kernel
  obtain ⟨hown, -, hwrites⟩ := (session_writes haccepted).2 "loud" "plain" rfl
  have hpassed : 0 < r.level ∧ (consoleAfter past).level ≤ r.level := by decide +kernel
  have hline : lineOf (.ofName "plain") (ofUnixSeconds late.seconds) r ++ "\n" =
      "01:02:03 | INFO | 1 of two\n" := by decide +kernel
  have hlate := hwrites late r (by decide +kernel)
  rw [if_pos hpassed, hline] at hlate
  obtain ⟨-, hbare⟩ := (session_writes (by simp [trace])).1 (show lastNames [] = none from rfl)
  exact ⟨hown, hbare early ⟨40, "files", "lost"⟩ (by decide +kernel), hlate⟩

end RunnerAtlas.Journal
