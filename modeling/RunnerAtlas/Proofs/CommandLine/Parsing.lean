import Mathlib.Data.List.Basic
import Mathlib.Tactic.Lemma
import RunnerAtlas.CommandLine.Parsing
import RunnerAtlas.Proofs.Outcomes

set_option relaxedAutoImplicit false
set_option autoImplicit false

/-!
# Accepted command lines

A command line that names a command begins with the word for it, and gives every argument that the
command cannot do without. An option that takes no text counts as given exactly if a word after the
command is read as that option.

## Main definitions

* `RunnerAtlas.CommandLine.given` — whether an option is given among the words after a command.
* `RunnerAtlas.CommandLine.Gathers` — what gathering the words of a command can do.
* `RunnerAtlas.CommandLine.Accepted` — arguments that a command can do with.

## Main results

* `RunnerAtlas.CommandLine.gathers_of_gather` — gathering goes by the steps of `Gathers`.
* `RunnerAtlas.CommandLine.parse_eq_ok_some` — an accepted command line is the word for its
  command before words that are read as its arguments.
-/

namespace RunnerAtlas.CommandLine

open RunnerAtlas.Outcome

/-! ### Readings of words -/

namespace Word

/-- Whether a word is read as an option. -/
def isOption (flag : Flag) : Word → Bool
  | .option other _ _ => decide (other = flag)
  | _ => false

/-- A spelling is that of an option among those that are spelled. -/
lemma mem_of_mem_spelled {flags : List Flag} {spelling : String} {flag : Flag}
    (h : (spelling, flag) ∈ spelled flags) : flag ∈ flags := by
  obtain ⟨other, hother, hspelling⟩ := List.mem_flatMap.mp h
  obtain ⟨s, -, hs⟩ := List.mem_map.mp hspelling
  cases hs
  exact hother

/-- An option that is looked up is one of those that are spelled. -/
lemma mem_of_lookup {flags : List Flag} {spelling : String} {flag : Flag}
    (h : (spelled flags).lookup spelling = some flag) : flag ∈ flags := by
  obtain ⟨before, after, hsplit, -⟩ := List.lookup_eq_some_iff.mp h
  exact mem_of_mem_spelled (hsplit ▸ List.mem_append_right _ (List.mem_cons_self ..))

/-- A word may only stand for an option that is spelled. -/
lemma mem_of_mem_candidates {flags : List Flag} {cs : List Char} {spelling : String} {flag : Flag}
    {direct : Bool} {attached : Option String}
    (h : (spelling, .option flag direct attached) ∈ candidates flags cs) : flag ∈ flags := by
  unfold candidates at h
  split at h
  · obtain ⟨⟨s, other⟩, hmem, hs⟩ := List.mem_filterMap.mp h
    dsimp only at hs
    split_ifs at hs
    cases hs
    exact mem_of_mem_spelled hmem
  · obtain ⟨⟨s, other⟩, hmem, hs⟩ := List.mem_filterMap.mp h
    dsimp only at hs
    split_ifs at hs
    all_goals
      cases hs
      exact mem_of_mem_spelled hmem

/-- An option that a word spells in part is one of those to choose from. -/
lemma mem_of_readPartly {flags : List Flag} {word : String} {flag : Flag} {direct : Bool}
    {attached : Option String} (h : readPartly flags word = .ok (.option flag direct attached)) :
    flag ∈ flags := by
  unfold readPartly at h
  dsimp only at h
  split at h
  · rename_i spelling found hfound
    cases h
    exact mem_of_mem_candidates (hfound ▸ List.mem_singleton_self _)
  · cases h
  · split at h <;> cases h

/-- An option that a word is read as is one of those to choose from. -/
lemma mem_of_read {flags : List Flag} {word : String} {flag : Flag} {direct : Bool}
    {attached : Option String} (h : read flags word = .ok (.option flag direct attached)) :
    flag ∈ flags := by
  unfold read at h
  dsimp only at h
  split at h
  · cases h
  split at h
  · rename_i hlookup
    cases h
    exact mem_of_lookup hlookup
  split at h
  · cases h
  split at h
  · split at h
    · rename_i hlookup
      cases h
      exact mem_of_lookup hlookup
    · exact mem_of_readPartly h
  · exact mem_of_readPartly h

/-- Each word has one reading, and its options are among those to choose from. -/
lemma readAll_eq_ok {flags : List Flag} {words : List String} {readings : List Word}
    (h : readAll flags words = .ok readings) :
    readings.length = words.length ∧
      ∀ flag, (∃ w ∈ readings, w.isOption flag = true) → flag ∈ flags := by
  induction words generalizing readings with
  | nil =>
    cases h
    simp
  | cons word rest ih =>
    rw [readAll] at h
    split at h
    · cases h
      refine ⟨by simp, ?_⟩
      simp [isOption]
    · obtain ⟨first, hfirst, h⟩ := (bind_eq_ok_iff _ _ _).mp h
      obtain ⟨others, hothers, h⟩ := (bind_eq_ok_iff _ _ _).mp h
      cases h
      obtain ⟨hlength, hmem⟩ := ih hothers
      refine ⟨by rw [List.length_cons, List.length_cons, hlength], ?_⟩
      rintro flag ⟨w, hw, hflag⟩
      rcases List.mem_cons.mp hw with rfl | hw
      · cases w with
        | option other direct attached =>
          rw [isOption, decide_eq_true_iff] at hflag
          exact hflag ▸ mem_of_read hfirst
        | _ => cases hflag
      · exact hmem flag ⟨w, hw, hflag⟩

/-- A full spelling of an option of a command is read as that option. -/
lemma read_spelling {command : Command} {flag : Flag} {spelling : String}
    (hflag : flag ∈ command.flags) (hspelling : spelling ∈ flag.spellings) :
    spelling ≠ markText ∧ ∃ direct, read command.flags spelling = .ok (.option flag direct none) := by
  have hall : ∀ pair ∈ spelled command.flags, pair.1 ≠ markText ∧ pair.1.toList.head? = some '-' ∧
      (spelled command.flags).lookup pair.1 = some pair.2 := by
    cases command <;> decide
  obtain ⟨hne, hhyphen, hlookup⟩ := hall (spelling, flag)
    (List.mem_flatMap.mpr ⟨flag, hflag, List.mem_map_of_mem hspelling⟩)
  refine ⟨hne, false, ?_⟩
  unfold read
  dsimp only
  rw [if_neg (not_not.mpr hhyphen), hlookup]

end Word

/-- Whether an option is given among the words after a command. -/
def given (command : Command) (words : List String) (flag : Flag) : Bool :=
  match Word.readAll command.flags words with
  | .ok readings => readings.any (Word.isOption flag)
  | .error _ => false

/-- An option that is spelled in full before the mark is given, if the words can be read at all. -/
theorem given_of_spelling {command : Command} {before after : List String} {spelling : String}
    {flag : Flag} {readings : List Word} (hflag : flag ∈ command.flags)
    (hspelling : spelling ∈ flag.spellings) (hmark : Word.markText ∉ before)
    (h : Word.readAll command.flags (before ++ spelling :: after) = .ok readings) :
    given command (before ++ spelling :: after) flag = true := by
  rw [given, h]
  dsimp only
  rw [List.any_eq_true]
  induction before generalizing readings with
  | nil =>
    obtain ⟨hne, direct, hread⟩ := Word.read_spelling hflag hspelling
    rw [List.nil_append, Word.readAll, if_neg hne, hread] at h
    obtain ⟨first, hfirst, h⟩ := (bind_eq_ok_iff _ _ _).mp h
    obtain ⟨others, -, h⟩ := (bind_eq_ok_iff _ _ _).mp h
    cases hfirst
    cases h
    exact ⟨_, List.mem_cons_self .., decide_eq_true rfl⟩
  | cons word rest ih =>
    rw [List.mem_cons, not_or] at hmark
    rw [List.cons_append, Word.readAll, if_neg fun heq => hmark.1 heq.symm] at h
    obtain ⟨first, -, h⟩ := (bind_eq_ok_iff _ _ _).mp h
    obtain ⟨others, hothers, h⟩ := (bind_eq_ok_iff _ _ _).mp h
    cases h
    obtain ⟨w, hw, hoption⟩ := ih hmark.2 hothers
    exact ⟨w, List.mem_cons_of_mem _ hw, hoption⟩

/-! ### Gathering -/

/-- What gathering the words of a command can do. -/
inductive Gathers (command : Command) : List Word → Gathered → Gathered → Prop where
  /-- No word is left. -/
  | done (g : Gathered) : Gathers command [] g g
  /-- A word goes with the one before or after it. -/
  | drop {w : Word} {rest : List Word} {g g' : Gathered} (hw : ∀ flag, w.isOption flag = false)
    (h : Gathers command rest g g') : Gathers command (w :: rest) g g'
  /-- A word means nothing. -/
  | skip {w : Word} {rest : List Word} {g g' : Gathered} (text : String)
    (hw : ∀ flag, w.isOption flag = false) (h : Gathers command rest (g.skip text) g') :
    Gathers command (w :: rest) g g'
  /-- A text is the platform. -/
  | platform {rest : List Word} {g g' : Gathered} (text : String)
    (h : Gathers command rest (g.platform text) g') : Gathers command (.text text :: rest) g g'
  /-- An option takes a text. -/
  | assign {rest : List Word} {g g' : Gathered} (flag : Flag) (direct : Bool)
    (attached : Option String) (text : String) (hflag : flag.takesText = true)
    (h : Gathers command rest (g.assign flag (.str text)) g') :
    Gathers command (.option flag direct attached :: rest) g g'
  /-- An option takes no text. -/
  | raise {rest : List Word} {g g' : Gathered} (flag : Flag) (direct : Bool)
    (attached : Option String) (hflag : flag.takesText = false)
    (h : Gathers command rest (g.raise flag) g') :
    Gathers command (.option flag direct attached :: rest) g g'

/-- A text that has a value is that value. -/
lemma eq_str_of_valueOf {flag : Flag} {text : String} {v : Value} (h : valueOf flag text = .ok v) :
    v = .str text := by
  unfold valueOf at h
  split_ifs at h
  cases h
  rfl

/-- An option that comes to a text has it as its value. -/
lemma assignFlag_eq_ok {scope : Option Command} {g g' : Gathered} {flag : Flag} {text : String}
    (h : assignFlag scope g flag text = .ok g') :
    valueOf flag text = .ok (.str text) ∧ g' = g.assign flag (.str text) := by
  unfold assignFlag at h
  split at h
  · rename_i v hv
    obtain rfl := eq_str_of_valueOf hv
    cases h
    exact ⟨hv, rfl⟩
  · cases h

/-- An option that takes no text is raised if nothing is wrong with it. -/
lemma raiseFlag_eq_ok {scope : Option Command} {g g' : Gathered} {flag : Flag} {direct : Bool}
    {attached : Option String} (h : raiseFlag scope g flag direct attached = .ok g') :
    flag ≠ .help ∧ g' = g.raise flag := by
  unfold raiseFlag at h
  dsimp only at h
  split at h
  · cases h
  · split_ifs at h with hhelp
    cases h
    exact ⟨hhelp, rfl⟩

/-- **Steps of gathering.** Words are gathered by the steps of `Gathers`.

**Proof sketch.** Induction along `gather`, with one or two steps for each of its cases. -/
lemma gathers_of_gather {command : Command} {ws : List Word} {g g' : Gathered}
    (h : gather command ws g = .ok g') : Gathers command ws g g' := by
  have htext (text : String) (flag : Flag) : (Word.text text).isOption flag = false := rfl
  have hmark (flag : Flag) : Word.mark.isOption flag = false := rfl
  fun_induction gather command ws g with
  | case1 =>
    cases h
    exact .done _
  | case2 text rest g _ ih => exact .platform text (.drop hmark (ih h))
  | case3 text rest g _ ih => exact .skip text (htext text) (.skip Word.markText hmark (ih h))
  | case4 text rest g _ _ ih => exact .platform text (ih h)
  | case5 text rest g _ _ ih => exact .skip text (htext text) (ih h)
  | case6 text rest g _ ih => exact .drop hmark (.platform text (ih h))
  | case7 text rest g _ ih => exact .skip Word.markText hmark (.skip text (htext text) (ih h))
  | case8 rest g _ ih => exact .skip Word.markText hmark (ih h)
  | case9 text rest g ih => exact .skip text (fun _ => rfl) (ih h)
  | case10 flag direct g hflag text rest ih =>
    obtain ⟨g₁, hassign, h⟩ := (bind_eq_ok_iff _ _ _).mp h
    obtain ⟨-, rfl⟩ := assignFlag_eq_ok hassign
    exact .assign flag direct (some text) text hflag (ih _ h)
  | case11 flag direct g hflag text rest ih =>
    obtain ⟨g₁, hassign, h⟩ := (bind_eq_ok_iff _ _ _).mp h
    obtain ⟨-, rfl⟩ := assignFlag_eq_ok hassign
    exact .assign flag direct none text hflag (.drop (htext text) (ih _ h))
  | case12 => cases h
  | case13 flag direct attached rest g hflag ih =>
    obtain ⟨g₁, hraise, h⟩ := (bind_eq_ok_iff _ _ _).mp h
    obtain ⟨-, rfl⟩ := raiseFlag_eq_ok hraise
    exact .raise flag direct attached (Bool.eq_false_iff.mpr hflag) (ih _ h)

/-- The platform and the format of records are texts, if they are there. -/
def Arguments.AreTexts (a : Arguments) : Prop :=
  ∀ v, a.platform = some v ∨ a.logFormat = some v → ∃ text, v = .str text

/-- The options that choose between two ways to go. -/
def switches : List Flag := [.ignoreCase, .literal, .availableOnly]

/-- The argument of an option that chooses between two ways to go. -/
def Arguments.switchOf (a : Arguments) : Flag → Option Value
  | .ignoreCase => a.ignoreCase
  | .literal => a.literal
  | .availableOnly => a.availableOnly
  | _ => none

/-- To raise an option sets its own argument. -/
lemma switchOf_raise (g : Gathered) (other : Flag) {flag : Flag} (hflag : flag ∈ switches) :
    (g.raise other).arguments.switchOf flag =
      if other = flag then some (.bool true) else g.arguments.switchOf flag := by
  rcases List.mem_cons.mp hflag with rfl | hflag
  · cases other <;> rfl
  rcases List.mem_cons.mp hflag with rfl | hflag
  · cases other <;> rfl
  obtain rfl := List.mem_singleton.mp hflag
  cases other <;> rfl

/-- To assign a value to an option leaves the other arguments alone. -/
lemma switchOf_assign (g : Gathered) (other flag : Flag) (v : Value) :
    (g.assign other v).arguments.switchOf flag = g.arguments.switchOf flag := by
  cases other <;> rfl

namespace Gathers

variable {command : Command} {ws : List Word} {g g' : Gathered}

/-- An argument that chooses between two ways to go is set exactly if a word is read as its
option. -/
lemma switchOf_eq (h : Gathers command ws g g') {flag : Flag} (hflag : flag ∈ switches) :
    g'.arguments.switchOf flag =
      if ws.any (Word.isOption flag) then some (.bool true) else g.arguments.switchOf flag := by
  induction h with
  | done => rfl
  | drop hw _ ih => rw [ih, List.any_cons, hw, Bool.false_or]
  | skip text hw _ ih =>
    rw [ih, List.any_cons, hw, Bool.false_or]
    rfl
  | platform text _ ih => exact ih
  | assign other direct attached v hother _ ih =>
    -- An option that takes a text is none of those that choose.
    have hne : decide (other = flag) = false := by
      rw [decide_eq_false_iff_not]
      rintro rfl
      have hnone : ∀ f ∈ switches, f.takesText = false := by decide
      rw [hnone _ hflag] at hother
      cases hother
    rw [ih, List.any_cons, Word.isOption, hne, Bool.false_or, switchOf_assign]
  | @raise rest _ _ other direct attached hother _ ih =>
    rw [ih, List.any_cons, Word.isOption, switchOf_raise _ _ hflag]
    by_cases hrest : rest.any (Word.isOption flag) = true
    · simp [hrest]
    · simp [hrest]

/-- The command stays. -/
lemma command_eq (h : Gathers command ws g g') : g'.arguments.command = g.arguments.command := by
  induction h with
  | done => rfl
  | drop _ _ ih => exact ih
  | skip _ _ _ ih => exact ih
  | platform _ _ ih => exact ih
  | assign other _ _ v _ _ ih =>
    rw [ih]
    cases other <;> rfl
  | raise other _ _ _ _ ih =>
    rw [ih]
    cases other <;> rfl

/-- The platform and the format of records stay texts. -/
lemma areTexts (h : Gathers command ws g g') (hg : g.arguments.AreTexts) :
    g'.arguments.AreTexts := by
  induction h with
  | done => exact hg
  | drop _ _ ih => exact ih hg
  | skip _ _ _ ih => exact ih hg
  | platform text _ ih =>
    refine ih fun v hv => ?_
    rcases hv with hv | hv
    · cases hv
      exact ⟨text, rfl⟩
    · exact hg v (.inr hv)
  | assign other _ _ text _ _ ih =>
    refine ih fun v hv => ?_
    cases other with
    | logFormat =>
      rcases hv with hv | hv
      · exact hg v (.inl hv)
      · cases hv
        exact ⟨text, rfl⟩
    | _ => exact hg v hv
  | raise other _ _ _ _ ih => exact ih (by cases other <;> exact hg)

end Gathers

/-! ### Command lines -/

/-- Arguments that a command can do with, as the words after it give them. -/
structure Accepted (command : Command) (words : List String) (a : Arguments) : Prop where
  /-- They are meant for the command. -/
  command_eq : a.command = some (.str command.word)
  /-- Letter case is to be ignored if the option for that is given. -/
  ignoreCase_eq : a.ignoreCase = if given command words .ignoreCase then some (.bool true) else none
  /-- Platforms are literal texts if the option for that is given. -/
  literal_eq : a.literal = if given command words .literal then some (.bool true) else none
  /-- Devices that are not available are left out exactly if the option for that is given. -/
  availableOnly_eq : a.availableOnly = some (.bool (given command words .availableOnly))
  /-- There is an inventory. -/
  devices_isSome : a.devices.isSome = true
  /-- There is a project to resolve. -/
  project_isSome : command = .resolve → a.project.isSome = true
  /-- There is a platform to list the runners of. -/
  platform_eq : command = .list → ∃ text, a.platform = some (.str text)
  /-- The format of records is a text, if it is given. -/
  logFormat_eq : ∀ v, a.logFormat = some v → ∃ text, v = .str text

/-- The words of a command are gathered, and what the command cannot do without is there. -/
lemma readCommand_eq_ok {command : Command} {words : List String} {g : Gathered}
    (h : readCommand command words = .ok g) :
    ∃ readings g₁, Word.readAll command.flags words = .ok readings ∧
      gather command readings ⟨{ command := some (.str command.word) }, []⟩ = .ok g₁ ∧
      (∀ need ∈ needed command g₁.arguments, need.2 = true) ∧
      g.arguments = { g₁.arguments with
        availableOnly := some (g₁.arguments.availableOnly.getD (.bool false)) } := by
  unfold readCommand at h
  split at h
  · cases h
  rename_i readings hreadings
  obtain ⟨g₁, hgather, h⟩ := (bind_eq_ok_iff _ _ _).mp h
  dsimp only at h
  split at h
  · rename_i hneeded
    cases h
    refine ⟨readings, g₁, hreadings, hgather, fun need hneed => ?_, rfl⟩
    simpa using List.filter_eq_nil_iff.mp hneeded need hneed
  · cases h

/-- The words of a command are read as arguments that the command can do with. -/
lemma accepted_of_readCommand {command : Command} {words : List String} {g : Gathered}
    (h : readCommand command words = .ok g) : Accepted command words g.arguments := by
  obtain ⟨readings, g₁, hreadings, hgather, hneeded, harguments⟩ := readCommand_eq_ok h
  have hgathers := gathers_of_gather hgather
  have hswitch (flag : Flag) (hflag : flag ∈ switches) : g₁.arguments.switchOf flag =
      if given command words flag then some (.bool true) else none := by
    have hnone : ({ command := some (.str command.word) } : Arguments).switchOf flag = none := by
      cases flag <;> rfl
    rw [hgathers.switchOf_eq hflag, given, hreadings, hnone]
  have havailable : g₁.arguments.availableOnly = _ := hswitch .availableOnly (by decide)
  rw [harguments, havailable]
  have htexts := hgathers.areTexts fun v hv => by rcases hv with hv | hv <;> cases hv
  refine ⟨hgathers.command_eq, hswitch .ignoreCase (by decide), hswitch .literal (by decide),
    ?_, ?_, ?_, ?_, fun v hv => htexts v (.inr hv)⟩
  · cases given command words .availableOnly <;> rfl
  · cases command with
    | resolve => exact hneeded _ (List.mem_cons_of_mem _ (List.mem_cons_self ..))
    | list => exact hneeded _ (List.mem_cons_of_mem _ (List.mem_cons_self ..))
  · rintro rfl
    exact hneeded _ (List.mem_cons_self ..)
  · rintro rfl
    have hplatform : g₁.arguments.platform.isSome = true := hneeded _ (List.mem_cons_self ..)
    obtain ⟨v, hv⟩ := Option.isSome_iff_exists.mp hplatform
    obtain ⟨text, rfl⟩ := htexts v (.inl hv)
    exact ⟨text, hv⟩

/-- A command line is refused for words that mean nothing. -/
lemma settle_eq_ok {found x : Option (Command × Arguments)} {unknown : List String}
    (h : settle found unknown = .ok x) : unknown = [] ∧ x = found := by
  unfold settle at h
  split_ifs at h with hunknown
  cases h
  exact ⟨List.isEmpty_iff.mp hunknown, rfl⟩

/-- A command line with words that mean nothing before its command is refused. -/
lemma eq_nil_of_parseFrom {pairs : List (String × Word)} {unknown : List String}
    {x : Option (Command × Arguments)} (h : parseFrom pairs unknown = .ok x) : unknown = [] := by
  fun_induction parseFrom pairs unknown with
  | case1 => exact (settle_eq_ok h).1
  | case2 => cases h
  | case3 =>
    obtain ⟨g, -, h⟩ := (bind_eq_ok_iff _ _ _).mp h
    exact (List.append_eq_nil_iff.mp (settle_eq_ok h).1).1
  | case4 => exact (List.append_eq_nil_iff.mp (settle_eq_ok h).1).1
  | case5 => cases h
  | case6 _ _ _ _ ih => exact (List.append_eq_nil_iff.mp (ih h)).1
  | case7 => cases h
  | case8 _ _ _ _ _ _ _ _ ih => exact ih h

/-- A command line without options before its command that names a command begins with the word for
it. -/
lemma parseFrom_eq_ok_some {pairs : List (String × Word)} {command : Command} {a : Arguments}
    (hhelp : ∀ flag, (∃ w ∈ pairs.map Prod.snd, w.isOption flag = true) → flag = .help)
    (h : parseFrom pairs [] = .ok (some (command, a))) :
    ∃ rest g, pairs.map Prod.fst = command.word :: rest ∧ readCommand command rest = .ok g ∧
      a = g.arguments := by
  have happend (unknown : List String) (word : String) : unknown ++ [word] ≠ [] := by simp
  rcases pairs with _ | ⟨⟨word, w⟩, rest⟩
  · cases (settle_eq_ok h).2
  -- Only a text can name a command; all else before it ends in a fault or asks for help.
  cases w with
  | text text =>
    unfold parseFrom at h
    split at h
    · cases h
    rename_i other hother
    obtain ⟨g, hread, h⟩ := (bind_eq_ok_iff _ _ _).mp h
    cases (settle_eq_ok h).2
    refine ⟨_, g, ?_, hread, rfl⟩
    rw [List.map_cons, (Command.ofWord?_eq_some_iff _ _).mp hother]
  | mark =>
    unfold parseFrom at h
    split at h
    · exact absurd (settle_eq_ok h).1 (happend _ _)
    · cases h
  | unknown text =>
    unfold parseFrom at h
    exact absurd (eq_nil_of_parseFrom h) (happend _ _)
  | option flag direct attached =>
    have hflag : flag = .help :=
      hhelp flag ⟨.option flag direct attached, List.mem_cons_self .., decide_eq_true rfl⟩
    unfold parseFrom at h
    split at h
    · cases h
    rename_i hraise
    exact absurd hflag (raiseFlag_eq_ok hraise).1

/-- A command line that is accepted with a command is the word for that command before words that
are read as its arguments. -/
lemma exists_readCommand_of_parse {words : List String} {command : Command} {a : Arguments}
    (h : parse words = .ok (some (command, a))) :
    ∃ rest g, words = command.word :: rest ∧ readCommand command rest = .ok g ∧
      a = g.arguments := by
  unfold parse at h
  split at h
  · cases h
  rename_i readings hreadings
  obtain ⟨hlength, hflags⟩ := Word.readAll_eq_ok hreadings
  have hhelp : ∀ flag, (∃ w ∈ (words.zip readings).map Prod.snd, w.isOption flag = true) →
      flag = .help := by
    rw [List.map_snd_zip (Nat.le_of_eq hlength)]
    exact fun flag hflag => List.mem_singleton.mp (hflags flag hflag)
  obtain ⟨rest, g, hwords, hread, ha⟩ := parseFrom_eq_ok_some hhelp h
  rw [List.map_fst_zip (Nat.le_of_eq hlength.symm)] at hwords
  exact ⟨rest, g, hwords, hread, ha⟩

/-- **Accepted command lines.** The arguments of a command line that is accepted with a command are
those that the command can do with. -/
theorem parse_eq_ok_some {words : List String} {command : Command} {a : Arguments}
    (h : parse words = .ok (some (command, a))) :
    ∃ rest, words = command.word :: rest ∧ Accepted command rest a := by
  obtain ⟨rest, g, hwords, hread, rfl⟩ := exists_readCommand_of_parse h
  exact ⟨rest, hwords, accepted_of_readCommand hread⟩

end RunnerAtlas.CommandLine
