import RunnerAtlas.Proofs.CommandLine.Parsing

set_option relaxedAutoImplicit false
set_option autoImplicit false

/-!
# The format of records on the command line

The option for the format of records may be given several times, and then the last text counts. The
mark as its text gives no format at all.

## Main definitions

* `RunnerAtlas.CommandLine.Word.lastText` — the last text that is given to an option.
* `RunnerAtlas.CommandLine.formatGiven` — the format that the words after a command give.

## Main results

* `RunnerAtlas.CommandLine.formatName_eq` — a command takes the format that is given, or else a
  fallback.
-/

namespace RunnerAtlas.CommandLine

open RunnerAtlas.Outcome

/-- The last text that is given to an option among readings: one that is attached to it or that
follows it. -/
def Word.lastText (flag : Flag) : List Word → Option String
  | [] => none
  | .option other _ (some s) :: rest =>
    (lastText flag rest).or (if other = flag then some s else none)
  | .option other _ none :: .text s :: rest =>
    (lastText flag rest).or (if other = flag then some s else none)
  | _ :: rest => lastText flag rest

/-- Another option gives no text to an option. -/
lemma Word.lastText_option_of_ne {flag other : Flag} (hne : other ≠ flag) (direct : Bool)
    (attached : Option String) (rest : List Word) :
    lastText flag (.option other direct attached :: rest) = lastText flag rest := by
  cases attached with
  | some s => simp [lastText, hne]
  | none =>
    rcases rest with _ | ⟨w, rest⟩
    · rfl
    · cases w <;> simp [lastText, hne]

/-- The format that the words after a command give. -/
def formatGiven (command : Command) (words : List String) : Option String :=
  match Word.readAll command.flags words with
  | .ok readings => Word.lastText .logFormat readings
  | .error _ => none

/-! ### Gathering -/

/-- The argument for the format after words, by the last text that they give to its option. -/
inductive FormatIs (before : Option Value) : Option String → Option Value → Prop where
  /-- No text is given. -/
  | kept : FormatIs before none before
  /-- A text is given that has a value. -/
  | given {text : String} {v : Value} (h : valueOf .logFormat text = .ok v) :
    FormatIs before (some text) (some v)

/-- An option takes a text before the other words. -/
lemma FormatIs.assign {scope : Option Command} {g g₁ : Gathered} {flag : Flag} {text : String}
    (h : assignFlag scope g flag text = .ok g₁) {last : Option String} {after : Option Value}
    (hrest : FormatIs g₁.arguments.logFormat last after) :
    FormatIs g.arguments.logFormat (last.or (if flag = .logFormat then some text else none))
      after := by
  obtain ⟨hv, rfl⟩ := assignFlag_eq_ok h
  cases hrest with
  | given hlater => exact .given hlater
  | kept =>
    by_cases hflag : flag = .logFormat
    · subst hflag
      exact .given hv
    · have hsame : (g.assign flag (.str text)).arguments.logFormat = g.arguments.logFormat := by
        cases flag with
        | logFormat => exact absurd rfl hflag
        | _ => rfl
      rw [if_neg hflag, hsame]
      exact .kept

/-- An option that takes no text leaves the format alone. -/
lemma logFormat_raise (g : Gathered) (flag : Flag) :
    (g.raise flag).arguments.logFormat = g.arguments.logFormat := by
  cases flag <;> rfl

/-- **The last format counts.** The argument for the format is the value of the last text that is
given to its option.

**Proof sketch.** Induction along `gather`: an option that takes a text sets the argument, unless it
is another one or a later text follows, and no other word changes it. -/
lemma formatIs_of_gather {command : Command} {ws : List Word} {g g' : Gathered}
    (h : gather command ws g = .ok g') :
    FormatIs g.arguments.logFormat (Word.lastText .logFormat ws) g'.arguments.logFormat := by
  fun_induction gather command ws g with
  | case1 =>
    cases h
    exact .kept
  | case2 text rest g _ ih => exact ih h
  | case3 text rest g _ ih => exact ih h
  | case4 text rest g _ _ ih => exact ih h
  | case5 text rest g _ _ ih => exact ih h
  | case6 text rest g _ ih => exact ih h
  | case7 text rest g _ ih => exact ih h
  | case8 rest g _ ih => exact ih h
  | case9 text rest g ih => exact ih h
  | case10 flag direct g hflag text rest ih =>
    obtain ⟨g₁, hassign, h⟩ := (bind_eq_ok_iff _ _ _).mp h
    exact .assign hassign (ih _ h)
  | case11 flag direct g hflag text rest ih =>
    obtain ⟨g₁, hassign, h⟩ := (bind_eq_ok_iff _ _ _).mp h
    exact .assign hassign (ih _ h)
  | case12 => cases h
  | case13 flag direct attached rest g hflag ih =>
    obtain ⟨g₁, hraise, h⟩ := (bind_eq_ok_iff _ _ _).mp h
    obtain ⟨-, rfl⟩ := raiseFlag_eq_ok hraise
    have hne : flag ≠ .logFormat := by
      rintro rfl
      exact hflag rfl
    have hrest := ih _ h
    rwa [logFormat_raise, ← Word.lastText_option_of_ne hne direct attached] at hrest

/-- A text that has a value as a format is the name of one. -/
lemma mem_formatWords_of_valueOf {text : String} {v : Value}
    (h : valueOf .logFormat text = .ok v) : text ∈ formatWords := by
  unfold valueOf at h
  split_ifs at h with hword
  simpa using hword

/-- The name of the format is the last text that is given, or else a fallback. -/
lemma FormatIs.formatName_eq {last : Option String} {a : Arguments}
    (h : FormatIs none last a.logFormat) (fallback : String) :
    a.formatName fallback = last.getD fallback := by
  unfold Arguments.formatName
  generalize a.logFormat = argument at h
  cases h with
  | kept => rfl
  | @given text v hv =>
    obtain rfl := eq_str_of_valueOf hv
    have hword := mem_formatWords_of_valueOf hv
    have hne : text ≠ "" := by
      rintro rfl
      exact absurd hword (by decide)
    simp [Value.isEmpty, Value.display, hne]

/-- **The format of a command.** A command takes the format that its words give, or else a
fallback. -/
theorem formatName_eq {command : Command} {words : List String} {g : Gathered}
    (h : readCommand command words = .ok g) (fallback : String) :
    g.arguments.formatName fallback = (formatGiven command words).getD fallback := by
  obtain ⟨readings, g₁, hreadings, hgather, -, harguments⟩ := readCommand_eq_ok h
  have hformat := formatIs_of_gather hgather
  rw [formatGiven, hreadings, ← hformat.formatName_eq fallback, harguments]
  rfl

end RunnerAtlas.CommandLine
