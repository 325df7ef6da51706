import RunnerAtlas.Calendar
import RunnerAtlas.Journal.Record
import RunnerAtlas.Report.Basic
import RunnerAtlas.Text.LetterCase

/-!
# The console

Records from a level on are passed to the handlers of the console, one after the other, and each
handler writes them in its format. To configure the console replaces the handler that was installed
when it was configured before. As long as there is no handler, the messages of warnings and failures
are written bare.

## Main definitions

* `RunnerAtlas.Journal.LineFormat` — the formats of records.
* `RunnerAtlas.Journal.levelNamed` — the level of a name.
* `RunnerAtlas.Journal.Handler` — what writes records.
* `RunnerAtlas.Journal.Console` — the console, with `Console.configure`.
* `RunnerAtlas.Journal.Console.written` — what the console writes for a record.
-/

set_option autoImplicit false

namespace RunnerAtlas.Journal

open Calendar RunnerAtlas.Text

/-- The formats of records. -/
inductive LineFormat where
  /-- Time, level and message with bars between them. -/
  | readable
  /-- A record in JSON. -/
  | json
  deriving DecidableEq

/-- The format of a name. Any name but one stands for readable lines. -/
def LineFormat.ofName (name : String) : LineFormat := if name = "json" then json else readable

/-- Why a name names no level. -/
inductive LevelError where
  /-- It names the text of a line format. -/
  | lineFormat (format : String)
  /-- It names the table of the styles of line formats. -/
  | lineStyles
  deriving DecidableEq

/-- The message of an error. -/
def LevelError.message : LevelError → String
  | lineFormat format => s!"Unknown level: {Quoted.ofText format}"
  | lineStyles =>
    "Level not an integer or a valid string: " ++
      "\x7b'%': (<class 'logging.PercentStyle'>, '%(levelname)s:%(name)s:%(message)s'), " ++
      "'\x7b': (<class 'logging.StrFormatStyle'>, " ++
      "'\x7blevelname\x7d:\x7bname\x7d:\x7bmessage\x7d'), " ++
      "'$': (<class 'logging.StringTemplateStyle'>, " ++
      "'$\x7blevelname\x7d:$\x7bname\x7d:$\x7bmessage\x7d')\x7d"

/-- The names of levels, some of which have two. -/
def levelNames : List (String × Level) :=
  [("CRITICAL", .critical), ("FATAL", .critical), ("ERROR", .error), ("WARNING", .warning),
    ("WARN", .warning), ("INFO", .info), ("DEBUG", .debug), ("NOTSET", .notset)]

/-- The level of a name without regard to letter case. An unknown name stands for the course of a
run, but two names are refused, that of the basic line format and that of the table of styles. -/
def levelNamed (name : String) : Except LevelError Level :=
  let name := LetterCase.upperText name
  if name = "BASIC_FORMAT" then .error (.lineFormat "%(levelname)s:%(name)s:%(message)s")
  else if name = "_STYLES" then .error .lineStyles
  else .ok ((levelNames.lookup name).getD .info)

/-- What writes the records that the console passes on. -/
structure Handler where
  /-- The format of the lines that it writes. -/
  format : LineFormat
  /-- Whether it was installed when the console was configured. -/
  isOwn : Bool
  deriving DecidableEq

/-- The console. -/
structure Console where
  /-- The number of the least level that is passed on. -/
  level : Int
  /-- The handlers, in order. -/
  handlers : List Handler
  deriving DecidableEq

/-- The time of a moment. -/
def clockText (t : Moment) : String :=
  s!"{padded 2 t.hour}:{padded 2 t.minute}:{padded 2 t.second}"

/-- The day and time of a moment. -/
def stampText (t : Moment) : String :=
  s!"{t.date.year}-{padded 2 t.date.month}-{padded 2 t.date.day}T{clockText t}"

/-- A record in a format, at a moment. -/
def lineOf (format : LineFormat) (t : Moment) (r : Record) : String :=
  match format with
  | .readable => s!"{clockText t} | {levelName r.level} | {r.message}"
  | .json =>
    Report.line [("ts", stampText t), ("level", levelName r.level), ("logger", r.source),
      ("msg", r.message)]

namespace Console

/-- The console before it is configured. -/
def fresh : Console := ⟨Level.warning.number, []⟩

/-- The handlers that were installed when the console was configured. -/
def ownHandlers (c : Console) : List Handler := c.handlers.filter Handler.isOwn

/-- The console configured by the names of a level and of a format. Handlers of other origin stay,
and a name that is refused leaves the level as it was. -/
def configure (level format : String) (c : Console) : Console :=
  let others := c.handlers.filter fun handler => !handler.isOwn
  let number := match levelNamed level with
    | .ok level => level.number
    | .error _ => c.level
  ⟨number, others ++ [⟨.ofName format, true⟩]⟩

/-- Whether records of a level are passed on. -/
def isEnabled (c : Console) (level : Int) : Bool := decide (0 < level) && decide (c.level ≤ level)

/-- What is written for a record that is passed on while there is no handler: the bare message of a
warning or failure. -/
def lastResort (r : Record) : String :=
  if Level.warning.number ≤ r.level then r.message ++ "\n" else ""

/-- What the console writes for a record, seconds after the start of 1970: a line of each handler,
if the record is passed on. -/
def written (c : Console) (seconds : Int) (r : Record) : String :=
  if c.isEnabled r.level then
    if c.handlers.isEmpty then lastResort r
    else String.join (c.handlers.map fun handler =>
      lineOf handler.format (ofUnixSeconds seconds) r ++ "\n")
  else ""

/-- What the console writes for records, one after the other. -/
def writtenAll (c : Console) (seconds : Int) (records : List Record) : String :=
  String.join (records.map (c.written seconds))

end Console

end RunnerAtlas.Journal
