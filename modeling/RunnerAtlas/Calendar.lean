/-!
# Dates and moments

Days of the proleptic Gregorian calendar and moments of a day, with or without an offset from
universal time.

## Main definitions

* `RunnerAtlas.Calendar.Date`, `RunnerAtlas.Calendar.Moment` — days and moments.
* `RunnerAtlas.Calendar.FieldError` — why numbers are not a day or a moment.
* `RunnerAtlas.Calendar.Date.make`, `RunnerAtlas.Calendar.Moment.make` — checked construction.
* `RunnerAtlas.Calendar.Moment.same` — equality of moments, through universal time where both have
  an offset.
* `RunnerAtlas.Calendar.ofUnixSeconds` — the moment of a count of seconds since 1970.
-/

set_option autoImplicit false

namespace RunnerAtlas.Calendar

/-- A day. -/
structure Date where
  /-- The year, from 1 to 9999. -/
  year : Nat
  /-- The month, from 1. -/
  month : Nat
  /-- The day of the month, from 1. -/
  day : Nat
  deriving DecidableEq

/-- A moment of a day. -/
structure Moment where
  /-- The day. -/
  date : Date
  /-- The hour, below 24. -/
  hour : Nat
  /-- The minute, below 60. -/
  minute : Nat
  /-- The second, below 60. -/
  second : Nat
  /-- The millionths of a second. -/
  micro : Nat
  /-- The minutes by which the local time is ahead of universal time, if that is known. -/
  offset : Option Int
  deriving DecidableEq

/-- Why numbers are not a day or a moment. -/
inductive FieldError where
  /-- There is no such year. -/
  | year (year : Nat)
  /-- There is no such month. -/
  | month
  /-- The month has no such day. -/
  | day
  /-- There is no such hour. -/
  | hour
  /-- There is no such minute. -/
  | minute
  /-- There is no such second. -/
  | second
  /-- An offset of so many minutes is a day or more. -/
  | offset (minutes : Int)
  deriving DecidableEq

/-- Whether a year has a leap day. -/
def isLeap (year : Nat) : Bool := year % 4 == 0 && (year % 100 != 0 || year % 400 == 0)

/-- The number of days of a month. -/
def daysInMonth (year month : Nat) : Nat :=
  if month = 2 then if isLeap year then 29 else 28
  else if month = 4 ∨ month = 6 ∨ month = 9 ∨ month = 11 then 30 else 31

/-- The length of an interval as it is shown in a message: days, which may be negative, and a
positive rest of seconds. -/
def intervalText (minutes : Int) : String :=
  let days := Int.fdiv minutes 1440
  let seconds := Int.fmod minutes 1440 * 60
  let daysPart := if days = 0 then [] else [s!"days={days}"]
  let secondsPart := if seconds = 0 then [] else [s!"seconds={seconds}"]
  match daysPart ++ secondsPart with
  | [] => "datetime.timedelta(0)"
  | parts => "datetime.timedelta(" ++ String.intercalate ", " parts ++ ")"

/-- The message of an error. -/
def FieldError.message : FieldError → String
  | .year n => s!"year {n} is out of range"
  | .month => "month must be in 1..12"
  | .day => "day is out of range for month"
  | .hour => "hour must be in 0..23"
  | .minute => "minute must be in 0..59"
  | .second => "second must be in 0..59"
  | .offset length =>
    "offset must be a timedelta strictly between -timedelta(hours=24) and timedelta(hours=24), " ++
      s!"not {intervalText length}."

/-- The day of three numbers, the year being checked first and the day last. -/
def Date.make (year month day : Nat) : Except FieldError Date :=
  if year = 0 ∨ 9999 < year then .error (.year year)
  else if month = 0 ∨ 12 < month then .error .month
  else if day = 0 ∨ daysInMonth year month < day then .error .day
  else .ok ⟨year, month, day⟩

/-- The offset of so many minutes, which must be less than a day either way. -/
def checkOffset (minutes : Int) : Except FieldError Int :=
  if 1440 ≤ minutes.natAbs then .error (.offset minutes) else .ok minutes

/-- The moment of a day. -/
def Moment.make (date : Date) (hour minute second micro : Nat) (offset : Option Int) :
    Except FieldError Moment :=
  if 24 ≤ hour then .error .hour
  else if 60 ≤ minute then .error .minute
  else if 60 ≤ second then .error .second
  else .ok ⟨date, hour, minute, second, micro, offset⟩

/-- The number of days from the day before the first of January of the year 1. -/
def Date.ordinal (d : Date) : Nat :=
  let past := d.year - 1
  let months :=
    (List.range (d.month - 1)).foldl (fun days m => days + daysInMonth d.year (m + 1)) 0
  past * 365 + past / 4 - past / 100 + past / 400 + months + d.day

/-- The millionths of a second since the start of the year 1, by the local clock. -/
def Moment.localMicros (t : Moment) : Int :=
  (((t.date.ordinal * 24 + t.hour) * 60 + t.minute) * 60 + t.second) * 1000000 + t.micro

/-- Equality of moments: two moments with an offset are equal if they are the same in universal
time, and a moment without one equals only its like. -/
def Moment.same (s t : Moment) : Bool :=
  match s.offset, t.offset with
  | none, none => s.localMicros == t.localMicros
  | some a, some b => s.localMicros - a * 60000000 == t.localMicros - b * 60000000
  | _, _ => false

/-- The digits of a number, filled up with zeros on the left. -/
def padded (width n : Nat) : String :=
  let digits := Nat.toDigits 10 n
  String.ofList (List.replicate (width - digits.length) '0' ++ digits)

/-- A day as year, month and day with hyphens. -/
def Date.isoText (d : Date) : String :=
  s!"{padded 4 d.year}-{padded 2 d.month}-{padded 2 d.day}"

/-- An offset as a sign, hours and minutes. -/
def offsetText (minutes : Int) : String :=
  let size := minutes.natAbs
  let sign := if minutes < 0 then "-" else "+"
  s!"{sign}{padded 2 (size / 60)}:{padded 2 (size % 60)}"

/-- A moment as day and time with a separator between them. Millionths are written unless there
are none. -/
def Moment.isoText (separator : String) (t : Moment) : String :=
  let fraction := if t.micro = 0 then "" else s!".{padded 6 t.micro}"
  let zone := match t.offset with
    | none => ""
    | some minutes => offsetText minutes
  s!"{t.date.isoText}{separator}{padded 2 t.hour}:{padded 2 t.minute}:{padded 2 t.second}" ++
    fraction ++ zone

/-- A day as it is shown in a message. -/
def Date.literal (d : Date) : String := s!"datetime.date({d.year}, {d.month}, {d.day})"

/-- A moment as it is shown in a message. Seconds are left out if they and the millionths are
zero, millionths if they are. -/
def Moment.literal (t : Moment) : String :=
  let parts := [t.date.year, t.date.month, t.date.day, t.hour, t.minute] ++
    (if t.second = 0 ∧ t.micro = 0 then [] else [t.second]) ++
    (if t.micro = 0 then [] else [t.micro])
  let zone := match t.offset with
    | none => []
    | some 0 => ["tzinfo=datetime.timezone.utc"]
    | some minutes => [s!"tzinfo=datetime.timezone({intervalText minutes})"]
  "datetime.datetime(" ++ String.intercalate ", " (parts.map toString ++ zone) ++ ")"

/-- The day a number of days after the first of January of a year, going through the months and
years that it spans. -/
private def dayAfter : Nat → Nat → Nat → Nat → Date
  | 0, year, month, days => ⟨year, month, days + 1⟩
  | fuel + 1, year, month, days =>
    let length := daysInMonth year month
    if days < length then ⟨year, month, days + 1⟩
    else if month = 12 then dayAfter fuel (year + 1) 1 (days - length)
    else dayAfter fuel year (month + 1) (days - length)

/-- The moment, in universal time, of a count of seconds since the start of 1970. Counts before
it are read within the cycle of 400 years that ends there. -/
def ofUnixSeconds (seconds : Int) : Moment :=
  let days := Int.fdiv seconds 86400
  let rest := (Int.fmod seconds 86400).toNat
  let cycles := Int.fdiv days 146097
  let offset := (Int.fmod days 146097).toNat
  let year := (1970 + 400 * cycles).toNat
  let date := dayAfter 4801 year 1 offset
  ⟨date, rest / 3600, rest / 60 % 60, rest % 60, 0, some 0⟩

end RunnerAtlas.Calendar
