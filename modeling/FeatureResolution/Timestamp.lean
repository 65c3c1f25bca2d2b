/-!
# Dates and times

A `Timestamp` is a day of the calendar, alone or with a time of that day, which may tell how far its
zone is from universal time. `Timestamp.problem?` says what is wrong with numbers that are no
day or time, and `Timestamp.instant` puts moments in order.
-/

namespace FeatureResolution

/-- A time of day; the zone is an offset in minutes. -/
structure ClockTime where
  hour : Nat
  minute : Nat
  second : Nat
  microsecond : Nat
  zone : Option Int
deriving DecidableEq, Repr

/-- A day, or a moment of it. -/
structure Timestamp where
  year : Nat
  month : Nat
  day : Nat
  clock : Option ClockTime
deriving DecidableEq, Repr

/-- A number in decimal with zeros in front up to a width. -/
def padded (width value : Nat) : String :=
  let digits := Nat.toDigits 10 value
  String.ofList (List.replicate (width - digits.length) '0' ++ digits)

namespace Timestamp

/-! ## The calendar -/

/-- Whether a year has a 29th of February. -/
def isLeapYear (year : Nat) : Bool :=
  year % 4 == 0 && (year % 100 != 0 || year % 400 == 0)

/-- The number of days of a month. -/
def daysIn (year month : Nat) : Nat :=
  if month = 2 then if isLeapYear year then 29 else 28
  else if month = 4 || month = 6 || month = 9 || month = 11 then 30
  else 31

/-- The number of days from the beginning of the calendar to a day. -/
def dayNumber (timestamp : Timestamp) : Nat :=
  let past := timestamp.year - 1
  let months :=
    (List.range (timestamp.month - 1)).map fun month => daysIn timestamp.year (month + 1)
  past * 365 + past / 4 - past / 100 + past / 400 + months.foldl (· + ·) 0 + timestamp.day

/-- The number of microseconds from the beginning of the calendar to a moment: of universal time if
the moment has a zone. -/
def instant (timestamp : Timestamp) : Int :=
  match timestamp.clock with
  | none => timestamp.dayNumber * 86400000000
  | some clock =>
    let minutes : Int :=
      (timestamp.dayNumber * 24 + clock.hour) * 60 + clock.minute - clock.zone.getD 0
    (minutes * 60 + clock.second) * 1000000 + clock.microsecond

/-- The parts of a stretch of minutes in whole days, which may be negative, and seconds. -/
def durationParts (minutes : Int) : List String :=
  let days := minutes / 1440
  let seconds := (minutes % 1440) * 60
  (if days = 0 then [] else ["days=" ++ toString days]) ++
    (if seconds = 0 then [] else ["seconds=" ++ toString seconds])

/-- A stretch of minutes written out. -/
def durationWritten (minutes : Int) : String :=
  match durationParts minutes with
  | [] => "datetime.timedelta(0)"
  | parts => "datetime.timedelta(" ++ String.intercalate ", " parts ++ ")"

/-- What is wrong with a time of day. -/
def clockProblem? (clock : ClockTime) : Option String :=
  if 23 < clock.hour then some "hour must be in 0..23"
  else if 59 < clock.minute then some "minute must be in 0..59"
  else if 59 < clock.second then some "second must be in 0..59"
  else none

/-- What is wrong with a zone. -/
def zoneProblem? (clock : ClockTime) : Option String :=
  match clock.zone with
  | none => none
  | some minutes =>
    if minutes.natAbs < 1440 then none
    else
      some ("offset must be a timedelta strictly between -timedelta(hours=24) and " ++
        "timedelta(hours=24), not " ++ durationWritten minutes ++ ".")

/-- What is wrong with a day. -/
def dayProblem? (timestamp : Timestamp) : Option String :=
  if timestamp.year = 0 then some "year 0 is out of range"
  else if timestamp.month = 0 || 12 < timestamp.month then some "month must be in 1..12"
  else if timestamp.day = 0 || daysIn timestamp.year timestamp.month < timestamp.day then
    some "day is out of range for month"
  else none

/-- What is wrong with a timestamp, its zone first. -/
def problem? (timestamp : Timestamp) : Option String :=
  timestamp.clock.bind zoneProblem? <|> timestamp.dayProblem? <|>
    timestamp.clock.bind clockProblem?

/-! ## Text -/

/-- The offset of a zone after a time. -/
def zoneText (minutes : Int) : String :=
  (if minutes < 0 then "-" else "+") ++ padded 2 (minutes.natAbs / 60) ++ ":" ++
    padded 2 (minutes.natAbs % 60)

/-- The text of a time of day. -/
def clockText (clock : ClockTime) : String :=
  padded 2 clock.hour ++ ":" ++ padded 2 clock.minute ++ ":" ++ padded 2 clock.second ++
    (if clock.microsecond = 0 then "" else "." ++ padded 6 clock.microsecond) ++
    (clock.zone.map zoneText).getD ""

/-- The text of a timestamp. -/
def text (timestamp : Timestamp) : String :=
  padded 4 timestamp.year ++ "-" ++ padded 2 timestamp.month ++ "-" ++ padded 2 timestamp.day ++
    (match timestamp.clock with
    | none => ""
    | some clock => " " ++ clockText clock)

/-- The zone of a timestamp written out. -/
def zoneWritten (minutes : Int) : String :=
  ", tzinfo=" ++
    (if minutes = 0 then "datetime.timezone.utc"
    else "datetime.timezone(" ++ durationWritten minutes ++ ")")

/-- The numbers of a time of day; seconds and microseconds are left out at the end when zero. -/
def clockNumbers (clock : ClockTime) : List Nat :=
  [clock.hour, clock.minute] ++
    (if clock.microsecond = 0 then if clock.second = 0 then [] else [clock.second]
    else [clock.second, clock.microsecond])

/-- A timestamp written out. -/
def written (timestamp : Timestamp) : String :=
  let day := [timestamp.year, timestamp.month, timestamp.day]
  let commas (numbers : List Nat) : String := String.intercalate ", " (numbers.map toString)
  match timestamp.clock with
  | none => "datetime.date(" ++ commas day ++ ")"
  | some clock =>
    "datetime.datetime(" ++ commas (day ++ clockNumbers clock) ++
      (clock.zone.map zoneWritten).getD "" ++ ")"

end Timestamp

end FeatureResolution
