/-!
# Points in time

A document can hold a date, or a date with a time of day to the microsecond and
perhaps an offset from universal time.  Dates are those of the Gregorian calendar in
the years 1 to 9999.
-/

namespace Chip8

set_option autoImplicit false

/-- A time of day, with an offset in minutes if one is given. -/
structure DayTime where
  hour : Nat
  minute : Nat
  second : Nat
  microsecond : Nat
  offset : Option Int
  deriving DecidableEq, Repr

/-- A date, perhaps with a time of day. -/
structure Timestamp where
  year : Nat
  month : Nat
  day : Nat
  time : Option DayTime
  deriving DecidableEq, Repr

namespace Timestamp

/-- Whether a year has a leap day. -/
def isLeap (year : Nat) : Bool := year % 4 == 0 && (year % 100 != 0 || year % 400 == 0)

/-- The number of days of a month. -/
def daysOf (year month : Nat) : Nat :=
  if month = 2 then (if isLeap year then 29 else 28)
  else if month ∈ [4, 6, 9, 11] then 30 else 31

/-- What is wrong with a date or time that does not exist. -/
def fault? (t : Timestamp) : Option String :=
  if t.year = 0 then some "year 0 is out of range"
  else if t.month = 0 ∨ 12 < t.month then some "month must be in 1..12"
  else if t.day = 0 ∨ daysOf t.year t.month < t.day then some "day is out of range for month"
  else
    match t.time with
    | none => none
    | some time =>
      if 23 < time.hour then some "hour must be in 0..23"
      else if 59 < time.minute then some "minute must be in 0..59"
      else if 59 < time.second then some "second must be in 0..59"
      else none

/-! ## Instants -/

/-- The number of days before a year. -/
def daysBeforeYear (year : Nat) : Nat :=
  let past := year - 1
  past * 365 + past / 4 - past / 100 + past / 400

/-- The number of days before a month in its year. -/
def daysBeforeMonth (year month : Nat) : Nat :=
  (List.range (month - 1)).foldl (fun days k => days + daysOf year (k + 1)) 0

/-- The microseconds from the first day of the year 1 to a time of day, in universal time if the
offset is taken off. -/
def microsecondsOf (t : Timestamp) (time : DayTime) (offset : Int) : Int :=
  let days := daysBeforeYear t.year + daysBeforeMonth t.year t.month + (t.day - 1)
  let minutes : Int := ((days * 24 + time.hour) * 60 + time.minute : Nat) - offset
  (minutes * 60 + time.second) * 1000000 + time.microsecond

/-- Whether two points in time are the same: with offsets if they are the same instant, else if
they are written the same. -/
def sameInstant (a b : Timestamp) : Bool :=
  match a.time, b.time with
  | some s, some t =>
    match s.offset, t.offset with
    | some m, some n => a.microsecondsOf s m == b.microsecondsOf t n
    | _, _ => a == b
  | _, _ => a == b

/-! ## Texts -/

/-- A number with zeros in front. -/
def zeroPadded (width n : Nat) : String :=
  let digits := toString n
  String.ofList (List.replicate (width - digits.length) '0') ++ digits

/-- An offset: sign, hours and minutes. -/
def offsetText (offset : Int) : String :=
  (if offset < 0 then "-" else "+") ++ zeroPadded 2 (offset.natAbs / 60) ++ ":" ++
    zeroPadded 2 (offset.natAbs % 60)

/-- The text of a time of day; a fraction is written if there is one. -/
def timeText (time : DayTime) : String :=
  zeroPadded 2 time.hour ++ ":" ++ zeroPadded 2 time.minute ++ ":" ++ zeroPadded 2 time.second ++
    (if time.microsecond = 0 then "" else "." ++ zeroPadded 6 time.microsecond) ++
    (time.offset.map offsetText).getD ""

/-- The text of a point in time. -/
def text (t : Timestamp) : String :=
  zeroPadded 4 t.year ++ "-" ++ zeroPadded 2 t.month ++ "-" ++ zeroPadded 2 t.day ++
    (match t.time with
    | some time => " " ++ timeText time
    | none => "")

/-- A number of minutes as a constructor call; days are whole and seconds are not negative. -/
def deltaShown (minutes : Int) : String :=
  let days := minutes / 1440
  let seconds := minutes % 1440 * 60
  let parts :=
    (if days = 0 then [] else ["days=" ++ toString days]) ++
      (if seconds = 0 then [] else ["seconds=" ++ toString seconds])
  "datetime.timedelta(" ++ ", ".intercalate parts ++ ")"

/-- An offset as a constructor call. -/
def offsetShown (offset : Int) : String :=
  if offset = 0 then "datetime.timezone.utc" else "datetime.timezone(" ++ deltaShown offset ++ ")"

/-- A point in time as a constructor call, the form it has inside a list. -/
def shown (t : Timestamp) : String :=
  let date := [t.year, t.month, t.day]
  match t.time with
  | none => "datetime.date(" ++ ", ".intercalate (date.map toString) ++ ")"
  | some time =>
    let clock :=
      [time.hour, time.minute] ++
        (if time.second = 0 ∧ time.microsecond = 0 then [] else [time.second]) ++
        (if time.microsecond = 0 then [] else [time.microsecond])
    "datetime.datetime(" ++ ", ".intercalate ((date ++ clock).map toString) ++
      ((time.offset.map fun offset => ", tzinfo=" ++ offsetShown offset).getD "") ++ ")"

end Timestamp

end Chip8
