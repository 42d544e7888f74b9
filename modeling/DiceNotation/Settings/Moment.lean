/-!
# Dates and times

The dates and times that a settings document may hold. Days are those of the calendar that counts leap
years by the four hundred year rule, from the year one on.
-/

namespace DiceNotation

/-- A day of the calendar. -/
structure Day where
  year : Nat
  month : Nat
  day : Nat
deriving DecidableEq, Repr

/-- A time of day, to the microsecond. -/
structure Clock where
  hour : Nat
  minute : Nat
  second : Nat
  microsecond : Nat
deriving DecidableEq, Repr

/-- A day, a time of day, or both; in the last case maybe with the distance from universal time in
minutes. -/
inductive Moment where
  | day (day : Day)
  | clock (clock : Clock)
  | both (day : Day) (clock : Clock) (offset : Option Int)
deriving DecidableEq, Repr

namespace Day

/-- Whether a year has a leap day. -/
def isLeap (year : Nat) : Bool := (year % 4 == 0 && year % 100 != 0) || year % 400 == 0

/-- The number of days in a month. -/
def monthLength (year month : Nat) : Nat :=
  if month = 2 then (if isLeap year then 29 else 28)
  else if month = 4 || month = 6 || month = 9 || month = 11 then 30
  else 31

/-- Whether the day is in the calendar. -/
def isReal (d : Day) : Bool :=
  0 < d.year && 0 < d.month && d.month ≤ 12 && 0 < d.day && d.day ≤ monthLength d.year d.month

end Day

/-! ## Written form -/

/-- The numbers of a clock, without the seconds where they and the microseconds are zero, and without
the microseconds where they are zero. -/
def Clock.numbers (c : Clock) : List Nat :=
  [c.hour, c.minute] ++
    if c.microsecond ≠ 0 then [c.second, c.microsecond]
    else if c.second ≠ 0 then [c.second]
    else []

/-- The numbers of a day. -/
def Day.numbers (d : Day) : List Nat := [d.year, d.month, d.day]

/-- The written form of a distance from universal time, in whole days and seconds. -/
def offsetLiteral (minutes : Int) : String :=
  if minutes = 0 then "datetime.timezone.utc"
  else
    let days := minutes / 1440
    let seconds := minutes % 1440 * 60
    let parts :=
      (if days = 0 then [] else [s!"days={days}"]) ++
        if seconds = 0 then [] else [s!"seconds={seconds}"]
    "datetime.timezone(datetime.timedelta(" ++ ", ".intercalate parts ++ "))"

/-- The written form of a date or time. -/
def Moment.literal (m : Moment) : String :=
  let call (name : String) (parts : List String) : String :=
    "datetime." ++ name ++ "(" ++ ", ".intercalate parts ++ ")"
  let shown (numbers : List Nat) : List String := numbers.map toString
  match m with
  | .day d => call "date" (shown d.numbers)
  | .clock c => call "time" (shown c.numbers)
  | .both d c none => call "datetime" (shown (d.numbers ++ c.numbers))
  | .both d c (some offset) =>
    call "datetime" (shown (d.numbers ++ c.numbers) ++ ["tzinfo=" ++ offsetLiteral offset])

/-- The name of the kind of a date or time. -/
def Moment.kind : Moment → String
  | .day _ => "date"
  | .clock _ => "time"
  | .both _ _ _ => "datetime"

end DiceNotation
