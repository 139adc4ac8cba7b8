import NodeAgent.Time.Calendar
/-!
Names of days and months, hours of a clock of twelve hours, and weeks of a year.

Correspondence: the names are those of the locale `C`, and the weeks are those that `strftime`
counts.
-/

namespace NodeAgent.Time

def dayNames : List String :=
  ["Sunday", "Monday", "Tuesday", "Wednesday", "Thursday", "Friday", "Saturday"]

def monthNames : List String :=
  ["January", "February", "March", "April", "May", "June", "July", "August", "September",
   "October", "November", "December"]

/-- A name cut to its first three letters. -/
def short (name : String) : String := String.ofList (name.toList.take 3)

def clockHour (hour : Nat) : Nat := if hour % 12 = 0 then 12 else hour % 12

def yearLength (year : Int) : Int := if isLeap year then 366 else 365

namespace Civil

def dayName (c : Civil) : String := dayNames.getD c.weekDay ""

def monthName (c : Civil) : String := monthNames.getD (c.month - 1) ""

def halfDay (c : Civil) : String := if c.hour < 12 then "AM" else "PM"

/-- The number of the week, the first one starting on the first Sunday. -/
def sundayWeek (c : Civil) : Nat := (c.yearDay + 7 - c.weekDay) / 7

/-- The number of the week, the first one starting on the first Monday. -/
def mondayWeek (c : Civil) : Nat := (c.yearDay + 7 - (c.weekDay + 6) % 7) / 7

/-- The year and the number of a week that starts on Monday; the first week of a year holds its
first Thursday. -/
def isoWeek (c : Civil) : Int × Int :=
  let fromMonday : Int := Int.fmod ((c.weekDay : Int) - 1) 7
  let week := Int.fdiv ((c.yearDay : Int) - fromMonday + 10) 7
  -- the week day of the first of January, from Monday
  let firstDay := Int.fmod (fromMonday - c.yearDay) 7
  let weeks (year first : Int) : Int :=
    if first = 3 ∨ (isLeap year ∧ first = 2) then 53 else 52
  if week < 1 then
    let year := c.year - 1
    (year, weeks year (Int.fmod (firstDay - yearLength year) 7))
  else if weeks c.year firstDay < week then (c.year + 1, 1)
  else (c.year, week)

end Civil

end NodeAgent.Time
