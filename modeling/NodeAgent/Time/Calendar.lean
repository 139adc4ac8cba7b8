/-!
Moments in coordinated universal time, by the proleptic Gregorian calendar.

Correspondence: `civil` is `localtime` where the local time is the coordinated one.
-/

namespace NodeAgent.Time

/-- A moment: whole seconds since the start of 1970, and milliseconds that log lines show. -/
structure Moment where
  seconds : Int := 0
  millis : Int := 0
  deriving DecidableEq, Inhabited

/-- A date and a time of day. `weekDay` counts from Sunday and `yearDay` from the first of
January, both from nought. -/
structure Civil where
  year : Int
  month : Nat
  day : Nat
  hour : Nat
  minute : Nat
  second : Nat
  weekDay : Nat
  yearDay : Nat
  deriving DecidableEq

/-- Whether a year has a 29th of February. -/
def isLeap (year : Int) : Bool :=
  year % 4 = 0 && (year % 100 ≠ 0 || year % 400 = 0)

/-- Days before each month of a year without a 29th of February. -/
def daysBefore : List Nat := [0, 31, 59, 90, 120, 151, 181, 212, 243, 273, 304, 334]

/-- The date of a day, days counted from the start of 1970. -/
def dateOfDay (days : Int) : Int × Nat × Nat :=
  -- Years are counted from March and in cycles of 400 years, so that the odd day comes last.
  let shifted := days + 719468
  let cycle := Int.fdiv shifted 146097
  let dayOfCycle := (Int.fmod shifted 146097).toNat
  let yearOfCycle :=
    (dayOfCycle - dayOfCycle / 1460 + dayOfCycle / 36524 - dayOfCycle / 146096) / 365
  let dayOfYear := dayOfCycle - (365 * yearOfCycle + yearOfCycle / 4 - yearOfCycle / 100)
  let monthFromMarch := (5 * dayOfYear + 2) / 153
  let day := dayOfYear - (153 * monthFromMarch + 2) / 5 + 1
  let month := if monthFromMarch < 10 then monthFromMarch + 3 else monthFromMarch - 9
  let year := yearOfCycle + cycle * 400 + (if month ≤ 2 then 1 else 0)
  (year, month, day)

def civil (seconds : Int) : Civil :=
  let days := Int.fdiv seconds 86400
  let rest := (Int.fmod seconds 86400).toNat
  let (year, month, day) := dateOfDay days
  let yearDay :=
    daysBefore.getD (month - 1) 0 + day - 1 + (if isLeap year && 2 < month then 1 else 0)
  { year, month, day, yearDay
    hour := rest / 3600, minute := rest / 60 % 60, second := rest % 60
    weekDay := (Int.fmod (days + 4) 7).toNat }

end NodeAgent.Time
