import NodeAgent.Text.Digit
import NodeAgent.Time.Calendar
import NodeAgent.Time.Padding
/-!
Dates, and moments that may bear an offset from coordinated universal time: how documents spell
them, what they say, and when two of them are the same.

Correspondence: `Date` is `date` and `Timestamp` is `datetime`, each with its `str`.
-/

namespace NodeAgent.Time

/-- A date in numbers, which need not be in the calendar. -/
structure Date where
  year : Nat
  month : Nat
  day : Nat
  deriving DecidableEq, Inhabited

namespace Date

def monthLength (date : Date) : Nat :=
  if date.month = 2 then if isLeap date.year then 29 else 28
  else if date.month = 4 ∨ date.month = 6 ∨ date.month = 9 ∨ date.month = 11 then 30
  else 31

/-- Whether a date is in the calendar, whose years start at one. -/
def isReal (date : Date) : Bool :=
  1 ≤ date.year && 1 ≤ date.month && date.month ≤ 12 && 1 ≤ date.day &&
    date.day ≤ date.monthLength

/-- Days from the first of January of year one. -/
def dayNumber (date : Date) : Int :=
  let past : Int := date.year - 1
  365 * past + past / 4 - past / 100 + past / 400 + daysBefore.getD (date.month - 1) 0 +
    (if isLeap date.year && 2 < date.month then 1 else 0) + date.day - 1

end Date

/-- A date with a time of day. The offset is that of its place, in minutes, if it is known. -/
structure Timestamp where
  date : Date
  hour : Nat := 0
  minute : Nat := 0
  second : Nat := 0
  micros : Nat := 0
  offset : Option Int := none
  deriving DecidableEq, Inhabited

namespace Timestamp

/-- Whether date and time of day are real, and the offset is less than a day. -/
def isReal (stamp : Timestamp) : Bool :=
  stamp.date.isReal && stamp.hour < 24 && stamp.minute < 60 && stamp.second < 60 &&
    stamp.offset.all fun minutes => minutes.natAbs < 24 * 60

/-- Microseconds from the start of year one on the clock that the offset belongs to. -/
def clock (stamp : Timestamp) : Int :=
  ((stamp.date.dayNumber * 24 + stamp.hour) * 60 + stamp.minute) * 60000000 +
    stamp.second * 1000000 + stamp.micros

/-- Whether two moments are the same. One with an offset never is one without. -/
def same (a b : Timestamp) : Bool :=
  match a.offset, b.offset with
  | some east, some other => a.clock - east * 60000000 == b.clock - other * 60000000
  | none, none => a.clock == b.clock
  | _, _ => false

end Timestamp

/-! ## Texts -/

/-- The text of a date, the year in four digits first. -/
def Date.text (date : Date) : String :=
  padded 4 date.year ++ "-" ++ padded 2 date.month ++ "-" ++ padded 2 date.day

/-- The text of an offset: a sign, hours and minutes. -/
def offsetText (minutes : Int) : String :=
  (if minutes < 0 then "-" else "+") ++ padded 2 (minutes.natAbs / 60 : Nat) ++ ":" ++
    padded 2 (minutes.natAbs % 60 : Nat)

/-- The text of a moment: the date, the time of day with the fraction of its second unless it is
nought, and the offset if it is known. -/
def Timestamp.text (stamp : Timestamp) : String :=
  stamp.date.text ++ " " ++ padded 2 stamp.hour ++ ":" ++ padded 2 stamp.minute ++ ":" ++
    padded 2 stamp.second ++
    (if stamp.micros = 0 then "" else "." ++ padded 6 stamp.micros) ++
    (stamp.offset.map offsetText).getD ""

/-! ## Spellings -/

/-- The number of the digits ahead, if there are `least` to `most` of them, and what follows. -/
def digitsAhead? (least most : Nat) (cs : List Char) : Option (Nat × List Char) :=
  let digits := cs.takeWhile Char.isDigit
  if least ≤ digits.length ∧ digits.length ≤ most then
    some (Text.ofDigits digits, cs.dropWhile Char.isDigit)
  else none

def signAhead? (sign : Char) : List Char → Option (List Char)
  | c :: rest => if c = sign then some rest else none
  | [] => none

/-- The date ahead and what follows it: a year of four digits, a month and a day. -/
def dateAhead? (cs : List Char) : Option (Date × List Char) := do
  let (year, cs) ← digitsAhead? 4 4 cs
  let cs ← signAhead? '-' cs
  let (month, cs) ← digitsAhead? 1 2 cs
  let cs ← signAhead? '-' cs
  let (day, cs) ← digitsAhead? 1 2 cs
  return ({ year, month, day }, cs)

/-- Whether a character is a blank between the parts of a moment. -/
def isPartGap (c : Char) : Bool := c = ' ' || c = '\t'

/-- What follows the gap between date and time of day: a letter or blanks. -/
def timeAhead? : List Char → Option (List Char)
  | c :: rest =>
    if c = 'T' ∨ c = 't' then some rest
    else if isPartGap c then some (rest.dropWhile isPartGap)
    else none
  | [] => none

/-- The microseconds that the digits of a fraction denote; digits behind the sixth do not
count. -/
def fractionMicros (digits : List Char) : Nat :=
  Text.ofDigits ((digits ++ List.replicate 6 '0').take 6)

/-- The fraction ahead in microseconds, nought if there is none, and what follows it. -/
def fractionAhead : List Char → Nat × List Char
  | '.' :: rest =>
    (fractionMicros (rest.takeWhile Char.isDigit), rest.dropWhile Char.isDigit)
  | cs => (0, cs)

def offsetMinutes? : List Char → Option Nat
  | [] => some 0
  | ':' :: rest =>
    match digitsAhead? 2 2 rest with
    | some (minutes, []) => some minutes
    | _ => none
  | _ => none

/-- The offset that characters behind a sign denote: hours of one or two digits, and minutes. -/
def offset? (cs : List Char) : Option Int :=
  match digitsAhead? 1 2 cs with
  | some (hours, rest) => (offsetMinutes? rest).map fun minutes => (60 * hours + minutes : Nat)
  | none => none

/-- What ends a moment: nothing, or an offset, the letter standing for none from universal
time. -/
def zone? (cs : List Char) : Option (Option Int) :=
  match cs with
  | [] => some none
  | cs =>
    match cs.dropWhile isPartGap with
    | ['Z'] => some (some 0)
    | '+' :: rest => (offset? rest).map some
    | '-' :: rest => (offset? rest).map fun minutes => some (-minutes)
    | _ => none

/-- The date that characters spell, month and day in two digits each. -/
def Date.ofChars? (cs : List Char) : Option Date :=
  match dateAhead? cs with
  | some (date, []) => if cs.length = 10 then some date else none
  | _ => none

/-- The moment that characters spell: a date, a time of day, and what may follow them. -/
def Timestamp.ofChars? (cs : List Char) : Option Timestamp := do
  let (date, cs) ← dateAhead? cs
  let cs ← timeAhead? cs
  let (hour, cs) ← digitsAhead? 1 2 cs
  let cs ← signAhead? ':' cs
  let (minute, cs) ← digitsAhead? 2 2 cs
  let cs ← signAhead? ':' cs
  let (second, cs) ← digitsAhead? 2 2 cs
  let (micros, cs) := fractionAhead cs
  let offset ← zone? cs
  return { date, hour, minute, second, micros, offset }

end NodeAgent.Time
