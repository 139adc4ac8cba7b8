import NodeAgent.Time.Pattern
/-!
Texts of moments: the one that log lines show, and those by a pattern. Moments too far away have
none.

Correspondence: `stamp` is `formatTime` without a pattern, and `byPattern` is `formatTime` with one.
-/

namespace NodeAgent.Time

/-- Why a moment has no text: it or its year is out of the bounds of numbers, the calendar does
not reach that far, or the pattern holds a character that ends texts. -/
inductive Fault
  | outOfBounds
  | beyondCalendar
  | badPattern
  deriving DecidableEq

/-- The first number beyond those of 32 bits with a sign. -/
def wordBound : Int := Number.twoTo 31

/-- The first number beyond those of 64 bits with a sign. -/
def secondBound : Int := Number.twoTo 63

/-- What keeps a moment from having a text. The calendar counts years from 1900 in 32 bits. -/
def Moment.fault? (moment : Moment) : Option Fault :=
  if moment.seconds < -secondBound ∨ secondBound ≤ moment.seconds then some .outOfBounds
  else
    let year := (civil moment.seconds).year
    if year - 1900 < -wordBound ∨ wordBound ≤ year - 1900 then some .beyondCalendar
    else if wordBound ≤ year then some .outOfBounds
    else none

def byPattern (pattern : String) (moment : Moment) : Except Fault String :=
  match moment.fault? with
  | some fault => .error fault
  | none =>
    if pattern.toList.contains (Char.ofNat 0) then .error .badPattern
    else .ok (fillPattern moment.seconds pattern)

/-- A moment as log lines show it, to the millisecond. -/
def stamp (moment : Moment) : Except Fault String :=
  match moment.fault? with
  | some fault => .error fault
  | none =>
    let c := civil moment.seconds
    .ok (dateText c ++ " " ++ clockText c ++ "," ++ padded 3 moment.millis)

end NodeAgent.Time
