/-!
Spans of time in whole microseconds and their texts.

Correspondence: a `Duration` is a `timedelta`; `ofSeconds` makes one of seconds, and `text` and
`literal` are its `str` and its `repr`.
-/

namespace NodeAgent

/-- A span of time, negative ones included. -/
structure Duration where
  micros : Int
  deriving DecidableEq, Inhabited

namespace Duration

def dayMicros : Nat := 86400000000

def dayLimit : Nat := 999999999

def ofSeconds (n : Int) : Duration := ⟨n * 1000000⟩

/-- Whole days, toward the past. -/
def days (d : Duration) : Int := Int.fdiv d.micros dayMicros

/-- Microseconds since the last whole day. -/
def microsOfDay (d : Duration) : Nat := (Int.fmod d.micros dayMicros).toNat

/-- Decimal digits of a number, zeros in front up to a width. -/
def padded (width n : Nat) : String :=
  let digits := toString n
  String.ofList (List.replicate (width - digits.length) '0') ++ digits

/-- Days if any, then hours, minutes and seconds, then microseconds if any. -/
def text (d : Duration) : String :=
  let days := d.days
  let seconds := d.microsOfDay / 1000000
  let micros := d.microsOfDay % 1000000
  let dayText :=
    if days = 0 then "" else toString days ++ (if days.natAbs = 1 then " day, " else " days, ")
  dayText ++ toString (seconds / 3600) ++ ":" ++ padded 2 (seconds / 60 % 60) ++ ":" ++
    padded 2 (seconds % 60) ++ (if micros = 0 then "" else "." ++ padded 6 micros)

/-- The text of a span inside the text of a list or an object: its parts that are not nought. -/
def literal (d : Duration) : String :=
  let days := d.days
  let seconds := d.microsOfDay / 1000000
  let micros := d.microsOfDay % 1000000
  let parts :=
    (if days = 0 then [] else ["days=" ++ toString days]) ++
    (if seconds = 0 then [] else ["seconds=" ++ toString seconds]) ++
    (if micros = 0 then [] else ["microseconds=" ++ toString micros])
  "datetime.timedelta(" ++ (if parts.isEmpty then "0" else String.intercalate ", " parts) ++ ")"

end Duration

end NodeAgent
