import NodeAgent.Duration
import NodeAgent.Number.Binary64
import NodeAgent.Text.Blank
import NodeAgent.Text.Digit
/-!
Durations as settings spell them: a bare number of seconds, or numbers each followed by a unit,
such as `1h30m` or `1.5h`. Seconds are added up in binary64, from left to right.

Correspondence: `Duration.read` is `parse_duration`, `part?` its `_DURATION_PART`, and `seconds?`
the loop over its parts.
-/

namespace NodeAgent.Duration

/-- A number without sign: its digits before and after the point. -/
structure Numeral where
  whole : List Char
  fraction : List Char
  deriving DecidableEq

def Numeral.value (n : Numeral) : Binary64 :=
  Binary64.ofDecimal false (Text.ofDigits (n.whole ++ n.fraction)) (-(n.fraction.length : Int))

inductive Measure
  | nanosecond
  | microsecond
  | millisecond
  | second
  | minute
  | hour
  deriving DecidableEq

/-- A measure in seconds. -/
def Measure.seconds : Measure → Binary64
  | nanosecond => Binary64.ofDecimal false 1 (-9)
  | microsecond => Binary64.ofDecimal false 1 (-6)
  | millisecond => Binary64.ofDecimal false 1 (-3)
  | second => Binary64.ofInt 1
  | minute => Binary64.ofInt 60
  | hour => Binary64.ofInt 3600

/-- The longest numeral ahead: digits with an optional point and further digits, or a point and
digits. -/
def numeral? (cs : List Char) : Option (Numeral × List Char) :=
  let whole := cs.takeWhile Text.isDecimal
  match cs.dropWhile Text.isDecimal with
  | '.' :: rest =>
    let fraction := rest.takeWhile Text.isDecimal
    if whole.isEmpty && fraction.isEmpty then none
    else some (⟨whole, fraction⟩, rest.dropWhile Text.isDecimal)
  | rest => if whole.isEmpty then none else some (⟨whole, []⟩, rest)

/-- The longest name of a unit ahead. -/
def measure? : List Char → Option (Measure × List Char)
  | 'n' :: 's' :: rest => some (.nanosecond, rest)
  | 'u' :: 's' :: rest => some (.microsecond, rest)
  | 'µ' :: 's' :: rest => some (.microsecond, rest)
  | 'm' :: 's' :: rest => some (.millisecond, rest)
  | 's' :: rest => some (.second, rest)
  | 'm' :: rest => some (.minute, rest)
  | 'h' :: rest => some (.hour, rest)
  | _ => none

/-- A part of a duration: so many of a measure. -/
structure Part where
  number : Numeral
  measure : Measure
  deriving DecidableEq

def Part.seconds (part : Part) : Binary64 := part.number.value.mul part.measure.seconds

/-- The part ahead: a numeral and, right behind it, the name of a unit. -/
def part? (cs : List Char) : Option (Part × List Char) :=
  match numeral? cs with
  | some (number, rest) => (measure? rest).map fun (measure, rest) => (⟨number, measure⟩, rest)
  | none => none

/-- The first part in a text, with how many characters stand before it and what stands behind. -/
def nextPart? : List Char → Option (Nat × Part × List Char)
  | [] => none
  | c :: cs =>
    match part? (c :: cs) with
    | some (part, rest) => some (0, part, rest)
    | none => (nextPart? cs).map fun (skipped, found) => (skipped + 1, found)

/-- Adds the parts of a text to a sum, one after the other, until there is none or one with a gap
before it; what is left from there on stands beside the sum. Each part takes a character at least,
so the length of the text bounds their number. -/
def addParts : Nat → Binary64 → List Char → Binary64 × List Char
  | 0, total, cs => (total, cs)
  | fuel + 1, total, cs =>
    match nextPart? cs with
    | some (0, part, rest) => addParts fuel (total.add part.seconds) rest
    | _ => (total, cs)

/-- The seconds of a text without blanks around it and without sign: those of a bare number, or the
sum of its parts if there are any and they take up the whole text. -/
def seconds? (cs : List Char) : Option Binary64 :=
  match numeral? cs with
  | some (number, []) => some number.value
  | _ =>
    let (total, rest) := addParts cs.length (Binary64.zero false) cs
    if rest.length = cs.length || !rest.isEmpty then none else some total

/-- The microseconds nearest to a number of seconds, if it is finite. The whole seconds count
exactly; the rest is rounded to a microsecond, a half going to the even one. -/
def microsOf? (seconds : Binary64) : Option Int :=
  match seconds.truncate?, seconds.fraction? with
  | some whole, some fraction =>
    (fraction.mul (Binary64.ofInt 1000000)).round?.map fun micros => whole * 1000000 + micros
  | _, _ => none

/-- The span of so many microseconds, if it is short enough to be one. -/
def ofMicros? (micros : Int) : Option Duration :=
  if (Int.fdiv micros dayMicros).natAbs ≤ dayLimit then some ⟨micros⟩ else none

/-- The span nearest to a number of seconds, if there is one. -/
def ofBinary64? (seconds : Binary64) : Option Duration := (microsOf? seconds).bind ofMicros?

/-- Why a text denotes no duration. -/
inductive Fault
  | empty
  | negative
  | malformed
  | outOfRange
  deriving DecidableEq

/-- The duration that a text denotes. Plus signs in front are passed over. -/
def read (value : String) : Except Fault Duration :=
  match Text.dropEnds Text.isBlank value.toList with
  | [] => .error .empty
  | '-' :: _ => .error .negative
  | cs =>
    match seconds? (cs.dropWhile (· == '+')) with
    | some seconds =>
      match ofBinary64? seconds with
      | some duration => .ok duration
      | none => .error .outOfRange
    | none => .error .malformed

end NodeAgent.Duration
