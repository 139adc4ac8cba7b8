import NodeAgent.Text.Hex
import NodeAgent.Rehearsal.Yaml.Fault
import NodeAgent.Rehearsal.Yaml.Value
/-!
What a scalar without quotes stands for: a null, a switch, a number, a date, a moment, or its own
text. A scalar may have the form of one of them and still denote none.

Main definition: the value of a scalar by its spelling.
-/

namespace NodeAgent.Rehearsal.Yaml

def nullWords : List String := ["", "~", "null", "Null", "NULL"]

def trueWords : List String := ["yes", "Yes", "YES", "true", "True", "TRUE", "on", "On", "ON"]

def falseWords : List String :=
  ["no", "No", "NO", "false", "False", "FALSE", "off", "Off", "OFF"]

/-- A sign, if one is ahead: whether it is a minus, and what follows. -/
def splitSign : List Char → Bool × List Char
  | '-' :: rest => (true, rest)
  | '+' :: rest => (false, rest)
  | cs => (false, cs)

/-- The number of digits in a base; underscores are passed over. -/
def ofDigits (base : Nat) (cs : List Char) : Nat :=
  cs.foldl (fun n c => if c = '_' then n else base * n + (Text.hexValue? c).getD 0) 0

/-- Whether characters are digits of a base or underscores, at least one of them. -/
def areDigits (isDigit : Char → Bool) (cs : List Char) : Bool :=
  !cs.isEmpty && cs.all fun c => isDigit c || c = '_'

/-- Whether characters are decimal digits or underscores, a digit first. -/
def isDecimalRun (cs : List Char) : Bool :=
  (cs.head?.map Char.isDigit).getD false && areDigits Char.isDigit cs

/-- Whether characters are one or two digits below sixty. -/
def isSixtieth : List Char → Bool
  | [a] => a.isDigit
  | [a, b] => '0' ≤ a && a ≤ '5' && b.isDigit
  | _ => false

/-- The number of parts in base sixty. -/
def ofSixtieths (parts : List (List Char)) : Nat :=
  parts.foldl (fun n part => 60 * n + ofDigits 10 part) 0

/-- Characters without underscores. -/
def bare (cs : List Char) : List Char := cs.filter (· != '_')

/-- The number in a base that marks itself, behind its mark: there must be a digit. -/
def markedNumber (base : Nat) (cs : List Char) : Except Fault Nat :=
  if (bare cs).isEmpty then .error .badValue else .ok (ofDigits base cs)

/-- A number whose longest part in base ten is known: a numeral has a limit of digits. -/
def limited (longest : List Char) (n : Nat) : Except Fault Nat :=
  if (bare longest).length ≤ Number.digitLimit then .ok n else .error .badValue

/-- The whole number that characters without sign denote, if they have the form of one: binary,
octal, hexadecimal, decimal, or in parts of sixty. -/
def wholeNumber? (cs : List Char) : Option (Except Fault Nat) :=
  match cs with
  | ['0'] => some (.ok 0)
  | '0' :: 'b' :: rest =>
    if areDigits (fun c => c = '0' || c = '1') rest then some (markedNumber 2 rest) else none
  | '0' :: 'x' :: rest =>
    if areDigits Text.isHex rest then some (markedNumber 16 rest) else none
  | '0' :: rest =>
    if areDigits (fun c => '0' ≤ c && c ≤ '7') rest then some (.ok (ofDigits 8 rest)) else none
  | cs =>
    if isDecimalRun cs then some (limited cs (ofDigits 10 cs))
    else
      match Text.splitWhere (· == ':') cs with
      | first :: part :: parts =>
        if isDecimalRun first && (part :: parts).all isSixtieth then
          some (limited first (ofSixtieths (first :: part :: parts)))
        else none
      | _ => none

/-- The exponent behind a fraction: nothing, or the letter, a sign and digits. -/
def exponent? : List Char → Option Int
  | [] => some 0
  | e :: sign :: rest =>
    if (e = 'e' ∨ e = 'E') ∧ !rest.isEmpty ∧ rest.all Char.isDigit then
      if sign = '-' then some (-(ofDigits 10 rest : Int))
      else if sign = '+' then some (ofDigits 10 rest)
      else none
    else none
  | _ => none

def isRunChar (c : Char) : Bool := c.isDigit || c = '_'

/-- Whole part and fraction of a numeral with a point, and what follows them. -/
def splitPoint? (cs : List Char) : Option (List Char × List Char × List Char) :=
  match cs.dropWhile isRunChar with
  | '.' :: rest => some (cs.takeWhile isRunChar, rest.takeWhile isRunChar, rest.dropWhile isRunChar)
  | _ => none

/-- The number of a whole part and a fraction, times a power of ten. -/
def ofParts (negative : Bool) (whole fraction : List Char) (power : Int) : Binary64 :=
  Binary64.ofDecimal negative (ofDigits 10 (whole ++ fraction)) (power - (bare fraction).length)

/-- The number with a point that characters denote. Behind a sign there must be a digit. -/
def pointNumber? (cs : List Char) : Option Binary64 :=
  let (negative, unsigned) := splitSign cs
  let signless := unsigned.length = cs.length
  match splitPoint? unsigned with
  | some (whole, fraction, rest) =>
    if isDecimalRun whole || (signless && whole.isEmpty && isDecimalRun fraction) then
      (exponent? rest).map (ofParts negative whole fraction)
    else none
  | none => none

/-- A number with the other sign. -/
def negated : Binary64 → Binary64
  | .nan => .nan
  | .infinite negative => .infinite !negative
  | .finite negative significand exponent => .finite (!negative) significand exponent

/-- The sum of numbers of which each one counts sixty times the one before, the first one
`scale`. Every term and every sum is rounded. -/
def sumOfSixtieths (scale : Nat) (sum : Binary64) : List Binary64 → Except Fault Binary64
  | [] => .ok sum
  | part :: parts =>
    match Binary64.ofInt scale with
    -- A scale beyond all numbers cannot be reckoned with.
    | .infinite _ => .error .outOfBounds
    | factor => sumOfSixtieths (60 * scale) (sum.add (part.mul factor)) parts

/-- The number in parts of sixty, the last one with a point, if characters have the form of
one. -/
def sixtiethsNumber? (cs : List Char) : Option (Except Fault Binary64) :=
  let (negative, unsigned) := splitSign cs
  match (Text.splitWhere (· == ':') unsigned).reverse with
  | last :: second :: others =>
    match splitPoint? last with
    | some (whole, fraction, []) =>
      let first := (second :: others).getLastD []
      if isSixtieth whole && ((second :: others).dropLast).all isSixtieth && isDecimalRun first then
        let parts := ofParts false whole fraction 0 ::
          (second :: others).map fun part => ofParts false part [] 0
        some ((sumOfSixtieths 1 (Binary64.zero false) parts).map fun sum =>
          if negative then negated sum else sum)
      else none
    | _ => none
  | _ => none

def infinityWords : List String := [".inf", ".Inf", ".INF"]

def nanWords : List String := [".nan", ".NaN", ".NAN"]

/-- The number that is not whole, if characters have the form of one. -/
def real? (cs : List Char) : Option (Except Fault Binary64) :=
  let (negative, rest) := splitSign cs
  if nanWords.contains (String.ofList cs) then some (.ok .nan)
  else if infinityWords.contains (String.ofList rest) then some (.ok (.infinite negative))
  else
    match pointNumber? cs with
    | some x => some (.ok x)
    | none => sixtiethsNumber? cs

/-- The date or the moment that characters spell, if they have the form of one. It has to be
real. -/
def dateOrMoment? (cs : List Char) : Option (Except Fault Yaml) :=
  match Time.Date.ofChars? cs with
  | some day => some (if day.isReal then .ok (.date day) else .error .badValue)
  | none =>
    (Time.Timestamp.ofChars? cs).map fun stamp =>
      if stamp.isReal then .ok (.moment stamp) else .error .badValue

/-- The number, the date or the moment that characters spell, if they have the form of one. -/
def measure? (cs : List Char) : Option (Except Fault Yaml) :=
  let (negative, rest) := splitSign cs
  match wholeNumber? rest with
  | some n => some (n.map fun n => .int (if negative then -(n : Int) else n))
  | none =>
    match real? cs with
    | some x => some (x.map .real)
    | none => dateOrMoment? cs

/-- The sign that stands for a merge of mappings, as a key. -/
def mergeSign : String := "<<"

/-- The sign that stands for a default value, as a key. -/
def defaultSign : String := "="

/-- The value of a scalar without quotes. The two signs denote nothing where they are no keys. -/
def ofPlain (written : String) : Except Fault Yaml :=
  if nullWords.contains written then .ok .null
  else if trueWords.contains written then .ok (.bool true)
  else if falseWords.contains written then .ok (.bool false)
  else if written = mergeSign ∨ written = defaultSign then .error .markup
  else (measure? written.toList).getD (.ok (.text written))

end NodeAgent.Rehearsal.Yaml
