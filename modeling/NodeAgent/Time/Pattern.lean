import NodeAgent.Number.Power
import NodeAgent.Text.Digit
import NodeAgent.Time.Padding
import NodeAgent.Time.Week
/-!
Patterns of dates and times. A directive is a percent sign, marks for filler and case, a least
width, a letter for another form, and the letter of what it stands for; all else stands for itself.

Correspondence: `fillPattern` is `strftime`.
-/

namespace NodeAgent.Time

/-! ## Reading patterns -/

/-- How a directive wants its text. -/
structure Style where
  /-- The mark of the filler in front of numbers: a low line, a dash, or a nought. -/
  filler : Option Char := none
  /-- Whether letters are to be capitals. -/
  upper : Bool := false
  /-- Whether letters are to change their case. -/
  swapped : Bool := false
  /-- The least width. -/
  width : Nat := 0
  /-- The letter for another form of a date or of digits. -/
  form : Option Char := none
  deriving DecidableEq, Inhabited

/-- A directive; it stands for itself if it has no letter or one that means nothing. -/
structure Directive where
  style : Style
  letter : Option Char
  written : List Char

inductive Part
  | char (c : Char)
  | directive (directive : Directive)

/-- The marks ahead and what follows them. Of several fillers the last one counts. -/
def marksAhead (style : Style) : List Char → Style × List Char
  | [] => (style, [])
  | c :: rest =>
    if c = '_' ∨ c = '-' ∨ c = '0' then marksAhead { style with filler := some c } rest
    else if c = '^' then marksAhead { style with upper := true } rest
    else if c = '#' then marksAhead { style with swapped := true } rest
    else (style, c :: rest)

def greatestWidth : Nat := 2147483647

/-- The style ahead, behind a percent sign, and what follows it. -/
def styleAhead (cs : List Char) : Style × List Char :=
  let (style, cs) := marksAhead {} cs
  let style := { style with
    width := min greatestWidth (Text.ofDigits (cs.takeWhile Char.isDigit)) }
  match cs.dropWhile Char.isDigit with
  | 'E' :: rest => ({ style with form := some 'E' }, rest)
  | 'O' :: rest => ({ style with form := some 'O' }, rest)
  | rest => (style, rest)

/-- The directive ahead, behind its percent sign, and what follows it. A second percent sign is
written alone. -/
def directiveAhead (cs : List Char) : Directive × List Char :=
  let (style, rest) := styleAhead cs
  let marks := cs.take (cs.length - rest.length)
  match rest with
  | [] => (⟨style, none, '%' :: marks⟩, [])
  | '%' :: rest => (⟨style, some '%', ['%']⟩, rest)
  | letter :: rest => (⟨style, some letter, '%' :: marks ++ [letter]⟩, rest)

/-- The parts of a pattern, each of which takes a character at least. -/
def partsOf : Nat → List Char → List Part
  | 0, _ => []
  | _ + 1, [] => []
  | fuel + 1, '%' :: rest =>
    let (directive, rest) := directiveAhead rest
    .directive directive :: partsOf fuel rest
  | fuel + 1, c :: rest => .char c :: partsOf fuel rest

/-! ## Filling them in -/

/-- A piece of a text with a filler behind its sign. -/
structure Piece where
  sign : List Char := []
  filler : Char := ' '
  filling : Nat := 0
  text : List Char

namespace Piece

/-- The characters that a piece takes. -/
def length (piece : Piece) : Nat := piece.sign.length + piece.filling + piece.text.length

/-- The characters of a piece. -/
def chars (piece : Piece) : List Char :=
  piece.sign ++ List.replicate piece.filling piece.filler ++ piece.text

end Piece

namespace Style

/-- A text up to the width, in front of which noughts stand only if they are asked for. -/
def plain (style : Style) (text : List Char) : Piece :=
  { filler := if style.filler = some '0' then '0' else ' '
    filling := style.width - text.length
    text }

/-- A text in capitals if they are asked for. -/
def asked (style : Style) (text : List Char) : Piece :=
  style.plain (if style.upper then text.map Char.toUpper else text)

/-- A name, which a change of case puts in capitals. -/
def name (style : Style) (text : String) : Piece :=
  { style with upper := style.upper || style.swapped }.asked text.toList

/-- A text of capitals, which a change of case makes small. -/
def capitals (style : Style) (text : String) : Piece :=
  if style.swapped then style.plain (text.toList.map Char.toLower) else style.asked text.toList

/-- A number with noughts in front up to `least` digits or the width, unless another filler is
asked for. -/
def number (style : Style) (least : Nat) (n : Int) : Piece :=
  let digits := (toString n.natAbs).toList
  let sign := if n < 0 then ['-'] else []
  -- A dash asks for no digits, so only the width is filled.
  if style.filler = some '-' then style.plain (sign ++ digits)
  else
    let filling := max least style.width - (sign.length + digits.length)
    if style.filler = some '_' then { filling, text := sign ++ digits }
    else { sign, filler := '0', filling, text := digits }

/-- A number with blanks in front unless another filler is asked for. -/
def spacedNumber (style : Style) (least : Nat) (n : Int) : Piece :=
  { style with filler := some (style.filler.getD '_') }.number least n

end Style

def dateText (c : Civil) : String :=
  toString c.year ++ "-" ++ padded 2 c.month ++ "-" ++ padded 2 c.day

def hourText (c : Civil) : String := padded 2 c.hour ++ ":" ++ padded 2 c.minute

def clockText (c : Civil) : String := hourText c ++ ":" ++ padded 2 c.second

/-- The time of day on a clock of twelve hours. -/
def halfClockText (c : Civil) : String :=
  padded 2 (clockHour c.hour) ++ ":" ++ padded 2 c.minute ++ ":" ++ padded 2 c.second ++ " " ++
    c.halfDay

/-- The date in numbers, the month first and the year in two digits. -/
def shortDateText (c : Civil) : String :=
  padded 2 c.month ++ "/" ++ padded 2 c.day ++ "/" ++ padded 2 (c.year % 100)

def wordsText (c : Civil) : String :=
  short c.dayName ++ " " ++ short c.monthName ++ " " ++ paddedWith ' ' 2 c.day ++ " " ++
    clockText c ++ " " ++ toString c.year

/-- Letters that have no other form of the date. -/
def withoutDateForm : List Char := "%aAbBdDeFgGhHIjklmMSUVwW".toList

/-- Letters that have no other form of the digits. -/
def withoutDigitForm : List Char := "%aAcDFxXY".toList

def hasForm (letter : Char) (form : Option Char) : Bool :=
  match form with
  | some 'E' => !withoutDateForm.contains letter
  | some _ => !withoutDigitForm.contains letter
  | none => true

def meaning? (seconds : Int) (c : Civil) (style : Style) (letter : Char) : Option (List Piece) :=
  let asked (text : String) : Option (List Piece) := some [style.asked text.toList]
  let number (least : Nat) (n : Int) : Option (List Piece) := some [style.number least n]
  let spaced (least : Nat) (n : Int) : Option (List Piece) := some [style.spacedNumber least n]
  match letter with
  | 'a' => some [style.name (short c.dayName)]
  | 'A' => some [style.name c.dayName]
  | 'b' => some [style.name (short c.monthName)]
  | 'h' => some [style.name (short c.monthName)]
  | 'B' => some [style.name c.monthName]
  | 'c' => asked (wordsText c)
  | 'C' => number 2 (Int.fdiv c.year 100)
  | 'd' => number 2 c.day
  | 'D' => asked (shortDateText c)
  | 'e' => spaced 2 c.day
  | 'F' => asked (dateText c)
  | 'g' => number 2 (c.isoWeek.1 % 100)
  | 'G' => number 1 c.isoWeek.1
  | 'H' => number 2 c.hour
  | 'I' => number 2 (clockHour c.hour)
  | 'j' => number 3 (c.yearDay + 1)
  | 'k' => spaced 2 c.hour
  | 'l' => spaced 2 (clockHour c.hour)
  | 'm' => number 2 c.month
  | 'M' => number 2 c.minute
  | 'n' => asked "\n"
  | 'p' => some [style.capitals c.halfDay]
  | 'P' => some [style.plain (c.halfDay.toList.map Char.toLower)]
  | 'r' => asked (halfClockText c)
  | 'R' => asked (hourText c)
  | 's' => asked (toString seconds)
  | 'S' => number 2 c.second
  | 't' => asked "\t"
  | 'T' => asked (clockText c)
  | 'u' => number 1 (if c.weekDay = 0 then 7 else c.weekDay)
  | 'U' => number 2 c.sundayWeek
  | 'V' => number 2 c.isoWeek.2
  | 'w' => number 1 c.weekDay
  | 'W' => number 2 c.mondayWeek
  | 'x' => asked (shortDateText c)
  | 'X' => asked (clockText c)
  | 'y' => number 2 (c.year % 100)
  | 'Y' => number 1 c.year
  | 'z' => some [style.plain ['+'], style.number 4 0]
  | 'Z' => some [style.capitals "UTC"]
  | '%' => asked "%"
  | _ => none

/-- A directive that stands for itself. That of a short name of a month changes its case like
the name. -/
def Directive.verbatim (directive : Directive) : Piece :=
  if directive.letter = some 'b' ∨ directive.letter = some 'h' then
    directive.style.name (String.ofList directive.written)
  else directive.style.asked directive.written

def Directive.pieces (seconds : Int) (c : Civil) (directive : Directive) : List Piece :=
  let found := directive.letter.bind fun letter =>
    if hasForm letter directive.style.form then meaning? seconds c directive.style letter
    else none
  found.getD [directive.verbatim]

def Part.pieces (seconds : Int) (c : Civil) : Part → List Piece
  | char c => [{ text := [c] }]
  | directive d => d.pieces seconds c

/-- The room for the text of a pattern of a length: the first of 1024, 2048 and so on that has
256 places for each character. -/
def room (length : Nat) : Nat :=
  let quarters := (length + 3) / 4
  1024 * (if quarters ≤ 1 then 1 else Number.twoTo (Nat.log2 (quarters - 1) + 1))

/-- A pattern filled in. -/
def fillPattern (seconds : Int) (pattern : String) : String :=
  let cs := pattern.toList
  let pieces := (partsOf cs.length cs).flatMap (Part.pieces seconds (civil seconds))
  let length := pieces.foldl (fun n piece => n + piece.length) 0
  -- A text that the room does not hold is dropped as a whole.
  if length < room cs.length then String.ofList (pieces.flatMap Piece.chars) else ""

end NodeAgent.Time
