import NodeAgent.Datum
import NodeAgent.Number.Fixed
import NodeAgent.Number.Power
/-!
Message templates. A directive starts with a percent sign, may name an entry of a dictionary,
carry flags, a width and a precision, and ends with the letter of a conversion. Directives take
their values from the arguments in order; a value too many or too few is a fault, and so is a value
without a text.

Correspondence: `fill` is the formatting of a template by the operator `%`.
-/

namespace NodeAgent.Log

/-- The arguments of a message. A single dictionary that is not empty serves directives that name
entries. -/
inductive Arguments
  | none
  | positional (values : List Datum)
  | named (entries : List (String × Datum))
  deriving Inhabited

def Arguments.ofList : List Datum → Arguments
  | [] => .none
  | [.dict (entry :: entries)] => .named (entry :: entries)
  | values => .positional values

/-- Why a template does not go with its arguments. -/
inductive TemplateFault
  | kind
  | value
  | key (name : String)
  | overflow
  deriving DecidableEq

namespace Template

/-- The values that are left for directives, and the dictionary of the named ones. -/
structure Supply where
  values : List Datum
  entries : Option (List (String × Datum))

/-- Takes the next value. -/
def Supply.take (supply : Supply) : Except TemplateFault (Datum × Supply) :=
  match supply.values with
  | value :: values => .ok (value, { supply with values := values })
  | [] => .error .kind

/-- The entry of a dictionary, which then is the one value left. -/
def Supply.lookup (supply : Supply) (name : String) : Except TemplateFault Supply :=
  match supply.entries with
  | some entries =>
    match entries.find? fun entry => entry.1 == name with
    | some entry => .ok { supply with values := [entry.2] }
    | none => .error (.key name)
  | none => .error .kind

/-- How a directive lays out its value. -/
structure Directive where
  left : Bool := false
  plus : Bool := false
  blank : Bool := false
  alternate : Bool := false
  zeros : Bool := false
  width : Nat := 0
  precision : Option Nat := none

/-- The name up to the parenthesis that closes it; parentheses inside come in pairs. -/
def nameAhead? (depth : Nat) : List Char → Option (List Char × List Char)
  | [] => none
  | ')' :: rest =>
    match depth with
    | 0 => some ([], rest)
    | depth + 1 => (nameAhead? depth rest).map fun (name, rest) => (')' :: name, rest)
  | '(' :: rest => (nameAhead? (depth + 1) rest).map fun (name, rest) => ('(' :: name, rest)
  | c :: rest => (nameAhead? depth rest).map fun (name, rest) => (c :: name, rest)

/-- Reads the name of an entry, if the directive has one. -/
def readName (supply : Supply) : List Char → Except TemplateFault (Supply × List Char)
  | '(' :: rest =>
    if supply.entries.isNone then .error .kind
    else
      match nameAhead? 0 rest with
      | some (name, rest) => (supply.lookup (String.ofList name)).map fun supply => (supply, rest)
      | none => .error .value
  | rest => .ok (supply, rest)

def readFlags (directive : Directive) : List Char → Directive × List Char
  | '-' :: rest => readFlags { directive with left := true } rest
  | '+' :: rest => readFlags { directive with plus := true } rest
  | ' ' :: rest => readFlags { directive with blank := true } rest
  | '#' :: rest => readFlags { directive with alternate := true } rest
  | '0' :: rest => readFlags { directive with zeros := true } rest
  | rest => (directive, rest)

/-- The number of a row of digits ahead, which must not pass a limit. -/
def readSize (limit : Nat) (cs : List Char) : Except TemplateFault (Nat × List Char) :=
  let digits := cs.takeWhile Char.isDigit
  let n := digits.foldl (fun n c => 10 * n + (c.toNat - 48)) 0
  if limit < n then .error .value else .ok (n, cs.dropWhile Char.isDigit)

/-- The whole number that a star takes from the values. -/
def readStar (supply : Supply) (limit : Nat) : Except TemplateFault (Int × Supply) := do
  let (value, supply) ← supply.take
  let number : Int ← match value with
    | .int n => .ok n
    | .bool b => .ok (if b then 1 else 0)
    | _ => .error .kind
  if limit < number.natAbs then .error .overflow else return (number, supply)

def widthLimit : Nat := Number.twoTo 63 - 1

def precisionLimit : Nat := Number.twoTo 31 - 1

/-- Reads the width, if the directive has one. A negative one from a star lays out to the
left. -/
def readWidth (supply : Supply) (directive : Directive) (cs : List Char) :
    Except TemplateFault (Directive × Supply × List Char) :=
  match cs with
  | '*' :: rest => do
    let (n, supply) ← readStar supply widthLimit
    return ({ directive with width := n.natAbs, left := directive.left || n < 0 }, supply, rest)
  | cs => do
    let (n, rest) ← readSize widthLimit cs
    return ({ directive with width := n }, supply, rest)

/-- Reads the precision, if the directive has one. A negative one from a star counts as
nought. -/
def readPrecision (supply : Supply) (directive : Directive) (cs : List Char) :
    Except TemplateFault (Directive × Supply × List Char) :=
  match cs with
  | '.' :: '*' :: rest => do
    let (n, supply) ← readStar supply precisionLimit
    return ({ directive with precision := some n.toNat }, supply, rest)
  | '.' :: rest => do
    let (n, rest) ← readSize precisionLimit rest
    return ({ directive with precision := some n }, supply, rest)
  | cs => .ok (directive, supply, cs)

/-- Passes over one letter that once told the size of a number. -/
def skipSize : List Char → List Char
  | 'h' :: rest => rest
  | 'l' :: rest => rest
  | 'L' :: rest => rest
  | rest => rest

/-! ## Layout -/

/-- The sign of a number's text, one the flags ask for included, and what follows it. -/
def splitSign (directive : Directive) : List Char → List Char × List Char
  | '-' :: rest => (['-'], rest)
  | '+' :: rest => (['+'], rest)
  | cs => (if directive.plus then ['+'] else if directive.blank then [' '] else [], cs)

def layoutText (directive : Directive) (cs : List Char) : List Char :=
  let blanks := List.replicate (directive.width - cs.length) ' '
  if directive.left then cs ++ blanks else blanks ++ cs

/-- A number in its width; `base` characters behind the sign name the base. -/
def layoutNumber (directive : Directive) (base : Nat) (cs : List Char) : List Char :=
  let (sign, rest) := splitSign directive cs
  let front := sign ++ rest.take base
  let digits := rest.drop base
  let missing := directive.width - (front.length + digits.length)
  if directive.left then front ++ digits ++ List.replicate missing ' '
  -- Zeros that fill the width stand behind the sign and the base.
  else if directive.zeros then front ++ List.replicate missing '0' ++ digits
  else List.replicate missing ' ' ++ front ++ digits

/-- A whole number in a base, zeros in front up to the precision. -/
def wholeChars (directive : Directive) (base : Nat) (mark : List Char) (n : Int) : List Char :=
  let digits := Nat.toDigits base n.natAbs
  let padded := List.replicate (directive.precision.getD 0 - digits.length) '0' ++ digits
  (if n < 0 then ['-'] else []) ++ (if directive.alternate then mark else []) ++ padded

/-- The whole number of a value; numbers with a fraction are cut off. -/
def wholeOf : Datum → Except TemplateFault Int
  | .int n => .ok n
  | .bool b => .ok (if b then 1 else 0)
  | .address a => .ok a.toNat
  | .real (.infinite _) => .error .overflow
  | .real x =>
    match x.truncate? with
    | some n => .ok n
    | none => .error .value
  | _ => .error .kind

def exactWholeOf : Datum → Except TemplateFault Int
  | .int n => .ok n
  | .bool b => .ok (if b then 1 else 0)
  | _ => .error .kind

/-- The binary64 number of a value. -/
def realOf : Datum → Except TemplateFault Binary64
  | .real x => .ok x
  | .bool b => .ok (Binary64.ofInt (if b then 1 else 0))
  | .int n =>
    match Binary64.ofInt n with
    | .infinite _ => .error .overflow
    | x => .ok x
  | _ => .error .kind

/-- The text of a binary64 number, `shape` writing a magnitude that is finite. -/
def realChars (shape : Nat → Nat → List Char) : Binary64 → List Char
  | .nan => "nan".toList
  | .infinite negative => (if negative then ['-'] else []) ++ "inf".toList
  | .finite negative m e =>
    let (num, den) := Binary64.magnitude m e
    (if negative then ['-'] else []) ++ shape num den

/-- A number with a fraction, in one of the three shapes. -/
def showReal (directive : Directive) (letter : Char) (x : Binary64) : List Char :=
  let digits := directive.precision.getD 6
  realChars
    (fun num den =>
      if letter = 'f' then Binary64.fixedChars num den digits directive.alternate
      else if letter = 'e' then Binary64.powerChars num den digits directive.alternate
      else Binary64.generalChars num den digits directive.alternate) x

def asciiLiteral : Datum → String :=
  Datum.literalBy fun s =>
    String.ofList
      (Text.quotedChars (fun c => Text.isPrintable c && c.toNat < 128) s.toList)

def characterOf : Datum → Except TemplateFault (List Char)
  | .text s => if s.length = 1 then .ok s.toList else .error .kind
  | value => do
    let n ← exactWholeOf value
    if 0 ≤ n ∧ n < 0x110000 then return [Char.ofNat n.toNat] else .error .overflow

/-- A text cut to the precision and laid out in the width. -/
def showText (directive : Directive) (s : String) : List Char :=
  layoutText directive
    (match directive.precision with
     | some n => s.toList.take n
     | none => s.toList)

/-- A whole number in one of the bases that have a mark. -/
def showBased (directive : Directive) (base : Nat) (mark : List Char) (value : Datum) :
    Except TemplateFault (List Char) :=
  (exactWholeOf value).map fun n =>
    layoutNumber directive (if directive.alternate then 2 else 0)
      (wholeChars directive base mark n)

/-- What is made of a value that has a text; a whole number may have too many digits for one. -/
def ifWritable (value : Datum) (shown : List Char) : Except TemplateFault (List Char) :=
  if value.isWritable then .ok shown else .error .value

/-- The text of a value under the letter of a conversion. Only in base ten do whole numbers have a
most number of digits. -/
def convert (directive : Directive) (letter : Char) (value : Datum) :
    Except TemplateFault (List Char) :=
  match letter with
  | 's' => ifWritable value (showText directive value.plain)
  | 'r' => ifWritable value (showText directive value.literal)
  | 'a' => ifWritable value (showText directive (asciiLiteral value))
  | 'c' => (characterOf value).map (layoutText directive)
  | 'o' => showBased directive 8 ['0', 'o'] value
  | 'x' => showBased directive 16 ['0', 'x'] value
  | 'X' => (showBased directive 16 ['0', 'x'] value).map (List.map Char.toUpper)
  | letter =>
    if letter = 'd' ∨ letter = 'i' ∨ letter = 'u' then
      (wholeOf value).bind fun n =>
        ifWritable (.int n)
          (layoutNumber directive 0 (wholeChars { directive with alternate := false } 10 [] n))
    else if letter = 'f' ∨ letter = 'e' ∨ letter = 'g' then
      (realOf value).map fun x => layoutNumber directive 0 (showReal directive letter x)
    else if letter = 'F' ∨ letter = 'E' ∨ letter = 'G' then
      (realOf value).map fun x =>
        layoutNumber directive 0 ((showReal directive letter.toLower x).map Char.toUpper)
    else .error .value

/-- A directive, read from behind its percent sign: its text, the values left, and what
follows. -/
def directive (supply : Supply) (cs : List Char) :
    Except TemplateFault (List Char × Supply × List Char) := do
  let (supply, rest) ← readName supply cs
  let (layout, rest) := readFlags {} rest
  let (layout, supply, rest) ← readWidth supply layout rest
  let (layout, supply, rest) ← readPrecision supply layout rest
  match skipSize rest with
  | [] => .error .value
  | letter :: rest =>
    let (value, supply) ← supply.take
    return (← convert layout letter value, supply, rest)

/-- Fills in a template; two percent signs stand for one. Each directive takes a character at least,
so the length of the template bounds their number. -/
def fillFrom (supply : Supply) : Nat → List Char → Except TemplateFault (List Char)
  | _, [] => if supply.entries.isNone && !supply.values.isEmpty then .error .kind else .ok []
  | 0, _ => .error .value
  | fuel + 1, '%' :: '%' :: rest => return '%' :: (← fillFrom supply fuel rest)
  | fuel + 1, '%' :: rest => do
    let (text, supply, rest) ← directive supply rest
    return text ++ (← fillFrom supply fuel rest)
  | fuel + 1, c :: rest => return c :: (← fillFrom supply fuel rest)

/-- The message of a template and its arguments; without arguments the template is the message. -/
def fill (template : String) : Arguments → Except TemplateFault String
  | .none => .ok template
  | .positional values =>
    (fillFrom ⟨values, none⟩ (template.length + 1) template.toList).map String.ofList
  | .named entries =>
    (fillFrom ⟨[.dict entries], some entries⟩ (template.length + 1) template.toList).map
      String.ofList

end Template

end NodeAgent.Log
