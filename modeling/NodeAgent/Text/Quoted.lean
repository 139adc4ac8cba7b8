import NodeAgent.Text.Printable
/-!
Quoted texts, as messages show a value whose ends and odd characters matter. The quote mark is
single unless the text holds a single one and no double one; backslash, the mark itself and
characters that do not print are escaped.

Correspondence: `quoted` is the `repr` of a text.
-/

namespace NodeAgent.Text

/-- The digit of a number below sixteen, in lower case. -/
def hexDigit (n : Nat) : Char := (Nat.digitChar (n % 16))

/-- The last `width` hexadecimal digits of a number. -/
def hexDigits : Nat → Nat → List Char
  | 0, _ => []
  | width + 1, n => hexDigits width (n / 16) ++ [hexDigit n]

/-- An escape by code point, as short as the code point allows. -/
def codeEscape (n : Nat) : List Char :=
  if n < 0x100 then '\\' :: 'x' :: hexDigits 2 n
  else if n < 0x10000 then '\\' :: 'u' :: hexDigits 4 n
  else '\\' :: 'U' :: hexDigits 8 n

/-- A character inside quotation marks; `shows` tells which characters stand for themselves. -/
def quotedChar (shows : Char → Bool) (mark c : Char) : List Char :=
  if c = mark ∨ c = '\\' then ['\\', c]
  else if c = '\n' then ['\\', 'n']
  else if c = '\r' then ['\\', 'r']
  else if c = '\t' then ['\\', 't']
  else if shows c then [c]
  else codeEscape c.toNat

/-- The mark that a text is quoted with. -/
def quoteMark (s : List Char) : Char :=
  if s.contains '\'' && !s.contains '"' then '"' else '\''

def quotedChars (shows : Char → Bool) (s : List Char) : List Char :=
  let mark := quoteMark s
  mark :: s.flatMap (quotedChar shows mark) ++ [mark]

/-- A text between quotation marks, printable characters standing for themselves. -/
def quoted (s : String) : String := String.ofList (quotedChars isPrintable s.toList)

end NodeAgent.Text
