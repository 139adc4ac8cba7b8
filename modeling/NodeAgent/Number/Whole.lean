import NodeAgent.Text.Blank
import NodeAgent.Text.Digit
/-!
Whole numbers in base ten, as settings spell them: blanks around, one sign, digits of any script
with single underscores between them, at most 4300 digits.

Correspondence: `ofText?` is `int` of a text, and `digitLimit` the limit on its digits.
-/

namespace NodeAgent.Number

/-- Blanks that may surround a number: the separators U+001C to U+001F are none. -/
def isMargin (c : Char) : Bool := Text.isBlank c && !(28 ≤ c.toNat && c.toNat < 32)

/-- The digits of a numeral whose underscores each stand between two digits. `afterDigit` tells
whether the character before was a digit. -/
def digitRun? (afterDigit : Bool) : List Char → Option (List Char)
  | [] => if afterDigit then some [] else none
  | c :: cs =>
    if Text.isDecimal c then (digitRun? true cs).map (c :: ·)
    else if c = '_' ∧ afterDigit then digitRun? false cs
    else none

def digitLimit : Nat := 4300

def ofNumeral? (cs : List Char) : Option Nat :=
  match digitRun? false cs with
  | some digits => if digits.length ≤ digitLimit then some (Text.ofDigits digits) else none
  | none => none

def ofText? (s : String) : Option Int :=
  match Text.dropEnds isMargin s.toList with
  | '-' :: cs => (ofNumeral? cs).map fun n : Nat => -(n : Int)
  | '+' :: cs => (ofNumeral? cs).map Int.ofNat
  | cs => (ofNumeral? cs).map Int.ofNat

end NodeAgent.Number
