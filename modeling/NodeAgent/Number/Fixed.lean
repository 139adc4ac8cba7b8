import NodeAgent.Number.Shortest
/-!
Decimal texts of binary64 numbers with a given number of digits: in positions, with a power of
ten, and the shorter of the two. Digits are rounded from the exact value, a half going to the
even neighbour.

Correspondence: `fixedChars`, `powerChars` and `generalChars` are the conversions `f`, `e` and `g`.
-/

namespace NodeAgent.Binary64

open Number (twoTo tenTo)

/-- Zeros in front of digits up to a width. -/
def padLeft (width : Nat) (digits : List Char) : List Char :=
  List.replicate (width - digits.length) '0' ++ digits

/-- Digits with a point in front of the last `places`; `point` keeps a point that ends the
text. -/
def withPoint (places : Nat) (point : Bool) (digits : List Char) : List Char :=
  let digits := padLeft (places + 1) digits
  let whole := digits.take (digits.length - places)
  let fraction := digits.drop (digits.length - places)
  if fraction.isEmpty && !point then whole else whole ++ '.' :: fraction

/-- A magnitude in positions. -/
def fixedChars (num den places : Nat) (point : Bool) : List Char :=
  withPoint places point (digitsText (halfEven (num * tenTo places) den))

/-- A magnitude rounded to `count` digits, with the power of ten of the first one. -/
def significant (num den count : Nat) : Nat × Int :=
  if num = 0 then (0, 0)
  else
    let lead := floorLog10 num den
    let place := lead + 1 - count
    let rounded := halfEven (num * tenTo (-place).toNat) (den * tenTo place.toNat)
    if rounded = tenTo count then (tenTo (count - 1), lead + 1) else (rounded, lead)

/-- Digits with the point behind the first one and a power of ten. -/
def withPower (places : Nat) (point : Bool) (digits : Nat) (lead : Int) : List Char :=
  withPoint places point (padLeft (places + 1) (digitsText digits)) ++ 'e' :: exponentText lead

def powerChars (num den places : Nat) (point : Bool) : List Char :=
  let (digits, lead) := significant num den (places + 1)
  withPower places point digits lead

/-- A text without the zeros that end its fraction, and without a point that ends it. -/
def trimFraction (cs : List Char) : List Char :=
  if cs.contains '.' then
    match cs.reverse.dropWhile (· == '0') with
    | '.' :: rest => rest.reverse
    | rest => rest.reverse
  else cs

/-- A magnitude of `count` digits; `full` keeps the zeros that end the fraction. -/
def generalChars (num den count : Nat) (full : Bool) : List Char :=
  let count := max count 1
  let (digits, lead) := significant num den count
  -- Digits stand in positions unless their power of ten is too small or beyond them.
  if -4 ≤ lead ∧ lead < count then
    let places := (count - 1 - lead).toNat
    let text := withPoint places full (digitsText digits)
    if full then text else trimFraction text
  else
    let mantissa := withPoint (count - 1) full (padLeft count (digitsText digits))
    (if full then mantissa else trimFraction mantissa) ++ 'e' :: exponentText lead

end NodeAgent.Binary64
