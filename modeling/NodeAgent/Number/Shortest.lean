import NodeAgent.Number.Binary64
/-!
The shortest decimal text of a binary64 number: the fewest digits that read back as the number,
and of those the nearest to it.

Correspondence: `Binary64.text` is the `repr` of a `float`.
-/

namespace NodeAgent.Binary64

open Number (twoTo tenTo)

/-- The greatest `k` with `10 ^ k ≤ num / den`, for positive `num` and `den`. -/
def floorLog10 (num den : Nat) : Int :=
  let reaches (k : Int) : Bool := den * tenTo k.toNat ≤ num * tenTo (-k).toNat
  let k := floorLog2 num den * 30103 / 100000
  if reaches (k + 1) then k + 1 else if reaches k then k else k - 1

/-- The candidate digits for a number `value / step` between the bounds `low / step` and
`high / step`: of its two whole neighbours, those within the bounds, the nearer first choice and
the even one at a tie. -/
def nearestWithin? (low value high step : Nat) (inclusive : Bool) : Option Nat :=
  let within (d : Nat) : Bool :=
    if inclusive then low ≤ d * step && d * step ≤ high else low < d * step && d * step < high
  let below := value / step
  let above := below + 1
  let nearest := halfEven value step
  if within nearest then some nearest
  else if within below then some below
  else if within above then some above
  else none

/-- Tries one digit more each time. The grid of `count` digits has steps of
`10 ^ (lead + 1 - count)`. -/
def searchDigits (low value high : Nat) (exponent lead : Int) (inclusive : Bool) (count : Nat) :
    Nat → Nat × Int
  | 0 => (0, 0)
  | fuel + 1 =>
    let place := lead + 1 - count
    let step := tenTo place.toNat * twoTo (-exponent).toNat
    let scale := twoTo exponent.toNat * tenTo (-place).toNat
    match nearestWithin? (low * scale) (value * scale) (high * scale) step inclusive with
    | some digits => (digits, place)
    | none => searchDigits low value high exponent lead inclusive (count + 1) fuel

/-- Moves final zeros of the digits into the power of ten. -/
def stripZeros : Nat → Nat × Int → Nat × Int
  | 0, found => found
  | fuel + 1, (digits, place) =>
    if digits ≠ 0 ∧ digits % 10 = 0 then stripZeros fuel (digits / 10, place + 1)
    else (digits, place)

/-- The fewest digits, with their power of ten, that read back as a positive finite number.
Seventeen digits always suffice. -/
def shortestDigits (significand : Nat) (exponent : Int) : Nat × Int :=
  -- The numbers that read back lie between the midpoints to both neighbours, of which the lower
  -- one is twice as near at a power of two.
  let low := if significand = twoTo 52 ∧ leastExponent < exponent then 1 else 2
  let (num, den) := magnitude significand exponent
  stripZeros 20 (searchDigits (4 * significand - low) (4 * significand) (4 * significand + 2)
    (exponent - 2) (floorLog10 num den) (significand % 2 = 0) 1 17)

/-- The digits of a whole number in base ten. -/
def digitsText (n : Nat) : List Char := Nat.toDigits 10 n

/-- An exponent with its sign and at least two digits. -/
def exponentText (exponent : Int) : List Char :=
  let digits := digitsText exponent.natAbs
  (if exponent < 0 then '-' else '+') :: (if digits.length < 2 then '0' :: digits else digits)

/-- Digits with the point after the first `place` of them, which may lie outside of them. A
whole number keeps one zero after the point. -/
def positional (digits : List Char) (place : Int) : List Char :=
  if place ≤ 0 then '0' :: '.' :: (List.replicate (-place).toNat '0' ++ digits)
  else
    let n := place.toNat
    if digits.length ≤ n then digits ++ List.replicate (n - digits.length) '0' ++ ['.', '0']
    else digits.take n ++ '.' :: digits.drop n

/-- Digits with the point after the first one and a power of ten. -/
def scientific (digits : List Char) (place : Int) : List Char :=
  let mantissa := match digits with
    | [] => []
    | [d] => [d]
    | d :: ds => d :: '.' :: ds
  mantissa ++ 'e' :: exponentText (place - 1)

/-- Numbers from `0.0001` up to below `10 ^ 16` are written in positions, all others with a power
of ten. -/
def magnitudeText (significand : Nat) (exponent : Int) : List Char :=
  if significand = 0 then ['0', '.', '0']
  else
    let (digits, power) := shortestDigits significand exponent
    let digits := digitsText digits
    let place := power + digits.length
    if -4 < place ∧ place ≤ 16 then positional digits place else scientific digits place

/-- The shortest text that reads back as the number. -/
def text : Binary64 → String
  | nan => "nan"
  | infinite negative => if negative then "-inf" else "inf"
  | finite negative m e =>
    String.ofList (if negative then '-' :: magnitudeText m e else magnitudeText m e)

end NodeAgent.Binary64
