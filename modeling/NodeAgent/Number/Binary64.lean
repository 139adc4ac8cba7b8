import NodeAgent.Number.Power
/-!
Numbers of the binary64 format, held as exact values `± significand · 2 ^ exponent`. Every
operation computes the exact result as a ratio of whole numbers and rounds once, to the nearest
number of the format, ties going to the even significand.

Correspondence: `Binary64` is `float`, with its sum, its product and its rounding.
-/

namespace NodeAgent

/-- A number of the binary64 format. A finite number has a significand below `2 ^ 53` and an
exponent from `-1074` to `971`; the significand reaches `2 ^ 52` unless the exponent is least. -/
inductive Binary64
  | nan
  | infinite (negative : Bool)
  | finite (negative : Bool) (significand : Nat) (exponent : Int)
  deriving DecidableEq, Inhabited

open Number (twoTo tenTo)

namespace Binary64

/-- The quotient rounded to the nearest whole number, a half going to the even neighbour. -/
def halfEven (num den : Nat) : Nat :=
  let quotient := num / den
  let twice := 2 * (num % den)
  if twice < den then quotient
  else if den < twice then quotient + 1
  else quotient + quotient % 2

/-- The greatest `k` with `2 ^ k ≤ num / den`, for positive `num` and `den`. -/
def floorLog2 (num den : Nat) : Int :=
  let k : Int := (num.log2 : Int) - den.log2
  if den * twoTo k.toNat ≤ num * twoTo (-k).toNat then k else k - 1

def leastExponent : Int := -1074

def greatestExponent : Int := 971

/-- A zero of either sign. -/
def zero (negative : Bool) : Binary64 := finite negative 0 leastExponent

/-- Puts a rounded significand, which may have reached `2 ^ 53`, into its range. -/
def pack (negative : Bool) (significand : Nat) (exponent : Int) : Binary64 :=
  let carried := significand = twoTo 53
  let significand := if carried then twoTo 52 else significand
  let exponent := if carried then exponent + 1 else exponent
  if greatestExponent < exponent then infinite negative
  else finite negative significand exponent

/-- The number nearest to `± num / den`. -/
def ofRatio (negative : Bool) (num den : Nat) : Binary64 :=
  if num = 0 then zero negative
  else
    let exponent := max (floorLog2 num den - 52) leastExponent
    pack negative (halfEven (num * twoTo (-exponent).toNat) (den * twoTo exponent.toNat)) exponent

/-- The number nearest to `± digits · 10 ^ exponent`. -/
def ofDecimal (negative : Bool) (digits : Nat) (exponent : Int) : Binary64 :=
  if digits = 0 then zero negative
  -- Exponents beyond every number of the format are answered without their powers of ten.
  else if 400 < exponent then infinite negative
  else if exponent < -400 - (digits.log2 : Int) then zero negative
  else ofRatio negative (digits * tenTo exponent.toNat) (tenTo (-exponent).toNat)

/-- The number nearest to a whole number. -/
def ofInt (n : Int) : Binary64 := ofRatio (n < 0) n.natAbs 1

def magnitude (significand : Nat) (exponent : Int) : Nat × Nat :=
  (significand * twoTo exponent.toNat, twoTo (-exponent).toNat)

def signed (negative : Bool) (num : Nat) : Int := if negative then -(num : Int) else num

/-- The rounded product. -/
def mul : Binary64 → Binary64 → Binary64
  | finite s m e, finite t n f =>
    let (num, den) := magnitude (m * n) (e + f)
    ofRatio (s != t) num den
  | nan, _ => nan
  | _, nan => nan
  | infinite s, finite t n _ => if n = 0 then nan else infinite (s != t)
  | finite s m _, infinite t => if m = 0 then nan else infinite (s != t)
  | infinite s, infinite t => infinite (s != t)

/-- The rounded sum. A sum of nought is negative only if both terms are. -/
def add : Binary64 → Binary64 → Binary64
  | finite s m e, finite t n f =>
    let least := min e f
    let left := signed s (m * twoTo (e - least).toNat)
    let right := signed t (n * twoTo (f - least).toNat)
    let total := left + right
    let (num, den) := magnitude total.natAbs least
    if total = 0 then zero (s && t) else ofRatio (total < 0) num den
  | nan, _ => nan
  | _, nan => nan
  | infinite s, finite _ _ _ => infinite s
  | finite _ _ _, infinite t => infinite t
  | infinite s, infinite t => if s = t then infinite s else nan

/-- The whole part, toward nought; only a finite number has one. -/
def truncate? : Binary64 → Option Int
  | finite negative m e =>
    let (num, den) := magnitude m e
    some (signed negative (num / den))
  | _ => none

/-- The greatest whole number that is not above a finite number. -/
def floor? : Binary64 → Option Int
  | finite negative m e =>
    let (num, den) := magnitude m e
    some (Int.fdiv (signed negative num) den)
  | _ => none

/-- What is left of a finite number without its whole part. -/
def fraction? : Binary64 → Option Binary64
  | finite negative m e =>
    let (num, den) := magnitude m e
    some (ofRatio negative (num % den) den)
  | _ => none

/-- The nearest whole number to a finite number, a half going to the even neighbour. -/
def round? : Binary64 → Option Int
  | finite negative m e =>
    let (num, den) := magnitude m e
    some (signed negative (halfEven num den))
  | _ => none

def whole? : Binary64 → Option Int
  | finite negative m e =>
    let (num, den) := magnitude m e
    if num % den = 0 then some (signed negative (num / den)) else none
  | _ => none

def isZero : Binary64 → Bool
  | finite _ m _ => m = 0
  | _ => false

def isNegative : Binary64 → Bool
  | nan => false
  | infinite negative => negative
  | finite negative _ _ => negative

end Binary64

end NodeAgent
