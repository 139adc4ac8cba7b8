/-!
Bytes in base 64.

Main definition: `Base64.decode?`, the bytes that a text stands for.
-/

namespace NodeAgent.Rehearsal.Base64

/-- The sixty-four digits in order. -/
def alphabet : List Char :=
  "ABCDEFGHIJKLMNOPQRSTUVWXYZabcdefghijklmnopqrstuvwxyz0123456789+/".toList

/-- The digit of a number below sixty-four. -/
def digit (n : Nat) : Char := alphabet.getD n 'A'

/-- The number of a digit. -/
def value? (c : Char) : Option Nat := alphabet.findIdx? (· == c)

/-- Bytes in digits, three bytes in four digits; equals signs fill the last group. -/
def encode : List UInt8 → List Char
  | [] => []
  | [a] =>
    let n := a.toNat * 16
    [digit (n / 64), digit (n % 64), '=', '=']
  | [a, b] =>
    let n := (a.toNat * 256 + b.toNat) * 4
    [digit (n / 4096), digit (n / 64 % 64), digit (n % 64), '=']
  | a :: b :: c :: rest =>
    let n := (a.toNat * 256 + b.toNat) * 256 + c.toNat
    digit (n / 262144) :: digit (n / 4096 % 64) :: digit (n / 64 % 64) :: digit (n % 64) ::
      encode rest

def groupBytes : List Nat → List UInt8
  | [a, b] => [UInt8.ofNat (a * 4 + b / 16)]
  | [a, b, c] => [UInt8.ofNat (a * 4 + b / 16), UInt8.ofNat (b % 16 * 16 + c / 4)]
  | [a, b, c, d] =>
    [UInt8.ofNat (a * 4 + b / 16), UInt8.ofNat (b % 16 * 16 + c / 4),
     UInt8.ofNat (c % 4 * 64 + d)]
  | _ => []

/-- Reads digits, a group of four at a time; `group` holds the digits of the present one. -/
def decodeFrom (group : List Nat) (marks : Nat) : List Char → Option (List UInt8)
  | [] => if group.isEmpty then some [] else none
  | c :: rest =>
    -- Equals signs end the text where they complete a group, whatever stands behind them.
    if c = '=' then
      if 2 ≤ group.length then
        if 4 ≤ group.length + marks + 1 then some (groupBytes group)
        else decodeFrom group (marks + 1) rest
      else decodeFrom group marks rest
    else
      match value? c with
      -- Other characters are passed over, and the marks so far still count.
      | none => decodeFrom group marks rest
      | some n =>
        if group.length = 3 then
          (decodeFrom [] 0 rest).map (groupBytes (group ++ [n]) ++ ·)
        else decodeFrom (group ++ [n]) 0 rest

/-- The bytes of digits in base 64. A text with characters outside of ASCII is refused. -/
def decode? (s : String) : Option ByteArray :=
  if s.toList.all fun c => c.toNat < 128 then
    (decodeFrom [] 0 s.toList).map fun bytes => ByteArray.mk bytes.toArray
  else none

end NodeAgent.Rehearsal.Base64
