import NodeAgent.Number.Power
import NodeAgent.Text.Blank
import NodeAgent.Text.Hex
import NodeAgent.Text.Quoted
/-!
Internet addresses of both versions, their canonical texts, and the texts that denote them.

Correspondence: `Address.ofText?` and `ofInt?` are `ip_address` of a text and of a number; `text`
and `literal` are the `str` and the `repr` of an address.
-/

namespace NodeAgent

/-- An internet address; one of version six may name the scope it is valid in. -/
inductive Address
  | v4 (bits : BitVec 32)
  | v6 (bits : BitVec 128) (scope : Option String)
  deriving DecidableEq

namespace Address

def toNat : Address → Nat
  | v4 bits => bits.toNat
  | v6 bits _ => bits.toNat

/-- The address that a number denotes: one of version four if it has at most 32 bits. -/
def ofInt? (n : Int) : Option Address :=
  if n < 0 then none
  else if n < Number.twoTo 32 then some (v4 (BitVec.ofNat 32 n.toNat))
  else if n < Number.twoTo 128 then some (v6 (BitVec.ofNat 128 n.toNat) none)
  else none

/-! ## Groups of digits -/

/-- Reads digits of a base from the most significant one on. -/
def ofDigits? (base : Nat) (value? : Char → Option Nat) : List Char → Nat → Option Nat
  | [], n => some n
  | c :: cs, n => (value? c).bind fun d => ofDigits? base value? cs (base * n + d)

/-- An octet: one to three decimal digits, none of them a leading zero, at most 255. -/
def octet? (cs : List Char) : Option Nat :=
  if cs.isEmpty || 3 < cs.length || (cs.head? == some '0' && cs != ['0']) then none
  else
    match ofDigits? 10 (fun c => if c.isDigit then some (c.toNat - 48) else none) cs 0 with
    | some n => if n ≤ 255 then some n else none
    | none => none

/-- A group of sixteen bits: one to four hexadecimal digits. -/
def group? (cs : List Char) : Option Nat :=
  if cs.isEmpty || 4 < cs.length then none else ofDigits? 16 Text.hexValue? cs 0

/-- The parts of a text between the places where `mark` stands. -/
def parts (mark : Char) (cs : List Char) : List (List Char) := Text.splitWhere (· == mark) cs

/-- A number from its digits in a base, the most significant first. -/
def ofGroups (base : Nat) (groups : List Nat) : Nat := groups.foldl (fun n g => base * n + g) 0

/-- The number of four octets parted by points. -/
def dottedNumber? (cs : List Char) : Option Nat :=
  match (parts '.' cs).mapM octet? with
  | some [a, b, c, d] => some (ofGroups 256 [a, b, c, d])
  | _ => none

/-- The groups of a run of parts. The last part may be a dotted number, which stands for two
groups, where `tail` says so. -/
def groupsOf? (tail : Bool) : List (List Char) → Option (List Nat)
  | [] => some []
  | [cs] =>
    if tail && cs.contains '.' then
      (dottedNumber? cs).map fun n => [n / 65536, n % 65536]
    else (group? cs).map fun g => [g]
  | cs :: rest =>
    (group? cs).bind fun g => (groupsOf? tail rest).map (g :: ·)

/-- The groups of a text without a gap; the empty text has none. -/
def groups? (tail : Bool) (cs : List Char) : Option (List Nat) :=
  if cs.isEmpty then some [] else groupsOf? tail (parts ':' cs)

/-- The texts on both sides of the first double colon. -/
def splitGap? : List Char → Option (List Char × List Char)
  | ':' :: ':' :: rest => some ([], rest)
  | c :: rest => (splitGap? rest).map fun (left, right) => (c :: left, right)
  | [] => none

/-- The eight groups of a text. A double colon stands for at least one group of zeros. -/
def eightGroups? (cs : List Char) : Option (List Nat) :=
  match splitGap? cs with
  | some (left, right) =>
    match groups? false left, groups? true right with
    | some before, some after =>
      let given := before.length + after.length
      if given ≤ 7 then some (before ++ List.replicate (8 - given) 0 ++ after) else none
    | _, _ => none
  | none =>
    match groups? true cs with
    | some groups => if groups.length = 8 then some groups else none
    | none => none

/-- Splits the scope off at the first percent sign; a scope is not empty and holds no second
sign. -/
def splitScope? (cs : List Char) : Option (List Char × Option (List Char)) :=
  match cs.dropWhile (· != '%') with
  | [] => some (cs, none)
  | _ :: scope =>
    if scope.isEmpty || scope.contains '%' then none
    else some (cs.takeWhile (· != '%'), some scope)

/-- The address of version four that a text denotes. -/
def ofDotted? (cs : List Char) : Option Address :=
  (dottedNumber? cs).map fun n => v4 (BitVec.ofNat 32 n)

/-- The address of version six that a text denotes. -/
def ofColons? (cs : List Char) : Option Address :=
  match splitScope? cs with
  | some (digits, scope) =>
    (eightGroups? digits).map fun groups =>
      v6 (BitVec.ofNat 128 (ofGroups 65536 groups)) (scope.map String.ofList)
  | none => none

/-- The address that a text denotes. A slash, as in the text of a network, is refused. -/
def ofText? (s : String) : Option Address :=
  let cs := s.toList
  if cs.contains '/' then none
  else
    match ofDotted? cs with
    | some address => some address
    | none => ofColons? cs

/-! ## Canonical text -/

/-- The digits of a number in a base, `width` of them, the most significant first. -/
def toGroups (base : Nat) : Nat → Nat → List Nat
  | 0, _ => []
  | width + 1, n => toGroups base width (n / base) ++ [n % base]

def joinParts (mark : Char) : List (List Char) → List Char
  | [] => []
  | [cs] => cs
  | cs :: rest => cs ++ mark :: joinParts mark rest

/-- How many zeros a list starts with. -/
def zerosAhead : List Nat → Nat
  | 0 :: rest => zerosAhead rest + 1
  | _ => 0

/-- Where the longest run of zeros starts and how long it is, the first of equals. -/
def longestZeros : List Nat → Nat × Nat
  | [] => (0, 0)
  | g :: rest =>
    let here := zerosAhead (g :: rest)
    let (start, length) := longestZeros rest
    if length ≤ here then (0, here) else (start + 1, length)

/-- A group in lower-case hexadecimal digits. -/
def groupText (g : Nat) : List Char := Nat.toDigits 16 g

/-- Eight groups, the first longest run of at least two zeros written as a double colon. -/
def groupsText (groups : List Nat) : List Char :=
  let (start, length) := longestZeros groups
  if length ≤ 1 then joinParts ':' (groups.map groupText)
  else
    joinParts ':' ((groups.take start).map groupText) ++ ':' :: ':' ::
      joinParts ':' ((groups.drop (start + length)).map groupText)

def chars : Address → List Char
  | v4 bits => joinParts '.' ((toGroups 256 4 bits.toNat).map (Nat.toDigits 10))
  | v6 bits scope =>
    groupsText (toGroups 65536 8 bits.toNat) ++
      match scope with
      | some scope => '%' :: scope.toList
      | none => []

def text (address : Address) : String := String.ofList address.chars

/-- The text of an address inside the text of a list or an object. -/
def literal : Address → String
  | address@(v4 _) => "IPv4Address(" ++ Text.quoted address.text ++ ")"
  | address@(v6 _ _) => "IPv6Address(" ++ Text.quoted address.text ++ ")"

end Address

end NodeAgent
