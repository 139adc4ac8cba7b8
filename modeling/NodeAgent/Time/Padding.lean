/-!
Numbers with a filler in front.

Correspondence: `padded` is the conversion `d` with zeros up to a width.
-/

namespace NodeAgent.Time

/-- A number with a character in front up to a width, a minus sign counting as one of them. -/
def paddedWith (filler : Char) (width : Nat) (n : Int) : String :=
  let digits := toString n.natAbs
  let sign := if n < 0 then "-" else ""
  sign ++ String.ofList (List.replicate (width - sign.length - digits.length) filler) ++ digits

/-- A number with zeros in front up to a width. -/
def padded (width : Nat) (n : Int) : String := paddedWith '0' width n

end NodeAgent.Time
