/-!
Classes of code points given as lists of ranges, ends included.

The tables of characters are built from them.
-/

namespace NodeAgent.Text

def inRanges (ranges : List (Nat × Nat)) (n : Nat) : Bool :=
  ranges.any fun range => range.1 ≤ n && n ≤ range.2

end NodeAgent.Text
