/-!
Blanks: the characters that are trimmed from the ends of settings and that part words.

Correspondence: `isBlank` is `isspace`, which is also the class `s` of patterns; `dropEnds` is
`strip`, and `words` is `split`.
-/

namespace NodeAgent.Text

/-- White space of Unicode, with the separators U+001C to U+001F. -/
def isBlank (c : Char) : Bool :=
  let n := c.toNat
  (9 ≤ n && n ≤ 13) || (28 ≤ n && n ≤ 32) || n == 0x85 || n == 0xa0 || n == 0x1680 ||
    (0x2000 ≤ n && n ≤ 0x200a) || n == 0x2028 || n == 0x2029 || n == 0x202f || n == 0x205f ||
    n == 0x3000

def dropTrailing {α : Type} (p : α → Bool) (xs : List α) : List α :=
  (xs.reverse.dropWhile p).reverse

/-- Drops from both ends what satisfies `p`. -/
def dropEnds {α : Type} (p : α → Bool) (xs : List α) : List α :=
  dropTrailing p (xs.dropWhile p)

/-- A text without the blanks at its ends. -/
def trimBlank (s : String) : String := String.ofList (dropEnds isBlank s.toList)

/-- Gathers the parts of a text between separators, `part` holding the present one backwards. -/
def splitAux {α : Type} (p : α → Bool) (part : List α) : List α → List (List α)
  | [] => [part.reverse]
  | x :: xs => if p x then part.reverse :: splitAux p [] xs else splitAux p (x :: part) xs

/-- The parts of a list between elements that satisfy `p`; `n` separators give `n + 1` parts. -/
def splitWhere {α : Type} (p : α → Bool) (xs : List α) : List (List α) := splitAux p [] xs

/-- The words of a text: its parts between runs of blanks. -/
def words (s : List Char) : List (List Char) :=
  (splitWhere isBlank s).filter fun word => !word.isEmpty

end NodeAgent.Text
