/-!
Comparing words of ASCII letters in any case.

Correspondence: `Text.lower` agrees with `lower` on the words that are compared, which are of ASCII.
-/

namespace NodeAgent.Text

/-- A text with the capital letters of ASCII made small. -/
def lower (s : List Char) : List Char := s.map Char.toLower

end NodeAgent.Text
