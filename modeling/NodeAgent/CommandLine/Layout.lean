/-!
Help on a screen of eighty columns: words that fill lines, and entries with their heads on the
left and their help beside or below.

Correspondence: `fill`, `Entry.lines` and `usageText` are the `HelpFormatter` on eighty columns.
-/

namespace NodeAgent.CommandLine

def lineWidth : Nat := 78

/-- The column that help starts in at most. -/
def helpColumn : Nat := 24

def blanks (n : Nat) : String := String.ofList (List.replicate n ' ')

/-- Fills lines with words, `line` holding the words of the present one backwards and `used` their
width. -/
def fillFrom (width : Nat) (line : List String) (used : Nat) : List String → List String
  | [] => if line.isEmpty then [] else [String.intercalate " " line.reverse]
  | word :: words =>
    -- A word that is wider than a line has one of its own.
    if line.isEmpty then fillFrom width [word] word.length words
    else if used + 1 + word.length ≤ width then
      fillFrom width (word :: line) (used + 1 + word.length) words
    else
      String.intercalate " " line.reverse :: fillFrom width [word] word.length words

/-- Lines of a width at most, filled with words. -/
def fill (width : Nat) (words : List String) : List String := fillFrom width [] 0 words

/-- Lines behind a margin, the first one behind a head instead. -/
def hang (head : String) (margin : Nat) : List String → List String
  | [] => [head]
  | line :: lines => (head ++ line) :: lines.map (blanks margin ++ ·)

structure Entry where
  margin : Nat := 2
  head : String
  help : List String := []

/-- The lines of an entry whose help starts in a column. A head that reaches too far has a line of
its own. -/
def Entry.lines (column : Nat) (entry : Entry) : List String :=
  let head := blanks entry.margin ++ entry.head
  match fill (lineWidth - column) entry.help with
  | [] => [head]
  | help =>
    if head.length + 2 ≤ column then
      hang (head ++ blanks (column - head.length)) column help
    else head :: help.map (blanks column ++ ·)

/-- Entries under a title. -/
structure Section where
  title : String
  entries : List Entry

/-- The column that the help of sections starts in: behind the longest head, if that is not too
far. -/
def columnOf (sections : List Section) : Nat :=
  min helpColumn ((sections.flatMap Section.entries).foldl
    (fun column entry => max column (entry.margin + entry.head.length + 2)) 0)

def Section.lines (column : Nat) (part : Section) : List String :=
  (part.title ++ ":") :: part.entries.flatMap (Entry.lines column)

def textOfLines (lines : List String) : String := String.join (lines.map (· ++ "\n"))

/-- The lines that tell how a program of some name is called. -/
def usageText (name : String) (parts : List String) : String :=
  let head := "usage: " ++ name ++ " "
  textOfLines (hang head head.length (fill (lineWidth - head.length) parts))

end NodeAgent.CommandLine
