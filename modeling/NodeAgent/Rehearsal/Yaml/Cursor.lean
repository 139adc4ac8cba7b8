/-!
Places in YAML text: the line, the column and what follows. Line breaks and blanks part tokens.

Main definition: `Cursor`, which every step of the reader takes further.
-/

namespace NodeAgent.Rehearsal.Yaml

/-- Whether a character may stand in a document. -/
def isAllowed (c : Char) : Bool :=
  let n := c.toNat
  n = 9 || n = 10 || n = 13 || (32 ≤ n && n ≤ 126) || n = 0x85 || (0xa0 ≤ n && n ≤ 0xd7ff) ||
    (0xe000 ≤ n && n ≤ 0xfffd) || 0x10000 ≤ n

/-- Whether a character ends a line. -/
def isBreak (c : Char) : Bool :=
  c = '\n' || c = '\r' || c = '\u0085' || c = '\u2028' || c = '\u2029'

/-- Whether a character, or the end of the text, parts tokens. -/
def isGap : Option Char → Bool
  | none => true
  | some c => c = ' ' || c = '\t' || isBreak c

/-- A place in the text, with what follows it. -/
structure Cursor where
  rest : List Char
  line : Nat := 0
  column : Nat := 0
  index : Nat := 0

namespace Cursor

/-- The character ahead. -/
def peek (cursor : Cursor) : Option Char := cursor.rest.head?

/-- The character behind `n` others. -/
def peekAt (cursor : Cursor) (n : Nat) : Option Char := cursor.rest[n]?

/-- Whether the character ahead satisfies `p`. -/
def at? (cursor : Cursor) (p : Char → Bool) : Bool := (cursor.peek.map p).getD false

/-- The place behind the character ahead. -/
def next (cursor : Cursor) : Cursor :=
  match cursor.rest with
  | [] => cursor
  | c :: rest =>
    let index := cursor.index + 1
    if isBreak c && !(c = '\r' && rest.head? = some '\n') then
      { rest, index, line := cursor.line + 1, column := 0 }
    else
      { rest, index, line := cursor.line
        column := if c = '\ufeff' then cursor.column else cursor.column + 1 }

/-- The place behind `n` characters. -/
def skip : Nat → Cursor → Cursor
  | 0, cursor => cursor
  | n + 1, cursor => skip n cursor.next

/-- The characters ahead that satisfy `p`, and the place behind them. -/
def takeWhile (cursor : Cursor) (p : Char → Bool) : List Char × Cursor :=
  let taken := cursor.rest.takeWhile p
  (taken, cursor.skip taken.length)

/-- The line break ahead, if there is one, as the text keeps it, and the place behind it. -/
def takeBreak (cursor : Cursor) : Option (Char × Cursor) :=
  match cursor.rest with
  | '\r' :: '\n' :: _ => some ('\n', cursor.skip 2)
  | c :: _ =>
    if c = '\u2028' ∨ c = '\u2029' then some (c, cursor.next)
    else if isBreak c then some ('\n', cursor.next)
    else none
  | [] => none

/-- Whether a mark of a document is ahead: three of a character, and a gap. -/
def atMark (cursor : Cursor) (mark : Char) : Bool :=
  cursor.rest.take 3 == [mark, mark, mark] && isGap (cursor.peekAt 3)

def atAnyMark (cursor : Cursor) : Bool := cursor.atMark '-' || cursor.atMark '.'

end Cursor

end NodeAgent.Rehearsal.Yaml
