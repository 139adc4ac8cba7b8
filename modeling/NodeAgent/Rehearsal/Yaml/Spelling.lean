import NodeAgent.Text.Hex
import NodeAgent.Rehearsal.Yaml.Cursor
import NodeAgent.Rehearsal.Yaml.Fault
/-!
How YAML text spells scalars: in double quotes with escapes, in single quotes, and without quotes.
Between two lines of a scalar a single break is a blank, and of several breaks the first one is
dropped.

Main definition: the readers of plain and quoted scalars.
-/

namespace NodeAgent.Rehearsal.Yaml

/-- Line breaks and blanks between two lines of a quoted scalar: the breaks that stay. -/
def quotedBreaks : Nat → Cursor → Option (List Char × Cursor)
  | 0, _ => none
  | fuel + 1, cursor =>
    if cursor.atAnyMark then none
    else
      let cursor := (cursor.takeWhile fun c => c = ' ' || c = '\t').2
      match cursor.takeBreak with
      | some (c, cursor) =>
        (quotedBreaks fuel cursor).map fun (breaks, cursor) => (c :: breaks, cursor)
      | none => some ([], cursor)

/-- A break between two lines of a scalar: a single one is a blank. -/
def foldBreak (first : Char) (more : List Char) : List Char :=
  if first ≠ '\n' then first :: more else if more.isEmpty then [' '] else more

def letterEscape? (c : Char) : Option Char :=
  match c with
  | '0' => some (Char.ofNat 0)
  | 'a' => some (Char.ofNat 7)
  | 'b' => some (Char.ofNat 8)
  | 't' => some '\t'
  | '\t' => some '\t'
  | 'n' => some '\n'
  | 'v' => some (Char.ofNat 11)
  | 'f' => some (Char.ofNat 12)
  | 'r' => some '\r'
  | 'e' => some (Char.ofNat 27)
  | ' ' => some ' '
  | '"' => some '"'
  | '\\' => some '\\'
  | '/' => some '/'
  | 'N' => some '\u0085'
  | '_' => some '\u00a0'
  | 'L' => some '\u2028'
  | 'P' => some '\u2029'
  | _ => none

/-- How many digits an escape by code point has. -/
def codeWidth? (c : Char) : Option Nat :=
  match c with
  | 'x' => some 2
  | 'u' => some 4
  | 'U' => some 8
  | _ => none

/-- The number of hexadecimal digits ahead, if there are as many. -/
def hexAhead? (width : Nat) (cursor : Cursor) : Option (Nat × Cursor) :=
  let digits := cursor.rest.take width
  if digits.length = width && digits.all Text.isHex then
    some (digits.foldl (fun n c => 16 * n + (Text.hexValue? c).getD 0) 0, cursor.skip width)
  else none

/-- The second half of a pair of surrogates ahead, behind its first half. -/
def lowSurrogate? (high : Nat) (cursor : Cursor) : Option (Nat × Cursor) :=
  match cursor.rest with
  | '\\' :: 'u' :: _ =>
    match hexAhead? 4 (cursor.skip 2) with
    | some (low, cursor) =>
      if 0xd800 ≤ high ∧ high < 0xdc00 ∧ 0xdc00 ≤ low ∧ low < 0xe000 then some (low, cursor)
      else none
    | none => none
  | _ => none

/-- The character of an escape by code point. -/
def codeChar (width : Nat) (cursor : Cursor) : Except Fault (Char × Cursor) :=
  match hexAhead? width cursor with
  | none => .error .markup
  | some (n, cursor) =>
    -- A number of more than 31 bits is refused before it is looked at as a code point.
    if 0x7fffffff < n then .error .outOfBounds
    else if 0x10ffff < n then .error .badValue
    else
      match lowSurrogate? n cursor with
      | some (low, cursor) =>
        .ok (Char.ofNat (0x10000 + (n - 0xd800) * 0x400 + (low - 0xdc00)), cursor)
      | none => .ok (Char.ofNat n, cursor)

/-- The text of a scalar in double quotes, behind its opening mark. -/
def doubleQuoted : Nat → Cursor → Except Fault (List Char × Cursor)
  | 0, _ => .error .markup
  | fuel + 1, cursor =>
    let followedBy (chars : List Char) (cursor : Cursor) : Except Fault (List Char × Cursor) :=
      (doubleQuoted fuel cursor).map fun (more, cursor) => (chars ++ more, cursor)
    match cursor.peek with
    | none => .error .markup
    | some '"' => .ok ([], cursor.next)
    | some '\\' =>
      let cursor := cursor.next
      match cursor.peek with
      | none => .error .markup
      | some c =>
        match letterEscape? c, codeWidth? c with
        | some meant, _ => followedBy [meant] cursor.next
        | none, some width =>
          match codeChar width cursor.next with
          | .ok (meant, cursor) => followedBy [meant] cursor
          | .error fault => .error fault
        | none, none =>
          match cursor.takeBreak with
          | some (_, cursor) =>
            match quotedBreaks (cursor.rest.length + 1) cursor with
            | some (breaks, cursor) => followedBy breaks cursor
            | none => .error .markup
          | none => .error .markup
    | some c =>
      if c = ' ' || c = '\t' || isBreak c then
        let (blanks, cursor) := cursor.takeWhile fun c => c = ' ' || c = '\t'
        match cursor.takeBreak with
        | some (first, cursor) =>
          match quotedBreaks (cursor.rest.length + 1) cursor with
          | some (more, cursor) => followedBy (foldBreak first more) cursor
          | none => .error .markup
        | none => followedBy blanks cursor
      else followedBy [c] cursor.next

/-- The text of a scalar in single quotes, behind its opening mark; a mark written twice stands
for one. -/
def singleQuoted : Nat → Cursor → Except Fault (List Char × Cursor)
  | 0, _ => .error .markup
  | fuel + 1, cursor =>
    let followedBy (chars : List Char) (cursor : Cursor) : Except Fault (List Char × Cursor) :=
      (singleQuoted fuel cursor).map fun (more, cursor) => (chars ++ more, cursor)
    match cursor.peek with
    | none => .error .markup
    | some '\'' =>
      if cursor.peekAt 1 = some '\'' then followedBy ['\''] (cursor.skip 2)
      else .ok ([], cursor.next)
    | some c =>
      if c = ' ' || c = '\t' || isBreak c then
        let (blanks, cursor) := cursor.takeWhile fun c => c = ' ' || c = '\t'
        match cursor.takeBreak with
        | some (first, cursor) =>
          match quotedBreaks (cursor.rest.length + 1) cursor with
          | some (more, cursor) => followedBy (foldBreak first more) cursor
          | none => .error .markup
        | none => followedBy blanks cursor
      else followedBy [c] cursor.next

/-- Whether a character ends a scalar without quotes, given what follows it. -/
def endsPlain (inFlow : Bool) (c : Char) (after : Option Char) : Bool :=
  isGap (some c) ||
    (c = ':' && (isGap after ||
      (inFlow && (after.map fun c => [',', '[', ']', '\x7b', '\x7d'].contains c).getD false))) ||
    (inFlow && [',', '?', '[', ']', '\x7b', '\x7d'].contains c)

/-- The characters ahead that belong to one run of a scalar without quotes. -/
def plainRun (inFlow : Bool) : List Char → List Char
  | [] => []
  | c :: rest => if endsPlain inFlow c rest.head? then [] else c :: plainRun inFlow rest

/-- Blank lines behind a break inside a scalar without quotes: the breaks that stay. A mark of a
document ends the scalar. -/
def plainBreaks : Nat → Cursor → Option (List Char) × Cursor
  | 0, cursor => (none, cursor)
  | fuel + 1, cursor =>
    match cursor.takeBreak with
    | some (c, cursor) =>
      if cursor.atAnyMark then (none, cursor)
      else
        let (more, cursor) := plainBreaks fuel cursor
        (more.map (c :: ·), cursor)
    | none =>
      if cursor.at? (· == ' ') then plainBreaks fuel cursor.next else (some [], cursor)

/-- The gap between two runs of a scalar without quotes: its text, whether a line has ended, and
the place behind it. -/
def plainGap (cursor : Cursor) : List Char × Bool × Cursor :=
  let (blanks, cursor) := cursor.takeWhile (· == ' ')
  match cursor.takeBreak with
  | some (first, cursor) =>
    if cursor.atAnyMark then ([], true, cursor)
    else
      match plainBreaks (cursor.rest.length + 1) cursor with
      | (some more, cursor) => (foldBreak first more, true, cursor)
      | (none, cursor) => ([], true, cursor)
  | none => (blanks, false, cursor)

/-- The text of a scalar without quotes, whether a line has ended behind it, and the place behind
it. -/
def plainScalar (inFlow : Bool) (indent : Int) (gap : List Char) (broken : Bool) :
    Nat → Cursor → List Char × Bool × Cursor
  | 0, cursor => ([], broken, cursor)
  | fuel + 1, cursor =>
    if cursor.at? (· == '#') then ([], broken, cursor)
    else
      let run := plainRun inFlow cursor.rest
      if run.isEmpty then ([], broken, cursor)
      else
        let (more, broken, cursor) := plainGap (cursor.skip run.length)
        -- A line that is not indented deeper than the collection around ends the scalar.
        if more.isEmpty || cursor.at? (· == '#') || (!inFlow && cursor.column < indent) then
          (gap ++ run, broken, cursor)
        else
          let (written, broken, cursor) := plainScalar inFlow indent more broken fuel cursor
          (gap ++ run ++ written, broken, cursor)

end NodeAgent.Rehearsal.Yaml
