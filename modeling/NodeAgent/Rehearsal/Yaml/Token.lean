import NodeAgent.Rehearsal.Yaml.Spelling
/-!
Tokens of YAML text. Indentation opens and closes block collections, and a key of a mapping is
known only at its colon: the place of a possible key is kept until then. Of YAML the tokens cover
block and flow collections, scalars with and without quotes, comments and document marks. Text that
has no tokens ends in a fault, which stands among the tokens where a reader of them meets it.

Main definition: the tokens of a text, with the blocks that indentation opens and ends.
-/

namespace NodeAgent.Rehearsal.Yaml

/-- A token. Block collections are opened and closed by their indentation; a fault is the last
token of a text. -/
inductive Token
  | documentStart
  | documentEnd
  | blockList
  | blockMap
  | blockEnd
  | flowList
  | flowListEnd
  | flowMap
  | flowMapEnd
  | dash
  | comma
  | key
  | value
  | scalar (text : String) (isPlain : Bool)
  | fault (fault : Fault)
  deriving DecidableEq

namespace Token

def opens : Token → Bool
  | blockList => true
  | blockMap => true
  | flowList => true
  | flowMap => true
  | _ => false

def closes : Token → Bool
  | blockEnd => true
  | flowListEnd => true
  | flowMapEnd => true
  | _ => false

end Token

/-- How deep containers may stand in each other. -/
def depthLimit : Nat := 488

/-- Tokens up to a container that stands too deep; `depth` containers are open. -/
def limitDepth (depth : Nat) : List Token → List Token
  | [] => []
  | token :: rest =>
    if token.opens then
      if depth < depthLimit then token :: limitDepth (depth + 1) rest else [.fault .tooDeep]
    else if token.closes then token :: limitDepth (depth - 1) rest
    else token :: limitDepth depth rest

/-- A place where a key may have started. A key that its indentation demands is required. -/
structure PendingKey where
  tokenIndex : Nat
  required : Bool
  index : Nat
  line : Nat
  column : Nat

/-- What the reading of tokens has come to. Tokens are kept backwards. -/
structure Reading where
  cursor : Cursor
  indent : Int := -1
  indents : List Int := []
  depth : Nat := 0
  pending : List (Nat × PendingKey) := []
  keyAllowed : Bool := true
  tokens : List Token := []

namespace Reading

def push (reading : Reading) (token : Token) : Reading :=
  { reading with tokens := token :: reading.tokens }

/-- Puts a token where `place` others stand before it. -/
def insertAt (reading : Reading) (place : Nat) (token : Token) : Reading :=
  let later := reading.tokens.length - place
  { reading with
    tokens := reading.tokens.take later ++ token :: reading.tokens.drop later }

/-- Gives up the pending key of the present depth; one that is required must not be given up. -/
def dropPending (reading : Reading) : Option Reading :=
  match reading.pending.find? fun entry => entry.1 == reading.depth with
  | some (_, key) =>
    if key.required then none
    else
      some { reading with
        pending := reading.pending.filter fun entry => entry.1 != reading.depth }
  | none => some reading

/-- Whether a pending key is too far behind: a key stands on one line and has at most 1024
characters. -/
def isStale (reading : Reading) (key : PendingKey) : Bool :=
  key.line != reading.cursor.line || key.index + 1024 < reading.cursor.index

/-- Gives up pending keys that are too far behind. -/
def dropStale (reading : Reading) : Option Reading :=
  if reading.pending.any fun entry => reading.isStale entry.2 && entry.2.required then none
  else
    some { reading with
      pending := reading.pending.filter fun entry => !reading.isStale entry.2 }

/-- How many tokens are settled: no key can come in front of any of them. -/
def settled (reading : Reading) : Nat :=
  (reading.pending.filter fun entry => !reading.isStale entry.2).foldl
    (fun n entry => min n entry.2.tokenIndex) reading.tokens.length

/-- The tokens of a text that goes on with a fault. -/
def stop (reading : Reading) (fault : Fault) : List Token :=
  -- Nobody takes a token before it is settled, so the fault stands for the first that is not.
  reading.tokens.reverse.take reading.settled ++ [.fault fault]

/-- Keeps the present place as the start of a possible key. -/
def savePending (reading : Reading) : Option Reading :=
  if reading.keyAllowed then
    reading.dropPending.map fun reading =>
      let cursor := reading.cursor
      { reading with
        pending := (reading.depth,
          { tokenIndex := reading.tokens.length
            required := reading.depth == 0 && reading.indent == cursor.column
            index := cursor.index, line := cursor.line, column := cursor.column }) ::
          reading.pending }
  else some reading

/-- Closes the block collections that are indented deeper than a column. -/
def unwind (column : Int) : List Int → Reading → Reading
  | [], reading => reading
  | outer :: rest, reading =>
    if column < reading.indent then
      unwind column rest ({ reading with indent := outer, indents := rest }.push .blockEnd)
    else reading

/-- Closes block collections; in a flow collection indentation does not matter. -/
def unwindTo (reading : Reading) (column : Int) : Reading :=
  if reading.depth = 0 then unwind column reading.indents reading else reading

/-- Opens a level of indentation at a column, if it is deeper than the present one. -/
def indentTo (reading : Reading) (column : Nat) : Option Reading :=
  if reading.indent < column then
    some { reading with indent := column, indents := reading.indent :: reading.indents }
  else none

/-- Passes over blanks, comments and line breaks. -/
def skipGaps : Nat → Reading → Reading
  | 0, reading => reading
  | fuel + 1, reading =>
    let cursor := (reading.cursor.takeWhile (· == ' ')).2
    let cursor :=
      if cursor.at? (· == '#') then (cursor.takeWhile fun c => !isBreak c).2 else cursor
    match cursor.takeBreak with
    -- Behind a break a key may start, except inside of a flow collection.
    | some (_, cursor) =>
      skipGaps fuel { reading with
        cursor, keyAllowed := reading.keyAllowed || reading.depth == 0 }
    | none => { reading with cursor }

def quotedToken (reading : Reading) (body : Nat → Cursor → Except Fault (List Char × Cursor)) :
    Except Fault Reading :=
  match reading.savePending with
  | none => .error .markup
  | some reading =>
    (body (reading.cursor.rest.length + 1) reading.cursor.next).map fun (written, cursor) =>
      { reading with cursor, keyAllowed := false }.push (.scalar (String.ofList written) false)

/-- A scalar without quotes. -/
def plainToken (reading : Reading) : Option Reading :=
  reading.savePending.map fun reading =>
    let (written, broken, cursor) :=
      plainScalar (reading.depth != 0) (reading.indent + 1) [] false
        (reading.cursor.rest.length + 1) reading.cursor
    { reading with cursor, keyAllowed := broken }.push (.scalar (String.ofList written) true)

def flowStart (reading : Reading) (token : Token) : Option Reading :=
  reading.savePending.map fun reading =>
    { reading with
      cursor := reading.cursor.next, depth := reading.depth + 1, keyAllowed := true }.push token

def flowEnd (reading : Reading) (token : Token) : Option Reading :=
  if reading.depth = 0 then none
  else
    reading.dropPending.map fun reading =>
      { reading with
        cursor := reading.cursor.next, depth := reading.depth - 1, keyAllowed := false }.push
        token

def commaToken (reading : Reading) : Option Reading :=
  reading.dropPending.map fun reading =>
    { reading with cursor := reading.cursor.next, keyAllowed := true }.push .comma

/-- A mark of a document, which closes every block collection. -/
def documentMark (reading : Reading) (token : Token) : Option Reading :=
  (reading.unwindTo (-1)).dropPending.map fun reading =>
    { reading with cursor := reading.cursor.skip 3, keyAllowed := false }.push token

/-- Opens a block collection at the present column, if it is indented deeper than the one
around. -/
def openBlock (reading : Reading) (column : Nat) (token : Token) : Reading :=
  if reading.depth = 0 then
    match reading.indentTo column with
    | some reading => reading.push token
    | none => reading
  else reading

def dashToken (reading : Reading) : Option Reading :=
  if reading.depth = 0 && !reading.keyAllowed then none
  else
    let reading := reading.openBlock reading.cursor.column .blockList
    ({ reading with keyAllowed := true } : Reading).dropPending.map fun reading =>
      { reading with cursor := reading.cursor.next }.push .dash

def keyToken (reading : Reading) : Option Reading :=
  if reading.depth = 0 && !reading.keyAllowed then none
  else
    let reading := reading.openBlock reading.cursor.column .blockMap
    ({ reading with keyAllowed := reading.depth == 0 } : Reading).dropPending.map fun reading =>
      { reading with cursor := reading.cursor.next }.push .key

/-- A colon in front of a value. -/
def valueToken (reading : Reading) : Option Reading :=
  match reading.pending.find? fun entry => entry.1 == reading.depth with
  | some (_, key) =>
    let pending := reading.pending.filter fun entry => entry.1 != reading.depth
    let reading : Reading := { reading with pending, keyAllowed := false }
    -- The pending key becomes one only now, and the mapping that it opens comes before it.
    let reading := reading.insertAt key.tokenIndex .key
    let reading :=
      if reading.depth = 0 then
        match reading.indentTo key.column with
        | some reading => reading.insertAt key.tokenIndex .blockMap
        | none => reading
      else reading
    some ({ reading with cursor := reading.cursor.next }.push .value)
  | none =>
    if reading.depth = 0 && !reading.keyAllowed then none
    else
      let reading := reading.openBlock reading.cursor.column .blockMap
      ({ reading with keyAllowed := reading.depth == 0 } : Reading).dropPending.map fun reading =>
        { reading with cursor := reading.cursor.next }.push .value

/-- Whether a scalar without quotes may start with a character, given what follows it. -/
def startsPlain (inFlow : Bool) (c : Char) (after : Option Char) : Bool :=
  !(isGap (some c) || "-?:,[]\x7b\x7d#&*!|>'\"%@`".toList.contains c) ||
    (!isGap after && (c = '-' || (!inFlow && (c = '?' || c = ':'))))

/-- The token that starts with the character ahead. -/
def tokenAt (reading : Reading) (c : Char) : Except Fault Reading :=
  let cursor := reading.cursor
  let after := cursor.peekAt 1
  let inFlow := reading.depth != 0
  if c = '\'' then reading.quotedToken singleQuoted
  else if c = '"' then reading.quotedToken doubleQuoted
  else
    wellFormed
      (if cursor.column = 0 && c = '%' then none
      else if cursor.column = 0 && cursor.atMark '-' then reading.documentMark .documentStart
      else if cursor.column = 0 && cursor.atMark '.' then reading.documentMark .documentEnd
      else if c = '[' then reading.flowStart .flowList
      else if c = '\x7b' then reading.flowStart .flowMap
      else if c = ']' then reading.flowEnd .flowListEnd
      else if c = '\x7d' then reading.flowEnd .flowMapEnd
      else if c = ',' then reading.commaToken
      else if c = '-' && isGap after then reading.dashToken
      else if c = '?' && (inFlow || isGap after) then reading.keyToken
      else if c = ':' && (inFlow || isGap after) then reading.valueToken
      else if startsPlain inFlow c after then reading.plainToken
      else none)

/-- Passes over gaps and closes the block collections that end there. -/
def atToken (reading : Reading) : Option Reading :=
  (reading.skipGaps (reading.cursor.rest.length + 1)).dropStale.map fun reading =>
    reading.unwindTo reading.cursor.column

/-- All tokens, those read already included. Every step takes a character at least. -/
def finish : Nat → Reading → List Token
  | 0, reading => reading.stop .markup
  | fuel + 1, reading =>
    match reading.atToken with
    | none => reading.stop .markup
    | some ready =>
      match ready.cursor.peek with
      | none =>
        match (ready.unwindTo (-1)).dropPending with
        | some last => last.tokens.reverse
        | none => reading.stop .markup
      | some c =>
        match ready.tokenAt c with
        | .ok next => finish fuel next
        | .error fault => reading.stop fault

end Reading

/-- The tokens of a text. A byte order mark in front is passed over. -/
def tokens (text : String) : List Token :=
  let cs := text.toList
  if cs.all isAllowed then
    let cursor : Cursor :=
      match cs with
      | '\ufeff' :: rest => { rest, index := 1 }
      | cs => { rest := cs }
    limitDepth 0 (Reading.finish (cs.length + 1) { cursor })
  else [.fault .markup]

end NodeAgent.Rehearsal.Yaml
