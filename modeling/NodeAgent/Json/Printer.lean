import NodeAgent.Json.Value
import NodeAgent.Text.Quoted
/-!
The text of a JSON document on one line of printable ASCII: a comma and a space part items, a
colon and a space part names from values, and every character outside of ASCII is escaped, those
beyond sixteen bits as two surrogates.

Correspondence: `Json.render` is `dumps` with its defaults.
-/

namespace NodeAgent.Json

/-- A sixteen-bit unit as an escape. -/
def unitEscape (n : Nat) : List Char := '\\' :: 'u' :: Text.hexDigits 4 n

/-- A character inside quotation marks. -/
def charText (c : Char) : List Char :=
  let n := c.toNat
  if c = '"' then ['\\', '"']
  else if c = '\\' then ['\\', '\\']
  else if c = '\n' then ['\\', 'n']
  else if c = '\r' then ['\\', 'r']
  else if c = '\t' then ['\\', 't']
  else if n = 8 then ['\\', 'b']
  else if n = 12 then ['\\', 'f']
  else if 32 ≤ n ∧ n < 127 then [c]
  else if n < 0x10000 then unitEscape n
  else
    unitEscape (0xd800 + (n - 0x10000) / 0x400) ++ unitEscape (0xdc00 + (n - 0x10000) % 0x400)

def textChars (s : String) : List Char := '"' :: s.toList.flatMap charText ++ ['"']

/-- A number that is not whole; the three that are no numbers have names. -/
def realChars : Binary64 → List Char
  | .nan => "NaN".toList
  | .infinite negative => if negative then "-Infinity".toList else "Infinity".toList
  | value@(.finite _ _ _) => value.text.toList

mutual

/-- The text of a document. -/
def chars : Json → List Char
  | null => "null".toList
  | bool value => if value then "true".toList else "false".toList
  | int value => (toString value).toList
  | real value => realChars value
  | text value => textChars value
  | list items => '[' :: itemsChars items
  | object members => '\x7b' :: membersChars members

def itemsChars : List Json → List Char
  | [] => [']']
  | [item] => chars item ++ [']']
  | item :: items => chars item ++ ',' :: ' ' :: itemsChars items

def membersChars : List (String × Json) → List Char
  | [] => ['\x7d']
  | [(name, value)] => textChars name ++ ':' :: ' ' :: (chars value ++ ['\x7d'])
  | (name, value) :: members =>
    textChars name ++ ':' :: ' ' :: (chars value ++ ',' :: ' ' :: membersChars members)

end

/-- The text of a document on one line. -/
def render (document : Json) : String := String.ofList document.chars

end NodeAgent.Json
