import NodeAgent.Datum
import NodeAgent.Number.Whole
import NodeAgent.Time.Timestamp
/-!
Values of YAML documents.

Main definition: `Value`, a document as loaders see it.
-/

namespace NodeAgent.Rehearsal

/-- A value of a YAML document. A mapping keeps its entries in order; its keys are values too. -/
inductive Yaml
  | null
  | bool (value : Bool)
  | int (value : Int)
  | real (value : Binary64)
  | date (value : Time.Date)
  | moment (value : Time.Timestamp)
  | text (value : String)
  | list (items : List Yaml)
  | map (entries : List (Yaml × Yaml))
  deriving Inhabited

namespace Yaml

/-- Whether a value counts as given: not null, false, nought or empty. -/
def isGiven : Yaml → Bool
  | null => false
  | bool value => value
  | int value => value ≠ 0
  | real value => !value.isZero
  | date _ => true
  | moment _ => true
  | text value => !value.isEmpty
  | list items => !items.isEmpty
  | map entries => !entries.isEmpty

/-- The number that a value equals, if it equals a whole one. -/
def whole? : Yaml → Option Int
  | bool value => some (if value then 1 else 0)
  | int value => some value
  | real value => value.whole?
  | _ => none

/-- Whether two values that are no containers are equal. Numbers of all kinds are compared by
their value. -/
def sameScalar : Yaml → Yaml → Bool
  | null, null => true
  | text a, text b => a == b
  | date a, date b => a == b
  | moment a, moment b => a.same b
  | real a, real b => a != .nan && (a == b || (a.isZero && b.isZero))
  | a, b =>
    match a.whole?, b.whole? with
    | some m, some n => m == n
    | _, _ => false

def isContainer : Yaml → Bool
  | list _ => true
  | map _ => true
  | _ => false

/-- A value that is no container, as a value of any kind. -/
def toDatum : Yaml → Datum
  | null => .null
  | bool value => .bool value
  | int value => .int value
  | real value => .real value
  | date value => .text value.text
  | moment value => .text value.text
  | text value => .text value
  | list _ => .list []
  | map _ => .dict []

/-- Whether a value has a text: a whole number has one only up to the most digits that a numeral
may have. -/
def hasText : Yaml → Bool
  | int value => value.natAbs < Number.tenTo Number.digitLimit
  | _ => true

/-- The text of a value that is no container, if it has one. -/
def plain? (value : Yaml) : Option String :=
  if value.hasText then some value.toDatum.plain else none

/-- The value of the entry whose key is a text. -/
def entry? (entries : List (Yaml × Yaml)) (key : String) : Option Yaml :=
  (entries.find? fun entry => sameScalar entry.1 (.text key)).map Prod.snd

/-- Puts an entry into a mapping; a key that is there keeps its place. -/
def putEntry (entries : List (Yaml × Yaml)) (key value : Yaml) : List (Yaml × Yaml) :=
  match entries with
  | [] => [(key, value)]
  | entry :: rest =>
    if sameScalar entry.1 key then (entry.1, value) :: rest
    else entry :: putEntry rest key value

end Yaml

end NodeAgent.Rehearsal
