import NodeAgent.Number.Shortest
import NodeAgent.Number.Whole
import NodeAgent.Address
import NodeAgent.Duration
/-!
Values of any kind, as flags, log fields and message arguments hold them, with the two texts of
each: the plain one, in which a text stands for itself, and the literal one, in which texts are
quoted.

Correspondence: `Datum.plain` is `str`, `literal` is `repr`, `isGiven` is the truth of a value, and
`isWritable` tells of the limit on the digits of whole numbers that are turned into a text.
-/

namespace NodeAgent

/-- A value of any kind. A dictionary keeps its entries in order. -/
inductive Datum
  | null
  | bool (value : Bool)
  | int (value : Int)
  | real (value : Binary64)
  | text (value : String)
  | list (items : List Datum)
  | dict (entries : List (String × Datum))
  | address (value : Address)
  | duration (value : Duration)
  deriving Inhabited

namespace Datum

/-- Whether a value counts as given: not null, false, nought or empty. -/
def isGiven : Datum → Bool
  | null => false
  | bool value => value
  | int value => value ≠ 0
  | real value => !value.isZero
  | text value => !value.isEmpty
  | list items => !items.isEmpty
  | dict entries => !entries.isEmpty
  | address _ => true
  | duration value => value.micros ≠ 0

mutual

/-- The text of a value with its texts quoted; `quote` writes a quoted text. -/
def literalBy (quote : String → String) : Datum → String
  | null => "None"
  | bool value => if value then "True" else "False"
  | int value => toString value
  | real value => value.text
  | text value => quote value
  | list items => "[" ++ String.intercalate ", " (literalsBy quote items) ++ "]"
  | dict entries => "\x7b" ++ String.intercalate ", " (entriesBy quote entries) ++ "\x7d"
  | address value => value.literal
  | duration value => value.literal

def literalsBy (quote : String → String) : List Datum → List String
  | [] => []
  | item :: items => literalBy quote item :: literalsBy quote items

def entriesBy (quote : String → String) : List (String × Datum) → List String
  | [] => []
  | (key, value) :: entries =>
    (quote key ++ ": " ++ literalBy quote value) :: entriesBy quote entries

end

mutual

/-- Whether a value has a text: whole numbers have one only up to the most digits that a numeral
may have. -/
def isWritable : Datum → Bool
  | int value => value.natAbs < Number.tenTo Number.digitLimit
  | list items => areWritable items
  | dict entries => entriesWritable entries
  | _ => true

def areWritable : List Datum → Bool
  | [] => true
  | item :: items => isWritable item && areWritable items

def entriesWritable : List (String × Datum) → Bool
  | [] => true
  | (_, value) :: entries => isWritable value && entriesWritable entries

end

/-- The text of a value with its texts quoted. -/
def literal : Datum → String := literalBy Text.quoted

/-- The text of a value, a text standing for itself. -/
def plain : Datum → String
  | text value => value
  | address value => value.text
  | duration value => value.text
  | value => value.literal

end Datum

end NodeAgent
