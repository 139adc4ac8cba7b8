import NodeAgent.Datum
/-!
Named values in the order in which they were bound. A name is bound once: binding it again
replaces the value and keeps the place.

Correspondence: `Fields` are the entries of a dictionary, `bind` an assignment, `bindNew`
`setdefault`, `overlay` the merge of two dictionaries, and `sortByName` the `sorted` of its items.
-/

namespace NodeAgent.Log

/-- Named values in order. -/
abbrev Fields := List (String × Datum)

namespace Fields

/-- Whether a name is bound. -/
def has (fields : Fields) (name : String) : Bool := fields.any fun field => field.1 == name

/-- Binds a name; a new one comes last. -/
def bind (fields : Fields) (name : String) (value : Datum) : Fields :=
  match fields with
  | [] => [(name, value)]
  | field :: rest =>
    if field.1 = name then (name, value) :: rest else field :: bind rest name value

def bindNew (fields : Fields) (name : String) (value : Datum) : Fields :=
  if fields.has name then fields else bind fields name value

/-- Binds every name of another list, in its order. -/
def overlay (fields more : Fields) : Fields :=
  more.foldl (fun fields field => fields.bind field.1 field.2) fields

/-- Puts a field before the first one with a greater name. -/
def insertByName (field : String × Datum) : Fields → Fields
  | [] => [field]
  | other :: rest =>
    if field.1 < other.1 then field :: other :: rest else other :: insertByName field rest

/-- The fields in the order of their names, by code points. -/
def sortByName (fields : Fields) : Fields :=
  fields.foldr insertByName []

end Fields

end NodeAgent.Log
