import NodeAgent.Number.Shortest
/-!
JSON documents. Whole numbers and numbers with a fraction or an exponent are kept apart.

Correspondence: `Json` are the documents that `dumps` writes and `loads` gives; of two members with
one name, `get?` takes the last.
-/

namespace NodeAgent

/-- A JSON document. An object keeps its members in order. -/
inductive Json
  | null
  | bool (value : Bool)
  | int (value : Int)
  | real (value : Binary64)
  | text (value : String)
  | list (items : List Json)
  | object (members : List (String × Json))
  deriving Inhabited

namespace Json

/-- The value of the last member of a name. -/
def get? (name : String) : Json → Option Json
  | object members => (members.reverse.find? fun member => member.1 == name).map Prod.snd
  | _ => none

end Json

end NodeAgent
