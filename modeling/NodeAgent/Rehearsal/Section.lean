import NodeAgent.Rehearsal.Access
import NodeAgent.Rehearsal.Yaml.Value
/-!
Parts of a kubeconfig by their places, and looking things up in them.

Main definition: `Section`, an entry of a document with the text that faults name it by.
-/

namespace NodeAgent.Rehearsal

/-- A container of a kubeconfig and the name of its place. -/
structure Section where
  place : String
  value : Yaml

/-- What stands behind a key: a container with its place, or a value that has no parts. -/
inductive Item
  | part (part : Section)
  | scalar (value : Yaml)

namespace Item

def value : Item → Yaml
  | part inner => inner.value
  | scalar value => value

/-- The container that an item is. -/
def asSection : Item → Except LoadFault Section
  | part inner => .ok inner
  | scalar _ => .error .noParts

def asText : Item → Except LoadFault String
  | scalar (.text value) => .ok value
  | _ => .error .badKind

end Item

/-- Whether a text stands somewhere in another one. -/
def occursIn (needle : List Char) : List Char → Bool
  | [] => needle.isEmpty
  | c :: cs => needle.isPrefixOf (c :: cs) || occursIn needle cs

/-- Whether a value holds a key: as a key of a mapping, an item of a list, or a part of a text.
Other values hold nothing and must not be asked. -/
def holds (value : Yaml) (key : String) : Except LoadFault Bool :=
  match value with
  | .map entries => .ok (Yaml.entry? entries key).isSome
  | .list items => .ok (items.any fun item => Yaml.sameScalar item (.text key))
  | .text written => .ok (occursIn key.toList written.toList)
  | _ => .error .badKind

/-- The value behind a key, null if there is none. Only a mapping can be asked for a key that it
holds. -/
def valueAt (value : Yaml) (key : String) : Except LoadFault Yaml :=
  match value with
  | .map entries => .ok ((Yaml.entry? entries key).getD .null)
  | value =>
    match holds value key with
    | .ok true => .error .badKind
    | .ok false => .ok .null
    | .error fault => .error fault

/-- The text of a value; a whole number may be too long to have one. -/
def printed (value : Yaml) : Except LoadFault String :=
  match value.plain? with
  | some text => .ok text
  | none => .error .badValue

namespace Section

/-- Whether a container holds a key. -/
def has (part : Section) (key : String) : Except LoadFault Bool := holds part.value key

/-- What stands behind a key. A null is as good as nothing. -/
def item (part : Section) (key : String) : Except LoadFault Item :=
  match valueAt part.value key with
  | .error fault => .error fault
  | .ok .null => .error (.refused (.keyMissing key part.place))
  | .ok value =>
    .ok (if value.isContainer then .part ⟨part.place ++ "/" ++ key, value⟩ else .scalar value)

/-- Whether an element of a list bears a name. Every element has to bear one. -/
def bears (part : Section) (name : Yaml) (element : Yaml) : Except LoadFault Bool :=
  match holds element "name" with
  | .error fault => .error fault
  | .ok false => .error (.refused (.unnamed part.place))
  | .ok true => (valueAt element "name").map fun own => Yaml.sameScalar own name

/-- The element of a name among the rest of a list, `found` being the one found so far. -/
def findFrom (part : Section) (name : Yaml) (found : Option Yaml) :
    List Yaml → Except LoadFault (Option Yaml)
  | [] => .ok found
  | element :: rest =>
    match part.bears name element with
    | .error fault => .error fault
    | .ok false => findFrom part name found rest
    | .ok true =>
      if found.isSome then
        (printed name).bind fun name => .error (.refused (.namedTwice name part.place))
      else findFrom part name (some element) rest

/-- The one element of a list that bears a name, if there is one. -/
def find? (part : Section) (name : Yaml) : Except LoadFault (Option Section) :=
  match part.value with
  | .list elements =>
    match part.findFrom name none elements with
    | .error fault => .error fault
    | .ok none => .ok none
    | .ok (some element) =>
      (printed name).map fun name => some ⟨part.place ++ "[name=" ++ name ++ "]", element⟩
  | _ => .error (.refused (.notList part.place))

/-- The one element of a list that bears a name. -/
def find (part : Section) (name : Yaml) : Except LoadFault Section :=
  match part.find? name with
  | .error fault => .error fault
  | .ok (some element) => .ok element
  | .ok none => (printed name).bind fun name => .error (.refused (.notNamed name part.place))

end Section

end NodeAgent.Rehearsal
