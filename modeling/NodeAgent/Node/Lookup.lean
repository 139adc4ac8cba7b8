import NodeAgent.Node.Descriptor
/-!
Looking up the node that the agent runs on: by its name if it is known, else by the label that
holds its host name. A lookup makes one call and retries nothing.

Correspondence: `lookup` is `get_node` of `NodeExplorer`, `readByName` is `_read_by_name`,
`findByHostname` is `_find_by_hostname`, and `isExpected` tells which failures of a call they catch.
-/

namespace NodeAgent.Node

/-- The label that holds a node's host name. -/
def hostnameLabel : String := "kubernetes.io/hostname"

def hostnameSelector (hostname : String) : String := hostnameLabel ++ "=" ++ hostname

/-- What a failed call says of itself in a fault: the reason of an answer, else its text. -/
def callText : CallFault → String
  | .api _ reason => CallFault.reasonText reason
  | fault => fault.text

namespace Fault

/-- The text of a fault. -/
def message : Fault → String
  | provider fault => fault.message
  | notFound name _ => "node " ++ Text.quoted name ++ " not found"
  | readFailed name call => "reading node " ++ Text.quoted name ++ ": " ++ callText call
  | listFailed selector call => "listing nodes with " ++ selector ++ ": " ++ callText call
  | noneLabelled selector => "no node labelled " ++ selector
  | manyLabelled selector names =>
    toString names.length ++ " nodes labelled " ++ selector ++ ": " ++ String.intercalate ", " names

/-- Whether a fault says that there is no such node. -/
def isNotFound : Fault → Bool
  | notFound _ _ => true
  | noneLabelled _ => true
  | _ => false

/-- The failed call behind a fault. -/
def call? : Fault → Option CallFault
  | notFound _ call => some call
  | readFailed _ call => some call
  | listFailed _ call => some call
  | _ => none

def kind (fault : Fault) : FailureKind :=
  if fault.isNotFound then .nodeNotFound else .nodeResolution

def failure (fault : Fault) : Failure :=
  match fault.call? with
  | some call => .caused fault.kind fault.message call.failure
  | none => .alone fault.kind fault.message

end Fault

/-- Whether a lookup takes a failed call for a fault of its own. A bad value is none. -/
def isExpected : CallFault → Bool
  | .value _ => false
  | _ => true

/-- The node of a name. -/
def readByName (api : Api) (name : String) : Except Failed RawNode :=
  match api.read name with
  | .ok node => .ok node
  | .error fault =>
    if isExpected fault then
      match fault with
      | .api (some 404) _ => .error (.unresolved (.notFound name fault))
      | fault => .error (.unresolved (.readFailed name fault))
    else .error (.call fault)

def namesOf : List RawNode → Except Failed (List String)
  | [] => .ok []
  | node :: nodes =>
    match node.name with
    | .missing => .error .nameMissing
    | .null =>
      match namesOf nodes with
      | .error .nameMissing => .error .nameMissing
      | _ => .error .nameNull
    | .is name => (namesOf nodes).map (name :: ·)

/-- Puts a text before the first greater one. -/
def insertText (s : String) : List String → List String
  | [] => [s]
  | other :: rest => if s < other then s :: other :: rest else other :: insertText s rest

/-- Texts in the order of their code points. -/
def sortTexts (texts : List String) : List String := texts.foldr insertText []

/-- The one node of a host name. -/
def findByHostname (api : Api) (hostname : String) : Except Failed RawNode :=
  let selector := hostnameSelector hostname
  match api.list selector with
  | .error fault =>
    if isExpected fault then .error (.unresolved (.listFailed selector fault))
    else .error (.call fault)
  | .ok nodes =>
    match nodes.getD [] with
    | [] => .error (.unresolved (.noneLabelled selector))
    | [node] => .ok node
    | nodes =>
      match namesOf nodes with
      | .ok names => .error (.unresolved (.manyLabelled selector (sortTexts names)))
      | .error failed => .error failed

def Failed.kind : Failed → FailureKind
  | .unresolved fault => fault.kind
  | .call fault => fault.kind
  | .addressMissing => .noAttribute
  | .nameMissing => .noAttribute
  | .nameNull => .type

structure Lookup where
  calls : List Call
  events : List Log.Event
  outcome : Except Failed Descriptor

/-- What is logged before a lookup by host name. -/
def hostnameEvent (hostname : String) : Log.Event :=
  { level := .debug, logger := loggerName
    message := "node name not set, looking up node by hostname " ++ hostname }

def lookupCall (nodeName hostname : String) : Call :=
  if nodeName.isEmpty then .listNodes (hostnameSelector hostname) else .readNode nodeName

/-- The descriptor of the node of a name, or of the host if the name is empty. -/
def lookup (api : Api) (nodeName hostname : String) (developMode : Bool) : Lookup :=
  let (events, found) :=
    if nodeName.isEmpty then ([hostnameEvent hostname], findByHostname api hostname)
    else ([], readByName api nodeName)
  let calls := [lookupCall nodeName hostname]
  match found with
  | .error failed => { calls, events, outcome := .error failed }
  | .ok node =>
    let (more, outcome) := describe developMode node
    { calls, events := events ++ more, outcome }

end NodeAgent.Node
