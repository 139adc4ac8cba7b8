import NodeAgent.Datum
import NodeAgent.Failure
/-!
Nodes as the cluster tells of them, where anything may be missing, and the calls that ask for
them.

Correspondence: `RawNode` is a `V1Node`, of which anything may be missing or null, and `Api` is what
the client for nodes answers: `read_node` and `list_node`.
-/

namespace NodeAgent.Node

/-- An attribute that may be missing or null. -/
inductive Attribute (α : Type)
  | missing
  | null
  | is (value : α)
  deriving DecidableEq, Inhabited

namespace Attribute

def value? {α : Type} : Attribute α → Option α
  | is value => some value
  | _ => none

/-- An attribute of what an attribute holds; it is missing where there is nothing to hold it. -/
def through {α β : Type} (attr : Attribute α) (inner : α → Attribute β) : Attribute β :=
  match attr with
  | is value => inner value
  | _ => missing

end Attribute

/-- An entry of a node's addresses: its type and what stands for the address. -/
structure AddressEntry where
  kind : Attribute String := .missing
  value : Attribute Datum := .missing

structure Metadata where
  name : Attribute String := .missing
  labels : Attribute (List (String × String)) := .missing

structure Spec where
  providerId : Attribute String := .missing

structure Status where
  addresses : Attribute (List AddressEntry) := .missing

/-- A node as the cluster tells of it. -/
structure RawNode where
  metadata : Attribute Metadata := .missing
  spec : Attribute Spec := .missing
  status : Attribute Status := .missing
  deriving Inhabited

namespace RawNode

def name (node : RawNode) : Attribute String := node.metadata.through Metadata.name

/-- The name of a node, empty if it has none. -/
def nameText (node : RawNode) : String := node.name.value?.getD ""

/-- The labels of a node, none if there is nothing to hold them. -/
def labels (node : RawNode) : List (String × String) :=
  (node.metadata.through Metadata.labels).value?.getD []

def label? (node : RawNode) (key : String) : Option String :=
  (node.labels.find? fun entry => entry.1 == key).map Prod.snd

/-- The provider id of a node, empty if it has none. -/
def providerText (node : RawNode) : String :=
  (node.spec.through Spec.providerId).value?.getD ""

/-- The entries of a node's addresses, none if there is nothing to hold them. -/
def addresses (node : RawNode) : List AddressEntry :=
  (node.status.through Status.addresses).value?.getD []

end RawNode

inductive CallFault
  | api (status : Option Int) (reason : Option String)
  | transport (message : String)
  | system (errno : Option Int) (message : String)
  | timeout (message : String)
  | value (message : String)
  deriving DecidableEq

namespace CallFault

def kind : CallFault → FailureKind
  | api _ _ => .api
  | transport _ => .transport
  | system (some errno) _ => .ofErrno errno
  | system none _ => .system
  | timeout _ => .timeout
  | value _ => .value

/-- The reason of an answer; one that is missing has a name. -/
def reasonText (reason : Option String) : String := reason.getD "None"

def text : CallFault → String
  | api status reason =>
    "(" ++ (status.map toString).getD "None" ++ ")\nReason: " ++ reasonText reason ++ "\n"
  | transport message => message
  | system (some errno) message => "[Errno " ++ toString errno ++ "] " ++ message
  | system none message => message
  | timeout message => message
  | value message => message

def failure (fault : CallFault) : Failure := .alone fault.kind fault.text

end CallFault

inductive Call
  | readNode (name : String)
  | listNodes (selector : String)
  deriving DecidableEq

/-- How a cluster answers calls. A list may be missing from its answer. -/
structure Api where
  read : String → Except CallFault RawNode
  list : String → Except CallFault (Option (List RawNode))

/-- A cluster with its nodes, and the faults that its calls meet. -/
structure Cluster where
  nodes : List RawNode := []
  readFault : Option CallFault := none
  listFault : Option CallFault := none
  listMissing : Bool := false

/-- The key and the value of a selector, parted by its first equals sign. -/
def splitSelector (selector : String) : String × String :=
  let cs := selector.toList
  (String.ofList (cs.takeWhile (· != '=')), String.ofList ((cs.dropWhile (· != '=')).drop 1))

/-- The nodes that a selector selects: those whose label has its value. -/
def Cluster.select (cluster : Cluster) (selector : String) : List RawNode :=
  let (key, value) := splitSelector selector
  cluster.nodes.filter fun node => node.label? key == some value

/-- The first node of a name. -/
def Cluster.find? (cluster : Cluster) (name : String) : Option RawNode :=
  cluster.nodes.find? fun node => node.name == .is name

/-- How a cluster answers, its faults first. -/
def Cluster.api (cluster : Cluster) : Api where
  read name :=
    match cluster.readFault with
    | some fault => .error fault
    | none =>
      match cluster.find? name with
      | some node => .ok node
      | none => .error (.api (some 404) (some "Not Found"))
  list selector :=
    match cluster.listFault with
    | some fault => .error fault
    | none =>
      if cluster.listMissing then .ok none else .ok (some (cluster.select selector))

end NodeAgent.Node
