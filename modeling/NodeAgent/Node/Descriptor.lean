import NodeAgent.Log.Event
import NodeAgent.Node.Provider
import NodeAgent.Node.Raw
/-!
The descriptor of a node: its name, its instance in the cloud, where it stands, and its
addresses.

Correspondence: `describe` is `describe` of `NodeExplorer`, `identify` its handling of the provider
id, `addressesOf` is `_addresses`, and `firstLabel` is `_first_label`.
-/

namespace NodeAgent.Node

/-- What is known of the node that the agent runs on. `cloud` is missing for a node of no
supported cloud. -/
structure Descriptor where
  name : String
  instanceId : String
  cloud : Option Cloud
  providerId : String
  pool : String := ""
  region : String := ""
  zone : String := ""
  externalIps : List Address := []
  internalIps : List Address := []
  deriving DecidableEq

def cloudName (cloud : Option Cloud) : String := (cloud.map Cloud.name).getD "unknown"

/-- Labels that name a node's region, the most telling first. -/
def regionLabels : List String :=
  ["topology.kubernetes.io/region", "failure-domain.beta.kubernetes.io/region"]

/-- Labels that name a node's zone, the most telling first. -/
def zoneLabels : List String :=
  ["topology.kubernetes.io/zone", "failure-domain.beta.kubernetes.io/zone"]

/-- Labels that name a node's pool, the most telling first. -/
def poolLabels : List String :=
  ["cloud.google.com/gke-nodepool", "eks.amazonaws.com/nodegroup",
   "alpha.eksctl.io/nodegroup-name", "karpenter.sh/nodepool", "kubernetes.azure.com/agentpool",
   "node.kubernetes.io/pool"]

/-- Why a node cannot be resolved. -/
inductive Fault
  | provider (fault : ProviderFault)
  | notFound (name : String) (call : CallFault)
  | readFailed (name : String) (call : CallFault)
  | listFailed (selector : String) (call : CallFault)
  | noneLabelled (selector : String)
  | manyLabelled (selector : String) (names : List String)
  deriving DecidableEq

/-- What ends a lookup without a node: a fault of the lookup itself, a failed call that is no
fault of the cluster's, or data that lacks what it is asked for. -/
inductive Failed
  | unresolved (fault : Fault)
  | call (fault : CallFault)
  | addressMissing
  | nameMissing
  | nameNull
  deriving DecidableEq

def loggerName : String := "agent.src.node"

/-- The value of the first label of a list that is present and not empty. -/
def firstLabel (node : RawNode) (keys : List String) : String :=
  (keys.findSome? fun key =>
    match node.label? key with
    | some value => if value.isEmpty then none else some value
    | none => none).getD ""

/-- The address that a value stands for: a number or a text. -/
def addressOf? : Datum → Option Address
  | .int n => Address.ofInt? n
  | .bool b => Address.ofInt? (if b then 1 else 0)
  | value => Address.ofText? value.plain

/-- What stands for the address of an entry, null included; nothing may. -/
def AddressEntry.datum? (entry : AddressEntry) : Option Datum :=
  match entry.value with
  | .missing => none
  | .null => some .null
  | .is value => some value

/-- What is logged for an entry that holds no address. -/
def skipEvent (kind : String) (value : Datum) : Log.Event :=
  { level := .debug, logger := loggerName
    message := "Skipping unparsable " ++ kind ++ " address " ++ value.literal }

/-- The addresses of the entries of a type, in order. Entries that hold no address are logged and
passed over; an entry without a value ends the reading. -/
def addressesOf (kind : String) :
    List AddressEntry → List Log.Event × Except Failed (List Address)
  | [] => ([], .ok [])
  | entry :: entries =>
    if entry.kind = .is kind then
      match entry.datum? with
      | none => ([], .error .addressMissing)
      | some value =>
        let (events, rest) := addressesOf kind entries
        match addressOf? value with
        | some address => (events, rest.map (address :: ·))
        | none => (skipEvent kind value :: events, rest)
    else addressesOf kind entries

/-- What is logged for a node of no supported cloud that is let pass. -/
def acceptEvent (name providerId : String) : Log.Event :=
  { level := .warning, logger := loggerName
    message := "node " ++ name ++ " has unsupported provider id " ++ Text.quoted providerId ++
      "; accepted in develop mode" }

/-- The cloud and the instance of a node. In develop mode a node of no supported cloud is let
pass, its name standing for the instance. -/
def identify (developMode : Bool) (node : RawNode) :
    List Log.Event × Except Failed (Option Cloud × String) :=
  match parseProviderId node.providerText with
  | .ok (cloud, instanceId) => ([], .ok (some cloud, instanceId))
  | .error fault =>
    if developMode then
      ([acceptEvent node.nameText node.providerText], .ok (none, node.nameText))
    else ([], .error (.unresolved (.provider fault)))

/-- The descriptor of a node, with what is logged on the way to it. -/
def describe (developMode : Bool) (node : RawNode) :
    List Log.Event × Except Failed Descriptor :=
  match identify developMode node with
  | (events, .error failed) => (events, .error failed)
  | (events, .ok (cloud, instanceId)) =>
    match addressesOf "ExternalIP" node.addresses with
    | (more, .error failed) => (events ++ more, .error failed)
    | (more, .ok externalIps) =>
      let events := events ++ more
      match addressesOf "InternalIP" node.addresses with
      | (more, .error failed) => (events ++ more, .error failed)
      | (more, .ok internalIps) =>
        (events ++ more, .ok
          { name := node.nameText, instanceId, cloud, providerId := node.providerText
            pool := firstLabel node poolLabels, region := firstLabel node regionLabels
            zone := firstLabel node zoneLabels, externalIps, internalIps })

end NodeAgent.Node
