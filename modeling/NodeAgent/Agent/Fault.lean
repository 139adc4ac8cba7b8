import NodeAgent.Kube.Retrieve
import NodeAgent.Node.Lookup
/-!
Why an agent does not get to its node. There are three stages, and the message of a fault names
the one that failed.

Correspondence: `Fault.failure` is the `AgentError` that `run` raises.
-/

namespace NodeAgent.Agent

/-- The stages on the way to the node: access to the cluster, a client, the lookup. -/
inductive Fault
  | access (fault : Kube.Fault)
  | client (fault : Node.CallFault)
  | lookup (fault : Node.Fault)

namespace Fault

/-- What a stage does, as its faults name it. -/
def stage : Fault → String
  | access _ => "retrieving kube config"
  | client _ => "initializing kubernetes client"
  | lookup _ => "getting node"

/-- The failure that made a stage fail. -/
def origin : Fault → Failure
  | access fault => fault.retrieval
  | client fault => fault.failure
  | lookup fault => fault.failure

/-- The text of a fault: its stage, then the text of what made it fail. -/
def message (fault : Fault) : String := fault.stage ++ ": " ++ fault.origin.text

/-- A fault as a failure, caused by that of its stage. -/
def failure (fault : Fault) : Failure := .caused .agent fault.message fault.origin

end Fault

end NodeAgent.Agent
