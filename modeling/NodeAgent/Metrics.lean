import NodeAgent.Number.Binary64
/-!
What the agent tells of itself in numbers: the build it is, how its lookups ended, and whether it
has resolved its node.

Correspondence: `Metrics` holds the values of `AgentMetrics`; `countResolution` is an increment of
`node_resolutions_total`, `withReady` sets `ready`, and `describeBuild` fills `build_info`.
-/

namespace NodeAgent

/-- The numbers of an agent. Labels of the build are in the order of their names; outcomes are in
the order in which they first came up. -/
structure Metrics where
  build : List (String × String) := []
  resolutions : List (String × Nat) := []
  ready : Binary64 := .zero false
  deriving DecidableEq

namespace Metrics

/-- Puts a label in front of the first one with a greater name, in the place of one with its own
name. -/
def insertLabel (name value : String) : List (String × String) → List (String × String)
  | [] => [(name, value)]
  | label :: labels =>
    if name = label.1 then (name, value) :: labels
    else if name < label.1 then (name, value) :: label :: labels
    else label :: insertLabel name value labels

def describeBuild (metrics : Metrics) (labels : List (String × String)) : Metrics :=
  { metrics with
    build := labels.foldl (fun labels label => insertLabel label.1 label.2 labels) [] }

/-- One more of an outcome. -/
def increment (outcome : String) : List (String × Nat) → List (String × Nat)
  | [] => [(outcome, 1)]
  | count :: counts =>
    if count.1 = outcome then (outcome, count.2 + 1) :: counts
    else count :: increment outcome counts

def countResolution (metrics : Metrics) (outcome : String) : Metrics :=
  { metrics with resolutions := increment outcome metrics.resolutions }

/-- How many lookups ended in an outcome. -/
def resolutionsOf (metrics : Metrics) (outcome : String) : Nat :=
  ((metrics.resolutions.find? fun count => count.1 == outcome).map Prod.snd).getD 0

/-- Sets whether the node is resolved. -/
def withReady (metrics : Metrics) (ready : Bool) : Metrics :=
  { metrics with ready := .ofInt (if ready then 1 else 0) }

end Metrics

end NodeAgent
