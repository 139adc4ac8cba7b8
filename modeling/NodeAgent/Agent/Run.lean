import NodeAgent.Agent.Fault
import NodeAgent.Metrics
import NodeAgent.Number.Shortest
/-!
A run of the agent: it gets access to the cluster, looks up its node once, and then waits until it
is stopped. While it waits, and only then, it shows that it is ready. Nothing is tried again.

Correspondence: `run` is `run`; its first stage is `Kube.retrieve`, its second one, which
`build_core_api` is, meets the `clientFault` of its world, and its third one is `lookUp`.
-/

namespace NodeAgent.Agent

/-- What surrounds a run. -/
structure World (Access : Type) extends Kube.Surroundings where
  /-- The library that it gets access by. -/
  library : Kube.Library Access
  api : Node.Api
  /-- The name of the host that the agent runs on. -/
  hostname : String
  /-- The fault that making a client meets. -/
  clientFault : Option Node.CallFault := none
  /-- Whether the wait is broken off. -/
  interrupted : Bool := false

/-- What a run shows to others: a flag that tells whether it is ready, which not every run has,
and its metrics. -/
structure Shown where
  flag : Option Bool := none
  metrics : Metrics := {}
  deriving DecidableEq

def Shown.withReady (shown : Shown) (ready : Bool) : Shown :=
  { flag := shown.flag.map fun _ => ready, metrics := shown.metrics.withReady ready }

def Shown.countResolution (shown : Shown) (outcome : String) : Shown :=
  { shown with metrics := shown.metrics.countResolution outcome }

/-- How a run ends: it was stopped, a stage failed, the wait was broken off, or a failure came up
that no stage is blamed for. -/
inductive Ending
  | stopped (node : Node.Descriptor)
  | failed (fault : Fault)
  | interrupted
  | escaped (kind : FailureKind)

/-- What looks up the node: the access it goes through, the name it looks for, which may be empty,
and whether it is in develop mode. -/
structure Explorer (Access : Type) where
  access : Access
  nodeName : String
  developMode : Bool

/-- A run: what it logged up to its wait, or up to its end if it did not get there, and what it
logged after; the calls it made; what looked up its node, if it came to that; what it showed while
it waited, if it did; what it shows after; and how it ended. -/
structure Run (Access : Type) where
  before : List Log.Event
  after : List Log.Event := []
  calls : List Node.Call := []
  explorer : Option (Explorer Access) := none
  waiting : Option Shown := none
  shown : Shown
  ending : Ending

def Run.events {Access : Type} (run : Run Access) : List Log.Event := run.before ++ run.after

def event (level : Log.Level) (fields : Log.Fields) (message : String) : Log.Event :=
  { level, logger := Kube.loggerName, message, fields }

def startedEvent (settings : Settings) (fields : Log.Fields) : Log.Event :=
  event .info (fields.overlay [("develop-mode", .bool settings.developMode)])
    "kubeip agent started"

def secondsText (span : Duration) : String :=
  (Binary64.ofRatio (span.micros < 0) span.micros.natAbs 1000000).text

def policyEvent (settings : Settings) (fields : Log.Fields) : Log.Event :=
  event .debug fields
    ("retry policy: " ++ toString settings.retryAttempts ++ " attempts every " ++
      secondsText settings.retryInterval ++ "s")

def nodeFields (node : Node.Descriptor) : Log.Fields :=
  [("cloud", .text (Node.cloudName node.cloud)), ("instance", .text node.instanceId),
   ("region", .text node.region), ("zone", .text node.zone), ("pool", .text node.pool)]

def resolvedEvents (node : Node.Descriptor) (fields : Log.Fields) : List Log.Event :=
  [event .debug fields ("node name: " ++ node.name),
   event .info (fields.overlay (nodeFields node)) ("resolved node " ++ node.name)]

/-- The last event of a run that was stopped. -/
def stoppedEvent (fields : Log.Fields) : Log.Event :=
  event .info fields "kubeip agent stopped"

/-- The outcome under which a resolved node is counted. -/
def successOutcome : String := "success"

/-- The outcome under which an unresolved node is counted. -/
def errorOutcome : String := "error"

section

variable {Access : Type}

/-- What an explorer does. -/
def Explorer.lookup (explorer : Explorer Access) (world : World Access) : Node.Lookup :=
  Node.lookup world.api explorer.nodeName world.hostname explorer.developMode

/-- A run from the lookup on. -/
def lookUp (world : World Access) (fields : Log.Fields) (shown : Shown)
    (before : List Log.Event) (explorer : Explorer Access) : Run Access :=
  let lookup := explorer.lookup world
  let before := before ++ lookup.events
  let calls := lookup.calls
  match lookup.outcome with
  | .error (.unresolved fault) =>
    { before, calls, explorer, shown := shown.countResolution errorOutcome
      ending := .failed (.lookup fault) }
  | .error failed => { before, calls, explorer, shown, ending := .escaped failed.kind }
  | .ok node =>
    let waiting := (shown.countResolution successOutcome).withReady true
    { before := before ++ resolvedEvents node fields
      after := if world.interrupted then [] else [stoppedEvent fields]
      calls, explorer, waiting, shown := waiting.withReady false
      ending := if world.interrupted then .interrupted else .stopped node }

/-- The run of an agent with some settings. What it logs bears the fields of its logger; `shown`
is what it shows at first. -/
def run (settings : Settings) (world : World Access) (fields : Log.Fields) (shown : Shown) :
    Run Access :=
  let started := [startedEvent settings fields, policyEvent settings fields]
  let (sources, found) :=
    Kube.retrieve world.library world.toSurroundings fields settings.kubeconfigPath
  let before := started ++ sources
  match found with
  | .error (.denied fault) => { before, shown, ending := .failed (.access fault) }
  | .error failed => { before, shown, ending := .escaped failed.kind }
  | .ok access =>
    match world.clientFault with
    | some fault => { before, shown, ending := .failed (.client fault) }
    | none =>
      lookUp world fields shown before
        { access, nodeName := settings.nodeName, developMode := settings.developMode }

end

end NodeAgent.Agent
