import NodeAgent.Agent.Run
import NodeAgent.CommandLine.Version
import NodeAgent.Health
import NodeAgent.Log.Session
import NodeAgent.Settings.Load
/-!
The agent as a service: its settings are resolved, logging is set up by them, health is served if
a port is set, and the agent runs until a signal stops it. Whatever ends the run, a server that
was started is shut down and closed.

Correspondence:
* `command`: `run_cmd`; it acts on its `Progress` and may be broken off by what is `Raised`.
* `listen`: its part around `start_health_server`.
* `supervise`: its part around `run`, with the handler of an `AgentError` and the finalizer.
* `serve`: the course of `command`, with the status that it returns or what escapes from it.
-/

namespace NodeAgent.Service

inductive Signal
  | interrupt
  | terminate
  deriving DecidableEq

def Signal.number : Signal → Nat
  | interrupt => 2
  | terminate => 15

def handledSignals : List Signal := [.interrupt, .terminate]

/-- What surrounds a service: beside what surrounds its run, the fault that listening meets, the
requests that come in while the agent waits, how metrics are written out for them, the signal that
ends the wait, and the accounts of the system. -/
structure World (Access : Type) extends Agent.World Access where
  scraper : Health.Scraper
  accounts : Path.Accounts := {}
  bindFault : Option Node.CallFault := none
  requests : List ByteArray := []
  signal : Signal := .terminate

/-- What a service does to its server and its agent. -/
inductive Act
  | listen (port : Int)
  | run
  | shutdown
  | close
  deriving DecidableEq

/-- How a service ends: with a status, or by a failure that nothing handles. -/
inductive Exit
  | status (code : Nat)
  | escaped (kind : FailureKind)
  deriving DecidableEq

/-- How far a service has come: how it logs, what it has logged and done, the run of its agent, the
replies of its server, and its metrics. Without a logger nothing is written. -/
structure Progress (Access : Type) where
  logging : Option (Log.Level × Log.Format) := none
  events : List Log.Event := []
  acts : List Act := []
  run : Option (Agent.Run Access) := none
  replies : List Health.Reply := []
  metrics : Metrics := {}

/-- The course of a service: how far it came, and how it ended. -/
structure Course (Access : Type) extends Progress Access where
  exit : Exit

section

variable {Access : Type}

def Course.threshold (course : Course Access) : Log.Level :=
  (course.logging.map Prod.fst).getD .warning

def Course.log (course : Course Access) (origin : Log.Origin) : String :=
  match course.logging with
  | none => ""
  | some (threshold, format) =>
    String.join (course.events.map fun event =>
      if threshold.number ≤ event.level.number then
        Log.written [format] (event.record origin)
      else "")

def fieldsOf (env : Environment) : Log.Fields :=
  [("version", .text (CommandLine.version env))]

def failedEvent (env : Environment) (message : String) (failure : Option Failure) : Log.Event :=
  { level := .critical, logger := Kube.loggerName, fields := fieldsOf env
    message := "kubeip agent failed: " ++ message, failure }

def signalEvent (signal : Signal) : Log.Event :=
  { level := .info, logger := "agent.src.__main__"
    message := "Received signal " ++ toString signal.number ++ ", shutting down" }

def buildMetrics (env : Environment) : Metrics :=
  ({} : Metrics).describeBuild
    [("version", CommandLine.version env), ("revision", CommandLine.revision env)]

/-- Whether a fault is one of the system, as those of listening are. -/
def isOfSystem : Node.CallFault → Bool
  | .system _ _ => true
  | .timeout _ => true
  | _ => false

/-- The replies to requests, and what is logged of them. -/
def answerAll (scraper : Health.Scraper) (state : Health.State) (requests : List ByteArray) :
    List Health.Reply × List Log.Event :=
  let answers := requests.map fun bytes => Health.answer scraper state (Http.Request.ofBytes bytes)
  (answers.map Prod.fst, answers.flatMap Prod.snd)

/-- What is served while an agent waits. -/
def servedState (shown : Agent.Shown) : Health.State :=
  { ready := shown.flag.getD false, metrics := shown.metrics }

/-- The level and the form of the log that settings ask for. -/
def loggingOf (settings : Settings) : Log.Level × Log.Format :=
  (Log.parseLevel (some settings.logLevel), if settings.logJson then .json else .text)

/-- The kind of what keeps settings from being resolved. -/
def loadKind : Settings.Failure → FailureKind
  | .refused _ => .config
  | .pathNotText => .type
  | .userUnaskable => .value
  | .numberOverflow => .overflow
  | .numberTooLong => .value

/-! ## Actions -/

/-- What breaks a service off: a fault of its agent, a fault of listening, or another failure. -/
inductive Raised
  | agent (fault : Agent.Fault)
  | bind (fault : Node.CallFault)
  | other (kind : FailureKind)

def Raised.kind : Raised → FailureKind
  | agent _ => .agent
  | bind fault => fault.kind
  | other kind => kind

/-- What a service does: it takes its progress further and gives a result, unless it is broken
off. -/
abbrev Action (Access : Type) := ExceptT Raised (StateM (Progress Access))

def setLogging (logging : Log.Level × Log.Format) : Action Access Unit :=
  modify fun progress => { progress with logging := some logging }

def log (event : Log.Event) : Action Access Unit :=
  modify fun progress => { progress with events := progress.events ++ [event] }

def act (done : Act) : Action Access Unit :=
  modify fun progress => { progress with acts := progress.acts ++ [done] }

/-- What a run of the agent shows while it waits is served, if there is a server; then the signal
comes in. -/
def answered (world : World Access) (server : Option Int) (run : Agent.Run Access) :
    List Health.Reply × List Log.Event :=
  match server, run.waiting with
  | some _, some shown => answerAll world.scraper (servedState shown) world.requests
  | _, _ => ([], [])

/-- What is logged while the agent waits, up to the signal that ends the wait. -/
def waitEvents (world : World Access) (server : Option Int) (run : Agent.Run Access) :
    List Log.Event :=
  if run.waiting.isSome then (answered world server run).2 ++ [signalEvent world.signal] else []

/-- Runs the agent. The service goes on if it was stopped. -/
def runAgent (settings : Settings) (world : World Access) (server : Option Int) :
    Action Access Unit := do
  let shown : Agent.Shown := { flag := some false, metrics := (← get).metrics }
  let run := Agent.run settings world.toWorld (fieldsOf world.environment) shown
  act .run
  modify fun progress => { progress with
    events := progress.events ++ run.before ++ waitEvents world server run ++ run.after
    run, replies := (answered world server run).1, metrics := run.shown.metrics }
  match run.ending with
  | .stopped _ => pure ()
  | .failed fault => throw (.agent fault)
  | .interrupted => throw (.other .interrupt)
  | .escaped kind => throw (.other kind)

/-- Shuts a server down that was started, and closes it. -/
def closeServer : Option Int → Action Access Unit
  | some _ => do
    act .shutdown
    act .close
  | none => pure ()

/-- Runs the agent and gives the status to end with. The server is closed in any case. -/
def supervise (settings : Settings) (world : World Access) (server : Option Int) :
    Action Access Nat :=
  try
    runAgent settings world server
    pure 0
  catch
    | .agent fault => do
      log (failedEvent world.environment fault.message (some fault.failure))
      pure 1
    | raised => throw raised
  finally
    closeServer server

/-- Starts a server on a port. -/
def startServer (world : World Access) (port : Int) : Action Access Unit :=
  match world.bindFault with
  | some fault => throw (.bind fault)
  | none => do
    act (.listen port)
    log (Health.startEvent port)

/-- Starts the server that settings ask for, and tells whether the service can go on. -/
def listen (settings : Settings) (world : World Access) : Action Access Bool :=
  if settings.healthPort = 0 then pure true
  else
    try
      startServer world settings.healthPort
      pure true
    catch
      | .bind fault =>
        if isOfSystem fault then do
          log (failedEvent world.environment ("starting health server: " ++ fault.text) none)
          pure false
        else throw (.bind fault)
      | raised => throw raised

/-- The port that settings ask to serve health on. -/
def portOf (settings : Settings) : Option Int :=
  if settings.healthPort = 0 then none else some settings.healthPort

/-- The command of a service: it gives the status to end with. -/
def command (flags : Flags) (world : World Access) : Action Access Nat :=
  match Settings.load world.accounts flags world.environment with
  | .error (.refused fault) => do
    -- There are no settings to log by, so the refusal is logged by the default ones.
    setLogging (loggingOf {})
    log (failedEvent world.environment fault.message none)
    pure 1
  | .error failure => throw (.other (loadKind failure))
  | .ok settings => do
    setLogging (loggingOf settings)
    modify fun progress => { progress with metrics := buildMetrics world.environment }
    if ← listen settings world then supervise settings world (portOf settings) else pure 1

/-- The course of a service that is given flags. -/
def serve (flags : Flags) (world : World Access) : Course Access :=
  match (command flags world).run {} with
  | (.ok status, progress) => { progress with exit := .status status }
  | (.error raised, progress) => { progress with exit := .escaped raised.kind }

end

end NodeAgent.Service
