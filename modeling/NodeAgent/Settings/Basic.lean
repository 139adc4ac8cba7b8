import NodeAgent.Duration
/-!
The settings of the agent and their defaults.

Correspondence: `Settings` is `AgentConfig` with its defaults, and `Flags` are the arguments that
`load_config` is given.
-/

namespace NodeAgent

/-- What the agent is told to do, resolved once at its start. -/
structure Settings where
  /-- The node to resolve; empty means that the node is looked up by its host name. -/
  nodeName : String := ""
  /-- The file of credentials; empty means those mounted into the pod. -/
  kubeconfigPath : String := ""
  /-- The wait between attempts to assign an address. -/
  retryInterval : Duration := Duration.ofSeconds 300
  /-- How many attempts to assign an address are made. -/
  retryAttempts : Int := 10
  /-- The name of the least level that is logged. -/
  logLevel : String := "info"
  /-- Whether log lines are JSON documents. -/
  logJson : Bool := false
  /-- Whether checks that hold on cloud nodes only are relaxed. -/
  developMode : Bool := false
  /-- The port that health is served on; nought means none. -/
  healthPort : Int := 0
  deriving DecidableEq

/-- The values of the environment by name. -/
abbrev Environment := String → Option String

end NodeAgent
