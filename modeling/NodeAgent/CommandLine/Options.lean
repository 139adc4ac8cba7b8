import NodeAgent.CommandLine.Layout
import NodeAgent.CommandLine.Version
import NodeAgent.Settings.Load
/-!
The options of the program and of its one command.

Correspondence: `programChoices` and `runChoices` are what `build_parser` adds to its parsers;
`programHelp` and `runHelp` are their help.
-/

namespace NodeAgent

/-- The settings that flags give. -/
inductive Setting
  | nodeName
  | kubeconfig
  | retryInterval
  | retryAttempts
  | logLevel
  | json
  | developMode
  | healthPort
  deriving DecidableEq

/-- Gives a flag. -/
def Flags.set (flags : Flags) (setting : Setting) (value : Datum) : Flags :=
  match setting with
  | .nodeName => { flags with nodeName := value }
  | .kubeconfig => { flags with kubeconfig := value }
  | .retryInterval => { flags with retryInterval := value }
  | .retryAttempts => { flags with retryAttempts := value }
  | .logLevel => { flags with logLevel := value }
  | .json => { flags with json := value }
  | .developMode => { flags with developMode := value }
  | .healthPort => { flags with healthPort := value }

namespace CommandLine

/-- What an option does: it ends the program with a text, or gives a setting the text behind it,
the whole number behind it, or the value true. -/
inductive Effect
  | help
  | version
  | takeText (setting : Setting)
  | takeWhole (setting : Setting)
  | switchOn (setting : Setting)
  deriving DecidableEq

/-- An option with its names, and with what its help calls its value. -/
structure Choice where
  names : List String
  placeholder : Option String := none
  effect : Effect
  help : String
  deriving DecidableEq

namespace Choice

def title (choice : Choice) : String := String.intercalate "/" choice.names

def withValue (choice : Choice) (name : String) : String :=
  match choice.placeholder with
  | some value => name ++ " " ++ value
  | none => name

def usagePart (choice : Choice) : String :=
  "[" ++ choice.withValue (choice.names.headD "") ++ "]"

def entry (choice : Choice) : Entry where
  head := String.intercalate ", " (choice.names.map choice.withValue)
  help := choice.help.splitOn " "

end Choice

def helpChoice : Choice where
  names := ["-h", "--help"]
  effect := .help
  help := "show this help message and exit"

def versionChoice : Choice where
  names := ["--version"]
  effect := .version
  help := "print the version and exit"

def programChoices : List Choice := [helpChoice, versionChoice]

def defaultText (value : String) : String := "(default: " ++ value ++ ")"

/-- The options that tell what to do. -/
def configurationChoices : List Choice :=
  [{ names := ["--node-name"], placeholder := some "NODE_NAME", effect := .takeText .nodeName
     help := "Kubernetes node name (not needed if running in node) [$CLUSTER_NAME]" },
   { names := ["--kubeconfig"], placeholder := some "KUBECONFIG", effect := .takeText .kubeconfig
     help := "path to Kubernetes configuration file (not needed if running in node) " ++
       "[$KUBECONFIG]" },
   { names := ["--retry-interval"], placeholder := some "RETRY_INTERVAL"
     effect := .takeText .retryInterval
     help := "when the agent fails to assign the static public IP address, it will retry after " ++
       "this interval " ++
       defaultText (toString (({} : Settings).retryInterval.micros / 60000000) ++ "m") ++
       " [$RETRY_INTERVAL]" },
   { names := ["--retry-attempts"], placeholder := some "RETRY_ATTEMPTS"
     effect := .takeWhole .retryAttempts
     help := "number of attempts to assign the static public IP address " ++
       defaultText (toString ({} : Settings).retryAttempts) ++ " [$RETRY_ATTEMPTS]" }]

def loggingChoices : List Choice :=
  [{ names := ["--log-level"], placeholder := some "LOG_LEVEL", effect := .takeText .logLevel
     help := "set log level (debug, info(*), warning, error, fatal, panic) " ++
       defaultText ({} : Settings).logLevel ++ " [$LOG_LEVEL]" },
   { names := ["--json"], effect := .switchOn .json
     help := "produce log in JSON format: Logstash and Splunk friendly [$LOG_JSON]" }]

def developmentChoices : List Choice :=
  [{ names := ["--develop-mode"], effect := .switchOn .developMode
     help := "enable develop mode [$DEV_MODE]" }]

/-- The options that tell where health is served. -/
def healthChoices : List Choice :=
  [{ names := ["--health-port"], placeholder := some "HEALTH_PORT"
     effect := .takeWhole .healthPort
     help := "serve /healthz, /readyz and /metrics on this port, 0 disables " ++
       defaultText (toString ({} : Settings).healthPort) ++ " [$HEALTH_PORT]" }]

def runChoices : List Choice :=
  helpChoice :: (configurationChoices ++ loggingChoices ++ developmentChoices ++ healthChoices)

def runName : String := "run"

def runTitle : String := programName ++ " " ++ runName

/-- The commands that there are to choose from, as usage shows them. -/
def commandPart : String := "\x7b" ++ runName ++ "\x7d"

def programUsage : String :=
  usageText programName (programChoices.map Choice.usagePart ++ [commandPart, "..."])

def runUsage : String := usageText runTitle (runChoices.map Choice.usagePart)

/-- A help text: the usage, what the program is for, and sections. -/
def helpText (usage purpose : String) (sections : List Section) : String :=
  let column := columnOf sections
  usage ++ "\n" ++ (if purpose.isEmpty then "" else purpose ++ "\n\n") ++
    String.intercalate "\n" (sections.map fun part => textOfLines (part.lines column))

def sectionOf (title : String) (choices : List Choice) : Section :=
  { title, entries := choices.map Choice.entry }

def programHelp : String :=
  helpText programUsage "replaces the node's public IP address with a static public IP address"
    [{ title := "positional arguments"
       entries := [{ head := commandPart },
         { margin := 4, head := runName, help := ["run", "agent"] }] },
     sectionOf "options" programChoices]

def runHelp : String :=
  helpText runUsage ""
    [sectionOf "options" [helpChoice], sectionOf "Configuration" configurationChoices,
     sectionOf "Logging" loggingChoices, sectionOf "Development" developmentChoices,
     sectionOf "Health" healthChoices]

end CommandLine

end NodeAgent
