import NodeAgent.Health
import NodeAgent.Number.Shortest
/-!
The text in which a rehearsal's metrics are scraped: for each family a line of help, a line with its
kind, and a line for each of its samples. Samples of the process and of creation times are not
among them.

Main definition: `Rehearsal.scraper`, which writes the metrics of the agent out and no others.
-/

namespace NodeAgent.Rehearsal

/-- Drops noughts and points from the end of a numeral. -/
def trimNoughts (digits : List Char) : List Char :=
  (digits.reverse.dropWhile fun c => c == '0' || c == '.').reverse

/-- The numeral of a value. -/
def valueText : Binary64 → String
  | .nan => "NaN"
  | .infinite negative => if negative then "-Inf" else "+Inf"
  | value@(.finite negative _ _) =>
    let numeral := value.text.toList
    let whole := numeral.takeWhile (· != '.')
    let fraction := (numeral.dropWhile (· != '.')).drop 1
    -- From a million up, a positive value that has a point is written with a power of ten.
    if !negative && numeral.contains '.' && 6 < whole.length then
      String.ofList (trimNoughts (whole.take 1 ++ '.' :: (whole.drop 1 ++ fraction)) ++
        'e' :: Binary64.exponentText (whole.length - 1))
    else value.text

def labelChar : Char → List Char
  | '\\' => ['\\', '\\']
  | '\n' => ['\\', 'n']
  | '"' => ['\\', '"']
  | c => [c]

def isNameChar (c : Char) : Bool := c.isAlphanum || c == '_'

/-- The name of a label; characters that no name has, and a digit in front, become underscores. -/
def labelName : List Char → List Char
  | [] => []
  | c :: cs =>
    (if isNameChar c && !c.isDigit then c else '_') ::
      cs.map fun c => if isNameChar c then c else '_'

def labelText (label : String × String) : String :=
  String.ofList (labelName label.1.toList) ++ "=\"" ++
    String.ofList (label.2.toList.flatMap labelChar) ++ "\""

/-- A value under its labels. -/
structure Sample where
  labels : List (String × String) := []
  value : Binary64

/-- Samples under one name. -/
structure Family where
  name : String
  help : String
  kind : String
  samples : List Sample

/-- The line of a sample. Without labels there are no braces. -/
def sampleLine (name : String) (sample : Sample) : String :=
  let labels := String.intercalate "," (sample.labels.map labelText)
  name ++ (if labels.isEmpty then "" else "\x7b" ++ labels ++ "\x7d") ++ " " ++
    valueText sample.value ++ "\n"

def Family.text (family : Family) : String :=
  "# HELP " ++ family.name ++ " " ++ family.help ++ "\n" ++
    "# TYPE " ++ family.name ++ " " ++ family.kind ++ "\n" ++
    String.join (family.samples.map (sampleLine family.name))

def buildFamily (metrics : Metrics) : Family where
  name := "kubeip_agent_build_info"
  help := "Build information for the agent"
  kind := "gauge"
  samples := [{ labels := metrics.build, value := .ofInt 1 }]

/-- The lookups, by their outcomes. -/
def resolutionFamily (metrics : Metrics) : Family where
  name := "kubeip_agent_node_resolutions_total"
  help := "Total attempts to resolve the node the agent runs on"
  kind := "counter"
  samples := metrics.resolutions.map fun (outcome, count) =>
    { labels := [("outcome", outcome)], value := .ofInt count }

/-- Whether the node is resolved. -/
def readyFamily (metrics : Metrics) : Family where
  name := "kubeip_agent_ready"
  help := "Whether the agent has resolved its node (1=yes, 0=no)"
  kind := "gauge"
  samples := [{ value := metrics.ready }]

/-- The families of an agent, in the order in which they are scraped. -/
def families (metrics : Metrics) : List Family :=
  [buildFamily metrics, resolutionFamily metrics, readyFamily metrics]

/-- How a rehearsal writes metrics out. -/
def scraper : Health.Scraper where
  contentType := "text/plain; version=1.0.0; charset=utf-8"
  text metrics := String.join ((families metrics).map Family.text)

end NodeAgent.Rehearsal
