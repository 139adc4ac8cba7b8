import NodeAgent.Text.Blank
import NodeAgent.Text.Lower
/-!
Log levels by number and by name.

Correspondence: `parseLevel` is `parse_log_level` with its table in `levelWords`, and `levelName` is
`getLevelName`.
-/

namespace NodeAgent.Log

/-- The levels that have a name of their own. -/
inductive Level
  | debug
  | info
  | warning
  | error
  | critical
  deriving DecidableEq

/-- The number of a level; greater is graver. -/
def Level.number : Level → Int
  | debug => 10
  | info => 20
  | warning => 30
  | error => 40
  | critical => 50

/-- The name of a level as log lines show it. -/
def Level.name : Level → String
  | debug => "DEBUG"
  | info => "INFO"
  | warning => "WARNING"
  | error => "ERROR"
  | critical => "CRITICAL"

/-- Every level, the least grave first. -/
def Level.all : List Level := [.debug, .info, .warning, .error, .critical]

/-- The name of a number; one without a level of its own shows itself. -/
def levelName (number : Int) : String :=
  match Level.all.find? fun level => level.number == number with
  | some level => level.name
  | none => if number = 0 then "NOTSET" else "Level " ++ toString number

def levelWords : List (String × Level) :=
  [("debug", .debug), ("info", .info), ("warning", .warning), ("error", .error),
   ("fatal", .critical), ("panic", .critical)]

/-- The level that a word names in any letter case; any other word and none mean a warning. -/
def parseLevel (word : Option String) : Level :=
  let word := String.ofList (Text.lower (Text.dropEnds Text.isBlank (word.getD "").toList))
  ((levelWords.find? fun entry => entry.1 == word).map Prod.snd).getD .warning

end NodeAgent.Log
