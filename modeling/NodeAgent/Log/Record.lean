import NodeAgent.Failure
import NodeAgent.Log.Fields
import NodeAgent.Log.Level
import NodeAgent.Log.Template
import NodeAgent.Time.Calendar
/-!
Log records, and the attributes whose names fields cannot take.

Correspondence: `reservedNames` is `_RESERVED_ATTRS`, and `Record.shownFields` is `_bound_fields`.
-/

namespace NodeAgent.Log

/-- Where and when a record was made. -/
structure Origin where
  path : String := ""
  line : Int := 0
  moment : Time.Moment := {}
  deriving Inhabited

/-- What one call has to log. -/
structure Record where
  logger : String
  level : Int
  origin : Origin := {}
  template : String
  arguments : Arguments := .none
  fields : Fields := []
  failure : Option Failure := none

/-- The attributes that every record has of its own. -/
def recordAttributes : List String :=
  ["name", "msg", "args", "levelname", "levelno", "pathname", "filename", "module", "exc_info",
   "exc_text", "stack_info", "lineno", "funcName", "created", "msecs", "relativeCreated",
   "thread", "threadName", "processName", "process"]

/-- Names that a log call must not bind. -/
def reservedNames : List String := recordAttributes ++ ["message", "asctime"]

def isShown (name : String) : Bool :=
  !reservedNames.contains name && name.toList.head? != some '_'

namespace Record

/-- The name by which a record is asked for its message. It is not reserved. -/
def messageName : String := "getMessage"

/-- The message: the template with its arguments filled in. A field of the name by which the message
is asked for stands in its way, and no field can be called. -/
def message (record : Record) : Except TemplateFault String :=
  if record.fields.has messageName then .error .kind
  else Template.fill record.template record.arguments

def shownFields (record : Record) : Fields := record.fields.filter fun field => isShown field.1

end Record

end NodeAgent.Log
