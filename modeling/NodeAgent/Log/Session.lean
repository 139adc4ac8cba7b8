import NodeAgent.Log.Line
/-!
A session of logging. Preparing a logger sets the one handler and the least level of the session
and makes an adapter; an adapter adds its fields to what is logged through it, and further
adapters add fields to those of an adapter. A call below the least level does nothing.

Correspondence:
* `Step.prepare`: `prepare_logger`, with the level by `parse_log_level`.
* `Adapter.withFields`: `with_fields`; `callFields`: `process`.
* `Session.log`: a call such as `info` on an adapter; `written`: what its handler prints.
-/

namespace NodeAgent.Log

/-- A logger together with the fields that it adds. -/
structure Adapter where
  logger : String
  fields : Fields

def Adapter.withFields (adapter : Adapter) (fields : Fields) : Adapter :=
  { adapter with fields := adapter.fields.overlay fields }

/-- What a session has come to: the least level that is logged, the forms of its handlers, and
its adapters in the order in which they were made. -/
structure Session where
  threshold : Int := Level.warning.number
  formats : List Format := []
  adapters : List Adapter := []

/-- The values that a log call binds; a call may leave them out, and may give none at all where
it should give some. -/
inductive Extra
  | absent
  | missing
  | given (fields : Fields)

/-- A call on the logging of a session. Adapters go by their place. -/
inductive Step
  | prepare (level : Option String) (json : Bool) (version : Datum) (logger : String)
  | withFields (adapter : Nat) (fields : Fields)
  | log (adapter : Nat) (level : Int) (template : String) (arguments : Arguments) (extra : Extra)
      (failure : Option Failure)

/-- Why a call is refused. A level of too many digits has no name for a record to bear. -/
inductive SessionFault
  | noAdapter
  | extraMissing
  | fieldTaken
  | levelUnnamed
  | reservedField (name : String)
  deriving DecidableEq

/-- The name that the root of all loggers is shown by. -/
def loggerName (name : String) : String := if name.isEmpty then "root" else name

/-- The fields of a log call: those of the adapter, overlaid by those of the call. -/
def callFields (adapter : Adapter) : Extra → Except SessionFault Fields
  | .absent => .ok adapter.fields
  | .missing => .error .extraMissing
  | .given fields => .ok (adapter.fields.overlay fields)

/-- The first name that a log call must not bind. -/
def reservedAmong (fields : Fields) : Option String :=
  (fields.find? fun field => reservedNames.contains field.1).map Prod.fst

/-- What the handlers write for a record: a line each, and nothing if it has no line. -/
def written (formats : List Format) (record : Record) : String :=
  String.join (formats.map fun format =>
    match format.line none record with
    | .ok line => line ++ "\n"
    | .error _ => "")

/-- What a call on an adapter writes. -/
def Session.log (session : Session) (origin : Origin) (adapter : Adapter) (level : Int)
    (template : String) (arguments : Arguments) (extra : Extra) (failure : Option Failure) :
    Except SessionFault String :=
  if level < session.threshold then .ok ""
  else
    match callFields adapter extra with
    | .error fault => .error fault
    | .ok fields =>
      if (Datum.int level).isWritable then
        match reservedAmong fields with
        | some name => .error (.reservedField name)
        | none =>
          let logger := loggerName adapter.logger
          .ok (written session.formats
            { logger, level, origin, template, arguments, fields, failure })
      else .error .levelUnnamed

/-- One call: the session after it and what it writes. A call that is refused changes nothing. -/
def Session.step (session : Session) (origin : Origin) :
    Step → Session × Except SessionFault String
  | .prepare level json version logger =>
    ({ threshold := (parseLevel level).number
       formats := [if json then .json else .text]
       adapters := session.adapters ++ [⟨logger, [("version", version)]⟩] }, .ok "")
  | .withFields place fields =>
    match session.adapters[place]? with
    | none => (session, .error .noAdapter)
    | some adapter =>
      if fields.has "self" then (session, .error .fieldTaken)
      else
        ({ session with adapters := session.adapters ++ [adapter.withFields fields] }, .ok "")
  | .log place level template arguments extra failure =>
    match session.adapters[place]? with
    | none => (session, .error .noAdapter)
    | some adapter =>
      (session, session.log origin adapter level template arguments extra failure)

/-- A run of calls: after each one, the session and what the call wrote. -/
def Session.run (origin : Origin) :
    Session → List Step → List (Session × Except SessionFault String)
  | _, [] => []
  | session, step :: steps =>
    let after := session.step origin step
    after :: Session.run origin after.1 steps

end NodeAgent.Log
