import NodeAgent.Log.Record
/-!
What the program has logged, in order, before any level or form is applied.

Correspondence: `Event` is a call on a logger of the agent, and `Event.record` the record of it.
-/

namespace NodeAgent.Log

/-- A message that the program has logged through a logger. -/
structure Event where
  level : Level
  logger : String
  message : String
  fields : Fields := []
  failure : Option Failure := none

/-- The record of an event. Its message has no directives left. -/
def Event.record (event : Event) (origin : Origin) : Record :=
  { logger := event.logger, level := event.level.number, origin, template := event.message
    fields := event.fields, failure := event.failure }

end NodeAgent.Log
