import NodeAgent.Json.Printer
import NodeAgent.Log.Record
import NodeAgent.Path
import NodeAgent.Redaction
import NodeAgent.Time.Format
/-!
Lines of the log. A record is written as a JSON document or as text; in both, secrets in its
message and in the report of its failure are hidden.

Correspondence:
* `Format.line .json`: `JSONFormatter.format`, with the entries of its document in `entries`.
* `Format.line .text`: `TextFormatter.format`, with its first part in `headText`.
* `callerText`: `_caller`.
-/

namespace NodeAgent

mutual

/-- The JSON document of a value; addresses and spans of time go by their texts. -/
def Datum.toJson : Datum → Json
  | .null => .null
  | .bool value => .bool value
  | .int value => .int value
  | .real value => .real value
  | .text value => .text value
  | .list items => .list (Datum.itemsToJson items)
  | .dict entries => .object (Datum.entriesToJson entries)
  | .address value => .text value.text
  | .duration value => .text value.text

def Datum.itemsToJson : List Datum → List Json
  | [] => []
  | item :: items => item.toJson :: Datum.itemsToJson items

def Datum.entriesToJson : List (String × Datum) → List (String × Json)
  | [] => []
  | (key, value) :: entries => (key, value.toJson) :: Datum.entriesToJson entries

end

namespace Log

inductive Format
  | text
  | json
  deriving DecidableEq

/-- Why a record has no line: its moment has no text, its message cannot be filled in, or a whole
number in it has more digits than a text may show. -/
inductive LineFault
  | moment (fault : Time.Fault)
  | message (fault : TemplateFault)
  | number
  deriving DecidableEq

/-- The moment of a record, by a pattern if there is one. -/
def momentText (pattern : Option String) (moment : Time.Moment) : Except Time.Fault String :=
  match pattern with
  | some pattern => if pattern.isEmpty then Time.stamp moment else Time.byPattern pattern moment
  | none => Time.stamp moment

/-- The name of the file and the line that made a record. -/
def callerText (origin : Origin) : String :=
  Path.lastPart origin.path ++ ":" ++ toString origin.line

/-- The report of a failure with its secrets hidden. -/
def failureText (failure : Failure) : String := Redaction.redact failure.report

/-- A text with blanks behind it up to a width. -/
def padRight (width : Nat) (s : String) : String :=
  s ++ String.ofList (List.replicate (width - s.length) ' ')

/-- The entries of a JSON line: moment, level, logger, caller and message, then the fields that
take none of their names, then the report of the failure. -/
def entries (moment : String) (record : Record) (message : String) : Fields :=
  let base : Fields :=
    [("ts", .text moment),
     ("level", .text (levelName record.level)), ("logger", .text record.logger),
     ("caller", .text (callerText record.origin)), ("msg", .text message)]
  let bound :=
    record.shownFields.foldl (fun fields field => fields.bindNew field.1 field.2) base
  match record.failure with
  -- The report overwrites a field of its name, which keeps its place.
  | some failure => bound.bind "error" (.text (failureText failure))
  | none => bound

def jsonLine (moment : String) (record : Record) (message : String) : String :=
  (Datum.dict (entries moment record message)).toJson.render

def fieldText (field : String × Datum) : String := field.1 ++ "=" ++ field.2.plain

/-- The head of a text line: moment, level and caller, then the message. -/
def headText (moment : String) (record : Record) (message : String) : String :=
  moment ++ " " ++ padRight 8 (levelName record.level) ++ " [" ++ callerText record.origin ++
    "] " ++ message

/-- A record as text: its head, its fields in the order of their names, and the report of its
failure on lines of its own. -/
def textLine (moment : String) (record : Record) (message : String) : String :=
  let fields := record.shownFields.sortByName.map fieldText
  headText moment record message ++
    (if fields.isEmpty then "" else " " ++ String.intercalate " " fields) ++
    (match record.failure with
     | some failure => "\n" ++ failureText failure
     | none => "")

/-- Whether every value that a line shows has a text. A JSON line shows what its document holds, and
a text line all the fields. -/
def Format.canShow (format : Format) (moment : String) (record : Record) (message : String) :
    Bool :=
  match format with
  | .text => record.shownFields.all fun field => field.2.isWritable
  | .json => (Datum.dict (entries moment record message)).isWritable

/-- The line of a record. Its level is written first, then its moment, its caller and its message,
and then its fields. -/
def Format.line (format : Format) (pattern : Option String) (record : Record) :
    Except LineFault String :=
  if (Datum.int record.level).isWritable then
    match momentText pattern record.origin.moment with
    | .error fault => .error (.moment fault)
    | .ok moment =>
      if (Datum.int record.origin.line).isWritable then
        match record.message with
        | .error fault => .error (.message fault)
        | .ok message =>
          let message := Redaction.redact message
          if format.canShow moment record message then
            .ok (match format with
              | .text => textLine moment record message
              | .json => jsonLine moment record message)
          else .error .number
      else .error .number
  else .error .number

end Log

end NodeAgent
