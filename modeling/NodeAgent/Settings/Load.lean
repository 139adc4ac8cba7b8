import NodeAgent.Datum
import NodeAgent.Duration.Reader
import NodeAgent.Number.Whole
import NodeAgent.Path
import NodeAgent.Settings.Basic
import NodeAgent.Text.Lower
/-!
Resolving the settings: an explicit flag comes first, then a value of the environment, then the
default. A setting that makes no sense is refused with a message that names it.

Correspondence:
* `load`, `loadAt`: `load_config`, in the environment of the process and in a given one.
* `isOn`: `parse_bool`; `pick`: `_pick`; `readCount`: `_parse_int`.
* `readDuration`: `parse_duration`, whose reader is `Duration.read`.
-/

namespace NodeAgent

/-- The flags as they were given; `null` is a flag that was not. -/
structure Flags where
  nodeName : Datum := .null
  kubeconfig : Datum := .null
  retryInterval : Datum := .null
  retryAttempts : Datum := .null
  logLevel : Datum := .null
  json : Datum := .null
  developMode : Datum := .null
  healthPort : Datum := .null
  deriving Inhabited

namespace Settings

/-- Why a value is no whole number. -/
inductive NotWhole
  | badValue
  | badKind
  deriving DecidableEq

/-- Why settings are refused. -/
inductive Fault
  | durationEmpty
  | durationNegative (value : String)
  | durationMalformed (value : String)
  | durationOutOfRange (value : String)
  | intervalNotPositive
  | notAnInteger (setting : String) (value : Datum) (reason : NotWhole)
  | attemptsNegative (value : Int)
  | portOutOfRange (value : Int)

/-- The text of a refusal. -/
def Fault.message : Fault → String
  | durationEmpty => "duration must not be empty"
  | durationNegative value => "duration must not be negative, got: " ++ Text.quoted value
  | durationMalformed value => "invalid duration: " ++ Text.quoted value
  | durationOutOfRange value => "duration out of range: " ++ Text.quoted value
  | intervalNotPositive => "retry-interval must be greater than zero"
  | notAnInteger setting value _ => setting ++ " must be an integer, got: " ++ value.literal
  | attemptsNegative value => "retry-attempts must be >= 0, got: " ++ toString value
  | portOutOfRange value =>
    "health-port must be between 0 and 65535, got: " ++ toString value

/-- The value that the text of a refusal quotes, if it quotes one. -/
def Fault.quoted : Fault → Datum
  | durationNegative value | durationMalformed value | durationOutOfRange value => .text value
  | notAnInteger _ value _ => value
  | attemptsNegative value | portOutOfRange value => .int value
  | durationEmpty | intervalNotPositive => .null

/-- Why no settings come out. All but the first are values that no setting is read from at all: a
path that is no text or that leads to the home of a user whose name no system can be asked for, a
number too large to be whole, and a whole number too long to be written. -/
inductive Failure
  | refused (fault : Fault)
  | pathNotText
  | userUnaskable
  | numberOverflow
  | numberTooLong

/-- What a refusal comes to: itself, if its text can be written. -/
def Fault.outcome (fault : Fault) : Failure :=
  if fault.quoted.isWritable then .refused fault else .numberTooLong

/-- Whether a word switches something on. -/
def isOn (value : Option String) : Bool :=
  match value with
  | none => false
  | some value =>
    ["1", "true", "yes", "on"].contains
      (String.ofList (Text.lower (Text.dropEnds Text.isBlank value.toList)))

/-- The flag if it was given, else the value of the environment. -/
def pick (flag : Datum) (env : Environment) (name : String) : Datum :=
  match flag with
  | .null => ((env name).map Datum.text).getD .null
  | flag => flag

/-- The text of a value, if it can be written. -/
def readText (value : Datum) : Except Failure String :=
  if value.isWritable then .ok value.plain else .error .numberTooLong

/-- The text of a value that counts as given, else a default. -/
def readTextOr (fallback : String) (value : Datum) : Except Failure String :=
  if value.isGiven then readText value else .ok fallback

/-- Whether a value leaves its setting at the default. -/
def isUnset : Datum → Bool
  | .null => true
  | .text value => value.isEmpty
  | _ => false

/-- The duration of a text, with the refusal that quotes the text as it was given. -/
def readDuration (value : String) : Except Fault Duration :=
  match Duration.read value with
  | .ok duration => .ok duration
  | .error .empty => .error .durationEmpty
  | .error .negative => .error (.durationNegative value)
  | .error .malformed => .error (.durationMalformed value)
  | .error .outOfRange => .error (.durationOutOfRange value)

/-- A span of time as it is, any other value by its text. -/
def readInterval : Datum → Except Failure Duration
  | .duration value => .ok value
  | value =>
    if isUnset value then .ok ({} : Settings).retryInterval
    else
      match readText value with
      | .ok spelling => (readDuration spelling).mapError Fault.outcome
      | .error failure => .error failure

/-- The whole number of a value: a fraction is cut off, a text is read. -/
def readWhole (setting : String) : Datum → Except Failure Int
  | .int value => .ok value
  | .bool value => .ok (if value then 1 else 0)
  | .address value => .ok value.toNat
  | value@(.real number) =>
    match number with
    | .infinite _ => .error .numberOverflow
    | number =>
      match number.truncate? with
      | some n => .ok n
      | none => .error (Fault.outcome (.notAnInteger setting value .badValue))
  | value@(.text spelling) =>
    match Number.ofText? spelling with
    | some n => .ok n
    | none => .error (Fault.outcome (.notAnInteger setting value .badValue))
  | value => .error (Fault.outcome (.notAnInteger setting value .badKind))

/-- The whole number of a setting, or its default. -/
def readCount (setting : String) (fallback : Int) (value : Datum) : Except Failure Int :=
  if isUnset value then .ok fallback else readWhole setting value

/-- The path of the credentials with its home directory put in. -/
def readPath (homes : Path.Homes) (value : Datum) : Except Failure String :=
  if value.isGiven then
    match value with
    | .text path =>
      if (Path.homeOwner path).contains '\x00' then .error .userUnaskable
      else .ok (Path.expandHome homes path)
    | _ => .error .pathNotText
  else .ok ""

/-- The wait between attempts, which is longer than nothing. -/
def resolveInterval (flags : Flags) (env : Environment) : Except Failure Duration :=
  match readInterval (pick flags.retryInterval env "RETRY_INTERVAL") with
  | .ok interval =>
    if interval.micros ≤ 0 then .error (Fault.outcome .intervalNotPositive) else .ok interval
  | .error failure => .error failure

def resolveAttempts (flags : Flags) (env : Environment) : Except Failure Int :=
  match readCount "retry-attempts" ({} : Settings).retryAttempts
      (pick flags.retryAttempts env "RETRY_ATTEMPTS") with
  | .ok attempts =>
    if attempts < 0 then .error (Fault.outcome (.attemptsNegative attempts)) else .ok attempts
  | .error failure => .error failure

/-- The port of the health server, which has sixteen bits. -/
def resolvePort (flags : Flags) (env : Environment) : Except Failure Int :=
  match readCount "health-port" ({} : Settings).healthPort
      (pick flags.healthPort env "HEALTH_PORT") with
  | .ok port =>
    if 0 ≤ port ∧ port ≤ 65535 then .ok port else .error (Fault.outcome (.portOutOfRange port))
  | .error failure => .error failure

/-- A switch that a flag or a value of the environment sets. -/
def resolveSwitch (flag : Datum) (env : Environment) (name : String) : Bool :=
  flag.isGiven || isOn (env name)

/-- The settings of flags and environment, with home directories looked up in `homes`. -/
def loadAt (homes : Path.Homes) (flags : Flags) (env : Environment) :
    Except Failure Settings := do
  -- Of several faults the first one in this order counts.
  let path ← readPath homes (pick flags.kubeconfig env "KUBECONFIG")
  let interval ← resolveInterval flags env
  let attempts ← resolveAttempts flags env
  let port ← resolvePort flags env
  let name ← readTextOr ({} : Settings).nodeName (pick flags.nodeName env "CLUSTER_NAME")
  let level ← readTextOr ({} : Settings).logLevel (pick flags.logLevel env "LOG_LEVEL")
  return {
    nodeName := Text.trimBlank name
    kubeconfigPath := path
    retryInterval := interval
    retryAttempts := attempts
    logLevel := level
    logJson := resolveSwitch flags.json env "LOG_JSON"
    developMode := resolveSwitch flags.developMode env "DEV_MODE"
    healthPort := port }

/-- The settings of flags and of the environment that has the home directory too. -/
def load (accounts : Path.Accounts) (flags : Flags) (env : Environment) :
    Except Failure Settings :=
  loadAt { accounts with environment := env "HOME" } flags env

end Settings

end NodeAgent
