import NodeAgent.Datum
import NodeAgent.Files
/-!
How a rehearsal reaches a cluster, and why a way to it cannot be had.

It stands in for the configuration that a client of a cluster is made from.
-/

namespace NodeAgent.Rehearsal

/-- Where the cluster is, and what proves who asks. -/
structure Access where
  host : String := ""
  verifyTls : Bool := true
  token : Option String := none
  tlsServerName : Option Datum := none
  proxy : Option Datum := none
  authority : Option ByteArray := none
  certificate : Option ByteArray := none
  key : Option ByteArray := none

/-- What credentials are refused for. -/
inductive Refusal
  | keyMissing (key place : String)
  | notList (place : String)
  | unnamed (place : String)
  | namedTwice (name place : String)
  | notNamed (name place : String)
  | fileMissing (path : String)
  | serviceUnset
  | serviceEmpty
  | tokenMissing
  | tokenEmpty
  | authorityMissing
  | authorityEmpty
  deriving DecidableEq

def Refusal.message : Refusal → String
  | keyMissing key place =>
    "Invalid kube-config file. Expected key " ++ key ++ " in " ++ place
  | notList place => "Invalid kube-config file. Expected " ++ place ++ " to be a list"
  | unnamed place =>
    "Invalid kube-config file. Expected all values in " ++ place ++ " list to have 'name' key"
  | namedTwice name place =>
    "Invalid kube-config file. Expected only one object with name " ++ name ++ " in " ++ place ++
      " list"
  | notNamed name place =>
    "Invalid kube-config file. Expected object with name " ++ name ++ " in " ++ place ++ " list"
  | fileMissing path => "File does not exist: " ++ path
  | serviceUnset => "Service host/port is not set."
  | serviceEmpty => "Service host/port is set but empty."
  | tokenMissing => "Service token file does not exist."
  | tokenEmpty => "Token file exists but empty."
  | authorityMissing => "Service certification file does not exist."
  | authorityEmpty => "Cert file exists but empty."

/-- What ends the loading of credentials: a refusal, a bad value, a value of the wrong kind, bytes
that are no text, a text that cannot be encoded, a place that has no parts, or a file that cannot
be opened. -/
inductive LoadFault
  | refused (refusal : Refusal)
  | badValue
  | badKind
  | notText
  | notEncodable
  | noParts
  | system (fault : SystemFault) (path : String)
  deriving DecidableEq

namespace LoadFault

def kind : LoadFault → FailureKind
  | refused _ => .credentials
  | badValue => .value
  | badKind => .type
  | notText => .unicodeDecode
  | notEncodable => .unicodeEncode
  | noParts => .noAttribute
  | system fault _ => fault.kind

/-- The text of a fault. Those of values are not told apart. -/
def text : LoadFault → String
  | refused refusal => refusal.message
  | badValue => "<ValueError>"
  | badKind => "<TypeError>"
  | notText => "<ValueError>"
  | notEncodable => "<ValueError>"
  | noParts => ""
  | system fault path => fault.text path

end LoadFault

end NodeAgent.Rehearsal
