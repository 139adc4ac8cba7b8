import NodeAgent.Text.Blank
import NodeAgent.Text.Lower
import NodeAgent.Text.Quoted
/-!
Provider ids of nodes: a scheme that names the cloud, `://`, and a path whose last segment names
the instance.

Correspondence: `parseProviderId` is `parse_provider_id`.
-/

namespace NodeAgent.Node

/-- The clouds whose nodes are supported. -/
inductive Cloud
  | aws
  | gcp
  | azure
  deriving DecidableEq

def Cloud.name : Cloud → String
  | aws => "aws"
  | gcp => "gcp"
  | azure => "azure"

/-- The cloud of a scheme, in any letter case. -/
def cloudOf? (scheme : List Char) : Option Cloud :=
  let scheme := Text.lower scheme
  if scheme = ['a', 'w', 's'] then some .aws
  else if scheme = ['g', 'c', 'e'] then some .gcp
  else if scheme = ['a', 'z', 'u', 'r', 'e'] then some .azure
  else none

/-- The texts before and behind the first `://`. -/
def splitScheme? : List Char → Option (List Char × List Char)
  | ':' :: '/' :: '/' :: rest => some ([], rest)
  | c :: rest => (splitScheme? rest).map fun (scheme, rest) => (c :: scheme, rest)
  | [] => none

/-- The last segment of a path, slashes at its end left out. -/
def lastSegment (path : List Char) : List Char :=
  ((Text.dropTrailing (· == '/') path).reverse.takeWhile (· != '/')).reverse

/-- Why a provider id names no instance of a supported cloud. -/
inductive ProviderFault
  | unsupported (providerId : String)
  | noInstance (providerId : String)
  deriving DecidableEq

def ProviderFault.message : ProviderFault → String
  | unsupported providerId => "unsupported cloud provider id: " ++ Text.quoted providerId
  | noInstance providerId => "provider id has no instance segment: " ++ Text.quoted providerId

/-- The cloud and the instance that a provider id names. -/
def parseProviderId (providerId : String) : Except ProviderFault (Cloud × String) :=
  match splitScheme? providerId.toList with
  | some (scheme, path) =>
    match cloudOf? scheme with
    | some cloud =>
      let segment := lastSegment path
      if segment.isEmpty then .error (.noInstance providerId)
      else .ok (cloud, String.ofList segment)
    | none => .error (.unsupported providerId)
  | none => .error (.unsupported providerId)

end NodeAgent.Node
