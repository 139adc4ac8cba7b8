import NodeAgent.Kube.Library
import NodeAgent.Log.Event
/-!
Getting access to the cluster: from the kubeconfig at a path if one is given, else from what is
mounted into the pod. One source is asked, never both.

Correspondence:
* `fromPath`: `kubeconfig_from_path`; its steps are `readContent`, `Library.read`, `Library.fresh`
  and `Library.load`, and `handled` is the handler of a step.
* `inCluster`: `in_cluster_config`.
* `retrieve`: `retrieve_kube_config`; `Fault.retrieval` is the failure that it raises.
-/

namespace NodeAgent.Kube

/-- Why a kubeconfig that was read is not usable: its document is no mapping, or the library fails
with what counts as a fault of the file. -/
inductive Unusable
  | notMapping
  | raised (failure : ForeignFailure)
  deriving DecidableEq

/-- Why there is no access to the cluster. -/
inductive Fault
  | emptyPath
  | unreadable (path : String) (fault : SystemFault)
  | unusable (path : String) (reason : Unusable)
  | inCluster (failure : ForeignFailure)
  deriving DecidableEq

/-- What ends the way to the cluster: a fault of the source, or a failure that no source is blamed
for, which goes on as it is. -/
inductive Failed
  | denied (fault : Fault)
  | nulPath
  | notText
  | raised (failure : ForeignFailure)
  deriving DecidableEq

/-- A step of the library under a handler: failures of the handler's classes are blamed on the
source, and all others go on. -/
def handled {α : Type} (classes : List FailureClass) (blame : ForeignFailure → Fault)
    (step : Except ForeignFailure α) : Except Failed α :=
  step.mapError fun failure =>
    if failure.kind.isOf classes then .denied (blame failure) else .raised failure

/-- The text of the file at a path. Only a fault of the system is one of the file. -/
def readContent (files : FileTree) (path : String) : Except Failed String :=
  if isSystemPath path then
    match files.read path with
    | .error fault => .error (.denied (.unreadable path fault))
    | .ok bytes =>
      match decodeText bytes with
      | none => .error .notText
      | some content => .ok content
  else .error .nulPath

section

variable {Access : Type} (library : Library Access) (around : Surroundings)

/-- The access that the kubeconfig at a path grants. -/
def fromPath (path : String) : Except Failed Access :=
  if path.isEmpty then .error (.denied .emptyPath)
  else do
    let content ← readContent around.files path
    let document ←
      handled [.markup] (fun failure => .unusable path (.raised failure)) (library.read content)
    if library.isMapping document then
      -- A new configuration is made outside of any handler.
      let access ← (library.fresh around).mapError .raised
      handled [.credentials, .value, .type] (fun failure => .unusable path (.raised failure))
        (library.load around document access)
    else .error (.denied (.unusable path .notMapping))

/-- The access that is mounted into the pod. -/
def inCluster : Except ForeignFailure Access := do
  let access ← library.fresh around
  library.loadMounted around access

/-- The access that is mounted into the pod, whose refusal is blamed on the mount. -/
def fromMount : Except Failed Access :=
  handled [.credentials] .inCluster (inCluster library around)

end

def loggerName : String := "kubeip"

def sourceEvent (fields : Log.Fields) (message : String) : Log.Event :=
  { level := .debug, logger := loggerName, message, fields }

/-- The access of the agent: from the path of a kubeconfig if there is one, else from the pod.
What is logged bears the fields of the agent's logger. -/
def retrieve {Access : Type} (library : Library Access) (around : Surroundings)
    (fields : Log.Fields) (path : String) : List Log.Event × Except Failed Access :=
  match fromPath library around path with
  | .ok access => ([sourceEvent fields ("using kube config from " ++ path)], .ok access)
  -- Only the lack of a path leads on to the mount.
  | .error (.denied .emptyPath) =>
    match fromMount library around with
    | .ok access => ([sourceEvent fields "using in node kube config"], .ok access)
    | .error failed => ([], .error failed)
  | .error failed => ([], .error failed)

/-! ## Reports -/

def Unusable.text : Unusable → String
  | notMapping => "expected a mapping at the document root"
  | raised failure => failure.text

def Unusable.origin? : Unusable → Option Failure
  | notMapping => none
  | raised failure => some failure.failure

namespace Fault

/-- The text of a fault. -/
def message : Fault → String
  | emptyPath => "empty path"
  | unreadable path fault => "reading kubeconfig at " ++ path ++ ": " ++ fault.text path
  | unusable path reason =>
    "building rest config from kubeconfig at " ++ path ++ ": " ++ reason.text
  | inCluster failure => failure.text

def kind : Fault → FailureKind
  | emptyPath => .emptyPath
  | unreadable _ _ => .kubeConfigRead
  | unusable _ _ => .kubeConfigParse
  | inCluster _ => .inCluster

/-- The failure of the source itself. -/
def failure (fault : Fault) : Failure :=
  match fault with
  | unreadable path f => .caused fault.kind fault.message (.alone f.kind (f.text path))
  | unusable _ reason =>
    match reason.origin? with
    | some origin => .caused fault.kind fault.message origin
    | none => .alone fault.kind fault.message
  | inCluster failure => failure.failure
  | emptyPath => .alone fault.kind fault.message

/-- A fault as a failure of the agent to get access, caused by that of its source. -/
def retrieval (fault : Fault) : Failure :=
  match fault with
  | inCluster failure =>
    .caused fault.kind ("retrieving in node kube config: " ++ failure.text) fault.failure
  | fault =>
    .caused fault.kind ("retrieving kube config from path: " ++ fault.message) fault.failure

end Fault

/-- The kind of a failure, of a source or of none. -/
def Failed.kind : Failed → FailureKind
  | denied fault => fault.kind
  | nulPath => .value
  | notText => .unicodeDecode
  | raised failure => failure.kind

end NodeAgent.Kube
