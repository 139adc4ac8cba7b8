import NodeAgent.Kube.Library
import NodeAgent.Rehearsal.Loader
import NodeAgent.Rehearsal.Yaml.Document
/-!
A library to rehearse with. It reads plain documents (block and flow collections, scalars with and
without quotes), and it grants access by tokens, passwords and certificates. Tags, anchors and
credentials that other programs provide are not known to it. It is the library of the program when
that is rehearsed without a cluster. No result on the agent rests on it; examples are worked out
by it.

Main definition: `Rehearsal.library`, made of the reader of documents and the two loaders of a
rehearsal.
-/

namespace NodeAgent.Rehearsal

def Yaml.Fault.kind : Yaml.Fault → FailureKind
  | .markup => .markup
  | .badValue => .value
  | .outOfBounds => .overflow
  | .tooDeep => .depth

def Yaml.Fault.text : Yaml.Fault → String
  | .markup => "<YAMLError>"
  | _ => ""

def Yaml.Fault.failure (fault : Yaml.Fault) : ForeignFailure :=
  .alone fault.kind fault.text (by cases fault <;> rfl)

theorem LoadFault.kind_not_own (fault : LoadFault) : fault.kind.isOwn = false := by
  cases fault with
  | system fault path => cases fault <;> rfl
  | _ => rfl

def LoadFault.failure (fault : LoadFault) : ForeignFailure :=
  .alone fault.kind fault.text fault.kind_not_own

/-- The files that a pod has its credentials in: its token and the certificate of authority. -/
structure Mount where
  token : String := "/var/run/secrets/kubernetes.io/serviceaccount/token"
  authority : String := "/var/run/secrets/kubernetes.io/serviceaccount/ca.crt"

/-- The text of a mounted file, which must be there and not be empty. -/
def mountedText (tree : FileTree) (path : String) (missing empty : Refusal) :
    Except LoadFault String :=
  if tree.isFile path then
    match readText tree path with
    | .ok content => if content.isEmpty then .error (.refused empty) else .ok content
    | .error fault => .error fault
  else .error (.refused missing)

/-- The address of the cluster as a pod's environment has it. -/
def serviceHost (env : Environment) : Except LoadFault String :=
  match env "KUBERNETES_SERVICE_HOST", env "KUBERNETES_SERVICE_PORT" with
  | some host, some port =>
    if host.isEmpty || port.isEmpty then .error (.refused .serviceEmpty)
    else .ok ("https://" ++ joinPort host port)
  | _, _ => .error (.refused .serviceUnset)

/-- The access that is mounted into a pod. -/
def mounted (mount : Mount) (tree : FileTree) (env : Environment) : Except LoadFault Access := do
  let host ← serviceHost env
  let token ← mountedText tree mount.token .tokenMissing .tokenEmpty
  let _ ← mountedText tree mount.authority .authorityMissing .authorityEmpty
  if hasGoodBrackets host then
    return {
      host, token := some ("bearer " ++ token)
      authority := (tree.read mount.authority).toOption }
  else throw .badValue

/-- The library of a rehearsal in pods with a certain mount. -/
def library (mount : Mount) : Kube.Library Access where
  Document := Yaml
  isMapping
    | .map _ => true
    | _ => false
  read content := (Yaml.parse content).mapError Yaml.Fault.failure
  fresh _ := .ok {}
  load around document _ :=
    match document with
    | .map entries => (load around.files entries).mapError LoadFault.failure
    | _ => .error (LoadFault.failure .badKind)
  loadMounted around _ :=
    (mounted mount around.files around.environment).mapError LoadFault.failure

end NodeAgent.Rehearsal
