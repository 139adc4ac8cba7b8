import NodeAgent.Rehearsal.Library
/-!
The files that a rehearsal may open.

Main definition: the files that a document names, so that they can be read beforehand.
-/

namespace NodeAgent.Rehearsal

mutual

/-- All texts in a value, keys included. -/
def Yaml.texts : Yaml → List String
  | .text value => [value]
  | .list items => Yaml.textsOfItems items
  | .map entries => Yaml.textsOfEntries entries
  | _ => []

def Yaml.textsOfItems : List Yaml → List String
  | [] => []
  | item :: items => item.texts ++ Yaml.textsOfItems items

def Yaml.textsOfEntries : List (Yaml × Yaml) → List String
  | [] => []
  | (key, value) :: entries => key.texts ++ value.texts ++ Yaml.textsOfEntries entries

end

/-- The paths that a kubeconfig may refer to: each text in it that can be a path. -/
def referredPaths (bytes : ByteArray) : List String :=
  match (decodeText bytes).bind fun content => (Yaml.parse content).toOption with
  | some document =>
    (document.texts.filter fun path => isSystemPath path && !path.isEmpty).map Path.normal
  | none => []

/-- The names of the environment that settings and credentials are taken from. -/
def environmentNames : List String :=
  ["HOME", "APP_VERSION", "BUILD_DATE", "GIT_COMMIT", "GIT_BRANCH", "CLUSTER_NAME", "KUBECONFIG",
   "RETRY_INTERVAL", "RETRY_ATTEMPTS", "LOG_LEVEL", "LOG_JSON", "DEV_MODE", "HEALTH_PORT",
   "KUBERNETES_SERVICE_HOST", "KUBERNETES_SERVICE_PORT"]

end NodeAgent.Rehearsal
