import NodeAgent.Files
import NodeAgent.Settings.Basic
/-!
The library that reads kubeconfigs and loads credentials. It is no part of the agent, and nothing is
taken for granted of it: results hold for every library, and where one of them needs to know more,
it says what it needs.

Correspondence:
* `Library.read`: `safe_load`, the reader of YAML.
* `Library.fresh`: `Configuration()`, a new configuration of the client.
* `Library.load`: `load_kube_config_from_dict`.
* `Library.loadMounted`: `load_incluster_config`.
-/

namespace NodeAgent.Kube

/-- What a process can look at from within: files and environment. -/
structure Surroundings where
  files : FileTree
  environment : Environment

/-- A library that makes kubeconfigs into access to a cluster. Any of its calls may fail. -/
structure Library (Access : Type) where
  /-- What texts are read into. -/
  Document : Type
  /-- Whether a document is a mapping. -/
  isMapping : Document → Bool
  /-- The document of a text. -/
  read : String → Except ForeignFailure Document
  /-- Access before any credentials are loaded. -/
  fresh : Surroundings → Except ForeignFailure Access
  /-- Access with what a mapping grants. -/
  load : Surroundings → Document → Access → Except ForeignFailure Access
  /-- Access with what is mounted into a pod. -/
  loadMounted : Surroundings → Access → Except ForeignFailure Access

end NodeAgent.Kube
