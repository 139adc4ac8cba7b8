import NodeAgent.CommandLine.Program
import NodeAgent.Rehearsal.Exposition
import NodeAgent.Rehearsal.Paths
import Std.Time.DateTime.Timestamp
/-!
The command line of the agent, in a rehearsal without a cluster. Everything that is read from the
system is read first; what follows from it is computed by `CommandLine.execute`, and then printed.

Correspondence: `main` is `main`; its clients and its cluster are those of a rehearsal.
-/

namespace NodeAgent.Main

def readEnvironment : IO Environment := do
  let values ← Rehearsal.environmentNames.filterMapM fun name => do
    return (← IO.getEnv name).map fun value => (name, value)
  return fun name => (values.find? fun entry => entry.1 == name).map Prod.snd

def readEntry (path : String) : IO (Option FileEntry) := do
  try
    return some (.file (← IO.FS.readBinFile path))
  catch
    | .permissionDenied .. => return some .sealed
    | .inappropriateType .. => return some .directory
    | _ => return none

def readEntries (paths : List String) : IO (List (String × FileEntry)) :=
  paths.filterMapM fun path => do
    return (← readEntry path).map fun entry => (path, entry)

/-- Where the credentials of a pod are mounted. -/
def mount : Rehearsal.Mount := {}

def readKubeconfig (path : String) : IO (List (String × FileEntry)) := do
  match ← readEntry path with
  | some (.file bytes) =>
    return (path, .file bytes) :: (← readEntries (Rehearsal.referredPaths bytes))
  | some entry => return [(path, entry)]
  | none => return []

/-- The files of some entries, those with absolute paths under the root of the system. -/
def treeOf (entries : List (String × FileEntry)) : FileTree :=
  let isRooted (path : String) : Bool := path.toList.head? == some '/'
  let below (path : String) : String := String.ofList (path.toList.dropWhile (· == '/'))
  { entries := (entries.filter fun entry => !isRooted entry.1).map fun (path, entry) =>
        (Path.normal path, entry)
    rooted := (entries.filter fun entry => isRooted entry.1).map fun (path, entry) =>
        (below (Path.normal path), entry) }

/-- The path of the kubeconfig that a command line asks for. -/
def kubeconfigOf (words : List String) (env : Environment) : String :=
  match CommandLine.readLine words with
  | .ok (.run flags) => (Settings.load {} flags env).toOption.elim "" Settings.kubeconfigPath
  | _ => ""

/-- A cluster that no call gets through to. -/
def unreachable : Node.Cluster :=
  let fault : Node.CallFault := .transport "no transport to the cluster"
  { readFault := some fault, listFault := some fault }

/-- The name of the host. -/
def readHostname : IO String := do
  match ← readEntry "/etc/hostname" with
  | some (.file bytes) => return ((decodeText bytes).map Text.trimBlank).getD ""
  | _ => return ""

/-- Where and when the program logs. -/
def readOrigin : IO Log.Origin := do
  let now ← Std.Time.Timestamp.now
  let millis := now.toMillisecondsSinceUnixEpoch.val
  return {
    path := CommandLine.programName
    moment := { seconds := Int.fdiv millis 1000, millis := Int.fmod millis 1000 } }

/-- Prints what a command line leaves behind and returns its status. -/
def finish (output : CommandLine.Output) : IO UInt32 := do
  IO.print output.stdout
  IO.eprint output.stderr
  return output.status.toUInt32

/-- Executes a command line in the surroundings that the system gives. -/
def perform (words : List String) : IO UInt32 := do
  let environment ← readEnvironment
  let path := kubeconfigOf words environment
  let entries ← if path.isEmpty then pure [] else readKubeconfig path
  let files := treeOf ((← readEntries [mount.token, mount.authority]) ++ entries)
  let hostname ← readHostname
  let world : Service.World Rehearsal.Access := {
    files, environment, library := Rehearsal.library mount, api := unreachable.api, hostname
    scraper := Rehearsal.scraper }
  match CommandLine.execute words world with
  | .printed output => finish output
  | .served course =>
    let stderr := course.log (← readOrigin)
    match course.exit with
    | .status status => finish { stderr, status }
    | .escaped kind => finish { stderr := stderr ++ kind.name ++ "\n", status := 1 }

end NodeAgent.Main

/-- Runs the program. -/
def main (words : List String) : IO UInt32 := NodeAgent.Main.perform words
