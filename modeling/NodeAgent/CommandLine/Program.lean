import NodeAgent.CommandLine.Reader
import NodeAgent.Service
/-!
The program: a command line either prints a text and ends, or serves.

Correspondence: `execute` is `main`; `Service.serve` is what its `run_cmd` does.
-/

namespace NodeAgent.CommandLine

/-- What a command line leads to. -/
inductive Execution (Access : Type)
  | printed (output : Output)
  | served (course : Service.Course Access)

/-- Executes a command line. Without a command the help is printed as an error. -/
def execute {Access : Type} (words : List String) (world : Service.World Access) :
    Execution Access :=
  match readLine words with
  | .error (speaker, stop) => .printed (stopOutput world.environment speaker stop)
  | .ok .empty => .printed { stderr := programHelp, status := 2 }
  | .ok (.run flags) => .served (Service.serve flags world)

end NodeAgent.CommandLine
