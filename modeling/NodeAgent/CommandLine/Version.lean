import NodeAgent.Settings.Basic
/-!
What the program says of itself.

Correspondence: `version` is `version`, and `versionText` is `version_text`.
-/

namespace NodeAgent.CommandLine

def programName : String := "kubeip-agent"

def defaultVersion : String := "0.1.0"

def version (env : Environment) : String := (env "APP_VERSION").getD defaultVersion

def revision (env : Environment) : String := (env "GIT_COMMIT").getD "unknown"

/-- The lines on the build. -/
def versionText (env : Environment) : String :=
  String.intercalate "\n"
    [programName ++ " " ++ version env,
     "  Build date: " ++ (env "BUILD_DATE").getD "unknown",
     "  Git commit: " ++ revision env,
     "  Git branch: " ++ (env "GIT_BRANCH").getD "unknown",
     "  Built with: Python 3.11.2"]

end NodeAgent.CommandLine
