import Shipyard.Command.Basic
import Shipyard.Plan.Config
import Shipyard.Plan.Event

/-!
# Contexts

What a run knows from its beginning to its end: the event, the configuration, the source and the
variables. Every branch gets the same context and works in a directory of its own.
-/

namespace Shipyard

/-- The inputs of a run. -/
structure RunContext where
  /-- the release -/
  event : ReleaseEvent
  /-- the settings -/
  config : Config
  /-- the root of the source -/
  sourceRoot : Path
  /-- the directory that all branches work in -/
  workDir : Path
  /-- the variables -/
  environ : Environment
  deriving DecidableEq, Repr

namespace RunContext

/-- The root of a source at a current directory: its path without `..` and from the root on. -/
def rootOf (cwd : Location) (source : Path) : Except Refusal Path :=
  if source.hasNull then .error .nullCharacter else .ok (source.resolve cwd)

/-- The context of a run at a current directory. -/
def create (cwd : Location) (event : ReleaseEvent) (config : Config) (source : Path)
    (environ : Environment) : Except Refusal RunContext := do
  let sourceRoot ← rootOf cwd source
  return ⟨event, config, sourceRoot, sourceRoot.child config.paths.workDir, environ⟩

/-- The directory of a branch. -/
def branchDir (c : RunContext) (target : BuildTarget) : Path := c.workDir.child target.platform

/-- Where a branch checks out the source. -/
def checkoutDir (c : RunContext) (target : BuildTarget) : Path := (c.branchDir target).child "src"

/-- Where a branch puts its archive and its sidecar. -/
def stagingDir (c : RunContext) (target : BuildTarget) : Path := (c.branchDir target).child "dist"

/-- The token for assets, if it is set and not empty. -/
def publishToken? (c : RunContext) : Option String :=
  c.environ.nonempty? c.config.secrets.publishTokenEnv

/-- The token for the tap, if it is set and not empty. -/
def formulaToken? (c : RunContext) : Option String :=
  c.environ.nonempty? c.config.secrets.formulaTokenEnv

/-- The variables of a command: those of the run and some more. -/
def childEnv (c : RunContext) (more : List (String × String)) : Environment :=
  c.environ.extend more

/-- The variables of a command that speaks to the host of the release. -/
def releaseEnv (c : RunContext) (token : String) : Environment :=
  c.childEnv [("GH_TOKEN", token)]

end RunContext

end Shipyard
