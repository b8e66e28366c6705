import Shipyard.Outcome.Report
import Shipyard.Step.Packaging
import Shipyard.Step.Publication

/-!
# Branches

A branch builds, packages and publishes one target, strictly in this order, and stops at the first
step that fails. It works in its own directory and tells what it does under its own tag.
-/

namespace Shipyard.Branch

variable {σ : Type}

/-- The outcome of a branch that fails behind some states. -/
def failedOutcome (target : BuildTarget) (before : List BranchState) (artifact : Option Artifact)
    (error : BranchError) : BranchOutcome where
  target := target
  state := .failed
  history := before ++ [.failed]
  artifact := artifact
  error := some error

/-- The outcome of a branch that is done. Of the assets of the release it keeps its own. -/
def doneOutcome (target : BuildTarget) (artifact : Artifact) (names : List String)
    (release : PublishedRelease) : BranchOutcome where
  target := target
  state := .done
  history := [.pending, .building, .packaged, .published, .done]
  artifact := some artifact
  release := some (release.restrict names)

/-- Publishes the artifact of a branch. -/
def publish (host : Host σ) (c : RunContext) (target : BuildTarget) (artifact : Artifact)
    (out : Console) : Action σ BranchOutcome := do
  Action.tell out (.print (artifact.archiveName ++ " sha256 " ++ artifact.checksum.digest) .plain)
  match ← Publication.run host c artifact out with
  | .error failure =>
    Action.tell out (.error failure.message)
    return failedOutcome target [.pending, .building, .packaged] (some artifact) (.publish failure)
  | .ok release =>
    Action.tell out (.success ("published " ++ artifact.archiveName))
    let files ← Action.orRefused artifact.assets
    return doneOutcome target artifact (files.map (·.name)) release

/-- Packages the program of a branch and publishes it. -/
def package (host : Host σ) (c : RunContext) (target : BuildTarget) (built : BuiltBinary)
    (out : Console) : Action σ BranchOutcome := do
  match ← Action.onFiles (Packaging.run host.archiver .none built c.config.project.binaryName
      c.event.version (c.stagingDir target) c.config.sidecarPolicy) with
  | .error failure =>
    Action.tell out (.error failure.message)
    return failedOutcome target [.pending, .building] none (.packaging failure)
  | .ok artifact => publish host c target artifact out

/-- Runs a branch. -/
def run (host : Host σ) (c : RunContext) (target : BuildTarget) (console : Console) :
    Action σ BranchOutcome := do
  let out := console.within target.platform
  Action.tell out (.info ("building " ++ target.triple ++ " at " ++ c.event.revision))
  match ← Build.run host c target out with
  | .error failure =>
    Action.tell out (.error failure.message)
    return failedOutcome target [.pending, .building] none (.build failure)
  | .ok built => package host c target built out

end Shipyard.Branch
