import Shipyard.Asset.Artifact
import Shipyard.Command.World
import Shipyard.Data.Document
import Shipyard.Plan.Context

/-!
# Publication

An artifact is published by attaching its archive and its sidecar to the release of the tag. An
upload replaces assets of the same names, so publishing again changes nothing. The upload is
confirmed by a look at the release; when the upload or the look fails, or an asset is missing, the
assets of the artifact are taken off the release again.
-/

namespace Shipyard.Publication

/-- How long a request to the host of the release may take, in seconds. -/
def requestTimeout : Nat := 60

/-- How long an upload may take. -/
def uploadTimeout : Nat := 15 * 60

variable {σ : Type}

/-- A command that speaks to the host of the release. -/
def releaseCommand (c : RunContext) (token : String) (timeout : Nat) (argv : List String) :
    Command where
  argv := argv
  cwd := c.sourceRoot
  env := some (c.releaseEnv token)
  timeout := timeout

/-- Asks for the release. -/
def viewCommand (c : RunContext) (token : String) : Command :=
  releaseCommand c token requestTimeout
    ["gh", "release", "view", c.event.tag, "--repo", c.config.project.repo, "--json",
      "databaseId,assets"]

/-- Attaches files to the release. -/
def uploadCommand (c : RunContext) (token : String) (files : List Path) : Command :=
  releaseCommand c token uploadTimeout
    (["gh", "release", "upload", c.event.tag] ++ files.map Path.text ++
      ["--repo", c.config.project.repo, "--clobber"])

/-- Takes an asset off the release. -/
def deleteCommand (c : RunContext) (token name : String) : Command :=
  releaseCommand c token requestTimeout
    ["gh", "release", "delete-asset", c.event.tag, name, "--repo", c.config.project.repo, "--yes"]

/-- The name in an entry of the list of assets; an entry without one is ignored. -/
def assetName? (entry : Value) : Option String := entry.asTable?.bind fun t => t.text? "name"

/-- The release that an answer describes. -/
def releaseOf? (answer : Value) : Option PublishedRelease := do
  let t ← answer.asTable?
  let id ← t.int? "databaseId"
  return PublishedRelease.attach ⟨id, []⟩ (((t.list? "assets").getD []).filterMap assetName?)

/-- Looks at the release: its number and the names of its assets. -/
def view (host : Host σ) (c : RunContext) (platform token : String) :
    Action σ (Except PublishFailure PublishedRelease) := do
  let failed := fun message hint =>
    (.error ⟨platform, .releaseLookupFailed, message, hint⟩ :
      Except PublishFailure PublishedRelease)
  match ← Action.issue host (viewCommand c token) with
  | .error failure => return failed ("cannot read release " ++ c.event.tag) failure.hint
  | .ok output =>
    match ← Action.orFault (Value.ofJson output) with
    | .error what => return failed ("invalid JSON from gh release view: " ++ what) none
    | .ok answer =>
      match releaseOf? answer with
      | none => return failed "unexpected payload from gh release view" none
      | some release => return .ok release

/-- Takes those of the given assets off the release that are attached to it. -/
def deleteAttached (host : Host σ) (c : RunContext) (token : String) (attached : List String)
    (out : Console) : List String → Action σ Unit
  | [] => return ()
  | name :: rest => do
    if attached.contains name then
      let command := deleteCommand c token name
      Action.echo out command.argv
      match ← Action.issue host command with
      | .ok _ => pure ()
      | .error _ => Action.tell out (.warning ("partial asset left attached: " ++ name))
    deleteAttached host c token attached out rest

/-- Takes assets off the release after an upload that failed. Nothing is returned: the failure of
the upload is what counts. -/
def detach (host : Host σ) (c : RunContext) (platform token : String) (names : List String)
    (out : Console) : Action σ Unit := do
  match ← view host c platform token with
  | .error failure =>
    Action.tell out (.warning ("could not check for partial upload: " ++ failure.message))
  | .ok release => deleteAttached host c token release.assets out names

/-- Uploads the two files and looks whether they are attached. -/
def attachAndConfirm (host : Host σ) (c : RunContext) (platform token : String)
    (files : List Path) (out : Console) : Action σ (Except PublishFailure PublishedRelease) := do
  let names := files.map (·.name)
  let command := uploadCommand c token files
  Action.echo out (command.argv.take 4 ++ names)
  match ← Action.issue host command with
  | .error failure =>
    return .error ⟨platform, .uploadFailed, "upload to release " ++ c.event.tag ++ " failed",
      failure.hint⟩
  | .ok _ =>
    match ← view host c platform token with
    | .error failure => return .error failure
    | .ok release =>
      let missing := names.filter fun name => !release.assets.contains name
      if missing = [] then return .ok release
      else
        return .error ⟨platform, .assetMissing,
          "assets not attached after upload: " ++ String.intercalate ", " missing, none⟩

/-- Publishes an artifact. -/
def run (host : Host σ) (c : RunContext) (artifact : Artifact) (out : Console) :
    Action σ (Except PublishFailure PublishedRelease) := do
  let platform := artifact.platform
  match c.publishToken? with
  | none =>
    return .error ⟨platform, .authMissing, c.config.secrets.publishTokenEnv ++ " is not set",
      some "a token allowed to upload release assets is required"⟩
  | some token =>
    let files ← Action.orRefused artifact.assets
    match ← attachAndConfirm host c platform token files out with
    | .ok release => return .ok release
    | .error failure =>
      detach host c platform token (files.map (·.name)) out
      return .error failure

end Shipyard.Publication
