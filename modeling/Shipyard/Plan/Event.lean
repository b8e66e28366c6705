import Shipyard.Data.Document
import Shipyard.FileSystem.Disk
import Shipyard.Outcome.Failure

/-!
# Release events

A run is started by the event that a release was published or created. The event names the tag,
which becomes part of the names of the assets and must therefore hold no separator of paths, and the
commit that the tag stands for. Everything else is rejected before any work begins.
-/

namespace Shipyard

/-- The release that a run is about. -/
structure ReleaseEvent where
  /-- the tag, as it was given -/
  tag : String
  /-- the commit -/
  revision : String
  deriving DecidableEq, Repr

namespace ReleaseEvent

/-- The version is the tag. -/
def version (e : ReleaseEvent) : String := e.tag

/-- The name of the events that start a run. -/
def eventName : String := "release"

/-- The actions that start a run. -/
def actions : List String := ["created", "published"]

/-- Whether a tag may be part of a file name. -/
def isTag (tag : String) : Bool := !tag.toList.any fun c => c = '/' || c = '\\'

/-- The commit of a release: a revision that is given and not blank, else the one that the release
names. -/
def commit? (revision : Option String) (release : Table) : Option String :=
  let given := Text.strip (revision.getD "")
  if given ≠ "" then some given else release.text? "target_commitish"

/-- The release event of a payload. -/
def ofPayload (payload : Table) (name revision : Option String) :
    Except UnrecognizedEvent ReleaseEvent := do
  match name with
  | some other =>
    if other ≠ eventName then
      throw ⟨"not a release event: " ++ other,
        some "this pipeline only runs on release published/created"⟩
  | none => pure ()
  let action := payload.text? "action"
  if !actions.any (some · = action) then
    throw ⟨"unsupported release action: " ++ action.getD "(missing)",
      some ("expected one of: " ++ String.intercalate ", " actions)⟩
  let some release := payload.table? "release"
    | throw ⟨"event payload has no release object", none⟩
  let some tag := release.text? "tag_name"
    | throw ⟨"release.tag_name is missing", none⟩
  if !isTag tag then
    throw ⟨"release tag " ++ Text.quoted tag ++ " cannot be used in an asset file name",
      some "tags containing path separators are not supported"⟩
  let some revision := commit? revision release
    | throw ⟨"no commit revision for the release", some "pass --revision or set GITHUB_SHA"⟩
  return ⟨tag, revision⟩

/-- The release event in a file. A file that is missing, is no JSON or holds no table is rejected;
bytes that are no text stay a fault. -/
def load (path : Path) (name revision : Option String) :
    Disk (Except UnrecognizedEvent ReleaseEvent) := do
  match ← Disk.attempt (Disk.readText path) with
  | .error e =>
    return .error ⟨"cannot read event payload: " ++ path.text, some e.message⟩
  | .ok text =>
    match Value.ofJson text with
    | .error fault => throw fault
    | .ok (.error what) => return .error ⟨"event payload is not valid JSON: " ++ what, none⟩
    | .ok (.ok v) =>
      match v.asTable? with
      | none => return .error ⟨"event payload must be a JSON object", none⟩
      | some payload => return ofPayload payload name revision

end ReleaseEvent

end Shipyard
