import Shipyard.Asset.Checksum
import Shipyard.Outcome.Failure

/-!
# Verification

An archive is verified by hashing it again and comparing the digest with the one in its sidecar. The
archive may come from anywhere, so its platform is read off its name.
-/

namespace Shipyard.Verification

/-- The platform that is named for an archive. -/
def platformFor (archiveName : String) : String :=
  (BuildTarget.platformOfArchive? archiveName).getD "unknown"

/-- Whether an archive has the digest of a checksum; hashing may fail by a mishap. -/
def compare (mishap : Option OsError) (expected : Checksum) (archive : Path) : Disk Bool :=
  match mishap with
  | some e => throw (.os e)
  | none => expected.matchesFile archive

/-- Verifies an archive against the sidecar next to it. -/
def run (mishap : Option OsError) (archive : Path) : Disk (Except PackagingFailure Checksum) := do
  let sidecar ←
    match sidecarPath archive with
    | .ok sidecar => pure sidecar
    | .error refusal => throw (.refused refusal)
  let failed := fun kind message hint path =>
    (.error ⟨platformFor archive.name, kind, message, hint, some path⟩ :
      Except PackagingFailure Checksum)
  if !(← Disk.isFile archive) then
    return failed .checksumFailed ("archive not found: " ++ archive.text) none archive
  match ← Checksum.readSidecar sidecar with
  | none =>
    return failed .checksumFailed ("missing or malformed sidecar: " ++ sidecar.name) none sidecar
  | some expected =>
    match ← Disk.attempt (compare mishap expected archive) with
    | .error e =>
      return failed .checksumFailed ("cannot read " ++ archive.name) (some e.message) archive
    | .ok true => return .ok expected
    | .ok false =>
      return failed .checksumMismatch ("checksum mismatch: " ++ archive.name)
        (some ("sidecar records " ++ expected.digest)) archive

end Shipyard.Verification
