import Shipyard.Digest.Sha256
import Shipyard.FileSystem.Disk
import Shipyard.Target
import Shipyard.Text.Case

/-!
# Names and checksums of assets

A program is published under a name that tells its version and its machine. Archive and sidecar add
their endings to it, so that no two assets of a release share a name.

A checksum is the digest of an archive together with the name of the archive. It is written into a
sidecar in one of two forms, and `Checksum.ofSidecarText?` reads both of them back.
-/

namespace Shipyard

/-! ## Names -/

namespace BuildTarget

/-- The name of a program before it is packed. -/
def binaryName (target : BuildTarget) (program version : String) : String :=
  program ++ "_" ++ version ++ "_" ++ target.triple ++ target.exeSuffix

/-- The name of the archive of a program. -/
def archiveName (target : BuildTarget) (program version : String) : String :=
  target.binaryName program version ++ target.archiveFormat.suffix

end BuildTarget

/-- The end of the name of a sidecar. -/
def sidecarSuffix : String := ".sha256sum"

/-- The name of the sidecar of an archive. -/
def sidecarName (archiveName : String) : String := archiveName ++ sidecarSuffix

/-- The path of the sidecar next to an archive; an archive without a name has none. -/
def sidecarPath (archive : Path) : Except Refusal Path :=
  match archive.withName? (sidecarName archive.name) with
  | some sidecar => .ok sidecar
  | none => .error (.emptyName archive.text)

/-! ## Checksums -/

/-- The digest of an archive. -/
structure Checksum where
  /-- sixty-four hexadecimal digits -/
  digest : String
  /-- the name of the archive -/
  archiveName : String
  deriving DecidableEq, Repr

namespace Checksum

/-- The text of a sidecar. -/
def render (c : Checksum) : SidecarFormat → String
  | .bare => c.digest ++ "\n"
  | .named => c.digest ++ " " ++ c.archiveName ++ "\n"

/-- The digest of a file. -/
def digestOf (path : Path) : Disk String :=
  return Sha256.digestInChunks (← Disk.readBytes path)

/-- The checksum of a file. -/
def ofFile (path : Path) : Disk Checksum := return ⟨← digestOf path, path.name⟩

/-- Whether a file has the digest of a checksum. -/
def matchesFile (c : Checksum) (path : Path) : Disk Bool := return (← digestOf path) = c.digest

/-- Whether a text is a digest: sixty-four hexadecimal digits in lower case. -/
def isDigest (s : String) : Bool :=
  s.length = 64 && s.toList.all fun c => ('0' ≤ c && c ≤ '9') || ('a' ≤ c && c ≤ 'f')

/-- The checksum in the text of a sidecar: a digest in either case, and behind it the name of the
archive or nothing. -/
def ofSidecarText? (archiveName text : String) : Option Checksum :=
  match Text.words text with
  | [digest] => if isDigest (Text.lower digest) then some ⟨Text.lower digest, archiveName⟩ else none
  | [digest, name] =>
    if isDigest (Text.lower digest) && name = archiveName then
      some ⟨Text.lower digest, archiveName⟩
    else none
  | _ => none

/-- The checksum in a sidecar; a sidecar that the operating system does not give out holds none. -/
def readSidecar (sidecar : Path) : Disk (Option Checksum) := do
  match ← Disk.attempt (Disk.readText sidecar) with
  | .ok text => return ofSidecarText? (Text.dropEnd sidecar.name sidecarSuffix) text
  | .error _ => return none

end Checksum

end Shipyard
