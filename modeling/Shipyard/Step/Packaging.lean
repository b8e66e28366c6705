import Shipyard.Asset.Artifact
import Shipyard.Outcome.Failure
import Shipyard.Plan.Config
import Shipyard.Step.Build

/-!
# Packaging

A program becomes an artifact in four steps: it is copied under the name of its version, packed into
an archive, the archive is hashed, and the digest is written into a sidecar. A step that fails takes
away what it and the steps before it have made, so that the directory holds only archives with their
sidecars.

`Mishaps` are the ways in which a step can fail although the file system does what it is asked for.
-/

namespace Shipyard

/-- Failures of the steps of a packaging, with what each leaves behind. -/
structure Mishaps where
  /-- clearing fails when so many old files are gone -/
  clearing : Option (Nat × OsError) := none
  /-- copying fails, before the copy is there or with a part of it -/
  copying : Option (Option Bytes × OsError) := none
  /-- packing fails with a part of the archive -/
  packing : Option (Bytes × Fault) := none
  /-- hashing fails -/
  hashing : Option OsError := none
  /-- writing the sidecar fails with a part of it -/
  writing : Option (Bytes × OsError) := none

/-- A packaging in which only the file system can refuse something. -/
def Mishaps.none : Mishaps := {}

namespace Packaging

/-- Removes files that may be there. -/
def removeAll (paths : List Path) : Disk Unit := paths.forM Disk.removeIfPresent

/-- The three paths of a packaging. -/
structure Outputs where
  /-- the copy of the program -/
  renamed : Path
  /-- the archive -/
  archive : Path
  /-- the sidecar -/
  sidecar : Path
  deriving DecidableEq, Repr

/-- The paths for a program in a directory. -/
def outputs (target : BuildTarget) (program version : String) (outDir : Path) :
    Except Refusal Outputs := do
  let archive := outDir.child (target.archiveName program version)
  return {
    renamed := outDir.child (target.binaryName program version)
    archive
    sidecar := ← sidecarPath archive }

/-- Removes what an earlier packaging has left. -/
def clear (mishaps : Mishaps) (o : Outputs) : Disk Unit := do
  let old := [o.renamed, o.archive, o.sidecar]
  match mishaps.clearing with
  | .none => removeAll old
  | some (count, e) =>
    removeAll (old.take count)
    throw (.os e)

/-- Copies a file with its permissions and its time. -/
def copyFile (mishaps : Mishaps) (source destination : Path) : Disk Unit := do
  let file ← Disk.openFile source
  match mishaps.copying with
  | .none =>
    Disk.writeBytes destination file.content
    Disk.setStatus destination file.mode file.modified
  | some (copied, e) =>
    -- A copy that stops half-way has neither the permissions nor the time of the source yet.
    match copied with
    | some content => Disk.writeBytes destination content
    | .none => pure ()
    throw (.os e)

/-- Makes room for the outputs and copies the program. -/
def stage (mishaps : Mishaps) (source outDir : Path) (o : Outputs) : Disk Unit := do
  Disk.makeDirectories outDir
  clear mishaps o
  copyFile mishaps source o.renamed

/-- Packs the copy of the program into the archive. -/
def pack (archiver : Archiver) (mishaps : Mishaps) (format : ArchiveFormat) (o : Outputs) :
    Disk Unit := do
  match mishaps.packing with
  | .none =>
    let file ← Disk.openFile o.renamed
    Disk.writeBytes o.archive
      (archiver.pack format ⟨o.renamed.name, file.content, file.mode, file.modified⟩)
  | some (written, fault) =>
    Disk.writeBytes o.archive written
    throw fault

/-- Hashes the archive and writes the sidecar. -/
def certify (mishaps : Mishaps) (format : SidecarFormat) (o : Outputs) : Disk Checksum := do
  match mishaps.hashing with
  | some e => throw (.os e)
  | .none =>
    let checksum ← Checksum.ofFile o.archive
    match mishaps.writing with
    | .none => Disk.writeText o.sidecar (checksum.render format)
    | some (written, e) =>
      Disk.writeBytes o.sidecar written
      throw (.os e)
    return checksum

/-- A computation whose failures while packing are values: errors of the operating system and
archives that cannot be written. -/
def attemptPacking (d : Disk Unit) : Disk (Except Fault Unit) :=
  tryCatch (do return .ok (← d)) fun
    | .os e => return .error (.os e)
    | .archive message => return .error (.archive message)
    | fault => throw fault

/-- Packages a program: copies it, packs it, hashes the archive and writes the sidecar. -/
def run (archiver : Archiver) (mishaps : Mishaps) (built : BuiltBinary) (program version : String)
    (outDir : Path) (policy : SidecarPolicy) : Disk (Except PackagingFailure Artifact) := do
  let target := built.target
  let o ←
    match outputs target program version outDir with
    | .ok o => pure o
    | .error refusal => throw (.refused refusal)
  match ← Disk.attempt (stage mishaps built.path outDir o) with
  | .error e =>
    return .error {
      platform := target.platform
      kind := .renameFailed
      message := "cannot stage " ++ built.path.name ++ " as " ++ o.renamed.name
      hint := some e.message
      path := some o.renamed }
  | .ok () =>
  match ← attemptPacking (pack archiver mishaps target.archiveFormat o) with
  | .error fault =>
    removeAll [o.renamed, o.archive]
    return .error {
      platform := target.platform
      kind := .compressFailed
      message := "cannot create " ++ o.archive.name
      hint := some fault.message
      path := some o.archive }
  | .ok () =>
  -- The copy goes before the archive is hashed, so that no later failure can leave it behind.
  removeAll [o.renamed]
  match ← Disk.attempt (certify mishaps (policy.formatFor target) o) with
  | .error e =>
    removeAll [o.archive, o.sidecar]
    return .error {
      platform := target.platform
      kind := .checksumFailed
      message := "cannot write " ++ o.sidecar.name
      hint := some e.message
      path := some o.sidecar }
  | .ok checksum =>
    return .ok ⟨program, version, target.triple, o.archive, checksum⟩

end Packaging

end Shipyard
