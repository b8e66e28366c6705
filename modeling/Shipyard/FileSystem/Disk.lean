import Shipyard.FileSystem.Basic

/-!
# Requests to a file system

`Disk α` is a computation that reads and changes a file system and gives an `α` or ends with a
fault; what it changed before a fault stays changed. The requests are those of an operating system,
with its errors and their order: a name is looked up before the kind of the node behind it matters.
-/

namespace Shipyard

/-- A computation on a file system. -/
abbrev Disk (α : Type) := ExceptT Fault (StateM FileSystem) α

namespace Disk

/-- Runs a computation: its value or fault, and the file system it leaves. -/
def runOn {α : Type} (d : Disk α) (fs : FileSystem) : Except Fault α × FileSystem :=
  StateT.run (ExceptT.run d) fs

/-- Ends with an error of the operating system for a path. -/
def fail {α : Type} (errno : Errno) (p : Path) : Disk α := throw (FileSystem.osError errno p)

/-- A value that is computed from the file system without changing it. -/
def query {α : Type} (f : FileSystem → Except Fault α) : Disk α := do
  match f (← get) with
  | .ok a => return a
  | .error e => throw e

/-- A computation whose errors of the operating system are values. -/
def attempt {α : Type} (d : Disk α) : Disk (Except OsError α) :=
  tryCatch (do return .ok (← d)) fun
    | .os e => return .error e
    | fault => throw fault

/-- The location of a path. -/
def locate (p : Path) : Disk Location := query (·.locate p)

/-- The node behind a path, if there is one. -/
def find? (p : Path) : Disk (Option Node) := query (·.find? p)

/-- Whether there is anything behind a path. -/
def pathExists (p : Path) : Disk Bool := return (← find? p).isSome

/-- Whether there is a regular file behind a path. -/
def isFile (p : Path) : Disk Bool := do
  match ← find? p with
  | some (.file _) => return true
  | _ => return false

/-- Whether there is a directory behind a path. -/
def isDirectory (p : Path) : Disk Bool := return (← find? p) = some .directory

/-- The regular file behind a path, which its owner has to be allowed to read. -/
def openFile (p : Path) : Disk File := do
  let location ← locate p
  match (← get).node? location with
  | some (.file f) => if f.mayBeRead then return f else fail .accessDenied p
  | some .directory => fail .isDirectory p
  | none => fail .noEntry p

/-- The content of a file. -/
def readBytes (p : Path) : Disk Bytes := return (← openFile p).content

/-- The content of a file as text, with line feeds as its only ends of lines. -/
def readText (p : Path) : Disk String := do
  match Utf8.decode (← readBytes p) with
  | .ok s => return Text.unixLines s
  | .error f => throw (.undecodable f)

/-- The permission bits of a new file. -/
def newFileMode : Nat := 0o644

/-- Gives a file a new content; a new file has the usual permissions, and the owner of an old one
has to be allowed to write it. -/
def writeBytes (p : Path) (content : Bytes) : Disk Unit := do
  let location ← locate p
  match (← get).node? location with
  | some .directory => fail .isDirectory p
  | some (.file f) =>
    if f.mayBeWritten then modify (·.put location (.file { f with content }))
    else fail .accessDenied p
  | none => modify (·.put location (.file ⟨content, newFileMode, 0⟩))

/-- Writes a text to a file. -/
def writeText (p : Path) (s : String) : Disk Unit := writeBytes p (Utf8.encode s)

/-- Gives a file its permission bits and the time of its last change. -/
def setStatus (p : Path) (mode : Nat) (modified : Int) : Disk Unit := do
  let location ← locate p
  match (← get).node? location with
  | some (.file f) => modify (·.put location (.file { f with mode, modified }))
  | _ => return ()

/-- Removes a file. -/
def removeFile (p : Path) : Disk Unit := do
  let location ← locate p
  match (← get).node? location with
  | none => fail .noEntry p
  | some .directory => fail .isDirectory p
  | some (.file _) => modify (·.erase location)

/-- Removes a file if it is there. -/
def removeIfPresent (p : Path) : Disk Unit := do
  match ← attempt (removeFile p) with
  | .ok () => return ()
  | .error e => if e.errno = .noEntry then return () else throw (.os e)

/-- Makes a directory in a directory that exists. -/
def makeDirectory (p : Path) : Disk Unit := do
  let location ← locate p
  match (← get).node? location with
  | some _ => fail .alreadyExists p
  | none => modify (·.put location .directory)

/-- Makes a directory in a directory that exists; nothing is wrong if the directory is there. -/
def ensureDirectory (p : Path) : Disk Unit := do
  match ← attempt (makeDirectory p) with
  | .ok () => return ()
  | .error e =>
    if e.errno ≠ .noEntry && (← isDirectory p) then return () else throw (.os e)

/-- Makes a directory and at most `depth` missing directories above it. -/
def ensureDirectories : Nat → Path → Disk Unit
  | 0, p => ensureDirectory p
  | depth + 1, p => do
    match ← attempt (ensureDirectory p) with
    | .ok () => return ()
    | .error e =>
      if e.errno = .noEntry && p.parent ≠ p then
        ensureDirectories depth p.parent
        ensureDirectory p
      else throw (.os e)

/-- Makes a directory with all the directories above it; nothing is wrong if they are there. -/
def makeDirectories (p : Path) : Disk Unit := ensureDirectories p.parts.length p

/-- Removes a directory with all that is in it. A regular file is no directory. -/
def removeTree (p : Path) : Disk Unit := do
  let location ← locate p
  match (← get).node? location with
  | none => fail .noEntry p
  | some (.file _) => throw (.os ⟨.notDirectory, .object p.text⟩)
  | some .directory => modify (·.eraseBelow location)

/-- Removes a file, or a directory with all that is in it. -/
def removeAny (p : Path) : Disk Unit := do
  if ← isDirectory p then removeTree p else removeFile p

/-- Makes a file with the directories above it. -/
def placeFile (p : Path) (file : File) : Disk Unit := do
  makeDirectories p.parent
  writeBytes p file.content
  setStatus p file.mode file.modified

/-- Writes a text behind what a file holds. -/
def appendText (p : Path) (s : String) : Disk Unit := do
  let location ← locate p
  match (← get).node? location with
  | some (.file f) => writeBytes p (f.content ++ Utf8.encode s)
  | _ => writeText p s

end Disk

end Shipyard
