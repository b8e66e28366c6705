import Shipyard.CommandLine.Execution
import Shipyard.Console.Terminal
import Shipyard.Rehearsal.Script

/-!
# The program

The command line, with the files of the disk that its words name. Packaging and verification work on
those files. The commands that a run issues are not carried out but rehearsed: the program shows
what a run would do, and the answers are those of an outside where everything succeeds.
-/

namespace Shipyard.Program

/-- The variables that the program looks at. -/
def variableNames : List String :=
  ["HOME", "GITHUB_EVENT_PATH", "GITHUB_EVENT_NAME", "GITHUB_SHA", "GITHUB_TOKEN", "PERSONAL_TOKEN"]

/-- The outside where everything succeeds. -/
def script : Script where
  installed := true
  release := .int 0
  pullRequests := .list []
  bumpOutput := ""
  produces := some ({} : ProjectConfig).binaryName

/-- The texts that may name a file: words, and what stands behind an equality sign in them. -/
def namedTexts (words : List String) : List String :=
  words.flatMap fun word =>
    match CommandLine.cutOption word with
    | (_, some value) => [word, value]
    | (_, none) => [word]

/-- The paths that a command line may look at: what its words name, a sidecar or a configuration
beside it, and the file with the event. -/
def candidatePaths (environ : Environment) (words : List String) : List Path :=
  let named := (namedTexts words).map Path.ofText
  let beside := named.flatMap fun p =>
    [p, p.child configFileName] ++ (sidecarPath p).toOption.toList
  let event := (environ.find? "GITHUB_EVENT_PATH").map Path.ofText
  Path.ofText configFileName :: beside ++ event.toList

/-- The value of a variable with its name. -/
def readVariable (name : String) : IO (Option (String × String)) := do
  return (← IO.getEnv name).map fun value => (name, value)

/-- The content of a file, if it can be read. -/
def readContent (path : String) : IO (Option Bytes) :=
  try
    return some (← IO.FS.readBinFile path).toList
  catch _ => return none

/-- Puts a file of the disk into a file system. -/
def load (cwd : Location) (files : FileSystem) (p : Path) : IO FileSystem := do
  match ← readContent p.text with
  | some content => return ((Disk.placeFile (p.resolve cwd) ⟨content, 0o755, 0⟩).runOn files).2
  | none => return files

/-- Writes to the disk what a file system has besides another one. -/
def store (before after : FileSystem) : IO Unit := do
  for (location, node) in after.below [] do
    if before.node? location ≠ some node then
      let path := Path.text ⟨.root, location⟩
      match node with
      | .directory => IO.FS.createDirAll path
      | .file f => IO.FS.writeBinFile path ⟨f.content.toArray⟩

/-- Runs the program for the words of a command line and gives its exit code. -/
def run (words : List String) : IO Nat := do
  let cwd := (Path.ofText (← IO.currentDir).toString).parts
  let environ := (← variableNames.mapM readVariable).reduceOption
  let scratch := ((Disk.makeDirectories ⟨.root, cwd⟩).runOn (FileSystem.empty cwd)).2
  let files ← (candidatePaths environ words).foldlM (load cwd) scratch
  let start : World Stage := ⟨files, [], [], ⟨[], []⟩⟩
  let (ending, w) := (CommandLine.execute (Rehearsal.host script) [] environ words).runOn start
  let stderr ← IO.getStderr
  for notice in w.transcript do
    IO.print (Terminal.render false notice)
  if words.head? = some "package" then store files w.files
  match ending with
  | .error fault =>
    stderr.putStrLn fault.message
    return 1
  | .ok ending =>
    match ending.echo with
    | some ⟨true, message⟩ => stderr.putStrLn message
    | some ⟨false, message⟩ => IO.println message
    | none => pure ()
    return ending.code

end Shipyard.Program

/-- The program. -/
def main (words : List String) : IO UInt32 := do
  return UInt32.ofNat (← Shipyard.Program.run words)
