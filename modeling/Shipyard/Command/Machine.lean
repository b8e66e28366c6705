import Shipyard.Command.Child
import Shipyard.FileSystem.Basic
import Shipyard.Shell.Session
import Shipyard.Unix.Program
import Shipyard.Utility

/-!
# Machines

What a child does on a machine that has a file system, a shell and the usual programs. The child
starts in its directory, its program is looked for on the search path of its variables, its input is
empty, and what it writes is collected until nobody can write any more.
-/

namespace Shipyard

/-- A machine. -/
structure Machine where
  /-- its files -/
  files : FileSystem
  /-- the variables of a child that is given none -/
  environment : Environment

namespace Machine

open Unix (Kernel Inode Content Request)

/-! ## Programs -/

/-- The names of the shell. -/
def shellNames : List String := ["sh", "dash", "bash"]

/-- The programs of the system. -/
def programNames : List String := shellNames ++ Utility.table.map (·.1)

/-- What a program of the system does. -/
def programTask (image : Unix.Image) : Unix.Task :=
  if shellNames.contains image.program then
    Unix.Program.task (Shell.session image.argv image.environment)
  else
    match Utility.table.lookup image.program with
    | some utility =>
      Unix.Program.task
        (utility ⟨image.argv.headD image.program, image.argv.drop 1, image.environment⟩)
    | none => .ended 127

/-! ## Files -/

/-- The permissions of a directory. -/
def directoryMode : Nat := 0o755

/-- A kernel with a further file, which has a name in a directory. -/
def addFile (k : Kernel) (directory : Nat) (name : String) (inode : Inode) : Nat × Kernel :=
  let n := k.inodes.size
  (n, { k with inodes := k.inodes.push inode }.putName directory name n)

/-- A kernel with the file or the directory at a path, as long as it is not there. -/
def addNode (k : Kernel) (location : Location) (node : Node) : Kernel :=
  let path := "/" ++ String.intercalate "/" (location.map ByteText.inner)
  match k.walk Unix.root true path with
  | .error _ => k
  | .ok found =>
    match found.place?, node with
    | some _, _ => k
    | none, .directory =>
      (addFile k found.directory found.name
        ⟨.directory found.directory [], directoryMode, k.now⟩).2
    | none, .file f =>
      (addFile k found.directory found.name
        ⟨.file ⟨f.content.toArray⟩, f.mode, f.modified * (Unix.second : Int)⟩).2

/-- A kernel with something of the system at a path. -/
def addSystem (k : Kernel) (path : String) (content : Nat → Content) (mode : Nat) : Kernel :=
  match k.walk Unix.root true path with
  | .error _ => k
  | .ok found =>
    match found.place? with
    | some _ => k
    | none => (addFile k found.directory found.name ⟨content found.directory, mode, 0⟩).2

/-- The directories of the system. -/
def systemDirectories : List (String × Nat) :=
  [("/usr", 0o755), ("/usr/bin", 0o755), ("/dev", 0o755), ("/dev/fd", 0o755), ("/tmp", 0o1777),
    ("/etc", 0o755), ("/home", 0o755), ("/root", 0o700), ("/var", 0o755), ("/var/tmp", 0o1777),
    ("/proc", 0o555), ("/opt", 0o755)]

/-- The links of the system. -/
def systemLinks : List (String × String) :=
  [("/bin", "usr/bin"), ("/sbin", "usr/sbin"), ("/usr/sbin", "bin")]

/-- The devices of the system. -/
def systemDevices : List (String × Unix.Device) :=
  [("/dev/null", .null), ("/dev/zero", .zero), ("/dev/full", .full), ("/dev/stdin", .descriptor 0),
    ("/dev/stdout", .descriptor 1), ("/dev/stderr", .descriptor 2)] ++
    (List.range 10).map fun n => ("/dev/fd/" ++ toString n, .descriptor n)

/-- A kernel with the files of the system, as far as there is nothing in their places. -/
def withSystem (k : Kernel) : Kernel :=
  let k := systemDirectories.foldl
    (fun k (path, mode) => addSystem k path (fun above => .directory above []) mode) k
  let k := systemLinks.foldl
    (fun k (path, target) => addSystem k path (fun _ => .link target) 0o777) k
  let k := systemDevices.foldl (fun k (path, d) => addSystem k path (fun _ => .device d) 0o666) k
  programNames.foldl
    (fun k name => addSystem k ("/usr/bin/" ++ name) (fun _ => .program name) 0o755) k

/-- The kernel without files. -/
def emptyKernel : Kernel :=
  ⟨0, #[⟨.directory Unix.root [], directoryMode, 0⟩], #[], #[], #[]⟩

/-- The kernel with the files of a machine. -/
def kernelOf (files : FileSystem) : Kernel :=
  let k := files.nodes.toList.foldl (fun k (location, node) => addNode k location node) emptyKernel
  withSystem k

/-- The files and directories in a directory, as far as they are no part of the system. The fuel
bounds how deeply they are nested. -/
def nodesIn (k : Kernel) : Nat → Location → Nat → List (Location × Node)
  | 0, _, _ => []
  | fuel + 1, location, n =>
    match k.content? n with
    | some (.directory _ entries) =>
      entries.reverse.flatMap fun (name, m) =>
        let place := location ++ [ByteText.outer name]
        match k.inodes[m]? with
        | some ⟨.directory _ _, _, _⟩ => (place, .directory) :: nodesIn k fuel place m
        | some ⟨.file bytes, mode, modified⟩ =>
          [(place, .file ⟨bytes.toList, mode, modified / (Unix.second : Int)⟩)]
        | _ => []
    | _ => []

/-- The files that a kernel leaves. Directories of the system are left out where they were not there
before. -/
def filesOf (before : FileSystem) (k : Kernel) : FileSystem :=
  let isOwn := fun (location : Location) => systemDirectories.any fun (path, _) =>
    path = "/" ++ String.intercalate "/" location
  let nodes := (nodesIn k Unix.maxNames [] Unix.root).filter fun (location, _) =>
    !isOwn location || (before.node? location).isSome
  nodes.foldl (fun fs (location, node) => fs.put location node) (.empty before.cwd)

/-! ## Children -/

/-- The pipe that collects the output. -/
def outputPipe : Nat := 0

/-- The pipe that collects what is written about errors. -/
def errorPipe : Nat := 1

/-- A kernel with the first process, which runs in a directory: its input is empty, and what it
writes is collected. -/
def withFirstProcess (k : Kernel) (directory : Nat) : Kernel :=
  let null := match k.walk Unix.root true "/dev/null" with
    | .ok found => found.place?.getD Unix.root
    | .error _ => Unix.root
  let opened : Array Unix.OpenFile := #[⟨.inode null, 0, true, false, false⟩,
    ⟨.outlet outputPipe, 0, false, true, false⟩, ⟨.outlet errorPipe, 0, false, true, false⟩]
  let first : Unix.Process :=
    { parent := 1
      descriptors := [(0, 0), (1, 1), (2, 2)]
      transient := []
      directory := directory
      mask := 0o022
      dispositions := []
      pending := []
      isStopped := false
      alarm := none
      ending := none
      isReaped := false }
  ⟨k.clock, k.inodes, #[⟨.empty, 0, none⟩, ⟨.empty, 0, none⟩], opened, #[first]⟩

/-- Whether the first process has ended and nobody can write what is collected. -/
def isDone (k : Kernel) : Bool :=
  !k.isAlive Unix.firstPid && !k.isHeld (.outlet outputPipe) && !k.isHeld (.outlet errorPipe)

/-- What a pipe has collected. -/
def collected (k : Kernel) (pipe : Nat) : Bytes :=
  match k.pipes[pipe]? with
  | some p => p.bytes.toList
  | none => []

/-- The time that a child needs before it does anything. -/
def startTime : Nat := 300000

/-- The end of a child that has become a program. -/
def endOf (limit : Option TimeLimit) (k : Kernel) (image : Unix.Image) : ChildEnd × Kernel :=
  let allows := fun (time : Nat) => match limit with
    | some limit => limit.allows time
    | none => true
  let start := [(Unix.firstPid, programTask image)]
  let (verdict, k) :=
    Unix.runAll ⟨programTask, allows, isDone⟩ Unix.turnLimit true start [] k
  match verdict, (k.process? Unix.firstPid).bind (·.ending) with
  | .finished, some ending =>
    let code : Int := match ending with
      | .exited code => code
      | .killed signal => -(signal : Int)
    if allows (k.clock + startTime) then
      (.ended code (collected k outputPipe) (collected k errorPipe), k)
    else (.tookTooLong (collected k outputPipe) (collected k errorPipe), k)
  | _, _ => (.tookTooLong (collected k outputPipe) (collected k errorPipe), k)

/-- The search path where none is given. -/
def usualSearchPath : String := "/bin:/usr/bin"

/-- The paths that a name may stand for. -/
def candidates (environment : Environment) (name : String) : List String :=
  if name.toList.contains '/' then [name]
  else
    (Text.splitAt ':' ((environment.find? "PATH").getD usualSearchPath).toList).map fun directory =>
      if directory = [] then name
      else if directory.getLast? = some '/' then String.ofList directory ++ name
      else String.ofList directory ++ "/" ++ name

/-- The first of some paths that can be started. If there is none, the first error that says more
than that there is nothing counts, and else the last one. -/
def imageOf (argv : List String) (environment : Environment) :
    Errno → List String → Request Unix.Image
  | errno, [] => throw errno
  | errno, path :: rest =>
    tryCatch (Unix.imageAt path argv environment) fun own =>
      let isAbsence := errno = .noEntry || errno = .notDirectory
      imageOf argv environment (if isAbsence then own else errno) rest

/-- The end of a child that is started, and the files it leaves. -/
def run (m : Machine) (r : ChildRequest) : ChildEnd × FileSystem :=
  let environment := (r.env.getD m.environment).map fun (name, value) =>
    (ByteText.inner name, ByteText.inner value)
  let argv := r.argv.map ByteText.inner
  let refuse := fun (errno : Errno) (text : String) =>
    (ChildEnd.notStarted (OsError.message ⟨errno, .path text⟩), m.files)
  match m.files.walk r.cwd with
  | .error errno => refuse errno r.cwd.text
  | .ok cwd =>
    match m.files.node? cwd with
    | none => refuse .noEntry r.cwd.text
    | some (.file _) => refuse .notDirectory r.cwd.text
    | some .directory =>
      let k := kernelOf m.files
      let place := "/" ++ String.intercalate "/" (cwd.map ByteText.inner)
      let directory := match k.walk Unix.root true place with
        | .ok found => found.place?.getD Unix.root
        | .error _ => Unix.root
      let k := withFirstProcess k directory
      let paths := candidates environment (argv.headD "")
      match (imageOf argv environment .noEntry paths).askOf Unix.firstPid k with
      | (some (.ok image), k) =>
        let (childEnd, k) := endOf r.limit k image
        (childEnd, filesOf m.files k)
      | (some (.error errno), _) => refuse errno (r.argv.headD "")
      | (none, _) => (.tookTooLong [] [], m.files)

/-- The answer to a request. -/
def answer (m : Machine) (r : ChildRequest) : Answer := r.answer (m.run r).1

end Machine

end Shipyard
