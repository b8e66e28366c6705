import Shipyard.Shell.State
import Shipyard.Text.Search

/-!
# Names of commands

What the name of a command stands for: a function, a command of the shell itself, or a program that
is looked for in the directories of a search path. The paths of programs that were found are
remembered.
-/

namespace Shipyard.Shell

/-- The commands of the shell itself that are not special. -/
def ordinaryCommands : List String :=
  ["[", "alias", "bg", "cd", "chdir", "command", "echo", "false", "fg", "getopts", "hash", "jobs",
    "kill", "printf", "pwd", "read", "test", "true", "type", "ulimit", "umask", "unalias", "wait"]

/-- Whether a command belongs to the shell itself. -/
def isBuiltin (name : String) : Bool :=
  specialCommands.contains name || ordinaryCommands.contains name

/-- What the name of a command stands for. -/
inductive Meant where
  /-- a function -/
  | function (body : Statement)
  /-- a command of the shell itself -/
  | builtin
  /-- a program; its name and the directories are tried in this order -/
  | program (paths : List String)
  /-- nothing -/
  | nothing (errno : Errno)

/-- Where programs are looked for. -/
def State.searchPath (s : State) : String := (s.value? "PATH").getD ""

/-- Where the programs of the system are. -/
def systemPath : String := "/usr/sbin:/usr/bin:/sbin:/bin"

/-- Whether a name is a path. -/
def isPath (name : String) : Bool := name.toList.contains '/'

/-- The paths that a name may stand for. -/
def candidates (path name : String) : List String :=
  (Text.splitAt ':' path.toList).map fun directory =>
    if directory = [] then name else String.ofList directory ++ "/" ++ name

/-- Whether an error only says that there is nothing at a path. -/
def isAbsence (errno : Errno) : Bool := errno = .noEntry || errno = .notDirectory

/-- The first path with a program and the paths behind it, or why there is none. -/
def searchFrom : Errno → List String → Effect (Except Errno (List String))
  | errno, [] => return .error errno
  | errno, path :: rest => do
    match ← ask (Unix.statusAt path true) with
    | .error own => searchFrom (if isAbsence own then errno else own) rest
    | .ok status =>
      if status.kind = .regular && status.mode &&& 0o111 ≠ 0 then return .ok (path :: rest)
      else searchFrom .accessDenied rest

/-- The program of a name that is no path. One that was found before is not looked for again. -/
def findProgram (path name : String) : Effect Meant := do
  let s ← get
  let isUsual := path = s.searchPath
  let paths := candidates path name
  let paths := match (if isUsual then s.found.lookup name else none) with
    | some known => paths.dropWhile (· ≠ known)
    | none => paths
  match ← searchFrom .noEntry paths with
  | .error errno =>
    if isUsual then modify fun s => { s with found := s.found.filter (·.1 ≠ name) }
    return .nothing errno
  | .ok paths =>
    let known := (name, paths.headD name)
    if isUsual then
      modify fun s =>
        if (s.found.lookup name).isSome then s else { s with found := s.found ++ [known] }
    return .program paths

/-- What a name stands for. Functions may be left out. -/
def findCommand (withFunctions : Bool) (path name : String) : Effect Meant := do
  let s ← get
  if isPath name then return .program [name]
  else
    match (if withFunctions then s.functions.lookup name else none) with
    | some body => return .function body
    | none => if isBuiltin name then return .builtin else findProgram path name

/-- What is wrong with a program that does not start. -/
def absenceWords (errno : Errno) : String :=
  if isAbsence errno then "not found" else errno.words

/-- The code for a program that does not start. -/
def absenceCode (errno : Errno) : Nat :=
  if isAbsence errno || errno = .tooManyLinks || errno = .nameTooLong then 127 else 126

/-- Starts the first of some paths that can be started in place of the shell. A script without an
interpreter is one for the shell. Where nothing can be started the shell ends. -/
def startFirst {α : Type} (argv : List String) (environment : List (String × String)) :
    Errno → List String → Effect α
  | errno, [] => do
    complain (argv.headD "" ++ ": " ++ absenceWords errno)
    leaveWith (absenceCode errno)
  | errno, path :: rest => do
    let image ← ask (Unix.imageAt path argv environment)
    let image ← match image with
      | .error .execFormat =>
        ask (Unix.imageAt "/bin/sh" ("/bin/sh" :: path :: argv.drop 1) environment)
      | other => pure other
    match image with
    | .ok image => run (Unix.Program.become image)
    | .error own => startFirst argv environment (if isAbsence own then errno else own) rest

/-- Starts a program in place of the shell. -/
def startProgram {α : Type} (argv : List String) (paths : List String) : Effect α := do
  startFirst argv (← get).exported .noEntry paths

end Shipyard.Shell
