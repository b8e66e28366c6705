import Shipyard.Archive.Basic
import Shipyard.Command.Basic
import Shipyard.Console.Notice
import Shipyard.FileSystem.Disk

/-!
# Worlds and hosts

A run works on a `World`: its file system, what it has told the user, the commands it has issued,
and whatever lies outside of it, such as the release that the assets are attached to. A `Host` says
how the outside answers a command. Nothing is assumed of an answer: it may be the output, a failure
or a fault, and it may change files and everything outside.

`Action σ α` is a step of a run. What it did before a fault stays done.
-/

namespace Shipyard

/-- How a command is answered: its output or its failure, or a fault. -/
abbrev Answer := Except Fault (Except CommandFailure String)

/-- The state of a run. -/
structure World (σ : Type) where
  /-- the files -/
  files : FileSystem
  /-- what the user was told, in order -/
  transcript : List Notice
  /-- the commands that were issued, in order -/
  issued : List Command
  /-- the state of everything else -/
  outside : σ

/-- The surroundings of a run. -/
structure Host (σ : Type) where
  /-- the answer to a command, with what it leaves -/
  answer : Command → FileSystem → σ → Answer × FileSystem × σ
  /-- whether a program is installed -/
  installed : String → Bool
  /-- what writes archives -/
  archiver : Archiver

/-- A step of a run. -/
abbrev Action (σ : Type) (α : Type) := ExceptT Fault (StateM (World σ)) α

namespace Action

variable {σ α : Type}

/-- Runs a step: its value or fault, and the world it leaves. -/
def runOn (a : Action σ α) (w : World σ) : Except Fault α × World σ :=
  StateT.run (ExceptT.run a) w

/-- A computation on the files of a world. -/
def onFiles (d : Disk α) : Action σ α := do
  let w ← get
  let (result, files) := d.runOn w.files
  set { w with files }
  match result with
  | .ok a => return a
  | .error fault => throw fault

/-- A value that may be refused. -/
def orRefused (r : Except Refusal α) : Action σ α :=
  match r with
  | .ok a => return a
  | .error refusal => throw (.refused refusal)

/-- A value that may be a fault. -/
def orFault (r : Except Fault α) : Action σ α :=
  match r with
  | .ok a => return a
  | .error fault => throw fault

/-- Tells the user something. -/
def tell (console : Console) (n : Notice) : Action σ Unit :=
  modify fun w => { w with transcript := w.transcript ++ [console.deliver n] }

/-- Shows a command before it is issued. -/
def echo (console : Console) (argv : List String) : Action σ Unit :=
  tell console (.print (commandLine argv) .dim)

/-- Issues a command and gives its output or its failure. -/
def issue (host : Host σ) (c : Command) : Action σ (Except CommandFailure String) := do
  let w ← get
  let (answer, files, outside) := host.answer c w.files w.outside
  set { w with files, outside, issued := w.issued ++ [c] }
  orFault answer

/-- A step whose fault is a value. -/
def caught (a : Action σ α) : Action σ (Except Fault α) :=
  tryCatch (do return .ok (← a)) fun fault => return .error fault

end Action

end Shipyard
