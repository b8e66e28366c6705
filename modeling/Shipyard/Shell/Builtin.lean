import Shipyard.Shell.Builtin.Processes
import Shipyard.Shell.Builtin.Surroundings
import Shipyard.Shell.Builtin.Text
import Shipyard.Shell.Builtin.Variables

/-!
# The table of the commands of the shell

The commands of the shell itself by name, as far as they run no others; those that do stand with the
evaluation of scripts. Commands that leave loops, functions or the shell are here too: they halt.
-/

namespace Shipyard.Shell

/-- Leaves loops, or begins their next turn. -/
def leaveLoops (make : Nat → Halt) : Builtin := fun arguments => do
  let n ← match arguments with
    | [] => pure 1
    | argument :: _ => do
      let n ← demandNumber argument
      if n = 0 then abort (illegalNumber argument) else pure n
  let s ← get
  if s.loops = 0 then return 0
  else
    finishWith 0
    throw (make (min n s.loops))

/-- Leaves the function or the script that runs. -/
def leaveFunction : Builtin := fun arguments => do
  match arguments with
  | [] => throw .leavesFunction
  | argument :: _ =>
    finishWith (← demandNumber argument)
    throw .leavesFunction

/-- Leaves the shell. -/
def leaveShell : Builtin := fun arguments => do
  match arguments with
  | [] => throw .leavesShell
  | argument :: _ =>
    let code ← demandNumber argument
    modify fun s => { s with code, trapCode := s.trapCode.map fun _ => code }
    throw .leavesShell

/-- The command of the shell with a name, as far as it runs no others. -/
def builtin? (name : String) : Option Builtin :=
  match name with
  | ":" => some fun _ => return 0
  | "true" => some fun _ => return 0
  | "false" => some fun _ => return 1
  | "echo" => some echo
  | "printf" => some printFormatted
  | "test" => some (answerCondition false)
  | "[" => some (answerCondition true)
  | "read" => some readLineInto
  | "export" => some exportVariables
  | "readonly" => some fixVariables
  | "local" => some localVariables
  | "unset" => some dropVariables
  | "set" => some changeSettings
  | "shift" => some shiftArguments
  | "getopts" => some readNextOption
  | "alias" => some giveAliases
  | "unalias" => some dropAliases
  | "cd" => some changeDirectory
  | "chdir" => some changeDirectory
  | "pwd" => some tellDirectory
  | "umask" => some maskPermissions
  | "ulimit" => some tellLimits
  | "times" => some tellTimes
  | "type" => some describeAll
  | "hash" => some lookUpPrograms
  | "kill" => some sendSignals
  | "trap" => some trap
  | "jobs" => some tellJobs
  | "fg" => some moveJob
  | "bg" => some moveJob
  | "wait" => some waitForJobs
  | "break" => some (leaveLoops .leavesLoops)
  | "continue" => some (leaveLoops .nextTurn)
  | "return" => some leaveFunction
  | "exit" => some leaveShell
  | _ => none

end Shipyard.Shell
