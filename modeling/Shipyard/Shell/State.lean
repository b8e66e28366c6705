import Shipyard.Shell.Parser
import Shipyard.Unix.Program

/-!
# The state of a shell

What a running shell knows, and the computations on it. A shell is a program: an `Effect` changes
the state of the shell and asks the system for everything else. It may end before its end, because
a loop or a function is left, because something is wrong, or because the shell ends.
-/

namespace Shipyard.Shell

open Unix (Pid Ending Request)

/-- A variable. -/
structure Entry where
  /-- its value, if it has one -/
  value : Option String
  /-- whether programs get it -/
  isExported : Bool
  /-- whether it keeps its value -/
  isFixed : Bool
  deriving DecidableEq, Repr

/-- A process that the shell has started. -/
structure Member where
  /-- its number -/
  pid : Pid
  /-- how it has ended, as far as the shell knows -/
  ending : Option Ending
  deriving DecidableEq, Repr

/-- Processes that were started together. -/
structure Job where
  /-- the number of the job -/
  number : Nat
  /-- the processes, in the order of the pipeline -/
  members : List Member
  /-- whether the shell was told to let it run -/
  isBackground : Bool
  /-- whether its end was told -/
  isTold : Bool
  deriving DecidableEq, Repr

/-- What a function has changed for itself, as it was before. -/
structure Locals where
  /-- variables, the latest first -/
  entries : List (String × Option Entry)
  /-- the options, if the function has its own -/
  options : Option (List Char)
  deriving Repr

/-- Where the reading of options stands. -/
structure OptionPlace where
  /-- the number of the next argument -/
  index : Nat
  /-- how far the argument before that has been read, if it has not been read to its end -/
  offset : Option Nat
  deriving DecidableEq, Repr

/-- What a shell knows. -/
structure State where
  /-- the name of the shell or of its script -/
  name : String
  /-- the arguments -/
  arguments : List String
  /-- the variables, in the order in which they came -/
  entries : List (String × Entry)
  /-- the functions, the latest first -/
  functions : List (String × Statement)
  /-- the texts that words stand for -/
  aliases : List (String × String)
  /-- what to do when a signal comes, or at the end -/
  traps : List (Nat × String)
  /-- the letters of the options that are on -/
  options : List Char
  /-- the code of the latest command -/
  code : Nat
  /-- the code of the latest command whose output was taken -/
  capturedCode : Nat
  /-- the number of the line -/
  line : Nat
  /-- what running functions have changed for themselves, the innermost first -/
  locals : List Locals
  /-- how many loops are running -/
  loops : Nat
  /-- the code that is kept while a trap runs -/
  trapCode : Option Nat
  /-- the jobs, the latest first -/
  jobs : List Job
  /-- the number of the latest process that was let run -/
  latest : Option Pid
  /-- where the reading of options stands -/
  optionPlace : OptionPlace
  /-- the texts of the scripts that follow behind lines -/
  documents : Array Word
  /-- the number of the process of the shell -/
  pid : Pid
  /-- the command of the shell that runs -/
  command : Option String
  /-- the current directory as it was gone to -/
  directory : String
  /-- the paths where programs were found -/
  found : List (String × String)
  /-- whether it is being traced, so that the trace itself is not -/
  isTracing : Bool
  /-- whether a command of the shell could not write -/
  hasFailedOutput : Bool

/-- Why a computation of a shell does not go on. -/
inductive Halt where
  /-- some loops end -/
  | leavesLoops (n : Nat)
  /-- the next turn of a loop begins -/
  | nextTurn (n : Nat)
  /-- a function or a script ends -/
  | leavesFunction
  /-- something is wrong -/
  | failed
  /-- the shell ends -/
  | leavesShell
  deriving DecidableEq, Repr

/-- A computation of a shell. -/
abbrev Effect (α : Type) := ExceptT Halt (StateT State Unix.Program) α

/-- A part of a program as a computation of a shell. -/
def run {α : Type} (p : Unix.Program α) : Effect α := ExceptT.lift (StateT.lift p)

/-- Asks the system something. -/
def ask {α : Type} (r : Request α) : Effect (Except Errno α) := run (Unix.Program.ask r)

/-- Asks the system something that is not refused. -/
def askD {α : Type} (default : α) (r : Request α) : Effect α := run (Unix.Program.askD default r)

/-- Asks the system something whose answer does not matter. -/
def tell (r : Request Unit) : Effect Unit := run (Unix.Program.request r)

/-- A computation that goes on for ever. -/
def diverge {α : Type} : Effect α := run Unix.Program.diverge

/-- A computation whose halt is a value. -/
def attempt {α : Type} (e : Effect α) : Effect (Except Halt α) :=
  tryCatch (do return .ok (← e)) fun halt => return .error halt

/-- A computation, and another one behind it however it ends. -/
def andFinally {α : Type} (body : Effect α) (after : Effect Unit) : Effect α := do
  let result ← attempt body
  after
  match result with
  | .ok a => return a
  | .error halt => throw halt

/-! ## Messages and ends -/

/-- Writes a text to a stream. -/
def write (stream : Nat) (text : String) : Effect (Except Errno Unit) :=
  run (Unix.Program.write stream text)

/-- Writes a text to the output of a command of the shell. -/
def emit (text : String) : Effect Unit := do
  match ← write 1 text with
  | .ok () => return ()
  | .error _ => modify fun s => { s with hasFailedOutput := true }

/-- Writes a line to the output of a command of the shell. -/
def emitLine (line : String) : Effect Unit := emit (line ++ "\n")

/-- Writes a message to the stream for errors. -/
def say (text : String) : Effect Unit := discard (write 2 text)

/-- Writes a message of the shell. -/
def complain (message : String) : Effect Unit := do
  let s ← get
  let command := match s.command with
    | some name => name ++ ": "
    | none => ""
  say (s.name ++ ": " ++ toString s.line ++ ": " ++ command ++ message ++ "\n")

/-- Sets the code. -/
def finishWith (code : Nat) : Effect Unit := modify fun s => { s with code }

/-- Something is wrong. -/
def abort {α : Type} (message : String) : Effect α := do
  complain message
  finishWith 2
  throw .failed

/-- Ends the shell with a code. -/
def leaveWith {α : Type} (code : Nat) : Effect α := do
  modify fun s => { s with code, trapCode := s.trapCode.map fun _ => code }
  throw .leavesShell

/-! ## Variables -/

/-- What is known of a variable. -/
def State.entryOf (s : State) (name : String) : Entry :=
  (s.entries.lookup name).getD ⟨none, false, false⟩

/-- The value of a variable. -/
def State.value? (s : State) (name : String) : Option String :=
  (s.entries.lookup name).bind (·.value)

/-- The characters that fields end at. -/
def State.separators (s : State) : List Char := ((s.value? "IFS").getD " \t\n").toList

/-- The state with another entry for a variable, which keeps its place. -/
def State.putEntry (s : State) (name : String) (entry : Entry) : State :=
  if (s.entries.lookup name).isSome then
    { s with entries := s.entries.map fun old => if old.1 = name then (name, entry) else old }
  else { s with entries := s.entries ++ [(name, entry)] }

/-- The state without a variable. -/
def State.dropEntry (s : State) (name : String) : State :=
  { s with entries := s.entries.filter (·.1 ≠ name) }

/-- Whether an option is on. -/
def State.hasOption (s : State) (letter : Char) : Bool := s.options.contains letter

/-- The state in which a variable has got a value, with what the shell itself takes from it. -/
def State.noticing (s : State) (name : String) : State :=
  if name = "OPTIND" then
    let digits := ((s.value? name).getD "").toList.takeWhile Char.isDigit
    { s with optionPlace := ⟨max 1 (decimalOf digits), none⟩ }
  else if name = "PATH" then { s with found := [] }
  else s

/-- Gives a variable a value. -/
def assign (name value : String) : Effect Unit := do
  let s ← get
  let old := s.entryOf name
  let isExported := old.isExported || s.hasOption 'a'
  if old.isFixed then abort (name ++ ": is read only")
  else set ((s.putEntry name { old with value := some value, isExported }).noticing name)

/-- Takes a variable away. -/
def unassign (name : String) : Effect Unit := do
  let s ← get
  if (s.entryOf name).isFixed then abort (name ++ ": is read only")
  else set ((s.dropEntry name).noticing name)

/-- How many chains the table of the variables has. -/
def chainCount : Nat := 39

/-- The chain of a variable in the table. -/
def chainOf (name : String) : Nat :=
  (name.toList.foldl (fun n c => n + c.toNat) (16 * (name.toList.headD '\x00').toNat)) % chainCount

/-- The variables that programs get, chain by chain. -/
def State.exported (s : State) : List (String × String) :=
  let given := s.entries.filterMap fun (name, entry) =>
    if entry.isExported then entry.value.map fun value => (name, value) else none
  (List.range chainCount).flatMap fun chain => given.filter fun entry => chainOf entry.1 = chain

/-! ## Parameters -/

/-- The letters of the options in the order in which they are told. -/
def optionLetters : List Char := "ubaCEVvxsnmiIfe".toList

/-- The options that are on, as they are told. -/
def State.optionText (s : State) : String := String.ofList (optionLetters.filter s.options.contains)

/-- The value of a parameter other than all arguments. -/
def State.parameter? (s : State) (name : String) : Option String :=
  match name with
  | "?" => some (toString s.code)
  | "#" => some (toString s.arguments.length)
  | "$" => some (toString s.pid)
  | "!" => s.latest.map toString
  | "-" => some s.optionText
  | _ =>
    match name.toNat? with
    | some 0 => some s.name
    | some n => s.arguments[n - 1]?
    | none => s.value? name

/-- Whether a parameter stands for all arguments. -/
def isAllArguments (name : String) : Bool := name = "@" || name = "*"

end Shipyard.Shell
