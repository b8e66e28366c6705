import Shipyard.Path
import Shipyard.Text.Blank

/-!
# Commands

A command is a program with its arguments, where it runs, with which variables, and how long it may
take. One that fails leaves its exit code and what it wrote; the end of that is what a user gets to
see.
-/

namespace Shipyard

/-- Variables with their values, each variable once. -/
abbrev Environment := List (String × String)

namespace Environment

/-- The value of a variable. -/
def find? (env : Environment) (name : String) : Option String := List.lookup name env

/-- The environment in which a variable has a value. -/
def set : Environment → String → String → Environment
  | [], name, value => [(name, value)]
  | entry :: rest, name, value =>
    if entry.1 = name then (name, value) :: rest else entry :: set rest name value

/-- The environment with further variables; of variables with the same name the last one counts. -/
def extend (env : Environment) (more : List (String × String)) : Environment :=
  more.foldl (fun e entry => e.set entry.1 entry.2) env

/-- The value of a variable that is set and not empty. -/
def nonempty? (env : Environment) (name : String) : Option String :=
  (env.find? name).filter (· ≠ "")

end Environment

/-- A program that is to be run. -/
structure Command where
  /-- the program and its arguments -/
  argv : List String
  /-- where it runs -/
  cwd : Path
  /-- its variables; without any it has those of its caller -/
  env : Option Environment
  /-- how many seconds it may take -/
  timeout : Nat
  deriving DecidableEq, Repr

/-- The arguments of a command on one line. -/
def commandLine (argv : List String) : String := String.intercalate " " argv

/-- A command that failed. -/
structure CommandFailure where
  /-- the program and its arguments -/
  argv : List String
  /-- the exit code; -1 if it never ran or took too long -/
  code : Int
  /-- what it wrote -/
  output : String
  /-- what it wrote about errors -/
  errors : String
  deriving DecidableEq, Repr

/-- The last items of a list: `count` of them. No items wanted means all, and a negative count drops
that many from the front. -/
def lastItems {α : Type} (count : Int) (items : List α) : List α :=
  if 0 < count then items.drop (items.length - count.toNat) else items.drop (-count).toNat

namespace CommandFailure

/-- How many lines of the output of a command a user gets to see. -/
def tailLength : Int := 20

/-- What is told of a failure: what the command wrote about errors, or else what it wrote. -/
def told (e : CommandFailure) : String :=
  if Text.strip e.errors ≠ "" then Text.strip e.errors else Text.strip e.output

/-- The last lines of what is told of a failure. -/
def tail (e : CommandFailure) (count : Int) : String :=
  String.intercalate "\n" (lastItems count (Text.lines e.told))

/-- The last lines as a hint, if there are any. -/
def hint (e : CommandFailure) : Option String :=
  if e.tail tailLength = "" then none else some (e.tail tailLength)

/-- A failure on one line, with the first three words of the command. -/
def summary (e : CommandFailure) : String :=
  commandLine (e.argv.take 3) ++ (if 3 < e.argv.length then " ..." else "") ++
    s!" failed (exit {e.code})"

end CommandFailure

end Shipyard
