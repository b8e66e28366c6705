import Shipyard.Shell.State

/-!
# Jobs of a shell

The processes that a shell has started and whose ends it has not told yet. The shell learns of the
ends of its children one after the other; it waits for a job by asking for the ends of children
until all processes of the job have ended.
-/

namespace Shipyard.Shell

open Unix (Pid Ending Wait)

/-- The code that stands for an end. -/
def codeOfEnding : Ending → Nat
  | .exited code => code
  | .killed signal => 128 + signal

namespace Job

/-- Whether all processes have ended. -/
def isDone (j : Job) : Bool := j.members.all (·.ending.isSome)

/-- The end of the last process. -/
def ending? (j : Job) : Option Ending := j.members.getLast?.bind (·.ending)

/-- The code of the last process. -/
def code (j : Job) : Nat := (j.ending?.map codeOfEnding).getD 0

/-- Whether a process belongs to a job. -/
def has (j : Job) (pid : Pid) : Bool := j.members.any (·.pid = pid)

/-- With the end of a process. -/
def withEnd (j : Job) (pid : Pid) (ending : Ending) : Job :=
  { j with
    members := j.members.map fun m => if m.pid = pid then { m with ending := some ending } else m }

end Job

/-! ## The list of jobs -/

/-- The least number from one on that no job has. The fuel bounds the search. -/
def freeJobNumber (jobs : List Job) : Nat → Nat → Nat
  | 0, n => n
  | fuel + 1, n => if jobs.any (·.number = n) then freeJobNumber jobs fuel (n + 1) else n

/-- The jobs without the first one that has ended and was told of, whose number another one takes.
-/
def withoutToldJob (jobs : List Job) : List Job :=
  match ((jobs.filter fun j => j.isDone && j.isTold).map (·.number)).min? with
  | some n => jobs.filter (·.number ≠ n)
  | none => jobs

/-- Adds a job of processes, and gives its number. -/
def addJob (pids : List Pid) (isBackground : Bool) : Effect Nat := do
  let s ← get
  let jobs := withoutToldJob s.jobs
  let number := freeJobNumber jobs (jobs.length + 1) 1
  let members := pids.map fun pid => ⟨pid, none⟩
  let latest := if isBackground then pids.getLast? else s.latest
  set { s with jobs := ⟨number, members, isBackground, false⟩ :: jobs, latest }
  return number

/-- The job with a number. -/
def State.job? (s : State) (number : Nat) : Option Job := s.jobs.find? (·.number = number)

/-- Forgets a job. -/
def forgetJob (number : Nat) : Effect Unit :=
  modify fun s => { s with jobs := s.jobs.filter (·.number ≠ number) }

/-- Notes that the end of a job was told. -/
def noteTold (number : Nat) : Effect Unit :=
  modify fun s => { s with
    jobs := s.jobs.map fun j => if j.number = number then { j with isTold := true } else j }

/-! ## Waiting -/

/-- Signals whose effect a shell does not tell. -/
def quietSignals : List Nat := [2, 13]

/-- What a shell tells of the end of a process that it waits for. -/
def endMessage : Ending → String
  | .exited _ => ""
  | .killed signal => if quietSignals.contains signal then "" else Unix.signalWords signal ++ "\n"

/-- What came of asking for the end of a child. -/
inductive Learned where
  /-- a child has ended -/
  | anEnd
  /-- no child has ended -/
  | nothing
  /-- a signal has come -/
  | aSignal
  deriving DecidableEq, Repr

/-- Asks for the end of a child. The end of a process of the job that is waited for is told. -/
def learnEnd (wait : Wait) (number : Option Nat) : Effect Learned := do
  match ← ask (Unix.awaitChild wait) with
  | .error .interrupted => return .aSignal
  | .error _ => return .nothing
  | .ok none => return .nothing
  | .ok (some (pid, ending)) =>
    let isAwaited := match number.bind (← get).job? with
      | some j => j.has pid
      | none => false
    modify fun s => { s with jobs := s.jobs.map fun j => j.withEnd pid ending }
    if isAwaited && endMessage ending ≠ "" then say (endMessage ending)
    return .anEnd

/-- Learns of all ends that have happened. -/
def learnEnds : Nat → Effect Unit
  | 0 => return ()
  | fuel + 1 => do
    if (← learnEnd .never none) = .anEnd then learnEnds fuel

/-- Waits until all processes of a job have ended, and tells whether a signal came before that. -/
def awaitJob (wait : Wait) (number : Nat) : Nat → Effect Bool
  | 0 => diverge
  | fuel + 1 => do
    match (← get).job? number with
    | none => return false
    | some j =>
      if j.isDone then return false
      else
        match ← learnEnd wait (some number) with
        | .anEnd => awaitJob wait number fuel
        | .nothing => return false
        | .aSignal => return true

/-- Waits for a job and forgets it. The code is that of its last process. -/
def finishJob (number : Nat) : Effect Nat := do
  discard (awaitJob .always number Unix.Program.patience)
  let code := (((← get).job? number).map (·.code)).getD 0
  forgetJob number
  return code

/-- Waits until all jobs have ended, and tells whether a signal came before that. -/
def awaitAll : Nat → Effect Bool
  | 0 => diverge
  | fuel + 1 => do
    if (← get).jobs.all (·.isDone) then
      modify fun s => { s with jobs := s.jobs.map fun j => { j with isTold := true } }
      return false
    else
      match ← learnEnd .untilSignal none with
      | .anEnd => awaitAll fuel
      | .nothing => return false
      | .aSignal => return true

/-! ## Names of jobs -/

/-- The job that a word behind a percent sign stands for, or what is wrong. -/
def State.jobNamed (s : State) (name : String) : Except String Job :=
  let demand := fun (j? : Option Job) (message : String) => match j? with
    | some j => Except.ok j
    | none => .error message
  let behind := name.toList.drop 1
  if name ≠ "" && name.toList.head? ≠ some '%' then .error ("No such job: " ++ name)
  else if behind = [] || behind = ['+'] || behind = ['%'] then
    demand s.jobs.head? "No current job"
  else if behind = ['-'] then demand (s.jobs.drop 1).head? "No previous job"
  else if behind.all Char.isDigit then demand (s.job? (decimalOf behind)) ("No such job: " ++ name)
  else .error ("No such job: " ++ name)

/-- Where the lines end in which jobs are told. -/
def jobWidth : Nat := 33

/-- A text with a blank behind it at least, and as many as make it as wide as a line of a job. -/
def jobColumn (text : String) : String :=
  text ++ String.ofList (List.replicate (max 1 (jobWidth - text.length)) ' ')

/-- What a job does. -/
def Job.status (j : Job) : String :=
  match (if j.isDone then j.ending? else none) with
  | none => "Running"
  | some (.exited 0) => "Done"
  | some (.exited code) => "Done(" ++ toString code ++ ")"
  | some (.killed signal) => Unix.signalWords signal

/-- The lines in which a job is told, with the numbers of its processes if they are asked for. The
mark tells the latest jobs from the others. -/
def Job.lines (j : Job) (mark : Char) (withPids : Bool) : String :=
  let front := "[" ++ toString j.number ++ "] " ++ String.ofList [mark] ++ " "
  let others := j.members.drop 1
  if withPids then
    let pids := j.members.map fun m => toString m.pid ++ " "
    let indent := String.ofList (List.replicate front.length ' ')
    let first := jobColumn (front ++ pids.headD "" ++ j.status)
    let further := (pids.drop 1).map fun pid => jobColumn (indent ++ pid)
    String.intercalate " |\n" (first :: further) ++ "\n"
  else jobColumn (front ++ j.status) ++ String.join (others.map fun _ => " | ") ++ "\n"

end Shipyard.Shell
