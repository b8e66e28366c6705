import Shipyard.Shell.Builtin.Basic
import Shipyard.Shell.Job

/-!
# Commands on processes

The commands of the shell on signals and jobs.
-/

namespace Shipyard.Shell

/-! ## Signals -/

/-- The number of a signal, given by number or by name, from a least number on. -/
def signalOf? (least : Nat) (text : String) : Option Nat :=
  let cs := text.toList
  if cs ≠ [] && cs.all Char.isDigit then
    let n := decimalOf cs
    if n < Unix.signalCount then some n else none
  else
    match Unix.signalNumber? (String.ofList (cs.map Char.toUpper)) with
    | some n => if least ≤ n then some n else none
    | none => none

/-- How `kill` is used. -/
def killUsage : String :=
  "Usage: kill [-s sigspec | -signum | -sigspec] [pid | job]... or\nkill -l [exitstatus]"

/-- Tells the names of signals. -/
def tellSignals : Builtin := fun arguments => do
  match arguments with
  | [] =>
    emitLine "0"
    (List.range (Unix.signalCount - 1)).forM fun n => emitLine (Unix.signalName (n + 1))
    return 0
  | argument :: _ =>
    let n ← demandNumber argument
    let n := if 128 < n then n - 128 else n
    if 0 < n && n < Unix.signalCount then
      emitLine (Unix.signalName n)
      return 0
    else abort ("invalid signal number or exit status: " ++ argument)

/-- Sends a signal to what an argument stands for. -/
def sendTo (signal : Nat) (argument : String) : Effect Nat := do
  let sent ← match argument.toList with
    | '%' :: _ =>
      match (← get).jobNamed argument with
      | .ok _ => pure (Except.error Errno.noProcess)
      | .error message => abort message
    | '-' :: rest => do
      discard (demandNumber (String.ofList rest))
      pure (.error .noProcess)
    | _ => do
      let pid ← demandNumber argument
      if pid = 0 then ask (Unix.sendToAll signal) else ask (Unix.sendSignal pid signal)
  match sent with
  | .ok () => return 0
  | .error errno =>
    complain (errno.words ++ "\n")
    return 1

/-- The options of `kill` that are no signals: whether signals are to be told, and the signal. -/
def killOptions : List (Char × String) → Effect (Bool × Option Nat)
  | [] => return (false, none)
  | ('s', name) :: rest => do
    match signalOf? 1 name with
    | none => abort ("invalid signal number or name: " ++ name)
    | some n =>
      let (list, later) ← killOptions rest
      return (list, some (later.getD n))
  | _ :: rest => return (true, (← killOptions rest).2)

/-- Sends signals, or tells their names. -/
def sendSignals : Builtin := fun arguments => do
  let ((isList, signal?), rest) ← match arguments with
    | [] => abort killUsage
    | first :: rest =>
      match first.toList with
      | '-' :: name =>
        match signalOf? 1 (String.ofList name) with
        | some n => pure ((false, some n), rest)
        | none =>
          let (options, rest) ← readOptions "l" "s" arguments
          pure (← killOptions options, rest)
      | _ => pure ((false, none), arguments)
  if isList then
    if signal?.isSome then abort killUsage else tellSignals rest
  else if rest = [] then abort killUsage
  else
    let codes ← rest.mapM (sendTo (signal?.getD 15))
    return codes.foldl max 0

/-- Says what is done when a signal comes. A signal that the shell was started to ignore stays
ignored. -/
def setTrap (signal : Nat) (action? : Option String) : Effect Unit := do
  let s ← get
  let isOwn := (s.traps.lookup signal).isSome
  let others := s.traps.filter (·.1 ≠ signal)
  let traps := match action? with
    | some action => others ++ [(signal, action)]
    | none => others
  set { s with traps }
  if signal ≠ 0 then
    let before ← askD .usual (Unix.dispositionOf signal)
    if isOwn || before ≠ .ignored then
      tell (Unix.dispose signal (match action? with
        | none => .usual
        | some "" => .ignored
        | some _ => .caught))

/-- Forgets what is done when signals come, as a new shell does; those that are ignored stay so. -/
def forgetTraps : Effect Unit := do
  let s ← get
  let (kept, forgotten) := s.traps.partition (·.2 = "")
  set { s with traps := kept }
  forgotten.forM fun (signal, _) =>
    if signal = 0 then pure () else tell (Unix.dispose signal .usual)

/-- Says for each signal what is done when it comes. -/
def setTraps (action? : Option String) : List String → Effect Nat
  | [] => return 0
  | name :: rest => do
    match signalOf? 0 name with
    | none =>
      say ("trap: " ++ name ++ ": bad trap\n")
      return 1
    | some signal =>
      setTrap signal action?
      setTraps action? rest

/-- Says what is done when signals come, or tells it. -/
def trap : Builtin := fun arguments => do
  match ← withoutOptions arguments with
  | [] =>
    let ordered := (← get).traps.mergeSort fun a b => a.1 ≤ b.1
    ordered.forM fun (signal, action) =>
      emitLine ("trap -- " ++ quotedWord action ++ " " ++ Unix.signalName signal)
    return 0
  | action :: names =>
    let isNumber := action ≠ "" && action.toList.all Char.isDigit && (signalOf? 0 action).isSome
    if names = [] || isNumber then setTraps none (action :: names)
    else setTraps (if action = "-" then none else some action) names

/-! ## Jobs -/

/-- Tells a job, and forgets it if it has ended. -/
def tellJob (options : List (Char × String)) (j : Job) : Effect Unit := do
  let jobs := (← get).jobs
  let place := jobs.findIdx? fun other => other.number = j.number
  let mark := if place = some 0 then '+' else if place = some 1 then '-' else ' '
  match options.getLast?.map (·.1) with
  | some 'p' => emitLine (toString ((j.members.map (·.pid)).headD 0))
  | option =>
    emit (j.lines mark (option = some 'l'))
    modify fun s => { s with jobs := s.jobs.filter fun other =>
      other.number ≠ j.number || !j.isDone }

/-- The job that a word stands for. -/
def demandJob (name : String) : Effect Job := do
  match (← get).jobNamed name with
  | .ok j => return j
  | .error message => abort message

/-- Tells jobs. -/
def tellJobs : Builtin := fun arguments => do
  let (options, names) ← readOptions "lp" "" arguments
  learnEnds Unix.Program.patience
  if names = [] then (← get).jobs.forM (tellJob options)
  else names.forM fun name => do tellJob options (← demandJob name)
  return 0

/-- Refuses to bring a job to the front or to the back. -/
def moveJob : Builtin := fun arguments => do
  let names ← withoutOptions arguments
  discard (demandJob (names.headD ""))
  abort ("job " ++ names.headD "(null)" ++ " not created under job control")

/-- The number of a signal that has come, as long as it was not looked at. -/
def pendingSignal : Effect Nat := do
  return (← askD [] Unix.pendingSignals).headD 0

/-- Waits for the job of a process or of a word, and gives its code. -/
def waitFor (name : String) : Effect (Nat × Bool) := do
  let job? ← match name.toList with
    | '%' :: _ => some <$> demandJob name
    | _ =>
      let pid ← demandNumber name
      pure ((← get).jobs.find? fun j => (j.members.getLast?.map (·.pid)) = some pid)
  match job? with
  | none => return (127, false)
  | some j =>
    if ← awaitJob .untilSignal j.number Unix.Program.patience then return (0, true)
    else
      noteTold j.number
      return ((((← get).job? j.number).map (·.code)).getD 127, false)

/-- Waits for jobs one after the other; the code is that of the last one. -/
def waitForEach : List String → Nat → Effect (Nat × Bool)
  | [], code => return (code, false)
  | name :: rest, _ => do
    let (code, isInterrupted) ← waitFor name
    if isInterrupted then return (code, true) else waitForEach rest code

/-- Waits for jobs. -/
def waitForJobs : Builtin := fun arguments => do
  let names ← withoutOptions arguments
  let (code, isInterrupted) ←
    if names = [] then do pure (0, ← awaitAll Unix.Program.patience) else waitForEach names 0
  if isInterrupted then return 128 + (← pendingSignal) else return code

end Shipyard.Shell
