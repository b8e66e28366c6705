import Shipyard.Unix.Streams

/-!
# Processes of a system

Requests about processes: new ones, the ends of children, signals, time, and the program that a file
is. A file that may be executed is a program of the system, or a script that names its interpreter.
-/

namespace Shipyard.Unix

/-! ## Children -/

/-- The kernel with a copy of a process as its child, and the number of the child. -/
def Kernel.fork (k : Kernel) (pid : Pid) : Pid × Kernel :=
  match k.process? pid with
  | none => (0, k)
  | some p =>
    let child := { p with parent := pid, pending := [], alarm := none, ending := none }
    (firstPid + k.processes.size, { k with processes := k.processes.push child })

/-- The children of a process whose ends were not asked for, with their numbers. -/
def Kernel.childrenOf (k : Kernel) (pid : Pid) : List (Pid × Process) :=
  (k.processes.toList.zipIdx.map fun (p, i) => (firstPid + i, p)).filter fun (_, p) =>
    p.parent = pid && !p.isReaped

/-- How long a process waits for the end of a child. -/
inductive Wait where
  /-- not at all -/
  | never
  /-- until a signal comes that it takes note of -/
  | untilSignal
  /-- in any case -/
  | always
  deriving DecidableEq, Repr

/-- The end of a child, if one has ended. -/
def awaitChild (wait : Wait) : Request (Option (Pid × Ending)) := do
  let k ← getThe Kernel
  let children := k.childrenOf (← readThe Pid)
  match children.findSome? fun (pid, p) => p.ending.map fun e => (pid, e) with
  | some (pid, ending) =>
    modifyThe Kernel (·.modifyProcess pid fun p => { p with isReaped := true })
    return some (pid, ending)
  | none =>
    if children = [] then throw .noChild
    else
      match wait with
      | .never => return none
      | .untilSignal => laterOrInterrupted
      | .always => later

/-- The number of the process that asks. -/
def ownPid : Request Pid := readThe Pid

/-- The number of the parent of the process that asks. -/
def parentPid : Request Pid := return (← ownProcess).parent

/-! ## Signals -/

/-- Sends a signal to a process; the signal without a name only asks whether it is there. -/
def sendSignal (pid : Pid) (signal : Nat) : Request Unit := do
  match (← getThe Kernel).process? pid with
  | none => throw .noProcess
  | some p =>
    if p.isReaped then throw .noProcess
    else if signal = 0 then return ()
    else modifyThe Kernel (·.deliver pid signal)

/-- Sends a signal to all processes. -/
def sendToAll (signal : Nat) : Request Unit := do
  for (pid, _) in (← getThe Kernel).alive do
    if signal ≠ 0 then modifyThe Kernel (·.deliver pid signal)

/-- Says what to do when a signal comes. -/
def dispose (signal : Nat) (disposition : Disposition) : Request Unit :=
  modifyOwn fun p =>
    let others := p.dispositions.filter (·.1 ≠ signal)
    { p with
      dispositions := if disposition = .usual then others else (signal, disposition) :: others }

/-- What is done when a signal comes. -/
def dispositionOf (signal : Nat) : Request Disposition :=
  return ((← ownProcess).dispositions.lookup signal).getD .usual

/-- The signals that have come and were not taken note of yet. -/
def pendingSignals : Request (List Nat) := return (← ownProcess).pending

/-- The signals that have come since this was asked last. -/
def takeSignals : Request (List Nat) := do
  let pending := (← ownProcess).pending
  if pending ≠ [] then modifyOwn fun p => { p with pending := [] }
  return pending

/-! ## Time -/

/-- The time now, in parts of a second. -/
def timeNow : Request Int := return (← getThe Kernel).now

/-- Waits until a time, in parts of a second since the beginning. -/
def sleepUntil (time : Nat) : Request Unit := do
  if time ≤ (← getThe Kernel).clock then modifyOwn fun p => { p with alarm := none }
  else if (← ownProcess).pending ≠ [] then
    modifyOwn fun p => { p with alarm := none }
    throw .interrupted
  else
    modifyOwn fun p => { p with alarm := some time }
    later

/-- The end of a child, or none if none has ended until a time. -/
def awaitChildUntil (time : Nat) : Request (Option (Pid × Ending)) := do
  match ← awaitChild .never with
  | some ended =>
    modifyOwn fun p => { p with alarm := none }
    return some ended
  | none =>
    if time ≤ (← getThe Kernel).clock then
      modifyOwn fun p => { p with alarm := none }
      return none
    else
      modifyOwn fun p => { p with alarm := some time }
      later

/-- The time that has gone by since the beginning, in parts of a second. -/
def elapsed : Request Nat := return (← getThe Kernel).clock

/-! ## Properties of a process -/

/-- The permissions that new files do not get. -/
def ownMask : Request Nat := return (← ownProcess).mask

/-- Says which permissions new files do not get. -/
def setMask (mask : Nat) : Request Unit := modifyOwn fun p => { p with mask }

/-! ## Programs -/

/-- A program that starts. -/
structure Image where
  /-- the name of a program of the system -/
  program : String
  /-- its name and its arguments as it gets them -/
  argv : List String
  /-- its variables, in their order -/
  environment : List (String × String)
  deriving DecidableEq, Repr

/-- The most bytes of the line that names an interpreter. -/
def maxInterpreterLine : Nat := 255

/-- The interpreter that the first line of a script names, and its argument. A name whose end is not
there is none. -/
def interpreterOf (text : String) : Option (String × List String) :=
  match text.toList with
  | '#' :: '!' :: rest =>
    let isBlank := fun (c : Char) => c = ' ' || c = '\t'
    let line := (rest.takeWhile (· ≠ '\n')).dropWhile isBlank
    let interpreter := line.takeWhile fun c => !isBlank c
    let behind := line.drop interpreter.length
    let argument := behind.dropWhile isBlank
    let argument := (argument.reverse.dropWhile isBlank).reverse
    let isCut := maxInterpreterLine ≤ text.length && !rest.contains '\n' && behind = []
    if interpreter = [] || isCut then none
    else some (String.ofList interpreter, if argument = [] then [] else [String.ofList argument])
  | _ => none

/-- How many scripts may be the interpreters of each other. -/
def interpreterDepth : Nat := 4

/-- The program and the arguments that start when a file is executed, with at most so many
interpreters in between. -/
def programAt : Nat → String → List String → Request (String × List String)
  | depth, path, argv => do
    let (_, i) ← fileAt path true
    match i.content with
    | .directory _ _ => throw .accessDenied
    | .program name => return (name, argv)
    | .file bytes =>
      if !i.mode.testBit 6 && !i.mode.testBit 3 && !i.mode.testBit 0 then throw .accessDenied
      else
        match depth, interpreterOf (ByteText.slice bytes 0 maxInterpreterLine) with
        | depth + 1, some (interpreter, options) =>
          programAt depth interpreter (interpreter :: options ++ path :: argv.drop 1)
        | _, _ => throw .execFormat
    | _ => throw .accessDenied

/-- The program that starts when a file is executed. -/
def imageAt (path : String) (argv : List String) (environment : List (String × String)) :
    Request Image := do
  let (program, argv) ← programAt interpreterDepth path argv
  return ⟨program, argv, environment⟩

/-- Makes the process ready to become another program: what only the old one wanted is forgotten. -/
def forgetOld : Request Unit :=
  modifyOwn fun p =>
    { p with
      descriptors := p.descriptors.filter fun d => !p.transient.contains d.1
      transient := []
      pending := []
      dispositions := p.dispositions.filter (·.2 = .ignored) }

end Shipyard.Unix
