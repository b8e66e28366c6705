import Shipyard.Unix.Processes

/-!
# Programs of a system

What a process does, as a tree: it asks the kernel something and goes on with the answer, makes
another process, becomes another program, or ends. `Program α` is a part of a process that gives an
`α`; it is written as what the process does for everything that may come behind it, so that parts
are put together without being walked through again.

The processes take turns. In its turn a process goes on until it has to wait, has ended, or has done
enough for once. A process that makes another one goes on first. When all processes wait, the clock
goes on to the time when the first of them wakes up. What a process does costs hardly any time, but
some, so that even a process that never waits comes to a time limit. Fuel bounds how much all
processes do together.
-/

namespace Shipyard.Unix

/-- What a process does from here on. -/
inductive Task : Type 1 where
  /-- it ends with a code -/
  | ended (code : Nat)
  /-- it asks something and goes on with the answer -/
  | ask {α : Type} (r : Request α) (next : Except Errno α → Task)
  /-- it makes a process and goes on with the number of that -/
  | fork (child : Task) (next : Pid → Task)
  /-- it becomes another program -/
  | become (image : Image)
  /-- it goes on for ever -/
  | endless

/-- A part of a process. -/
def Program (α : Type) : Type 1 := (α → Task) → Task

namespace Program

variable {α β : Type}

/-- Gives a value. -/
protected def pure (a : α) : Program α := fun next => next a

/-- Goes on with a value. -/
protected def bind (p : Program α) (f : α → Program β) : Program β :=
  fun next => p fun a => f a next

instance : Monad Program where
  pure := Program.pure
  bind := Program.bind

/-- The process that does a part and then ends with the code that comes out. -/
def task (p : Program Nat) : Task := p .ended

/-- Ends the process. -/
def exit (code : Nat) : Program α := fun _ => .ended code

/-- Goes on for ever. -/
def diverge : Program α := fun _ => .endless

/-- Asks the kernel something. -/
def ask (r : Request α) : Program (Except Errno α) := fun next => .ask r next

/-- Asks something that is not refused; a value stands for the answer if it is. -/
def askD (default : α) (r : Request α) : Program α := do
  match ← ask r with
  | .ok a => return a
  | .error _ => return default

/-- Asks something whose answer does not matter. -/
def request (r : Request α) : Program Unit := fun next => .ask r fun _ => next ()

/-- Makes a process. -/
def fork (child : Task) : Program Pid := fun next => .fork child next

/-- Becomes another program. -/
def become (image : Image) : Program α := fun _ => .ask forgetOld fun _ => .become image

/-- Lets other processes go on. -/
def tick : Program Unit := request (pure ())

/-! ## Streams -/

/-- How much is read at once. -/
def blockSize : Nat := 131072

/-- Writes a text, and tells why not all of it could be written. The fuel bounds how often there is
space for a part of it only. -/
def writeParts (descriptor : Nat) : Nat → String → Program (Except Errno Unit)
  | 0, _ => return .ok ()
  | fuel + 1, text => do
    if text = "" then return .ok ()
    match ← ask (Unix.write descriptor text) with
    | .error .interrupted => writeParts descriptor fuel text
    | .error errno => return .error errno
    | .ok n =>
      if text.length ≤ n then return .ok ()
      else writeParts descriptor fuel (text.drop n).toString

/-- Writes a text, and tells why not all of it could be written. -/
def write (descriptor : Nat) (text : String) : Program (Except Errno Unit) :=
  writeParts descriptor (2 * text.length + 16) text

/-- How often something is tried before it counts as going on for ever. -/
def patience : Nat := 1000000

/-- Reads to the end. Every block is given to `use` with a value that goes along; the reading ends
early if that says so. -/
def readBlocks (descriptor size : Nat) (use : α → String → Program (α × Bool)) :
    Nat → α → Program (Except Errno α)
  | 0, _ => diverge
  | fuel + 1, a => do
    match ← ask (Unix.read descriptor size) with
    | .error .interrupted => readBlocks descriptor size use fuel a
    | .error errno => return .error errno
    | .ok "" => return .ok a
    | .ok text =>
      let (a, more) ← use a text
      if more then readBlocks descriptor size use fuel a else return .ok a

/-- Reads to the end. -/
def readAll (descriptor : Nat) : Program (Except Errno String) := do
  let result ← readBlocks descriptor blockSize (fun texts text => return (text :: texts, true))
    patience []
  return result.map fun texts => String.join texts.reverse

end Program

/-! ## Taking turns -/

/-- What becomes of a process in its turn. -/
inductive Turn : Type 1 where
  /-- it waits, and has done something before that if the flag says so -/
  | waits (task : Task) (moved : Bool)
  /-- it has done enough for once -/
  | pauses (task : Task)
  /-- it has ended -/
  | over

/-- The time that a step of a process costs. -/
def stepTime : Nat := 1000

/-- The kernel a step later. -/
def Kernel.tick (k : Kernel) : Kernel := { k with clock := k.clock + stepTime }

/-- How many steps a process does in its turn. -/
def turnLength : Nat := 1000

/-- The turn of a process: at most so many steps. The processes that it makes are collected, the
latest first. -/
def takeTurn (programs : Image → Task) (pid : Pid) :
    Nat → Bool → List (Pid × Task) → Kernel → Task → Turn × List (Pid × Task) × Kernel
  | 0, _, made, k, task => (.pauses task, made, k)
  | steps + 1, moved, made, k, task =>
    match task with
    | .ended code => (.over, made, k.finish pid (.exited (code % 256)))
    | .endless => (.waits .endless moved, made, k)
    | .become image => takeTurn programs pid steps true made k (programs image)
    | .fork child next =>
      let (childPid, k) := k.fork pid
      takeTurn programs pid steps true ((childPid, child) :: made) k (next childPid)
    | .ask r next =>
      match r.askOf pid k.tick with
      | (none, k) => (.waits (.ask r next) moved, made, k)
      | (some answer, k) =>
        -- What was asked may have been a signal to the process itself.
        match k.process? pid with
        | none => (.over, made, k)
        | some p =>
          if p.ending.isSome then (.over, made, k)
          else if p.isStopped then (.waits (next answer) true, made, k)
          else takeTurn programs pid steps true made k (next answer)

/-- When the first sleeping process wakes up. -/
def Kernel.nextAlarm (k : Kernel) : Option Nat :=
  (k.alive.filterMap fun (_, p) => if p.isStopped then none else p.alarm).min?

/-- What comes of running processes. -/
inductive Verdict where
  /-- all that was waited for is there -/
  | finished
  /-- it takes too long -/
  | late
  deriving DecidableEq, Repr

/-- How processes are run. -/
structure Rules where
  /-- the programs of the system -/
  programs : Image → Task
  /-- whether a time is within the limit -/
  allows : Nat → Bool
  /-- whether all that is waited for is there -/
  isDone : Kernel → Bool

/-- Runs processes. `waiting` are those that have had their turn, the latest first, and `moved` says
whether one of them did anything. -/
def runAll (rules : Rules) :
    Nat → Bool → List (Pid × Task) → List (Pid × Task) → Kernel → Verdict × Kernel
  | 0, _, _, _, k => (.late, k)
  | fuel + 1, moved, [], waiting, k =>
    if rules.isDone k then (.finished, k)
    else if !rules.allows k.clock then (.late, k)
    else if moved then runAll rules fuel false waiting.reverse [] k
    else
      -- Nobody has done anything in this round: only the clock can wake a process now.
      match k.nextAlarm with
      | none => (.late, k)
      | some time =>
        let k := { k with clock := max time k.clock }
        if rules.allows k.clock then runAll rules fuel false waiting.reverse [] k else (.late, k)
  | fuel + 1, moved, (pid, task) :: queue, waiting, k =>
    match k.process? pid with
    | none => runAll rules fuel moved queue waiting k
    | some p =>
      if p.ending.isSome then runAll rules fuel moved queue waiting k
      else if p.isStopped then runAll rules fuel moved queue ((pid, task) :: waiting) k
      else
        let (turn, made, k) := takeTurn rules.programs pid turnLength false [] k task
        let queue := queue ++ made.reverse
        match turn with
        | .waits task own => runAll rules fuel (moved || own) queue ((pid, task) :: waiting) k
        | .pauses task => runAll rules fuel true queue ((pid, task) :: waiting) k
        | .over =>
          if rules.isDone k then (.finished, k) else runAll rules fuel true queue waiting k

/-- How many turns there are at most. -/
def turnLimit : Nat := 100000

end Shipyard.Unix
