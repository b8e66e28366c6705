import Shipyard.FileSystem.Basic
import Shipyard.Text.Utf8

/-!
# Systems

What the processes of a machine share. A `Kernel` holds the files, the pipes, what is open, and a
record of every process. Files are numbered, so that one that is open stays what it is when its name
is taken away. An open file is shared by all the descriptors that lead to it, and with it the place
up to which it has been read.

A `Request` is what a process asks of the kernel: it is made by one process, may change the kernel,
and may be refused. Where there is no answer yet the process has to ask again later.

Processes send each other signals: `signalNames` has their numbers and names, and beside it is what
they do to a process that has not said otherwise, and the words for a process that was ended by one.
-/

namespace Shipyard.Unix

/-! ## Signals -/

/-- The names of the signals and their numbers. The first one stands for the end of a shell and is
never sent. -/
def signalNames : List (String × Nat) :=
  [("EXIT", 0), ("HUP", 1), ("INT", 2), ("QUIT", 3), ("ILL", 4), ("TRAP", 5), ("ABRT", 6),
    ("BUS", 7), ("FPE", 8), ("KILL", 9), ("USR1", 10), ("SEGV", 11), ("USR2", 12), ("PIPE", 13),
    ("ALRM", 14), ("TERM", 15), ("CHLD", 17), ("CONT", 18), ("STOP", 19),
    ("TSTP", 20), ("TTIN", 21), ("TTOU", 22), ("URG", 23), ("XCPU", 24), ("XFSZ", 25),
    ("VTALRM", 26), ("PROF", 27), ("WINCH", 28), ("IO", 29), ("PWR", 30), ("SYS", 31),
    ("RTMIN", 34), ("RTMIN+1", 35), ("RTMIN+2", 36), ("RTMIN+3", 37), ("RTMIN+4", 38),
    ("RTMIN+5", 39), ("RTMIN+6", 40), ("RTMIN+7", 41), ("RTMIN+8", 42), ("RTMIN+9", 43),
    ("RTMIN+10", 44), ("RTMIN+11", 45), ("RTMIN+12", 46), ("RTMIN+13", 47), ("RTMIN+14", 48),
    ("RTMIN+15", 49), ("RTMAX-14", 50), ("RTMAX-13", 51), ("RTMAX-12", 52), ("RTMAX-11", 53),
    ("RTMAX-10", 54), ("RTMAX-9", 55), ("RTMAX-8", 56), ("RTMAX-7", 57), ("RTMAX-6", 58),
    ("RTMAX-5", 59), ("RTMAX-4", 60), ("RTMAX-3", 61), ("RTMAX-2", 62), ("RTMAX-1", 63),
    ("RTMAX", 64)]

/-- How many signals there are, the one that is never sent included. -/
def signalCount : Nat := 65

/-- The number of a signal with a name. -/
def signalNumber? (name : String) : Option Nat := signalNames.lookup name

/-- The name of a signal, or its number where it has none. -/
def signalName (n : Nat) : String := ((signalNames.find? (·.2 = n)).map (·.1)).getD (toString n)

/-- What a signal does. -/
inductive SignalEffect where
  /-- it ends the process -/
  | ends
  /-- it stops the process until it is continued -/
  | stops
  /-- it lets a stopped process go on -/
  | continues
  /-- nothing -/
  | nothing
  deriving DecidableEq, Repr

/-- What a signal does to a process that has not said otherwise. -/
def signalEffect (signal : Nat) : SignalEffect :=
  if [19, 20, 21, 22].contains signal then .stops
  else if signal = 18 then .continues
  else if [0, 17, 23, 28].contains signal then .nothing
  else .ends

/-- Signals for which a process cannot say anything else. -/
def unavoidableSignals : List Nat := [9, 19]

/-- The words for a process that was ended by a signal. -/
def signalWords (signal : Nat) : String :=
  ([(1, "Hangup"), (2, "Interrupt"), (3, "Quit"), (4, "Illegal instruction"),
    (5, "Trace/breakpoint trap"), (6, "Aborted"), (7, "Bus error"), (8, "Floating point exception"),
    (9, "Killed"), (10, "User defined signal 1"), (11, "Segmentation fault"),
    (12, "User defined signal 2"), (13, "Broken pipe"), (14, "Alarm clock"), (15, "Terminated"),
    (16, "Stack fault"), (24, "CPU time limit exceeded"), (25, "File size limit exceeded"),
    (26, "Virtual timer expired"), (27, "Profiling timer expired"), (29, "I/O possible"),
    (30, "Power failure"), (31, "Bad system call")].lookup signal).getD
      ("Real-time signal " ++ toString (signal - 34))

/-! ## Processes and files -/

/-- The number of a process. -/
abbrev Pid := Nat

/-- How a process ends. -/
inductive Ending where
  /-- with a code -/
  | exited (code : Nat)
  /-- by a signal -/
  | killed (signal : Nat)
  deriving DecidableEq, Repr

/-- Files that are no files. -/
inductive Device where
  /-- swallows everything and holds nothing -/
  | null
  /-- holds zeros without end -/
  | zero
  /-- has no space -/
  | full
  /-- what a descriptor of the process leads to -/
  | descriptor (n : Nat)
  deriving DecidableEq, Repr

/-- What a number stands for. -/
inductive Content where
  /-- a regular file -/
  | file (bytes : ByteArray)
  /-- names of further files, the latest first, and the directory above -/
  | directory (parent : Nat) (entries : List (String × Nat))
  /-- a path that is to be taken instead -/
  | link (target : String)
  /-- a file that is none -/
  | device (d : Device)
  /-- a program of the system -/
  | program (name : String)

/-- A file of any kind. -/
structure Inode where
  /-- what it is -/
  content : Content
  /-- its permission bits -/
  mode : Nat
  /-- when it was changed, in parts of a second -/
  modified : Int

/-- Bytes on their way from one process to another. -/
structure Pipe where
  /-- the bytes -/
  bytes : ByteArray
  /-- how many of them have been read -/
  taken : Nat
  /-- how many may wait; without a limit nobody has to read them -/
  limit : Option Nat

/-- How many bytes wait in a pipe. -/
def Pipe.waiting (p : Pipe) : Nat := p.bytes.size - p.taken

/-- Where an open file leads to. -/
inductive Endpoint where
  /-- a file -/
  | inode (n : Nat)
  /-- the end of a pipe that is read -/
  | intake (pipe : Nat)
  /-- the end of a pipe that is written -/
  | outlet (pipe : Nat)
  deriving DecidableEq, Repr

/-- An open file. -/
structure OpenFile where
  /-- where it leads to -/
  endpoint : Endpoint
  /-- up to where it has been read or written -/
  offset : Nat
  /-- whether it may be read -/
  reads : Bool
  /-- whether it may be written -/
  writes : Bool
  /-- whether it is written at its end -/
  appends : Bool
  deriving DecidableEq, Repr

/-- What a process does when a signal comes. -/
inductive Disposition where
  /-- what the signal does by itself -/
  | usual
  /-- nothing -/
  | ignored
  /-- the process takes note of it -/
  | caught
  deriving DecidableEq, Repr

/-- What is known of a process. -/
structure Process where
  /-- the process that made it -/
  parent : Pid
  /-- the open files of its descriptors -/
  descriptors : List (Nat × Nat)
  /-- descriptors that are closed when it becomes another program -/
  transient : List Nat
  /-- its current directory -/
  directory : Nat
  /-- permissions that new files do not get -/
  mask : Nat
  /-- what it does when signals come, where that is not the usual thing -/
  dispositions : List (Nat × Disposition)
  /-- the signals that it has to take note of -/
  pending : List Nat
  /-- whether it is stopped -/
  isStopped : Bool
  /-- when it wakes up, if it sleeps -/
  alarm : Option Nat
  /-- how it has ended -/
  ending : Option Ending
  /-- whether its end was asked for -/
  isReaped : Bool

/-- What processes share. -/
structure Kernel where
  /-- the time that has gone by, in parts of a second -/
  clock : Nat
  /-- the files; the first one is the root -/
  inodes : Array Inode
  /-- the pipes -/
  pipes : Array Pipe
  /-- what is open -/
  opened : Array OpenFile
  /-- the processes, in the order in which they came -/
  processes : Array Process

/-- The parts of a second that a clock tells apart. -/
def second : Nat := 1000000000

/-- The number of the first process. -/
def firstPid : Pid := 4242

/-- When a clock begins, in seconds. -/
def epoch : Int := 1750000000

namespace Kernel

/-- The time now, as files are given it. -/
def now (k : Kernel) : Int := epoch * (second : Int) + k.clock

/-- The process with a number. -/
def process? (k : Kernel) (pid : Pid) : Option Process :=
  if pid < firstPid then none else k.processes[pid - firstPid]?

/-- The kernel with a process changed. -/
def modifyProcess (k : Kernel) (pid : Pid) (f : Process → Process) : Kernel :=
  if pid < firstPid then k
  else { k with processes := k.processes.modify (pid - firstPid) f }

/-- The kernel with a file changed. -/
def modifyInode (k : Kernel) (n : Nat) (f : Inode → Inode) : Kernel :=
  { k with inodes := k.inodes.modify n f }

/-- The processes that have not ended, with their numbers. -/
def alive (k : Kernel) : List (Pid × Process) :=
  (k.processes.toList.zipIdx.map fun (p, i) => (firstPid + i, p)).filter (·.2.ending.isNone)

/-- Whether a process has not ended. -/
def isAlive (k : Kernel) (pid : Pid) : Bool :=
  match k.process? pid with
  | some p => p.ending.isNone
  | none => false

/-- Whether a descriptor of a process leads to an endpoint. -/
def holds (k : Kernel) (p : Process) (e : Endpoint) : Bool :=
  p.descriptors.any fun d => (k.opened[d.2]?.map (·.endpoint)) = some e

/-- Whether some process has an endpoint open. -/
def isHeld (k : Kernel) (e : Endpoint) : Bool :=
  k.processes.any fun p => p.ending.isNone && k.holds p e

/-! ## Ends and signals -/

/-- The signal that a child has ended. -/
def childSignal : Nat := 17

/-- The kernel in which a process that wants to know it has been told of the end of a child. -/
def tellParent (k : Kernel) (child : Pid) : Kernel :=
  match k.process? child with
  | none => k
  | some c =>
    k.modifyProcess c.parent fun p =>
      if p.dispositions.lookup childSignal = some .caught && !p.pending.contains childSignal then
        { p with pending := p.pending ++ [childSignal] }
      else p

/-- The kernel in which a process has ended. Its children lose their parent. -/
def finish (k : Kernel) (pid : Pid) (ending : Ending) : Kernel :=
  let k := (k.tellParent pid).modifyProcess pid fun p =>
    { p with ending := some ending, descriptors := [], alarm := none, isStopped := false }
  { k with
    processes := k.processes.map fun p => if p.parent = pid then { p with parent := 0 } else p }

/-- The kernel in which a signal has come to a process. -/
def deliver (k : Kernel) (pid : Pid) (signal : Nat) : Kernel :=
  match k.process? pid with
  | none => k
  | some p =>
    if p.ending.isSome then k
    else
      let k := if signal = 18 || signal = 9 then
          k.modifyProcess pid fun p => { p with isStopped := false }
        else k
      let disposition :=
        if unavoidableSignals.contains signal then .usual
        else (p.dispositions.lookup signal).getD .usual
      match disposition with
      | .ignored => k
      | .caught =>
        if p.pending.contains signal then k
        else k.modifyProcess pid fun p => { p with pending := p.pending ++ [signal] }
      | .usual =>
        match signalEffect signal with
        | .ends => k.finish pid (.killed signal)
        | .stops => k.modifyProcess pid fun p => { p with isStopped := true }
        | .continues => k
        | .nothing => k

end Kernel

/-! ## Requests -/

/-- Something that a process asks of the kernel. -/
abbrev Request (α : Type) := ExceptT Errno (OptionT (ReaderT Pid (StateM Kernel))) α

/-- Asks a kernel: the answer, if there is one, and the kernel behind it. -/
def Request.askOf {α : Type} (r : Request α) (pid : Pid) (k : Kernel) :
    Option (Except Errno α) × Kernel :=
  StateT.run (ReaderT.run (OptionT.run (ExceptT.run r)) pid) k

/-- There is no answer yet. -/
def later {α : Type} : Request α := ExceptT.lift OptionT.fail

/-- The record of the process that asks. -/
def ownProcess : Request Process := do
  match (← getThe Kernel).process? (← readThe Pid) with
  | some p => return p
  | none => throw .noProcess

/-- Changes the record of the process that asks. -/
def modifyOwn (f : Process → Process) : Request Unit := do
  let pid ← readThe Pid
  modifyThe Kernel (·.modifyProcess pid f)

/-- There is no answer yet, unless a signal has come that the process takes note of. -/
def laterOrInterrupted {α : Type} : Request α := do
  if (← ownProcess).pending = [] then later else throw .interrupted

/-- The number of the open file that a descriptor leads to. -/
def openedOf (descriptor : Nat) : Request Nat := do
  match (← ownProcess).descriptors.lookup descriptor with
  | some n => return n
  | none => throw .badDescriptor

/-- The open file that a descriptor leads to, and its number. -/
def openFileOf (descriptor : Nat) : Request (Nat × OpenFile) := do
  let n ← openedOf descriptor
  match (← getThe Kernel).opened[n]? with
  | some f => return (n, f)
  | none => throw .badDescriptor

end Shipyard.Unix
