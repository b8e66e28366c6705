import Shipyard.Unix.Files

/-!
# Open files of a system

Requests on descriptors: opening and closing, copies, pipes, reading and writing. A read from a pipe
that holds nothing waits as long as somebody can write to it. A write to a pipe waits for space, and
where nobody can read from it the writer is ended, or told so if it does not want to be ended.
-/

namespace Shipyard.Unix

/-- How a file is opened. -/
structure OpenHow where
  /-- it is read -/
  reads : Bool
  /-- it is written -/
  writes : Bool
  /-- it is made if it is not there -/
  creates : Bool
  /-- what it holds is dropped -/
  truncates : Bool
  /-- it is written at its end -/
  appends : Bool
  /-- it must not be there -/
  exclusive : Bool
  deriving DecidableEq, Repr

namespace OpenHow

/-- To be read. -/
def forReading : OpenHow := ⟨true, false, false, false, false, false⟩

/-- To be written anew. -/
def forWriting : OpenHow := ⟨false, true, true, true, false, false⟩

/-- To be written at its end. -/
def forAppending : OpenHow := ⟨false, true, true, false, true, false⟩

/-- To be read and written. -/
def forBoth : OpenHow := ⟨true, true, true, false, false, false⟩

/-- To be written if it is not there. -/
def forCreating : OpenHow := ⟨false, true, true, false, false, true⟩

end OpenHow

/-! ## Descriptors -/

/-- The least number from a number on that is no descriptor. The fuel bounds the search. -/
def freeFrom (descriptors : List (Nat × Nat)) : Nat → Nat → Nat
  | 0, n => n
  | fuel + 1, n =>
    if (descriptors.lookup n).isSome then freeFrom descriptors fuel (n + 1) else n

/-- Lets a new descriptor, at least `least`, lead to an open file. -/
def addDescriptor (least opened : Nat) : Request Nat := do
  let descriptors := (← ownProcess).descriptors
  let n := freeFrom descriptors (descriptors.length + 1) least
  modifyOwn fun p => { p with descriptors := (n, opened) :: p.descriptors }
  return n

/-- Opens something, and gives its descriptor. -/
def addOpenFile (f : OpenFile) : Request Nat := do
  let n := (← getThe Kernel).opened.size
  modifyThe Kernel fun k => { k with opened := k.opened.push f }
  addDescriptor 0 n

/-- Closes a descriptor. -/
def close (descriptor : Nat) : Request Unit := do
  discard (openedOf descriptor)
  modifyOwn fun p =>
    { p with
      descriptors := p.descriptors.filter (·.1 ≠ descriptor)
      transient := p.transient.filter (· ≠ descriptor) }

/-- A new descriptor, at least `least`, for what a descriptor leads to; it is closed when the
process becomes another program. -/
def duplicateAbove (descriptor least : Nat) : Request Nat := do
  let n ← addDescriptor least (← openedOf descriptor)
  modifyOwn fun p => { p with transient := n :: p.transient }
  return n

/-- Lets a descriptor lead to where another one leads. -/
def duplicateOnto (descriptor goal : Nat) : Request Unit := do
  let n ← openedOf descriptor
  modifyOwn fun p =>
    { p with
      descriptors := (goal, n) :: p.descriptors.filter (·.1 ≠ goal)
      transient := p.transient.filter (· ≠ goal) }

/-- Whether a descriptor leads anywhere. -/
def isOpen (descriptor : Nat) : Request Bool :=
  return ((← ownProcess).descriptors.lookup descriptor).isSome

/-- Makes a pipe: the descriptors that read and write it. -/
def makePipe : Request (Nat × Nat) := do
  let n := (← getThe Kernel).pipes.size
  modifyThe Kernel fun k => { k with pipes := k.pipes.push ⟨.empty, 0, some 65536⟩ }
  let intake ← addOpenFile ⟨.intake n, 0, true, false, false⟩
  let outlet ← addOpenFile ⟨.outlet n, 0, false, true, false⟩
  return (intake, outlet)

/-- Makes something to read that holds a text, and gives its descriptor. -/
def makeText (text : String) : Request Nat := do
  let n := (← getThe Kernel).pipes.size
  modifyThe Kernel fun k =>
    { k with pipes := k.pipes.push ⟨ByteText.pushText .empty text, 0, some text.length⟩ }
  addOpenFile ⟨.intake n, 0, true, false, false⟩

/-! ## Opening -/

/-- Opens the file with a number. -/
def openInode (n : Nat) (how : OpenHow) : Request Nat := do
  let k ← getThe Kernel
  match k.inodes[n]? with
  | none => throw .noEntry
  | some i =>
    match i.content with
    | .directory _ _ =>
      if how.writes then throw .isDirectory
      else if !i.mayBeRead then throw .accessDenied
      else addOpenFile ⟨.inode n, 0, true, false, false⟩
    | .device (.descriptor d) =>
      let (_, f) ← openFileOf d
      addOpenFile { f with offset := 0 }
    | _ =>
      if (how.reads && !i.mayBeRead) || (how.writes && !i.mayBeWritten) then throw .accessDenied
      else
        if how.truncates then
          let now := k.now
          modifyThe Kernel (·.modifyInode n fun i =>
            match i.content with
            | .file _ => { i with content := .file .empty, modified := now }
            | _ => i)
        addOpenFile ⟨.inode n, 0, how.reads, how.writes, how.appends⟩

/-- Opens the file that a path leads to, and gives its descriptor. -/
def openFile (path : String) (how : OpenHow) : Request Nat := do
  let found ← locate path true
  match found.place? with
  | some n => if how.exclusive then throw .alreadyExists else openInode n how
  | none =>
    if !how.creates then throw .noEntry
    else
      demandWritable found.directory
      let mode ← maskedMode 0o666
      let (n, k) := (← getThe Kernel).addInode (.file .empty) mode
      set (k.putName found.directory found.name n)
      addOpenFile ⟨.inode n, 0, how.reads, how.writes, how.appends⟩

/-! ## Reading and writing -/

/-- Moves the place of an open file. -/
def setOffset (opened offset : Nat) : Request Unit :=
  modifyThe Kernel fun k => { k with opened := k.opened.modify opened fun f => { f with offset } }

/-- Takes waiting bytes out of a pipe. -/
def Pipe.drop (p : Pipe) (count : Nat) : Pipe :=
  if p.bytes.size ≤ p.taken + count then { p with bytes := .empty, taken := 0 }
  else { p with taken := p.taken + count }

/-- What can be read of an open file, with what has to be done to take `count` bytes of it. -/
def peek (opened : Nat) (f : OpenFile) (most : Nat) : Request (String × (Nat → Request Unit)) := do
  if !f.reads then throw .badDescriptor
  let k ← getThe Kernel
  match f.endpoint with
  | .inode n =>
    let taking := fun (count : Nat) => setOffset opened (f.offset + count)
    match k.content? n with
    | some (.file bytes) => return (ByteText.slice bytes f.offset most, taking)
    | some (.directory _ _) => throw .isDirectory
    | some (.device .zero) => return (String.ofList (List.replicate most '\x00'), taking)
    | some (.device .full) => return (String.ofList (List.replicate most '\x00'), taking)
    | some (.program name) => return (((name.drop f.offset).take most).toString, taking)
    | _ => return ("", taking)
  | .intake n =>
    match k.pipes[n]? with
    | none => throw .badDescriptor
    | some p =>
      if p.waiting = 0 && k.isHeld (.outlet n) then laterOrInterrupted
      else
        return (ByteText.slice p.bytes p.taken most, fun count =>
          modifyThe Kernel fun k => { k with pipes := k.pipes.modify n (·.drop count) })
  | .outlet _ => throw .badDescriptor

/-- Reads at most so many bytes; nothing is read only at the end. -/
def read (descriptor most : Nat) : Request String := do
  let (n, f) ← openFileOf descriptor
  let (text, take) ← peek n f most
  take text.length
  return text

/-- Reads up to a character, which is read too, or as much of that as there is. -/
def readPast (stop : Char) (descriptor : Nat) : Request String := do
  let (n, f) ← openFileOf descriptor
  let (text, take) ← peek n f 4096
  let line := text.toList.takeWhile (· ≠ stop)
  let line := if line.length < text.length then line ++ [stop] else line
  take line.length
  return String.ofList line

/-- Bytes in which a text stands from a place on. -/
def splice (bytes : ByteArray) (offset : Nat) (text : String) : ByteArray :=
  if offset < bytes.size then
    ByteText.pushText (bytes.extract 0 offset) text ++
      bytes.extract (offset + text.length) bytes.size
  else
    let gap := offset - bytes.size
    ByteText.pushText (if gap = 0 then bytes else bytes ++ ⟨Array.replicate gap 0⟩) text

/-- The most bytes that are written to a pipe all at once or not at all. -/
def atomicSize : Nat := 4096

/-- The signal for a process that writes what nobody reads. -/
def brokenPipeSignal : Nat := 13

/-- Writes a text, or as much of its beginning as there is space for, and gives how much that is. -/
def write (descriptor : Nat) (text : String) : Request Nat := do
  let (opened, f) ← openFileOf descriptor
  if !f.writes then throw .badDescriptor
  let k ← getThe Kernel
  match f.endpoint with
  | .intake _ => throw .badDescriptor
  | .outlet n =>
    match k.pipes[n]? with
    | none => throw .badDescriptor
    | some p =>
      if p.limit.isSome && !k.isHeld (.intake n) then
        let pid ← readThe Pid
        modifyThe Kernel (·.deliver pid brokenPipeSignal)
        throw .brokenPipe
      else
        let length := text.length
        let space := match p.limit with
          | some limit => limit - p.waiting
          | none => length
        let count := min space length
        if count < length && (length ≤ atomicSize || count = 0) then laterOrInterrupted
        else
          let text := if count = length then text else (text.take count).toString
          modifyThe Kernel fun k =>
            { k with pipes := k.pipes.modify n fun p =>
              { p with bytes := ByteText.pushText p.bytes text } }
          return count
  | .inode n =>
    match k.content? n with
    | some (.file bytes) =>
      let offset := if f.appends then bytes.size else f.offset
      let now := k.now
      modifyThe Kernel (·.modifyInode n fun i =>
        match i.content with
        | .file bytes => { i with content := .file (splice bytes offset text), modified := now }
        | _ => i)
      setOffset opened (offset + text.length)
      return text.length
    | some (.device .full) => throw .noSpace
    | some _ => return text.length
    | none => throw .badDescriptor

/-- Goes back or forth in what a descriptor leads to. -/
def moveBy (descriptor : Nat) (distance : Int) : Request Unit := do
  let (opened, f) ← openFileOf descriptor
  match f.endpoint with
  | .inode _ => setOffset opened (f.offset + distance).toNat
  | _ => throw .illegalSeek

end Shipyard.Unix
