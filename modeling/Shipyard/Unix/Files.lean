import Shipyard.Unix.Basic
import Shipyard.Text.Search

/-!
# Files of a system

Paths are walked name by name; a link on the way is replaced by its target. Requests that make,
rename and remove files look a path up first and change the directory that holds its last name.

The permissions of a file are written in base eight and in letters, and clauses of letters describe
changes of them.
-/

namespace Shipyard.Unix

/-! ## Walking -/

/-- Where a path leads to. -/
structure Found where
  /-- the directory that holds the last name -/
  directory : Nat
  /-- the last name -/
  name : String
  /-- the file, if there is one -/
  place? : Option Nat
  deriving Repr

/-- The number of the root. -/
def root : Nat := 0

/-- The names of a path; one that ends with a slash asks for a directory. -/
def namesOf (path : String) : List String :=
  let names := (Text.splitAt '/' path.toList).filter (!·.isEmpty) |>.map String.ofList
  if path.endsWith "/" && names ≠ [] then names ++ ["."] else names

/-- A path without slashes at its end. -/
def withoutSlashes (path : String) : String :=
  match (path.toList.reverse.dropWhile (· = '/')).reverse with
  | [] => if path = "" then "" else "/"
  | cs => String.ofList cs

/-- How many links may be on the way. -/
def maxLinks : Nat := 40

/-- How many names may be on the way. -/
def maxNames : Nat := 10000

/-- Whether the owner may read a file. -/
def Inode.mayBeRead (i : Inode) : Bool := i.mode.testBit 8

/-- Whether the owner may write a file. -/
def Inode.mayBeWritten (i : Inode) : Bool := i.mode.testBit 7

/-- Whether the owner may execute a file, or go through a directory. -/
def Inode.mayBeEntered (i : Inode) : Bool := i.mode.testBit 6

/-- Whether a file is a directory. -/
def Inode.isDirectory (i : Inode) : Bool :=
  match i.content with
  | .directory _ _ => true
  | _ => false

namespace Kernel

/-- What a number stands for. -/
def content? (k : Kernel) (n : Nat) : Option Content := k.inodes[n]?.map fun i => i.content

/-- Whether a number stands for a directory. -/
def isDirectory (k : Kernel) (n : Nat) : Bool :=
  match k.inodes[n]? with
  | some i => i.isDirectory
  | none => false

/-- Walks from a directory. `links` is how many links may still be on the way; a link that is the
last name is followed if `follow` says so. -/
def walkFrom (k : Kernel) (follow : Bool) : Nat → Nat → Nat → List String → Except Errno Found
  | 0, _, _, _ => .error .nameTooLong
  | _ + 1, _, directory, [] => .ok ⟨directory, ".", some directory⟩
  | fuel + 1, links, directory, name :: rest =>
    match k.inodes[directory]? with
    | none => .error .noEntry
    | some i =>
      match i.content with
      | .directory parent entries =>
        if !i.mayBeEntered then .error .accessDenied
        else if name = "." then k.walkFrom follow fuel links directory rest
        else if name = ".." then k.walkFrom follow fuel links parent rest
        else if FileSystem.maxNameBytes < name.length then .error .nameTooLong
        else
          match entries.lookup name with
          | none => if rest = [] then .ok ⟨directory, name, none⟩ else .error .noEntry
          | some n =>
            match (k.content? n).getD (.file .empty) with
            | .link target =>
              if rest = [] && !follow then .ok ⟨directory, name, some n⟩
              else if links = 0 then .error .tooManyLinks
              else
                -- The names of the target come before those that are left of the path.
                let start := if target.startsWith "/" then root else directory
                k.walkFrom follow fuel (links - 1) start (namesOf target ++ rest)
            | .directory _ _ =>
              if rest = [] then .ok ⟨directory, name, some n⟩
              else k.walkFrom follow fuel links n rest
            | _ => if rest = [] then .ok ⟨directory, name, some n⟩ else .error .notDirectory
      | _ => .error .notDirectory

/-- Where a path leads to, seen from a directory. -/
def walk (k : Kernel) (directory : Nat) (follow : Bool) (path : String) : Except Errno Found :=
  if path = "" then .error .noEntry
  else if FileSystem.maxPathBytes < path.length then .error .nameTooLong
  else
    let start := if path.startsWith "/" then root else directory
    k.walkFrom follow maxNames maxLinks start (namesOf path)

/-- The path of a directory from the root. The fuel bounds its length. -/
def pathFrom (k : Kernel) : Nat → Nat → String → String
  | 0, _, below => below
  | fuel + 1, n, below =>
    if n = root then if below = "" then "/" else below
    else
      match k.content? n with
      | some (.directory parent _) =>
        match k.content? parent with
        | some (.directory _ entries) =>
          let name := ((entries.find? fun entry => entry.2 = n).map (·.1)).getD "?"
          k.pathFrom fuel parent ("/" ++ name ++ below)
        | _ => below
      | _ => below

/-- The path of a directory. -/
def pathOf (k : Kernel) (n : Nat) : String := k.pathFrom maxNames n ""

/-- A new file, and its number. -/
def addInode (k : Kernel) (content : Content) (mode : Nat) : Nat × Kernel :=
  (k.inodes.size, { k with inodes := k.inodes.push ⟨content, mode, k.now⟩ })

/-- The kernel in which the names of a directory are others. -/
def changeNames (k : Kernel) (directory : Nat)
    (f : List (String × Nat) → List (String × Nat)) : Kernel :=
  let now := k.now
  k.modifyInode directory fun i =>
    match i.content with
    | .directory parent entries =>
      { i with content := .directory parent (f entries), modified := now }
    | _ => i

/-- The kernel with a name for a file in a directory. -/
def putName (k : Kernel) (directory : Nat) (name : String) (n : Nat) : Kernel :=
  k.changeNames directory fun entries => (name, n) :: entries.filter (·.1 ≠ name)

/-- The kernel without a name in a directory. -/
def dropName (k : Kernel) (directory : Nat) (name : String) : Kernel :=
  k.changeNames directory fun entries => entries.filter (·.1 ≠ name)

/-- How many names a file has; a directory counts those of itself and of the directories in it. -/
def linkCount (k : Kernel) (n : Nat) : Nat :=
  match k.content? n with
  | some (.directory _ entries) => 2 + (entries.filter fun entry => k.isDirectory entry.2).length
  | _ =>
    k.inodes.foldl
      (fun count i => match i.content with
        | .directory _ entries => count + (entries.filter fun entry => entry.2 = n).length
        | _ => count) 0

end Kernel

/-! ## Looking at files -/

/-- The kinds of files. -/
inductive Kind where
  | regular
  | directory
  | link
  | device
  | pipe
  deriving DecidableEq, Repr

/-- What is known of a file. -/
structure Status where
  /-- its number -/
  number : Nat
  /-- its kind -/
  kind : Kind
  /-- its permission bits -/
  mode : Nat
  /-- how many bytes it has -/
  size : Nat
  /-- when it was changed, in parts of a second -/
  modified : Int
  /-- how many names it has -/
  links : Nat
  deriving Repr

/-- How many bytes a program of the system has. -/
def programSize : Nat := 35000

/-- What is known of the file with a number. -/
def Kernel.statusOf (k : Kernel) (n : Nat) : Option Status :=
  k.inodes[n]?.map fun i =>
    let (kind, size) := match i.content with
      | .file bytes => (Kind.regular, bytes.size)
      | .directory _ _ => (.directory, 4096)
      | .link target => (.link, target.length)
      | .device _ => (.device, 0)
      | .program _ => (.regular, programSize)
    ⟨n, kind, i.mode, size, i.modified, k.linkCount n⟩

/-- Where a path leads to. -/
def locate (path : String) (follow : Bool) : Request Found := do
  match (← getThe Kernel).walk (← ownProcess).directory follow path with
  | .ok found => return found
  | .error errno => throw errno

/-- The number of the file that a path leads to. -/
def inodeAt (path : String) (follow : Bool) : Request Nat := do
  match (← locate path follow).place? with
  | some n => return n
  | none => throw .noEntry

/-- The file that a path leads to, and its number. -/
def fileAt (path : String) (follow : Bool) : Request (Nat × Inode) := do
  let n ← inodeAt path follow
  match (← getThe Kernel).inodes[n]? with
  | some i => return (n, i)
  | none => throw .noEntry

/-- What is known of the file that a path leads to. -/
def statusAt (path : String) (follow : Bool) : Request Status := do
  let n ← inodeAt path follow
  match (← getThe Kernel).statusOf n with
  | some status => return status
  | none => throw .noEntry

/-- What is known of what a descriptor leads to. -/
def statusOpen (descriptor : Nat) : Request Status := do
  let (_, f) ← openFileOf descriptor
  match f.endpoint with
  | .inode n =>
    match (← getThe Kernel).statusOf n with
    | some status => return status
    | none => throw .badDescriptor
  | .intake n => return ⟨n, .pipe, 0o600, 0, 0, 1⟩
  | .outlet n => return ⟨n, .pipe, 0o600, 0, 0, 1⟩

/-- The names in a directory, the earliest first. -/
def namesIn (path : String) : Request (List String) := do
  let (_, i) ← fileAt path true
  match i.content with
  | .directory _ entries =>
    if i.mayBeRead then return (entries.map (·.1)).reverse else throw .accessDenied
  | _ => throw .notDirectory

/-- The target of a link. -/
def targetOf (path : String) : Request String := do
  match (← fileAt path false).2.content with
  | .link target => return target
  | _ => throw .invalid

/-- The path of the current directory. -/
def currentDirectory : Request String := do
  return (← getThe Kernel).pathOf (← ownProcess).directory

/-- The path from the root to what a path leads to. -/
def realPath (path : String) : Request String := do
  let found ← locate path true
  let k ← getThe Kernel
  match found.place?.map fun n => (n, k.isDirectory n) with
  | some (n, true) => return k.pathOf n
  | _ =>
    let above := k.pathOf found.directory
    return (if above = "/" then "" else above) ++ "/" ++ found.name

/-- Changes the current directory. -/
def changeDirectory (path : String) : Request Unit := do
  let (n, i) ← fileAt path true
  if !i.isDirectory then throw .notDirectory
  else if !i.mayBeEntered then throw .accessDenied
  else modifyOwn fun p => { p with directory := n }

/-! ## Changing files -/

/-- Refuses what would change the names of a directory that may not be written. -/
def demandWritable (directory : Nat) : Request Unit := do
  match (← getThe Kernel).inodes[directory]? with
  | some i => if i.mayBeWritten && i.mayBeEntered then return () else throw .accessDenied
  | none => throw .noEntry

/-- Makes a file of some kind where a path leads to. -/
def makeInode (path : String) (content : Nat → Content) (mode : Nat) : Request Nat := do
  let found ← locate path false
  if found.place?.isSome then throw .alreadyExists
  else
    demandWritable found.directory
    let (n, k) := (← getThe Kernel).addInode (content found.directory) mode
    set (k.putName found.directory found.name n)
    return n

/-- Permissions without those that new files do not get. -/
def maskedMode (mode : Nat) : Request Nat := do
  let mask := (← ownProcess).mask
  return mode - (mode &&& mask)

/-- Makes a directory. -/
def makeDirectory (path : String) (mode : Nat) : Request Unit := do
  let mode ← maskedMode mode
  discard (makeInode (withoutSlashes path) (fun above => .directory above []) mode)

/-- Makes a link to a path. -/
def makeLink (target path : String) : Request Unit := do
  discard (makeInode path (fun _ => .link target) 0o777)

/-- Gives a file a further name. -/
def addName (old new : String) : Request Unit := do
  let (n, i) ← fileAt old false
  if i.isDirectory then throw .notPermitted
  else
    let found ← locate new false
    if found.place?.isSome then throw .alreadyExists
    else
      demandWritable found.directory
      modifyThe Kernel (·.putName found.directory found.name n)

/-- Takes the name of a file away. -/
def removeName (path : String) : Request Unit := do
  let found ← locate path false
  match found.place? with
  | none => throw .noEntry
  | some n =>
    if (← getThe Kernel).isDirectory n then throw .isDirectory
    else
      demandWritable found.directory
      modifyThe Kernel (·.dropName found.directory found.name)

/-- Removes an empty directory. -/
def removeDirectory (path : String) : Request Unit := do
  let path := withoutSlashes path
  let found ← locate path false
  match found.place? with
  | none => throw .noEntry
  | some n =>
    match (← getThe Kernel).content? n with
    | some (.directory _ entries) =>
      if (namesOf path).getLast? = some "." then throw .invalid
      else if entries ≠ [] || found.name = "." then throw .notEmpty
      else
        demandWritable found.directory
        modifyThe Kernel (·.dropName found.directory found.name)
    | _ => throw .notDirectory

/-- Whether a directory lies at or below another one. The fuel bounds how deep it lies. -/
def Kernel.isBelow (k : Kernel) (above : Nat) : Nat → Nat → Bool
  | 0, _ => false
  | fuel + 1, n =>
    if n = above then true
    else if n = root then false
    else
      match k.content? n with
      | some (.directory parent _) => k.isBelow above fuel parent
      | _ => false

/-- Gives a file another name, which is taken from the file that had it. -/
def rename (old new : String) : Request Unit := do
  let source ← locate (withoutSlashes old) false
  let goal ← locate (withoutSlashes new) false
  let k ← getThe Kernel
  match source.place? with
  | none => throw .noEntry
  | some n =>
    let isDirectory := k.isDirectory n
    demandWritable source.directory
    demandWritable goal.directory
    if isDirectory && k.isBelow n maxNames goal.directory then throw .invalid
    match goal.place?.bind fun m => k.inodes[m]? with
    | some i =>
      match i.content, isDirectory with
      | .directory _ entries, true => if entries ≠ [] then throw .notEmpty
      | .directory _ _, false => throw .isDirectory
      | _, true => throw .notDirectory
      | _, false => pure ()
    | none => pure ()
    if goal.place? = some n then return ()
    let k := (k.dropName source.directory source.name).putName goal.directory goal.name n
    if isDirectory then
      set (k.modifyInode n fun i =>
        match i.content with
        | .directory _ entries => { i with content := .directory goal.directory entries }
        | _ => i)
    else set k

/-- Gives a file its permission bits. -/
def setMode (path : String) (mode : Nat) : Request Unit := do
  let n ← inodeAt path true
  modifyThe Kernel (·.modifyInode n fun i => { i with mode })

/-- Gives a file the time of its last change. -/
def setTime (path : String) (follow : Bool) (modified : Int) : Request Unit := do
  let n ← inodeAt path follow
  modifyThe Kernel (·.modifyInode n fun i => { i with modified })

/-- Whether a file may be read, written and executed, as far as that is asked for. -/
def mayAccess (path : String) (reads writes executes : Bool) : Request Bool := do
  let (_, i) ← fileAt path true
  return (!reads || i.mayBeRead) && (!writes || i.mayBeWritten) && (!executes || i.mayBeEntered)

/-! ## Permissions -/

/-- A number in base eight, with zeros in front that make it as wide as asked for. -/
def octalText (width n : Nat) : String :=
  let digits := Nat.toDigits 8 n
  String.ofList (List.replicate (width - digits.length) '0' ++ digits)

/-- The number of digits in base eight. -/
def octalOf? (text : String) : Option Nat :=
  let cs := text.toList
  if cs ≠ [] && cs.all fun c => '0' ≤ c && c ≤ '7' then
    some (cs.foldl (fun n c => 8 * n + (c.toNat - 48)) 0)
  else none

/-- The letters of the permissions of one class that are there. -/
def permissionText (bits : Nat) : String :=
  String.ofList ([(4, 'r'), (2, 'w'), (1, 'x')].filterMap fun (bit, letter) =>
    if bits &&& bit ≠ 0 then some letter else none)

/-- The three letters of a class, with a letter in place of the last one where a special bit is set.
-/
def classText (bits : Nat) (special : Option Char) : String :=
  let letter := fun (bit : Nat) (c : Char) => if bits &&& bit ≠ 0 then c else '-'
  let last := match special with
    | some c => if bits &&& 1 ≠ 0 then c else c.toUpper
    | none => letter 1 'x'
  String.ofList [letter 4 'r', letter 2 'w', last]

/-- Permissions as nine letters. -/
def modeText (mode : Nat) : String :=
  let special := fun (bit : Nat) (c : Char) => if mode &&& bit ≠ 0 then some c else none
  classText (mode / 64 % 8) (special 0o4000 's') ++ classText (mode / 8 % 8) (special 0o2000 's') ++
    classText (mode % 8) (special 0o1000 't')

/-- What is changed, and how. -/
structure ModeChange where
  /-- whether the file is a directory -/
  isDirectory : Bool
  /-- permissions that are not changed where no class is named -/
  mask : Nat
  deriving DecidableEq, Repr

namespace ModeChange

/-- The bits that the letter of a permission stands for. -/
def bitsOf (m : ModeChange) (mode : Nat) (c : Char) : Option Nat :=
  match c with
  | 'r' => some 0o444
  | 'w' => some 0o222
  | 'x' => some 0o111
  | 'X' => some (if m.isDirectory || mode &&& 0o111 ≠ 0 then 0o111 else 0)
  | 's' => some 0o6000
  | 't' => some 0o1000
  | 'u' => some (mode / 64 % 8 * 0o111)
  | 'g' => some (mode / 8 % 8 * 0o111)
  | 'o' => some (mode % 8 * 0o111)
  | _ => none

/-- The bits that belong to classes. -/
def classBits (m : ModeChange) (classes : List Char) : Nat :=
  let named := [('u', 0o4700), ('g', 0o2070), ('o', 0o1007), ('a', 0o7777)].filterMap
    fun (letter, bits) => if classes.contains letter then some bits else none
  if classes = [] then 0o7777 - m.mask % 0o1000 else named.foldl (· ||| ·) 0

/-- A mode changed by operators with permissions behind them. The fuel bounds how many there are. -/
def applyAll (m : ModeChange) (own : Nat) : Nat → List Char → Nat → Option Nat
  | 0, _, mode => some mode
  | _ + 1, [], mode => some mode
  | fuel + 1, op :: rest, mode => do
    let isOperator := fun (c : Char) => c = '+' || c = '-' || c = '='
    if !isOperator op then none
    else
      let letters := rest.takeWhile fun c => !isOperator c
      let bits := ((← letters.mapM (m.bitsOf mode)).foldl (· ||| ·) 0) &&& own
      let mode := if op = '+' then mode ||| bits
        else if op = '-' then mode - (mode &&& bits)
        else (mode - (mode &&& own)) ||| bits
      applyAll m own fuel (rest.drop letters.length) mode

/-- A mode changed as a text says: a number, or clauses of classes, operators and permissions. -/
def apply (m : ModeChange) (mode : Nat) (text : String) : Option Nat :=
  match octalOf? text with
  | some n => if n ≤ 0o7777 then some n else none
  | none =>
    (Text.splitAt ',' text.toList).foldl (fun mode? clause => do
      let mode ← mode?
      let classes := clause.takeWhile fun c => "ugoa".toList.contains c
      let changes := clause.drop classes.length
      if changes = [] then none
      else m.applyAll (m.classBits classes) (changes.length + 1) changes mode) (some mode)

end ModeChange

end Shipyard.Unix
