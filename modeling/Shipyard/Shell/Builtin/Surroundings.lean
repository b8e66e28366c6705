import Shipyard.Shell.Builtin.Basic
import Shipyard.Shell.Search
import Shipyard.Unix.Files

/-!
# Commands on the surroundings of a shell

The commands of the shell on its current directory, on the permissions of new files, and on what
names stand for.
-/

namespace Shipyard.Shell

/-! ## Directories -/

/-- Whether links in the current directory are to be replaced. -/
def isPhysical (options : List (Char × String)) : Bool := (options.getLast?.map (·.1)) = some 'P'

/-- The names of a path with those of a further one behind them; a pair of dots takes one away. The
latest name comes first. -/
def stepNames (names : List String) : List String → List String
  | [] => names
  | "" :: rest => stepNames names rest
  | "." :: rest => stepNames names rest
  | ".." :: rest => stepNames (names.drop 1) rest
  | name :: rest => stepNames (name :: names) rest

/-- The parts of a path between slashes. -/
def partsOf (path : String) : List String :=
  (Text.splitAt '/' path.toList).map String.ofList

/-- A directory seen from another one, without following links. Two slashes at the beginning stay.
-/
def directoryFrom (current goal : String) : String :=
  let cs := goal.toList
  let (front, names) := match cs with
    | '/' :: '/' :: c :: _ => (if c = '/' then "/" else "//", [])
    | ['/', '/'] => ("//", [])
    | '/' :: _ => ("/", [])
    | _ => (if current.startsWith "//" then "//" else "/", stepNames [] (partsOf current))
  front ++ String.intercalate "/" (stepNames names (partsOf goal)).reverse

/-- Gives a variable that programs get a value. -/
def assignExported (name value : String) : Effect Unit := do
  assign name value
  modify fun s => s.putEntry name { s.entryOf name with isExported := true }

/-- Goes to a directory, and tells whether that is possible. -/
def goTo (physical : Bool) (goal : String) : Effect Bool := do
  let s ← get
  let logical := directoryFrom s.directory goal
  match ← ask (Unix.changeDirectory (if physical then goal else logical)) with
  | .error _ => return false
  | .ok () =>
    let directory ← if physical then askD logical Unix.currentDirectory else pure logical
    modify fun s => { s with directory }
    assignExported "OLDPWD" s.directory
    assignExported "PWD" directory
    return true

/-- Whether a directory is looked for only where it is named. -/
def isExact (goal : String) : Bool :=
  goal.startsWith "/" || (goal.startsWith "." && ["", ".", ".."].contains ((partsOf goal).headD ""))

/-- The directory that a goal stands for on a search path, and whether it is to be told. -/
def onDirectoryPath (goal : String) : List (List Char) → Effect (String × Bool)
  | [] => return (goal, false)
  | front :: rest => do
    let path := if front = [] then goal else String.ofList front ++ "/" ++ goal
    match ← ask (Unix.statusAt path true) with
    | .ok status =>
      if status.kind = .directory then return (path, front ≠ []) else onDirectoryPath goal rest
    | .error _ => onDirectoryPath goal rest

/-- Changes the current directory. -/
def changeDirectory : Builtin := fun arguments => do
  let (options, rest) ← readOptions "LP" "" arguments
  let s ← get
  let isBack := rest.head? = some "-"
  let goal := match rest with
    | [] => (s.value? "HOME").getD ""
    | "-" :: _ => (s.value? "OLDPWD").getD ""
    | goal :: _ => goal
  let goal := if goal = "" then "." else goal
  let fronts := Text.splitAt ':' ((s.value? "CDPATH").getD "").toList
  let (path, isTold) ← if isExact goal then pure (goal, false) else onDirectoryPath goal fronts
  if ← goTo (isPhysical options) path then
    if isBack || isTold then emitLine (← get).directory
    return 0
  else abort ("can't cd to " ++ goal)

/-- Tells the current directory. -/
def tellDirectory : Builtin := fun arguments => do
  let (options, _) ← readOptions "LP" "" arguments
  let s ← get
  if isPhysical options then emitLine (← askD s.directory Unix.currentDirectory)
  else emitLine s.directory
  return 0

/-! ## Permissions of new files -/

/-- Tells or changes the permissions that new files do not get. -/
def maskPermissions : Builtin := fun arguments => do
  let (options, rest) ← readOptions "S" "" arguments
  let mask ← askD 0 Unix.ownMask
  match rest with
  | [] =>
    let mode := 0o777 - mask % 512
    if options = [] then emitLine (Unix.octalText 4 mask)
    else
      let classText := fun (unit : Nat) => Unix.permissionText (mode / unit % 8)
      emitLine ("u=" ++ classText 64 ++ ",g=" ++ classText 8 ++ ",o=" ++ classText 1)
    return 0
  | argument :: _ =>
    let cs := argument.toList
    if (cs.head?.map Char.isDigit).getD false then
      match Unix.octalOf? argument with
      | some mask =>
        tell (Unix.setMask (mask % 512))
        return 0
      | none => abort (illegalNumber argument)
    else
      match Unix.ModeChange.apply ⟨false, 0⟩ (0o777 - mask % 512) argument with
      | some mode =>
        tell (Unix.setMask (0o777 - mode % 512))
        return 0
      | none => abort ("Illegal mode: " ++ argument)

/-! ## Limits and times -/

/-- Tells limits; none of them is changed. -/
def tellLimits : Builtin := fun arguments => do
  let (options, rest) ← readOptions "HSatfdscmlpnvwr" "" arguments
  if rest ≠ [] then return 0
  else
    let kind := ((options.filter fun o => o.1 ≠ 'H' && o.1 ≠ 'S').getLast?.map (·.1)).getD 'f'
    emitLine (([('s', "8192"), ('c', "0"), ('n', "1048576"), ('r', "0")].lookup kind).getD
      "unlimited")
    return 0

/-- Tells the time that the shell and its programs have worked. -/
def tellTimes : Builtin := fun _ => do
  emitLine "0m0.000000s 0m0.000000s"
  emitLine "0m0.000000s 0m0.000000s"
  return 0

/-! ## What names stand for -/

/-- Tells what a name stands for, in many words or few. -/
def describe (isLong : Bool) (path? : Option String) (name : String) : Effect Nat := do
  let s ← get
  let tellAs := fun (words short : String) => do
    emitLine (if isLong then name ++ words else short)
    return 0
  if reservedWords.contains name then tellAs " is a shell keyword" name
  else
    match s.aliases.lookup name with
    | some text =>
      tellAs (" is an alias for " ++ text) ("alias " ++ name ++ "=" ++ quotedWord text)
    | none =>
      let isTracked := path?.isNone && (s.found.lookup name).isSome
      match ← findCommand true (path?.getD s.searchPath) name with
      | .function _ => tellAs " is a shell function" name
      | .builtin =>
        let special := if specialCommands.contains name then "special " else ""
        tellAs (" is a " ++ special ++ "shell builtin") name
      | .program paths =>
        let path := paths.headD name
        if isPath name && !(← ask (Unix.statusAt name true)).isOk then
          if isLong then emitLine (name ++ ": not found")
          return 127
        else tellAs (" is" ++ (if isTracked then " a tracked alias for " else " ") ++ path) path
      | .nothing _ =>
        if isLong then emitLine (name ++ ": not found")
        return 127

/-- Tells what names stand for. -/
def describeAll : Builtin := fun arguments => do
  let codes ← arguments.mapM (describe true none)
  return codes.foldl (· ||| ·) 0

/-- The chain of a program in the table of those that were found. -/
def foundChainOf (name : String) : Nat :=
  (name.toList.foldl (fun n c => n + c.toNat) (16 * (name.toList.headD '\x00').toNat)) % 32768 % 31

/-- Tells the programs that were found, or looks for some. -/
def lookUpPrograms : Builtin := fun arguments => do
  let (options, names) ← readOptions "r" "" arguments
  if options ≠ [] then
    modify fun s => { s with found := [] }
    return 0
  else if names = [] then
    let found := (← get).found
    (List.range 31).forM fun chain =>
      (found.filter fun entry => foundChainOf entry.1 = chain).forM fun entry => emitLine entry.2
    return 0
  else
    let codes ← names.mapM fun name => do
      modify fun s => { s with found := s.found.filter (·.1 ≠ name) }
      match ← findCommand true (← get).searchPath name with
      | .nothing errno =>
        complain (name ++ ": " ++ absenceWords errno)
        return 1
      | _ => return 0
    return codes.foldl max 0

end Shipyard.Shell
