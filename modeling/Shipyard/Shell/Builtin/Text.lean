import Shipyard.Shell.Builtin.Basic
import Shipyard.Shell.Condition
import Shipyard.Shell.Format

/-!
# Commands on texts and conditions

The commands of the shell that write texts, read lines and answer conditions.
-/

namespace Shipyard.Shell

/-- Writes its arguments. -/
def echo : Builtin := fun arguments => do
  emit (echoText arguments)
  return 0

/-- Writes its arguments with a format. -/
def printFormatted : Builtin := fun arguments => do
  match ← withoutOptions arguments with
  | [] => abort "usage: printf format [arg ...]"
  | format :: rest =>
    let f := formatted .format format rest
    f.faults.forM fun fault => complain fault.message
    emit f.output
    return f.code

/-- Answers a condition; words in brackets need the closing one. -/
def answerCondition (inBrackets : Bool) : Builtin := fun arguments => do
  if inBrackets && arguments.getLast? ≠ some "]" then abort "missing ]"
  else
    match ← run (ExceptT.run (judge (if inBrackets then arguments.dropLast else arguments))) with
    | .ok b => return if b then 0 else 1
    | .error fault => abort fault.message

/-! ## Reading lines -/

/-- A character of a line, and whether a backslash stood before it. -/
abbrev LineChar := Char × Bool

/-- Where the cutting of a line into fields stands. -/
structure FieldCut where
  /-- the fields, the latest first -/
  fields : List String
  /-- the characters of the field under way, the latest first -/
  current : List Char
  /-- how many fields there may be more; at none everything belongs to the field under way -/
  wanted : Nat
  /-- where the field under way ends if only separators follow -/
  mayEnd : Option Nat
  /-- whether a blank has come right before -/
  afterBlank : Bool
  deriving Repr

namespace FieldCut

/-- With a character of the field under way. -/
def add (f : FieldCut) (c : Char) : FieldCut := { f with current := c :: f.current }

/-- With a character of a line. -/
def step (separators : List Char) (f : FieldCut) : LineChar → FieldCut
  | (c, true) => { f.add c with afterBlank := false }
  | (c, false) =>
    let separates := separators.contains c
    let isBlank := separates && isSpace c
    if f.wanted = 0 then
      if isBlank then
        { f.add c with mayEnd := some (f.mayEnd.getD f.current.length) }
      else
        let mayEnd := if separates && f.afterBlank then f.mayEnd else none
        { f.add c with mayEnd, afterBlank := false }
    else if f.afterBlank then
      if isBlank then { f with current := [] }
      else if separates then { f with current := [], afterBlank := false }
      else { f with current := [c], afterBlank := false }
    else if separates then
      if f.current = [] && isBlank then f
      else if f.wanted = 1 then
        { f.add c with wanted := 0, mayEnd := some f.current.length, afterBlank := isBlank }
      else
        { f with
          fields := String.ofList f.current.reverse :: f.fields
          current := []
          wanted := f.wanted - 1
          afterBlank := isBlank }
    else f.add c

/-- The fields. -/
def finish (f : FieldCut) : List String :=
  let current := f.current.reverse
  let current := match f.mayEnd with
    | some n => current.take n
    | none => current
  (if current = [] then f.fields else String.ofList current :: f.fields).reverse

end FieldCut

/-- The fields of a line, at most so many. -/
def lineFields (separators : List Char) (wanted : Nat) (line : List LineChar) : List String :=
  (line.foldl (FieldCut.step separators) ⟨[], [], wanted, none, false⟩).finish

/-- The characters of a line without its backslashes, and whether one is left at its end. A raw line
keeps them. -/
def unescapeLine (isRaw : Bool) : List Char → List LineChar × Bool
  | [] => ([], false)
  | [c] => if c = '\\' && !isRaw then ([], true) else ([(c, false)], false)
  | c :: d :: rest =>
    if c = '\\' && !isRaw then
      let (letters, isOpen) := unescapeLine isRaw rest
      ((d, true) :: letters, isOpen)
    else
      let (letters, isOpen) := unescapeLine isRaw (d :: rest)
      ((c, false) :: letters, isOpen)

/-- Reads a line behind what has been read of it, and tells whether it has an end. Nothing behind it
is read. Unless the line is raw, a backslash at its end makes the next line a part of it. -/
def takeLine (isRaw : Bool) : Nat → List Char → Effect (List LineChar × Bool)
  | 0, _ => diverge
  | fuel + 1, before => do
    let cutOff := ((unescapeLine isRaw before).1, false)
    match ← ask (Unix.readPast '\n' 0) with
    | .error .interrupted =>
      if (← get).traps = [] then takeLine isRaw fuel before else return cutOff
    | .error _ => return cutOff
    | .ok "" => return cutOff
    | .ok text =>
      let cs := before ++ text.toList.filter (· ≠ '\x00')
      if cs.getLast? = some '\n' then
        let (letters, isOpen) := unescapeLine isRaw cs.dropLast
        if isOpen then takeLine isRaw fuel cs.dropLast.dropLast else return (letters, true)
      else takeLine isRaw fuel cs

/-- Gives variables the fields of a line; those for which there is none become empty. -/
def assignFields : List String → List String → Effect Unit
  | [], _ => return ()
  | name :: names, fields => do
    assignChecked name (fields.headD "")
    assignFields names (fields.drop 1)

/-- Reads a line into variables. -/
def readLineInto : Builtin := fun arguments => do
  let (options, names) ← readOptions "r" "p" arguments
  if names = [] then abort "arg count"
  else
    let isRaw := options.any (·.1 = 'r')
    let (line, hasEnd) ← takeLine isRaw Unix.Program.patience []
    assignFields names (lineFields (← get).separators names.length line)
    return if hasEnd then 0 else 1

end Shipyard.Shell
