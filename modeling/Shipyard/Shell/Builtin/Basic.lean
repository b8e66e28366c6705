import Shipyard.Shell.State

/-!
# Commands of the shell itself

What the commands have in common that a shell does by itself: how they read options, numbers and
names, and how they quote what they write.
-/

namespace Shipyard.Shell

/-- A command of the shell itself: what it does with its arguments. It answers with a code. -/
abbrev Builtin := List String → Effect Nat

/-! ## Options -/

/-- The options in the letters of an argument; a letter of `valued` takes what is left of the
argument or the next one. -/
def lettersOptions (allowed valued : List Char) :
    List Char → List String → Effect (List (Char × String) × List String)
  | [], rest => return ([], rest)
  | c :: letters, rest => do
    if valued.contains c then
      match letters, rest with
      | _ :: _, _ => return ([(c, String.ofList letters)], rest)
      | [], value :: rest => return ([(c, value)], rest)
      | [], [] => abort ("No arg for -" ++ String.ofList [c] ++ " option")
    else if allowed.contains c then
      let (more, rest) ← lettersOptions allowed valued letters rest
      return ((c, "") :: more, rest)
    else abort ("Illegal option -" ++ String.ofList [c])

/-- The options in front of the arguments, and the arguments. The fuel bounds how many there are. -/
def optionsWith (allowed valued : List Char) :
    Nat → List String → Effect (List (Char × String) × List String)
  | 0, arguments => return ([], arguments)
  | _ + 1, [] => return ([], [])
  | fuel + 1, argument :: rest => do
    match argument.toList with
    | ['-', '-'] => return ([], rest)
    | '-' :: c :: letters => do
      let (options, rest) ← lettersOptions allowed valued (c :: letters) rest
      let (more, rest) ← optionsWith allowed valued fuel rest
      return (options ++ more, rest)
    | _ => return ([], argument :: rest)

/-- The options in front of the arguments, and the arguments. -/
def readOptions (allowed valued : String) (arguments : List String) :
    Effect (List (Char × String) × List String) :=
  optionsWith allowed.toList valued.toList (arguments.length + 1) arguments

/-- The arguments of a command that has no options. -/
def withoutOptions (arguments : List String) : Effect (List String) :=
  return (← readOptions "" "" arguments).2

/-! ## Numbers and names -/

/-- The greatest number that a command takes. -/
def greatestNumber : Nat := 2147483647

/-- The number that a text stands for, if it does. -/
def number? (text : String) : Option Nat :=
  let cs := text.toList.dropWhile isSpace
  let cs := match cs with
    | '+' :: rest => rest
    | _ => cs
  let digits := cs.takeWhile Char.isDigit
  let n := decimalOf digits
  if digits = [] || !(cs.drop digits.length).all isSpace || greatestNumber < n then none else some n

/-- What is wrong with a text that should be a number. -/
def illegalNumber (text : String) : String := "Illegal number: " ++ text

/-- The number that an argument stands for. -/
def demandNumber (text : String) : Effect Nat :=
  match number? text with
  | some n => return n
  | none => abort (illegalNumber text)

/-- What is wrong with a text that should be the name of a variable. -/
def badName (text : String) : String := text ++ ": bad variable name"

/-- Refuses a text that is not the name of a variable. -/
def demandName (text : String) : Effect Unit :=
  if isName text.toList then return () else abort (badName text)

/-- The name and the value of an argument that may give a variable its value. -/
def splitAssignment (argument : String) : String × Option String :=
  let cs := argument.toList
  let name := cs.takeWhile (· ≠ '=')
  let value := String.ofList (cs.drop (name.length + 1))
  (String.ofList name, if name.length < cs.length then some value else none)

/-- Gives a variable a value, if it has the name of one. -/
def assignChecked (name value : String) : Effect Unit := do
  demandName name
  assign name value

/-! ## Quotes -/

/-- A text between quotes: between single ones as far as there are none in it. The fuel bounds how
often the quotes change. -/
def quotedChars : Nat → List Char → List Char
  | 0, _ => []
  | fuel + 1, cs =>
    let plain := cs.takeWhile (· ≠ '\x27')
    let rest := cs.drop plain.length
    let marks := rest.takeWhile (· = '\x27')
    let first := '\x27' :: plain ++ ['\x27']
    if marks = [] then first
    else
      let behind := rest.drop marks.length
      first ++ '"' :: marks ++ ['"'] ++ (if behind = [] then [] else quotedChars fuel behind)

/-- A text as a word of a script. -/
def quotedWord (text : String) : String :=
  String.ofList (quotedChars (text.length + 1) text.toList)

end Shipyard.Shell
