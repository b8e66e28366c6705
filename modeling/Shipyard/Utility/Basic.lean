import Shipyard.Unix.Program
import Shipyard.Text.Search

/-!
# Programs of a system

What the small programs have in common that scripts count on: how they are called, how they
complain, how they quote names in their messages, and how they read files one after the other.

Options are letters behind a dash, or names behind two. Names may be cut short as long as it is
clear which one is meant, and options may stand behind other arguments. A program says which options
it has; what it gets is a list of letters with their values.
-/

namespace Shipyard.Utility

open Unix (Program)

/-- How a program is called. -/
structure Call where
  /-- its name as it is called -/
  name : String
  /-- its arguments -/
  arguments : List String
  /-- its variables, in their order -/
  environment : List (String × String)
  deriving DecidableEq, Repr

/-- A program: what it does when it is called. It answers with a code. -/
abbrev Utility := Call → Program Nat

/-! ## Messages -/

/-- Writes a text to the stream for errors. -/
def say (text : String) : Program Unit := discard (Program.write 2 text)

/-- Complains. -/
def complain (c : Call) (message : String) : Program Unit := say (c.name ++ ": " ++ message ++ "\n")

/-- Complains and gives a code. -/
def failing (c : Call) (message : String) (code : Nat) : Program Nat := do
  complain c message
  return code

/-- Where help is to be found. -/
def Call.helpHint (c : Call) : String := "Try '" ++ c.name ++ " --help' for more information."

/-- Complains about arguments and says where help is to be found. -/
def misused (c : Call) (message : String) (code : Nat) : Program Nat := do
  complain c message
  say (c.helpHint ++ "\n")
  return code

/-- Writes a text to the output. A program whose output cannot be written ends. -/
def put (c : Call) (text : String) : Program Unit := do
  match ← Program.write 1 text with
  | .ok () => return ()
  | .error errno =>
    complain c ("write error: " ++ errno.words)
    Program.exit 1

/-- Writes a line to the output. -/
def putLine (c : Call) (line : String) : Program Unit := put c (line ++ "\n")

/-! ## Quoted names -/

/-- A character that every terminal can print. -/
def isPrinted (c : Char) : Bool := ' ' ≤ c && c ≤ '~'

/-- The escape of a character that is not printed. -/
def escapeText (c : Char) : String :=
  match [('\x07', "\\a"), ('\x08', "\\b"), ('\t', "\\t"), ('\n', "\\n"), ('\x0b', "\\v"),
    ('\x0c', "\\f"), ('\r', "\\r")].lookup c with
  | some text => text
  | none =>
    let digits := Nat.toDigits 8 c.toNat
    "\\" ++ String.ofList (List.replicate (3 - digits.length) '0' ++ digits)

/-- A name between single quotes, with the characters that are not printed as escapes between quotes
of their own. `mode` says whether the quotes before were those of escapes. -/
def quotePieces : Bool → List Char → String
  | _, [] => ""
  | escaped, c :: rest =>
    if isPrinted c then
      (if escaped then "'" ++ "'" else "") ++
        (if c = '\x27' then "'\\''" else String.ofList [c]) ++ quotePieces false rest
    else (if escaped then "" else "'$'") ++ escapeText c ++ quotePieces true rest

/-- A name as a word of a script, always between quotes. -/
def quotedAlways (name : String) : String :=
  let cs := name.toList
  let mustEscape := fun (c : Char) => "\"$`\\!\x27".toList.contains c && c ≠ '\x27'
  if cs.contains '\x27' && cs.all isPrinted && !cs.any mustEscape then "\"" ++ name ++ "\""
  else "'" ++ quotePieces false cs ++ "'"

/-- Whether a name has to be quoted to be a word of a script. -/
def needsQuotes (name : String) : Bool :=
  let cs := name.toList
  cs = [] || cs = ['\x7b'] || cs = ['\x7d'] ||
    (cs.head?.map fun c => c = '#' || c = '~').getD false ||
    cs.any fun c => !isPrinted c || " !\"$&'()*;<=>?[\\^`|:".toList.contains c

/-- A name as a word of a script. -/
def quotedName (name : String) : String := if needsQuotes name then quotedAlways name else name

/-- A text between quotes, with escapes for the characters that are not printed. -/
def quotedText (text : String) : String :=
  let body := text.toList.map fun c =>
    if c = '\x27' then "\\'" else if c = '\\' then "\\\\"
    else if isPrinted c then String.ofList [c] else escapeText c
  "'" ++ String.join body ++ "'"

/-! ## Numbers -/

/-- A text with blanks in front that make it as wide as asked for. -/
def padFront (width : Nat) (text : String) : String :=
  String.ofList (List.replicate (width - text.length) ' ') ++ text

/-- The units that numbers may have. -/
def unitFactor? (unit : String) : Option Nat :=
  if unit = "" then some 1
  else if unit = "b" then some 512
  else
    let letters := "KMGTPEZY".toList
    match unit.toList with
    | c :: rest =>
      let c := if c = 'k' then 'K' else if c = 'm' then 'M' else c
      match letters.idxOf? c with
      | none => none
      | some n =>
        if rest = [] || rest = ['i', 'B'] then some (Nat.pow 1024 (n + 1))
        else if rest = ['B'] then some (Nat.pow 1000 (n + 1))
        else none
    | [] => none

/-- The digits of a number. -/
def digitsOf (cs : List Char) : Nat := cs.foldl (fun n c => 10 * n + (c.toNat - 48)) 0

/-- A number with a unit. -/
def amount? (text : String) : Option Nat := do
  let cs := text.toList
  let digits := cs.takeWhile Char.isDigit
  if digits = [] then none
  else
    let factor ← unitFactor? (String.ofList (cs.drop digits.length))
    return digitsOf digits * factor

/-! ## Files -/

/-- Opens a file to read it; a dash is the input. -/
def openToRead (path : String) : Program (Except Errno Nat) :=
  if path = "-" then return .ok 0 else Program.ask (Unix.openFile path .forReading)

/-- Closes what was opened to read it. -/
def closeRead (path : String) (descriptor : Nat) : Program Unit :=
  if path = "-" then return () else Program.request (Unix.close descriptor)

/-- The content of a file; a dash is the input. -/
def contentOf (path : String) : Program (Except Errno String) := do
  match ← openToRead path with
  | .error errno => return .error errno
  | .ok descriptor =>
    let text ← Program.readAll descriptor
    closeRead path descriptor
    return text

/-- Writes a file anew, or at its end. -/
def writeFile (path text : String) (atEnd : Bool) : Program (Except Errno Unit) := do
  match ← Program.ask (Unix.openFile path (if atEnd then .forAppending else .forWriting)) with
  | .error errno => return .error errno
  | .ok descriptor =>
    let result ← Program.write descriptor text
    Program.request (Unix.close descriptor)
    return result

/-- What is wrong with a file. -/
def fileFault (path : String) (errno : Errno) : String := quotedName path ++ ": " ++ errno.words

/-- The paths of arguments; without any it is the input. -/
def inputsOf (paths : List String) : List String := if paths = [] then ["-"] else paths

/-- Does something with the content of each file, and tells whether all of them could be read. What
cannot be read is told as `explain` says. -/
def forContents (c : Call) (explain : String → Errno → String)
    (use : String → String → Program Unit) : List String → Program Bool
  | [] => return true
  | path :: rest => do
    let done ← match ← contentOf path with
      | .ok text => do
        use path text
        pure true
      | .error errno => do
        complain c (explain path errno)
        pure false
    return (← forContents c explain use rest) && done

/-- The contents of files one behind the other, and whether all of them could be read. -/
def joinedContents (c : Call) (explain : String → Errno → String) :
    List String → Program (String × Bool)
  | [] => return ("", true)
  | path :: rest => do
    match ← contentOf path with
    | .ok text =>
      let (more, done) ← joinedContents c explain rest
      return (text ++ more, done)
    | .error errno =>
      complain c (explain path errno)
      return ((← joinedContents c explain rest).1, false)

/-- The lines of a text, without their ends, and whether the last one has an end. -/
def linesOf (stop : Char) (text : String) : List String × Bool :=
  let lines := (Text.splitAt stop text.toList).map String.ofList
  match lines.getLast? with
  | some "" => (lines.dropLast, true)
  | _ => (lines, false)

/-- Lines with their ends. -/
def unlines (stop : Char) (lines : List String) : String :=
  String.join (lines.map fun line => line.push stop)

/-! ## Options -/

/-- Whether an option has a value. -/
inductive ValueKind where
  | without
  | required
  | optional
  deriving DecidableEq, Repr

/-- An option of a program. -/
structure OptionSpec where
  /-- the letter that stands for it, which need not be one that can be given -/
  letter : Char
  /-- its names -/
  names : List String
  /-- whether it has a value -/
  kind : ValueKind
  /-- whether the letter can be given -/
  isShort : Bool
  deriving DecidableEq, Repr

/-- An option that is on or off. -/
def flag (letter : Char) (names : List String) : OptionSpec := ⟨letter, names, .without, true⟩

/-- An option with a value. -/
def valued (letter : Char) (names : List String) : OptionSpec :=
  ⟨letter, names, .required, true⟩

/-- An option that has only names. -/
def named (letter : Char) (names : List String) (kind : ValueKind) : OptionSpec :=
  ⟨letter, names, kind, false⟩

/-- Options that are on or off and have only letters. -/
def flags (letters : String) : List OptionSpec := letters.toList.map fun c => flag c []

/-- Options as they are given. -/
abbrev Options := List (Char × Option String)

namespace Options

/-- Whether an option is given. -/
def has (o : Options) (letter : Char) : Bool := o.any (·.1 = letter)

/-- Whether one of some options is given. -/
def hasAny (o : Options) (letters : List Char) : Bool := o.any fun entry => letters.contains entry.1

/-- The value of an option; of several ones the last counts. -/
def value? (o : Options) (letter : Char) : Option String :=
  ((o.filter (·.1 = letter)).getLast?).bind (·.2)

/-- The values of an option. -/
def values (o : Options) (letter : Char) : List String :=
  o.filterMap fun entry => if entry.1 = letter then entry.2 else none

/-- The last one of some options that are given. -/
def last? (o : Options) (letters : List Char) : Option Char :=
  ((o.filter fun entry => letters.contains entry.1).getLast?).map (·.1)

end Options

/-- What a program can be given. -/
structure OptionTable where
  /-- the options -/
  specs : List OptionSpec
  /-- whether options may stand behind other arguments -/
  permutes : Bool

namespace OptionTable

/-- The options that a name may mean; the full name means only one. -/
def matching (t : OptionTable) (name : String) : List (String × OptionSpec) :=
  let all := t.specs.flatMap fun spec => spec.names.map fun full => (full, spec)
  match all.find? (·.1 = name) with
  | some entry => [entry]
  | none => all.filter (·.1.startsWith name)

/-- The options in the letters of an argument, and the arguments behind it, or what is wrong. -/
def readLetters (t : OptionTable) :
    List Char → List String → Except String (Options × List String)
  | [], rest => .ok ([], rest)
  | c :: letters, rest => do
    match t.specs.find? fun spec => spec.isShort && spec.letter = c with
    | none => .error ("invalid option -- '" ++ String.ofList [c] ++ "'")
    | some spec =>
      match spec.kind, letters, rest with
      | .without, _, _ =>
        let (more, rest) ← readLetters t letters rest
        .ok ((c, none) :: more, rest)
      | .optional, [], _ => .ok ([(c, none)], rest)
      | .required, [], [] =>
        .error ("option requires an argument -- '" ++ String.ofList [c] ++ "'")
      | .required, [], value :: rest => .ok ([(c, some value)], rest)
      | _, letters, _ => .ok ([(c, some (String.ofList letters))], rest)

/-- The option that a name stands for, which may have a value behind an equals sign, and the
arguments behind it, or what is wrong. -/
def readName (t : OptionTable) (text : String) (rest : List String) :
    Except String (Options × List String) := do
  let cs := text.toList
  let name := String.ofList (cs.takeWhile (· ≠ '='))
  let value? := if name.length < cs.length then some (String.ofList (cs.drop (name.length + 1)))
    else none
  let found := t.matching name
  let isClear := match found with
    | [] => false
    | (_, first) :: others => others.all fun entry => entry.2 = first
  match found, isClear with
  | (full, spec) :: _, true =>
    match spec.kind, value?, rest with
    | .without, some _, _ => .error ("option '--" ++ full ++ "' doesn't allow an argument")
    | .required, none, [] => .error ("option '--" ++ full ++ "' requires an argument")
    | .required, none, value :: rest => .ok ([(spec.letter, some value)], rest)
    | _, _, _ => .ok ([(spec.letter, value?)], rest)
  | [], _ => .error ("unrecognized option '--" ++ name ++ "'")
  | _, _ =>
    let possible := found.map fun entry => " '--" ++ entry.1 ++ "'"
    .error ("option '--" ++ text ++ "' is ambiguous; possibilities:" ++ String.join possible)

/-- The options and the other arguments, or what is wrong. The fuel bounds how many there are. -/
def readWith (t : OptionTable) :
    Nat → List String → Except String (Options × List String)
  | 0, rest => .ok ([], rest)
  | _ + 1, [] => .ok ([], [])
  | fuel + 1, argument :: rest => do
    match argument.toList with
    | ['-', '-'] => .ok ([], rest)
    | '-' :: '-' :: name => do
      let (first, rest) ← t.readName (String.ofList name) rest
      let (more, rest) ← readWith t fuel rest
      .ok (first ++ more, rest)
    | '-' :: c :: letters => do
      let (first, rest) ← t.readLetters (c :: letters) rest
      let (more, rest) ← readWith t fuel rest
      .ok (first ++ more, rest)
    | _ =>
      if t.permutes then
        let (options, others) ← readWith t fuel rest
        .ok (options, argument :: others)
      else .ok ([], argument :: rest)

/-- The options and the other arguments, or what is wrong. -/
def read (t : OptionTable) (arguments : List String) :
    Except String (Options × List String) := t.readWith (arguments.length + 1) arguments

end OptionTable

/-- A program with options, and the code for wrong ones. -/
def withOptions (specs : List OptionSpec) (wrongCode : Nat)
    (body : Call → Options → List String → Program Nat) : Utility := fun c =>
  match (OptionTable.mk specs true).read c.arguments with
  | .ok (options, rest) => body c options rest
  | .error message => misused c message wrongCode

/-- A program whose options stand in front of its other arguments, and the code for wrong ones. -/
def withLeadingOptions (specs : List OptionSpec) (wrongCode : Nat)
    (body : Call → Options → List String → Program Nat) : Utility := fun c =>
  match (OptionTable.mk specs false).read c.arguments with
  | .ok (options, rest) => body c options rest
  | .error message => misused c message wrongCode

end Shipyard.Utility
