import Shipyard.Shell.Evaluation

/-!
# Shells as programs

How a shell is called, what it knows when it begins, and what it does: it runs the script of its
arguments, of a file or of its input, and then what is to be done at its end.
-/

namespace Shipyard.Shell

/-! ## Calls -/

/-- How a shell is called. -/
structure Call where
  /-- the letters of the options that are on -/
  options : List Char
  /-- whether the script is an argument -/
  hasScript : Bool
  /-- how options are told, if that is asked for: as they are turned on, or off -/
  tells : List Bool
  /-- what follows the options -/
  arguments : List String
  deriving DecidableEq, Repr

namespace Call

/-- With an option on or off. -/
def turn (c : Call) (on : Bool) (letter : Char) : Call :=
  let others := c.options.filter (· ≠ letter)
  { c with options := if on then others ++ [letter] else others }

/-- With the options of the letters of an argument; an option that there is not is the fault. -/
def withLetters (on : Bool) : List Char → List String → Call → Except String (Call × List String)
  | [], rest, c => .ok (c, rest)
  | letter :: letters, rest, c =>
    if letter = 'c' then withLetters on letters rest { c with hasScript := true }
    else if letter = 'l' then withLetters on letters rest c
    else if letter = 'o' then
      match rest with
      | [] => withLetters on letters [] { c with tells := c.tells ++ [on] }
      | name :: rest =>
        match namedOptions.lookup name with
        | some letter => withLetters on letters rest (c.turn on letter)
        | none => .error ("-o " ++ name)
    else if optionLetters.contains letter then withLetters on letters rest (c.turn on letter)
    else .error (String.ofList ['-', letter])

/-- The call of some arguments; an option that there is not is the fault. The fuel bounds how many
options there are. -/
def readWith : Nat → List String → Call → Except String Call
  | 0, rest, c => .ok { c with arguments := rest }
  | _ + 1, [], c => .ok c
  | fuel + 1, argument :: rest, c =>
    match argument.toList with
    | ['-'] => .ok { c with arguments := rest }
    | ['-', '-'] => .ok { c with arguments := rest }
    | '-' :: letters => do
      let (c, rest) ← withLetters true letters rest c
      readWith fuel rest c
    | '+' :: letters => do
      let (c, rest) ← withLetters false letters rest c
      readWith fuel rest c
    | _ => .ok { c with arguments := argument :: rest }

/-- The call of some arguments; an option that there is not is the fault. -/
def read (arguments : List String) : Except String Call :=
  readWith (arguments.length + 1) arguments ⟨[], false, [], []⟩

end Call

/-! ## The beginning -/

/-- The search path of a shell that is given none. -/
def usualSearchPath : String := "/usr/local/sbin:/usr/local/bin:/usr/sbin:/usr/bin:/sbin:/bin"

/-- The variables that every shell has, and those that it knows. -/
def usualEntries : List (String × Entry) :=
  let entry := fun (name : String) (value : Option String) => (name, Entry.mk value false false)
  [entry "HISTSIZE" none, entry "TERM" none, entry "OPTIND" (some "1"), entry "PS4" (some "+ "),
    entry "PS2" (some "> "), entry "PS1" (some "# "), entry "PATH" (some usualSearchPath),
    entry "MAILPATH" none, entry "MAIL" none, entry "IFS" (some " \t\n")]

/-- The state of a new shell, before it knows where it is. -/
def State.anew (name : String) (environment : List (String × String)) : State :=
  let state : State :=
    { name := name
      arguments := []
      entries := usualEntries
      functions := []
      aliases := []
      traps := []
      options := []
      code := 0
      capturedCode := 0
      line := 0
      locals := []
      loops := 0
      trapCode := none
      jobs := []
      latest := none
      optionPlace := ⟨1, none⟩
      documents := #[]
      pid := 0
      command := none
      directory := "/"
      found := []
      isTracing := false
      hasFailedOutput := false }
  let given := environment.filter fun entry => isName entry.1.toList
  let state := given.foldl (fun s (name, value) => s.putEntry name ⟨some value, true, false⟩) state
  let state := state.putEntry "IFS" { state.entryOf "IFS" with value := some " \t\n" }
  state.putEntry "OPTIND" { state.entryOf "OPTIND" with value := some "1" }

/-- Learns where the shell is. -/
def orient : Effect Unit := do
  let pid ← askD 0 Unix.ownPid
  let parent ← askD 0 Unix.parentPid
  let physical ← askD "/" Unix.currentDirectory
  let said := ((← get).value? "PWD").getD ""
  let isRight := do
    let there ← ask (Unix.statusAt said true)
    let here ← ask (Unix.statusAt "." true)
    match there, here with
    | .ok there, .ok here => return there.number = here.number
    | _, _ => return false
  let directory ← if said.startsWith "/" && (← isRight) then pure said else pure physical
  modify fun s =>
    let s := s.putEntry "PPID" ⟨some (toString parent), false, false⟩
    let s := s.putEntry "PWD" ⟨some directory, true, false⟩
    { s with pid, directory }

/-! ## Running -/

/-- Runs the script of the input. -/
def runInput (setting : Setting) : Effect Unit := do
  let text ← run (Unix.Program.readAll 0)
  modify fun s => { s with line := 1 }
  discard (runFileText evaluate setting (text.toOption.getD ""))

/-- Runs the script of a file. -/
def runFile (path : String) : Effect Unit := do
  match ← ask (Unix.openFile path .forReading) with
  | .error errno => abort ("cannot open " ++ path ++ ": " ++ whyUnopened errno "No such file")
  | .ok opened =>
    let descriptor ← askD opened (Unix.duplicateAbove opened leastOwnDescriptor)
    if descriptor ≠ opened then tell (Unix.close opened)
    let text ← run (Unix.Program.readAll descriptor)
    tell (Unix.close descriptor)
    modify fun s => { s with name := path }
    discard (runFileText evaluate .plain (text.toOption.getD ""))

/-- Tells options that are not known yet, which count as being on. -/
def tellUnknown (asTable : Bool) : Effect Unit := do
  if asTable then emitLine "Current option settings"
  namedOptions.forM fun (name, _) =>
    emitLine (if asTable then name ++ String.ofList (List.replicate (16 - name.length) ' ') ++ "on"
      else "set -o " ++ name)

/-- Does what a shell is called for. -/
def perform (c : Call) : Effect Unit := do
  c.tells.forM tellUnknown
  modify fun s => { s with options := c.options }
  let readsInput := c.options.contains 's'
  match c.hasScript, c.arguments with
  | true, [] => abort "-c requires an argument"
  | true, text :: rest => do
    modify fun s => { s with name := rest.headD s.name, arguments := rest.drop 1 }
    discard (runText evaluate ⟨!readsInput, false⟩ text)
    if readsInput then runInput .plain
  | false, path :: rest => do
    modify fun s => { s with arguments := if readsInput then path :: rest else rest }
    if readsInput then runInput .plain else runFile path
  | false, [] => do
    turnOption true 's'
    runInput .plain

/-- What a shell does. -/
def session (argv : List String) (environment : List (String × String)) : Unix.Program Nat := do
  let state := State.anew (argv.headD "sh") environment
  let body := runToEnd evaluate do
    orient
    match Call.read (argv.drop 1) with
    | .error option => abort ("Illegal option " ++ option)
    | .ok c => perform c
  let (_, s) ← StateT.run (ExceptT.run body) state
  return s.code

end Shipyard.Shell
