import Shipyard.Shell.Evaluator

/-!
# Simple commands

What a command of variables, words and redirections does. The words come first: they tell what kind
of command it is. Then the streams are redirected and the variables get their values, and at last
the command is run: a function, a command of the shell itself, or a program in a process of its own.
-/

namespace Shipyard.Shell

/-! ## Words -/

/-- Words of a command that are expanded as far as it is needed to tell what kind of command it is.
-/
structure CommandWords where
  /-- words in front of the name that only say how it is looked for -/
  front : List String
  /-- the name of the command and the fields behind it -/
  fields : List String
  /-- the words that are not expanded yet -/
  words : List Word
  /-- whether functions may be meant -/
  withFunctions : Bool
  /-- where the program is looked for, if not on the usual path -/
  path : Option String
  /-- whether the first command of the shell that was named is a special one, if there is any -/
  isSpecial : Option Bool

namespace CommandWords

/-- With the next field, if there is one. -/
def fill (capture : Capture) (c : CommandWords) : List Word → Effect CommandWords
  | [] => return { c with words := [] }
  | word :: rest => do
    if c.fields ≠ [] then return { c with words := word :: rest }
    else
      let fields ← expandFields capture word
      fill capture { c with fields } rest

/-- Whether a word only asks for the usual programs of the system. -/
def asksSystem (word : String) : Bool :=
  match word.toList with
  | '-' :: 'p' :: rest => rest.all (· = 'p')
  | _ => false

/-- Behind the options of `command`, if it runs a command at all. The fuel bounds how many options
there are. -/
def behindOptions (capture : Capture) : Nat → CommandWords → Effect (Option CommandWords)
  | 0, _ => return none
  | fuel + 1, c => do
    let c ← c.fill capture c.words
    match c.fields with
    | [] => return none
    | word :: rest =>
      let next : CommandWords := { c with front := c.front ++ [word], fields := rest }
      if word = "--" then
        let next ← next.fill capture next.words
        return if next.fields = [] then none else some next
      else if asksSystem word then behindOptions capture fuel { next with path := some systemPath }
      else if word.startsWith "-" && word ≠ "-" then return none
      else return some c

/-- Finds the name of the command behind `command`. The fuel bounds how often that may stand in
front of it. -/
def resolve (capture : Capture) : Nat → CommandWords → Effect CommandWords
  | 0, c => return c
  | fuel + 1, c => do
    let s ← get
    match c.fields with
    | [] => return c
    | name :: rest =>
      let isFunction := c.withFunctions && (s.functions.lookup name).isSome
      if isFunction || isPath name || !isBuiltin name then return c
      else
        let isSpecial := some (c.isSpecial.getD (specialCommands.contains name))
        let c := { c with isSpecial }
        if name ≠ "command" then return c
        else
          let behind : CommandWords := { c with front := c.front ++ [name], fields := rest }
          match ← behindOptions capture (rest.length + c.words.length + 2) behind with
          | none => return c
          | some behind => resolve capture fuel { behind with withFunctions := false }

/-- The commands whose arguments may give variables values. -/
def assigningCommands : List String := ["alias", "export", "local", "readonly"]

/-- The fields of a word; one that gives a variable its value is one field if it is asked for. -/
def fieldsOf (capture : Capture) (assigns : Bool) (word : Word) : Effect (List String) := do
  match (if assigns then assignmentOf? word else none) with
  | some (name, value) => return [name ++ "=" ++ (← expandText capture .value value)]
  | none => expandFields capture word

end CommandWords

/-- The words of a command, all of them expanded. -/
def expandCommand (capture : Capture) (words : List Word) : Effect CommandWords := do
  let c : CommandWords := ⟨[], [], [], true, none, none⟩
  let c ← c.fill capture words
  let c ← c.resolve capture (words.length + c.fields.length + 1)
  let name := c.fields.headD ""
  let assigns := c.isSpecial.isSome && CommandWords.assigningCommands.contains name
  let rest ← c.words.mapM (CommandWords.fieldsOf capture assigns)
  return { c with fields := c.fields ++ rest.flatten, words := [] }

/-! ## Variables and the trace -/

/-- Gives a variable a value for a while, as programs get it. -/
def assignForCommand (name value : String) : Effect Unit := do
  makeLocal name (some value)
  modify fun s => s.putEntry name { s.entryOf name with isExported := true }

/-- Gives variables values in front of a command, for as long as it runs or for good, and gives the
texts of that. -/
def assignAll (capture : Capture) (isLocal isExported : Bool) (assignments : List (String × Word)) :
    Effect (List String) :=
  assignments.mapM fun (name, word) => do
    let value ← expandText capture .value word
    if isLocal then assignForCommand name value
    else if isExported then assignExported name value
    else assign name value
    return name ++ "=" ++ value

/-- What stands in front of the lines of a trace. -/
def traceMark (capture : Capture) : Effect String := do
  let text := ((← get).value? "PS4").getD ""
  match wordOfText text with
  | .error _ => return text
  | .ok word =>
    let code := (← get).code
    let result ← attempt (expandText capture .document word)
    finishWith code
    match result with
    | .ok text => return text
    | .error _ => return ""

/-- Traces a command. -/
def trace (capture : Capture) (stream : Nat) (words : List String) : Effect Unit := do
  let s ← get
  if s.hasOption 'x' && !s.isTracing then
    modify fun s => { s with isTracing := true }
    let mark ← traceMark capture
    modify fun s => { s with isTracing := false }
    discard (write stream (mark ++ String.intercalate " " words ++ "\n"))

/-! ## Running -/

/-- Runs a function. -/
def callFunction (evaluate : Evaluator) (isTested : Bool) (body : Statement)
    (arguments : List String) : Effect Unit := do
  let s ← get
  set { s with arguments, optionPlace := ⟨1, none⟩, loops := 0 }
  let result ← attempt (evaluate ⟨false, isTested⟩ body)
  modify fun now =>
    { now with arguments := s.arguments, optionPlace := s.optionPlace, loops := s.loops }
  match result with
  | .ok () => return ()
  | .error .leavesFunction => return ()
  | .error halt => throw halt

/-- Runs a script given by arguments. -/
def evaluateArguments (evaluate : Evaluator) (isTested : Bool) : Builtin := fun arguments => do
  let hasRun ← runText evaluate ⟨false, isTested⟩ (String.intercalate " " arguments)
  if hasRun then return (← get).code else return 0

/-- The path of a script that a name stands for. -/
def scriptPath (name : String) : Effect String := do
  if isPath name then return name
  else
    let paths := candidates (← get).searchPath name
    let found ← paths.filterM fun path => do
      match ← ask (Unix.statusAt path true) with
      | .ok status => return status.kind = .regular
      | .error _ => return false
    match found with
    | path :: _ => return path
    | [] => abort (name ++ ": not found")

/-- The content of a script. -/
def scriptText (path : String) : Effect String := do
  match ← ask (Unix.openFile path .forReading) with
  | .error errno => abort ("cannot open " ++ path ++ ": " ++ whyUnopened errno "No such file")
  | .ok descriptor =>
    let text ← run (Unix.Program.readAll descriptor)
    tell (Unix.close descriptor)
    return text.toOption.getD ""

/-- Runs a script from a file. -/
def runScript (evaluate : Evaluator) : Builtin := fun arguments => do
  match ← withoutOptions arguments with
  | [] => return 0
  | name :: _ =>
    let path ← scriptPath name
    let text ← scriptText path
    modify fun s => { s with command := some path }
    match ← attempt (runFileText evaluate .plain text) with
    | .ok true => return (← get).code
    | .ok false => return 0
    | .error .leavesFunction => return (← get).code
    | .error halt => throw halt

/-- Tells what a name stands for, if that is asked for. -/
def tellCommand : Builtin := fun arguments => do
  let (options, rest) ← readOptions "pvV" "" arguments
  let has := fun (letter : Char) => options.any (·.1 = letter)
  match rest with
  | name :: _ =>
    if has 'v' || has 'V' then
      describe (has 'V') (if has 'p' then some systemPath else none) name
    else return 0
  | [] => return 0

/-- Becomes a program, if one is named. -/
def becomeProgram : Builtin := fun arguments => do
  match ← withoutOptions arguments with
  | [] => return 0
  | name :: rest =>
    let s ← get
    let paths := if isPath name then [name] else candidates s.searchPath name
    startProgram (name :: rest) paths

/-- What a command of the shell itself does. -/
def builtinOf (evaluate : Evaluator) (isTested : Bool) (name : String) : Builtin :=
  match name with
  | "eval" => evaluateArguments evaluate isTested
  | "." => runScript evaluate
  | "exec" => becomeProgram
  | "command" => tellCommand
  | _ => (builtin? name).getD fun _ => return 0

/-- Runs a command of the shell itself. Where it is used wrongly the shell ends if it is a special
one. -/
def callBuiltin (isSpecial : Bool) (name : String) (body : Effect Nat) : Effect Unit := do
  let before := (← get).command
  modify fun s => { s with command := some name, hasFailedOutput := false }
  match ← attempt body with
  | .ok code =>
    let hasFailed := (← get).hasFailedOutput
    if hasFailed then complain (name ++ ": I/O error")
    modify fun s => { s with command := before, hasFailedOutput := false }
    finishWith (if hasFailed then code ||| 1 else code)
  | .error halt =>
    modify fun s => { s with command := before, hasFailedOutput := false }
    if halt = .failed && !isSpecial then return () else throw halt

/-- Runs a program in a process of its own, or in this one if nothing is left to do behind it. -/
def callProgram (isLast : Bool) (argv paths : List String) : Effect Unit := do
  if isLast && !(← get).hasTraps then startProgram argv paths
  else
    let pid ← forkWith (startProgram argv paths)
    let job ← addJob [pid] false
    finishWith (← finishJob job)

/-- Runs what the words of a command stand for. -/
def callCommand (evaluate : Evaluator) (setting : Setting) (c : CommandWords) : Effect Unit := do
  match c.fields with
  | [] => finishWith (← get).capturedCode
  | name :: arguments =>
    let s ← get
    match ← findCommand c.withFunctions (c.path.getD s.searchPath) name with
    | .function body => callFunction evaluate setting.isTested body arguments
    | .builtin =>
      callBuiltin (c.isSpecial.getD false) name
        (builtinOf evaluate setting.isTested name arguments)
    | .program paths => callProgram setting.isLast c.fields paths
    | .nothing errno =>
      complain (name ++ ": " ++ absenceWords errno)
      finishWith 127

/-- Runs a simple command. -/
def runSimple (evaluate : Evaluator) (setting : Setting) (line : Nat)
    (assignments : List (String × Word)) (words : List Word) (redirections : List Redirection) :
    Effect Unit := do
  modify fun s => { s with line, capturedCode := 0 }
  run Unix.Program.tick
  let capture := captureWith evaluate
  let c ← expandCommand capture words
  let isExec := c.isSpecial.isSome && c.fields.head? = some "exec"
  let isLocal := c.fields ≠ [] && c.isSpecial ≠ some true
  let goals ← redirections.mapM (expandRedirection capture)
  let (kept, done) ← redirectEach capture true [] goals
  if !done then
    restoreStreams kept
    finishWith 2
    if c.isSpecial = some true then throw .failed
  else
    let stream := ((kept.lookup 2).join).getD 2
    let body : Effect Unit := do
      let isExported := isExec && 1 < c.fields.length
      let given ← assignAll capture isLocal isExported assignments
      trace capture stream (given ++ c.front ++ c.fields)
      callCommand evaluate setting c
    andFinally (if isLocal then withLocals body else body)
      (if isExec then forgetStreams kept else restoreStreams kept)

end Shipyard.Shell
