import Shipyard.Shell.Builtin.Basic

/-!
# Commands on variables, options and arguments

The commands that change what a shell knows: variables and what else is known of them, the options,
the arguments, and the texts that words stand for.
-/

namespace Shipyard.Shell

/-! ## Variables -/

/-- The lines that give variables their values, in the order of the names. -/
def entryLines (front : String) (entries : List (String × Entry)) : String :=
  let ordered := entries.mergeSort fun a b => a.1 ≤ b.1
  String.join (ordered.map fun (name, entry) =>
    let value := match entry.value with
      | some value => "=" ++ quotedWord value
      | none => ""
    front ++ name ++ value ++ "\n")

/-- Changes what is known of variables, which may be given values; without any it tells those of
which it is known already. -/
def declare (command : String) (change : Entry → Entry) (isMeant : Entry → Bool) : Builtin :=
  fun arguments => do
    let (options, names) ← readOptions "p" "" arguments
    if options ≠ [] || names = [] then
      let s ← get
      emit (entryLines (command ++ " ") (s.entries.filter fun entry => isMeant entry.2))
      return 0
    else
      names.forM fun argument => do
        let (name, value?) := splitAssignment argument
        match value? with
        | some value => assignChecked name value
        | none => demandName name
        modify fun s => s.putEntry name (change (s.entryOf name))
      return 0

/-- Gives variables to programs. -/
def exportVariables : Builtin :=
  declare "export" (fun entry => { entry with isExported := true }) (·.isExported)

/-- Lets variables keep their values. -/
def fixVariables : Builtin :=
  declare "readonly" (fun entry => { entry with isFixed := true }) (·.isFixed)

/-- Changes the innermost list of what functions have changed for themselves. -/
def modifyLocals (f : Locals → Locals) : Effect Unit :=
  modify fun s =>
    match s.locals with
    | first :: others => { s with locals := f first :: others }
    | [] => s

/-- Makes a variable that of the function that runs. -/
def makeLocal (name : String) (value? : Option String) : Effect Unit := do
  let before := (← get).entries.lookup name
  demandName name
  modifyLocals fun l => { l with entries := (name, before) :: l.entries }
  match value? with
  | some value => assign name value
  | none =>
    if before.isNone then modify fun s => s.putEntry name ⟨none, false, false⟩ else return ()

/-- Makes variables those of the function that runs. -/
def localVariables : Builtin := fun arguments => do
  if (← get).locals = [] then abort "not in a function"
  else
    arguments.forM fun argument => do
      if argument = "-" then
        let options := (← get).options
        modifyLocals fun l => { l with options := some (l.options.getD options) }
      else
        let (name, value?) := splitAssignment argument
        makeLocal name value?
    return 0

/-- Lets a variable be what it was before. -/
def restoreEntry (name : String) (before : Option Entry) : Effect Unit :=
  modify fun s =>
    let s := match before with
      | some entry => s.putEntry name entry
      | none => s.dropEntry name
    s.noticing name

/-- Runs something with variables of its own. -/
def withLocals {α : Type} (body : Effect α) : Effect α := do
  modify fun s => { s with locals := ⟨[], none⟩ :: s.locals }
  andFinally body do
    match (← get).locals with
    | [] => return ()
    | l :: others =>
      modify fun s => { s with locals := others, options := l.options.getD s.options }
      l.entries.forM fun (name, before) => restoreEntry name before

/-- Takes variables or functions away. -/
def dropVariables : Builtin := fun arguments => do
  let (options, names) ← readOptions "vf" "" arguments
  let kind := options.getLast?.map (·.1)
  names.forM fun name => do
    if kind = some 'f' then
      modify fun s => { s with functions := s.functions.filter (·.1 ≠ name) }
    else
      demandName name
      unassign name
  return 0

/-! ## Options and arguments -/

/-- The options, in the order in which they are told. -/
def namedOptions : List (String × Char) :=
  [("errexit", 'e'), ("noglob", 'f'), ("ignoreeof", 'I'), ("interactive", 'i'), ("monitor", 'm'),
    ("noexec", 'n'), ("stdin", 's'), ("xtrace", 'x'), ("verbose", 'v'), ("vi", 'V'),
    ("emacs", 'E'), ("noclobber", 'C'), ("allexport", 'a'), ("notify", 'b'), ("nounset", 'u'),
    ("nolog", '1'), ("debug", '2')]

/-- Turns an option on or off. -/
def turnOption (on : Bool) (letter : Char) : Effect Unit :=
  modify fun s =>
    let others := s.options.filter (· ≠ letter)
    { s with options := if on then others ++ [letter] else others }

/-- Turns an option with a letter on or off. -/
def turnLetter (on : Bool) (letter : Char) : Effect Unit :=
  if optionLetters.contains letter then turnOption on letter
  else abort ("Illegal option -" ++ String.ofList [letter])

/-- Turns an option with a name on or off. Without a name it tells all options. -/
def turnNamed (on : Bool) : Option String → Effect Unit
  | some name =>
    match namedOptions.lookup name with
    | some letter => turnOption on letter
    | none => abort ("Illegal option -o " ++ name)
  | none => do
    let s ← get
    if on then
      emitLine "Current option settings"
      namedOptions.forM fun (name, letter) =>
        emitLine (name ++ String.ofList (List.replicate (16 - name.length) ' ') ++
          (if s.hasOption letter then "on" else "off"))
    else
      namedOptions.forM fun (name, letter) =>
        emitLine ("set " ++ (if s.hasOption letter then "-o " else "+o ") ++ name)

/-- Turns the options of the letters of an argument on or off, and gives the arguments that are
left. -/
def turnLetters (on : Bool) : List Char → List String → Effect (List String)
  | [], rest => return rest
  | 'o' :: letters, rest => do
    turnNamed on rest.head?
    turnLetters on letters (rest.drop 1)
  | c :: letters, rest => do
    turnLetter on c
    turnLetters on letters rest

/-- Says what the arguments are. -/
def setArguments (arguments : List String) : Effect Unit :=
  modify fun s => { s with arguments, optionPlace := ⟨1, none⟩ }

/-- Changes options and arguments. The fuel bounds how many options there are. -/
def changeOptions : Nat → List String → Effect Unit
  | 0, _ => return ()
  | _ + 1, [] => return ()
  | fuel + 1, argument :: rest => do
    match argument.toList with
    | ['-'] =>
      turnOption false 'x'
      turnOption false 'v'
      if rest ≠ [] then setArguments rest
    | ['-', '-'] => setArguments rest
    | '-' :: letters => changeOptions fuel (← turnLetters true letters rest)
    | '+' :: letters => changeOptions fuel (← turnLetters false letters rest)
    | _ => setArguments (argument :: rest)

/-- Changes options and arguments, or tells the variables. -/
def changeSettings : Builtin := fun arguments => do
  if arguments = [] then
    let s ← get
    emit (entryLines "" (s.entries.filter fun entry => entry.2.value.isSome))
  else changeOptions (arguments.length + 1) arguments
  return 0

/-- Takes arguments away. -/
def shiftArguments : Builtin := fun arguments => do
  let n ← match arguments with
    | [] => pure 1
    | argument :: _ => demandNumber argument
  let s ← get
  if s.arguments.length < n then abort "can't shift that many"
  else
    setArguments (s.arguments.drop n)
    return 0

/-! ## Reading options -/

/-- The option at a place in the arguments: its letter and what is left of its argument behind it,
with the number of the next argument. At the end there is none. -/
def optionAt (arguments : List String) (place : OptionPlace) :
    Option (Char × List Char) × Nat :=
  let index := place.index
  let under := match place.offset with
    | some offset => if 1 < index then ((arguments.getD (index - 2) "").toList.drop offset) else []
    | none => []
  match under with
  | c :: rest => (some (c, rest), index)
  | [] =>
    match (arguments[index - 1]?).map (·.toList) with
    | some ['-', '-'] => (none, index + 1)
    | some ('-' :: c :: rest) => (some (c, rest), index + 1)
    | _ => (none, index)

/-- Whether a letter stands for an option, and whether the option has a value. -/
def wantedOption : List Char → Char → Option Bool
  | [], _ => none
  | [d], c => if d = c then some false else none
  | d :: ':' :: rest, c => if d = c then some true else wantedOption rest c
  | d :: rest, c => if d = c then some false else wantedOption rest c

/-- Gives a variable a value where the place in the options is kept. -/
def assignQuietly (name value : String) : Effect Unit := do
  let place := (← get).optionPlace
  assignChecked name value
  modify fun s => { s with optionPlace := place }

/-- What is read of an option: its letter, what is left of its argument, the number of the next
argument. -/
def readOption (wanted : List Char) (arguments : List String) (c : Char) (rest : List Char)
    (index : Nat) : Effect (Char × List Char × Nat) := do
  let isQuiet := wanted.head? = some ':'
  match wantedOption wanted c with
  | none =>
    if isQuiet then assign "OPTARG" (String.ofList [c])
    else
      say ("Illegal option -" ++ String.ofList [c] ++ "\n")
      unassign "OPTARG"
    return ('?', rest, index)
  | some false =>
    assign "OPTARG" ""
    return (c, rest, index)
  | some true =>
    match rest, arguments[index - 1]? with
    | [], none =>
      if isQuiet then
        assign "OPTARG" (String.ofList [c])
        return (':', [], index)
      else
        say ("No arg for -" ++ String.ofList [c] ++ " option\n")
        unassign "OPTARG"
        return ('?', [], index)
    | [], some value =>
      assign "OPTARG" value
      return (c, [], index + 1)
    | rest, _ =>
      assign "OPTARG" (String.ofList rest)
      return (c, [], index)

/-- Reads the next option of the arguments. -/
def readNextOption : Builtin := fun arguments => do
  match ← withoutOptions arguments with
  | wanted :: name :: given => do
    let s ← get
    let all := if given = [] then s.arguments else given
    let place := if all.length + 1 < s.optionPlace.index then ⟨1, none⟩ else s.optionPlace
    let (option?, index) := optionAt all place
    let (letter, rest, index) ← match option? with
      | some (c, rest) => readOption wanted.toList all c rest index
      | none => pure ('?', [], index)
    assignQuietly "OPTIND" (toString index)
    assignChecked name (String.ofList [letter])
    let offset := if rest = [] then none
      else some ((all.getD (index - 2) "").length - rest.length)
    modify fun s => { s with optionPlace := ⟨index, offset⟩ }
    return if option?.isSome then 0 else 1
  | _ => abort "Usage: getopts optstring var [arg...]"

/-! ## Texts that words stand for -/

/-- The line that tells the text that a word stands for. -/
def aliasLine (name text : String) : String := name ++ "=" ++ quotedWord text

/-- Lets words stand for texts, or tells them. -/
def giveAliases : Builtin := fun arguments => do
  if arguments = [] then
    let aliases := (← get).aliases
    (List.range chainCount).forM fun chain =>
      (aliases.filter fun a => chainOf a.1 = chain).forM fun (name, text) =>
        emitLine (aliasLine name text)
    return 0
  else
    let codes ← arguments.mapM fun argument => do
      let cs := argument.toList
      let name := cs.take 1 ++ (cs.drop 1).takeWhile (· ≠ '=')
      if name.length < cs.length then
        let name := String.ofList name
        let text := String.ofList (cs.drop (name.length + 1))
        modify fun s =>
          if (s.aliases.lookup name).isSome then
            { s with aliases := s.aliases.map fun a => if a.1 = name then (name, text) else a }
          else { s with aliases := s.aliases ++ [(name, text)] }
        return 0
      else
        match (← get).aliases.lookup argument with
        | some text =>
          emitLine (aliasLine argument text)
          return 0
        | none =>
          say ("alias: " ++ argument ++ " not found\n")
          return 1
    return codes.foldl max 0

/-- Lets words stand for themselves again. -/
def dropAliases : Builtin := fun arguments => do
  let (options, names) ← readOptions "a" "" arguments
  if options ≠ [] then
    modify fun s => { s with aliases := [] }
    return 0
  else
    let codes ← names.mapM fun name => do
      let s ← get
      if (s.aliases.lookup name).isSome then
        set { s with aliases := s.aliases.filter (·.1 ≠ name) }
        return 0
      else
        say ("unalias: " ++ name ++ " not found\n")
        return 1
    return codes.foldl max 0

end Shipyard.Shell
