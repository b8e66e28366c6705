import Shipyard.Command.Basic
import Shipyard.Fault
import Shipyard.Text.Search

/-!
# Invocations

What a command line asks for. There are five commands, each with options of its own; some options
are taken from a variable when they are not given, unless the variable is empty. A command line that
is used wrongly asks for nothing.

A word that begins with a dash is an option, unless it is a dash alone or stands behind two dashes;
every other word is an argument. An option is known by its whole name. If it takes a value, the value
stands behind an equality sign or is the next word, whatever that is; of an option that is given more
than once the last value counts.
-/

namespace Shipyard.CommandLine

/-! ## Options and arguments -/

/-- What an option does. -/
inductive Meaning where
  /-- it takes a value -/
  | value
  /-- it answers a question -/
  | answer (question : String) (yes : Bool)
  /-- it asks for help -/
  | help
  deriving DecidableEq, Repr

/-- The options of a command. -/
abbrev Options := List (String × Meaning)

/-- The words of a command line, told apart. -/
structure Words where
  /-- the values of options, the last first -/
  values : List (String × String) := []
  /-- the answers, the last first -/
  answers : List (String × Bool) := []
  /-- whether help was asked for -/
  help : Bool := false
  /-- the arguments, in order -/
  arguments : List String := []
  deriving DecidableEq, Repr

namespace Words

/-- The value of an option. -/
def value? (w : Words) (option : String) : Option String := w.values.lookup option

/-- The answer to a question. -/
def answer? (w : Words) (question : String) : Option Bool := w.answers.lookup question

end Words

/-- Whether a word is an option. -/
def isOption (word : String) : Bool := word ≠ "-" && word.toList.head? = some '-'

/-- An option with the value behind its equality sign, if it has one. -/
def cutOption (word : String) : String × Option String :=
  if word.toList.contains '=' then
    let (name, value) := Text.cutAt word '='
    (name, some value)
  else (word, none)

/-- Tells the words of a command line apart; nothing if they are used wrongly. Where arguments end
the options, the first argument takes all words behind it with it. -/
def tellApart (options : Options) (argumentsEnd : Bool) (w : Words) : List String → Option Words
  | [] => some { w with arguments := w.arguments.reverse }
  | word :: rest =>
    if word = "--" then some { w with arguments := w.arguments.reverse ++ rest }
    else if isOption word then
      let (name, attached) := cutOption word
      match options.lookup name, attached with
      | some .value, some value =>
        tellApart options argumentsEnd { w with values := (name, value) :: w.values } rest
      | some .value, none =>
        match rest with
        | value :: behind =>
          tellApart options argumentsEnd { w with values := (name, value) :: w.values } behind
        | [] => none
      | some (.answer question yes), none =>
        tellApart options argumentsEnd { w with answers := (question, yes) :: w.answers } rest
      | some .help, none => tellApart options argumentsEnd { w with help := true } rest
      | _, _ => none
    else if argumentsEnd then some { w with arguments := w.arguments.reverse ++ word :: rest }
    else tellApart options argumentsEnd { w with arguments := word :: w.arguments } rest

/-! ## Commands -/

/-- The options that all commands with a configuration share. -/
structure SourceOptions where
  /-- the source -/
  source : String
  /-- the configuration, if it is not the one of the source -/
  config : Option String
  /-- whether a bump is forced, if the configuration does not say it -/
  force : Option Bool
  deriving DecidableEq, Repr

/-- The options that name an event. -/
structure EventOptions where
  /-- the file with the event -/
  event : String
  /-- the name of the event -/
  name : Option String
  /-- the commit of the release -/
  revision : Option String
  deriving DecidableEq, Repr

/-- What a command line asks for. -/
inductive Invocation where
  /-- how the program is used -/
  | help
  /-- the version of the program -/
  | version
  /-- nothing -/
  | nothing
  /-- a run over all targets -/
  | run (event : EventOptions) (source : SourceOptions)
  /-- one branch -/
  | branch (platform : String) (event : EventOptions) (source : SourceOptions)
  /-- a packaging -/
  | package (platform binary tag out : String) (source : SourceOptions)
  /-- a verification -/
  | verify (archive : String)
  /-- a bump of the formula -/
  | bumpFormula (tag revision : String) (source : SourceOptions)
  deriving DecidableEq, Repr

/-- Why a command line asks for nothing. -/
inductive Misuse where
  /-- it is used wrongly -/
  | usage
  /-- a path holds a null character -/
  | nullCharacter
  deriving DecidableEq, Repr

/-- The options that name an event. -/
def eventOptions : Options :=
  [("--event", .value), ("--event-name", .value), ("--revision", .value)]

/-- The options for source and configuration. -/
def sourceOptions : Options := [("--source", .value), ("--config", .value), ("--help", .help)]

/-- The question whether a bump is forced. -/
def forceOptions : Options :=
  [("--force", .answer "force" true), ("--no-force", .answer "force" false)]

/-- The options whose values are paths. -/
def pathOptions : List String := ["--event", "--source", "--config", "--binary", "--out"]

/-- Whether the value of some path holds a null character. -/
def hasNullPath (w : Words) : Bool :=
  pathOptions.any fun option => ((w.value? option).getD "").toList.contains '\x00'

/-- The words of a command with so many arguments. Help is given before anything else is looked at,
and a path that no system takes is refused before anything is missed. -/
def wordsOf (options : Options) (words : List String) : Except Misuse Words :=
  match tellApart options false {} words with
  | none => .error .usage
  | some w => if !w.help && hasNullPath w then .error .nullCharacter else .ok w

/-- The value of an option that has to be there. -/
def needed : Option String → Except Misuse String
  | some value => .ok value
  | none => .error .usage

/-- The value of an option, or that of a variable that is not empty. -/
def orVariable (environ : Environment) (variableName : String) (value : Option String) :
    Option String :=
  value <|> environ.nonempty? variableName

/-- The only argument of a command. -/
def onlyArgument : List String → Except Misuse String
  | [argument] => .ok argument
  | _ => .error .usage

/-- What the words say about source and configuration. -/
def sourceOf (w : Words) : SourceOptions :=
  ⟨(w.value? "--source").getD ".", w.value? "--config", w.answer? "force"⟩

/-- What the words say about the event. -/
def eventOf (environ : Environment) (w : Words) : Except Misuse EventOptions := do
  return ⟨← needed (orVariable environ "GITHUB_EVENT_PATH" (w.value? "--event")),
    orVariable environ "GITHUB_EVENT_NAME" (w.value? "--event-name"),
    orVariable environ "GITHUB_SHA" (w.value? "--revision")⟩

namespace Invocation

/-- The rest of a command line that begins with the name of a command. -/
def ofCommand (environ : Environment) (name : String) (rest : List String) :
    Except Misuse Invocation :=
  match name with
  | "run" => do
    let w ← wordsOf (eventOptions ++ sourceOptions ++ forceOptions) rest
    if w.help then return help
    let event ← eventOf environ w
    if w.arguments ≠ [] then throw .usage
    return run event (sourceOf w)
  | "branch" => do
    let w ← wordsOf (eventOptions ++ sourceOptions) rest
    if w.help then return help
    return branch (← onlyArgument w.arguments) (← eventOf environ w) (sourceOf w)
  | "package" => do
    let own : Options := [("--binary", .value), ("--tag", .value), ("--out", .value)]
    let w ← wordsOf (own ++ sourceOptions) rest
    if w.help then return help
    return package (← onlyArgument w.arguments) (← needed (w.value? "--binary"))
      (← needed (w.value? "--tag")) ((w.value? "--out").getD "dist") (sourceOf w)
  | "verify" => do
    let w ← wordsOf [("--help", .help)] rest
    if w.help then return help
    if (w.arguments.headD "").toList.contains '\x00' then throw .nullCharacter
    return verify (← onlyArgument w.arguments)
  | "bump-formula" => do
    let own : Options := [("--tag", .value), ("--revision", .value)]
    let w ← wordsOf (own ++ sourceOptions ++ forceOptions) rest
    if w.help then return help
    let tag ← needed (w.value? "--tag")
    let revision ← needed (orVariable environ "GITHUB_SHA" (w.value? "--revision"))
    if w.arguments ≠ [] then throw .usage
    return bumpFormula tag revision (sourceOf w)
  | _ => throw .usage

/-- The names of the commands. -/
def commandNames : List String := ["run", "branch", "package", "verify", "bump-formula"]

/-- The options in front of a command. -/
def frontOptions : Options := [("--version", .answer "version" true), ("--help", .help)]

/-- What words ask for that begin with no command. They are read once more, as if nothing had ended
the options in front of them, and may still ask for help. -/
def withoutCommand (words : List String) : Except Misuse Invocation :=
  match tellApart frontOptions true {} words with
  | some w => if w.help then return help else throw .usage
  | none => throw .usage

/-- What a command line asks for. The version is told before a command is looked at more closely,
but not before its name. -/
def ofWords (environ : Environment) (words : List String) : Except Misuse Invocation :=
  if words = [] then throw .usage
  else
    match tellApart frontOptions true {} words with
    | none => throw .usage
    | some w =>
      let asksVersion := (w.answer? "version").getD false
      if w.help then return help
      else
        match w.arguments with
        | [] => return if asksVersion then version else nothing
        | name :: rest =>
          if !commandNames.contains name then withoutCommand (name :: rest)
          else if asksVersion then return version
          else ofCommand environ name rest

end Invocation

end Shipyard.CommandLine
