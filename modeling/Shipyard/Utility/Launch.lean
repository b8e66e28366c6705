import Shipyard.Utility.Basic

/-!
# Programs that start programs

Programs that look for another program and become it, or start it and wait for its end, after they
have changed something in its surroundings.
-/

namespace Shipyard.Utility

open Unix (Program)

/-! ## Starting -/

/-- The search path of a program that is given none. -/
def usualPath : String := "/bin:/usr/bin"

/-- The paths that a name may stand for. -/
def pathsOf (environment : List (String × String)) (name : String) : List String :=
  if name.toList.contains '/' then [name]
  else
    let path := (environment.lookup "PATH").getD usualPath
    (Text.splitAt ':' path.toList).map fun directory =>
      if directory = [] then name else String.ofList directory ++ "/" ++ name

/-- Becomes the first of some paths that can be started; the error says why none can. A script
without an interpreter is one for the shell. -/
def becomeFirst (argv : List String) (environment : List (String × String)) :
    Errno → List String → Program Errno
  | errno, [] => return errno
  | errno, path :: rest => do
    let image ← Program.ask (Unix.imageAt path argv environment)
    let image ← match image with
      | .error .execFormat =>
        Program.ask (Unix.imageAt "/bin/sh" ("/bin/sh" :: path :: argv.drop 1) environment)
      | other => pure other
    match image with
    | .ok image => Program.become image
    | .error own =>
      let counts := own ≠ .noEntry && own ≠ .notDirectory
      becomeFirst argv environment (if counts then own else errno) rest

/-- Becomes a program; the error says why that is not possible. -/
def becomeProgram (argv : List String) (environment : List (String × String)) : Program Errno :=
  let name := argv.headD ""
  if name = "" then return .noEntry
  else becomeFirst argv environment .noEntry (pathsOf environment name)

/-- Becomes a program, or complains and gives a code. -/
def becomeOrFail (c : Call) (argv : List String) (environment : List (String × String))
    (explain : String → Errno → String) : Program Nat := do
  let errno ← becomeProgram argv environment
  complain c (explain (argv.headD "") errno)
  return if errno = .noEntry then 127 else 126

/-! ## Surroundings -/

/-- The variables in which one has a value. -/
def setVariable (name value : String) : List (String × String) → List (String × String)
  | [] => [(name, value)]
  | entry :: rest =>
    if entry.1 = name then (name, value) :: rest else entry :: setVariable name value rest

/-- Variables with those that arguments give values, and the arguments behind that. -/
def takeAssignments :
    List (String × String) → List String → List (String × String) × List String
  | environment, [] => (environment, [])
  | environment, argument :: rest =>
    let cs := argument.toList
    let name := cs.takeWhile (· ≠ '=')
    if name.length < cs.length then
      let value := String.ofList (cs.drop (name.length + 1))
      takeAssignments (setVariable (String.ofList name) value environment) rest
    else (environment, argument :: rest)

/-- Runs a program with other variables, or tells them. -/
def env : Utility :=
  withLeadingOptions [flag 'i' ["ignore-environment"], flag '0' ["null"], valued 'u' ["unset"],
    valued 'C' ["chdir"], valued 'S' ["split-string"], flag 'v' ["debug"]] 125 fun c o rest => do
    let isBare := rest.head? = some "-"
    let rest := if isBare then rest.drop 1 else rest
    let split := (o.values 'S').flatMap fun text =>
      (Text.splitAt ' ' text.toList).filterMap fun word =>
        if word = [] then none else some (String.ofList word)
    let start := if isBare || o.has 'i' then [] else c.environment
    let start := (o.values 'u').foldl (fun entries name => entries.filter (·.1 ≠ name)) start
    let (environment, argv) := takeAssignments start (split ++ rest)
    let moved ← match o.value? 'C' with
      | some directory => Program.ask (Unix.changeDirectory directory)
      | none => pure (.ok ())
    match moved, argv with
    | .error errno, _ =>
      failing c ("cannot change directory to " ++ quotedAlways ((o.value? 'C').getD "") ++ ": " ++
        errno.words) 125
    | .ok (), [] => do
      let stop := if o.has '0' then "\x00" else "\n"
      put c (String.join (environment.map fun (name, value) => name ++ "=" ++ value ++ stop))
      return 0
    | .ok (), argv =>
      becomeOrFail c argv environment fun name errno => quotedAlways name ++ ": " ++ errno.words

/-- Tells variables. -/
def printenv : Utility :=
  withLeadingOptions [flag '0' ["null"]] 2 fun c o names => do
    let stop := if o.has '0' then "\x00" else "\n"
    if names = [] then
      put c (String.join (c.environment.map fun (name, value) => name ++ "=" ++ value ++ stop))
      return 0
    else
      let values := names.filterMap fun name => c.environment.lookup name
      put c (String.join (values.map fun value => value ++ stop))
      return if values.length < names.length then 1 else 0

/-- Becomes a program after something was done. -/
def after (action : Program Unit) (c : Call) (argv : List String) (missing : Nat) :
    Program Nat := do
  if argv = [] then misused c "missing operand" missing
  else
    action
    becomeOrFail c argv c.environment fun name errno =>
      "failed to run command " ++ quotedAlways name ++ ": " ++ errno.words

/-- Runs a program that does not mind that its terminal goes. -/
def nohup : Utility :=
  withLeadingOptions [] 125 fun c _ argv =>
    after (Program.request (Unix.dispose 1 .ignored)) c argv 125

/-- Runs a program that lets others go first. -/
def nice : Utility :=
  withLeadingOptions [valued 'n' ["adjustment"]] 125 fun c _ argv =>
    if argv = [] then do
      putLine c "0"
      return 0
    else
      becomeOrFail c argv c.environment fun name errno =>
        quotedAlways name ++ ": " ++ errno.words

/-- Runs a program with other buffers. -/
def stdbuf : Utility :=
  withLeadingOptions [valued 'i' ["input"], valued 'o' ["output"], valued 'e' ["error"]] 125
    fun c _ argv => after (pure ()) c argv 125

/-! ## Time -/

/-- A number with a point, as it is written. -/
structure Written where
  /-- its digits as a whole number -/
  digits : Nat
  /-- how many of them are behind the point; a negative number stands for zeros that are left out -/
  places : Int
  deriving DecidableEq, Repr

/-- The exponent at the beginning of a text, and the text behind it. -/
def takeExponent (cs : List Char) : Int × List Char :=
  let read := fun (sign : Int) (cs : List Char) (whole : List Char) =>
    let digits := cs.takeWhile Char.isDigit
    if digits = [] || 6 < digits.length then (0, whole)
    else (sign * (digitsOf digits : Nat), cs.drop digits.length)
  match cs with
  | e :: '-' :: rest => if e = 'e' || e = 'E' then read (-1) rest cs else (0, cs)
  | e :: '+' :: rest => if e = 'e' || e = 'E' then read 1 rest cs else (0, cs)
  | e :: rest => if e = 'e' || e = 'E' then read 1 rest cs else (0, cs)
  | [] => (0, [])

/-- The number with a point at the beginning of a text, and the text behind it. -/
def takeWritten (cs : List Char) : Option (Written × List Char) :=
  let whole := cs.takeWhile Char.isDigit
  let (fraction, rest) := match cs.drop whole.length with
    | '.' :: rest => (rest.takeWhile Char.isDigit, rest.dropWhile Char.isDigit)
    | rest => ([], rest)
  let (exponent, rest) := takeExponent rest
  if whole = [] && fraction = [] then none
  else some (⟨digitsOf (whole ++ fraction), (fraction.length : Nat) - exponent⟩, rest)

/-- The time that a text stands for, in parts of a second. Nothing is as good as for ever. -/
def duration? (text : String) : Option (Option Nat) :=
  let cs := text.toList
  let cs := if cs.head? = some '+' then cs.drop 1 else cs
  let lower := String.ofList (cs.map Char.toLower)
  if lower = "inf" || lower = "infinity" then some none
  else do
    let (number, unit) ← takeWritten cs
    let factor ← [([], 1), (['s'], 1), (['m'], 60), (['h'], 3600), (['d'], 86400)].lookup unit
    let parts := number.digits * factor * Unix.second * Nat.pow 10 (-number.places).toNat
    let scale := Nat.pow 10 number.places.toNat
    return some ((parts + scale - 1) / scale)

/-- Waits until a time, whatever signals come. -/
def sleepUntil (time : Nat) : Nat → Program Unit
  | 0 => Program.diverge
  | fuel + 1 => do
    match ← Program.ask (Unix.sleepUntil time) with
    | .error .interrupted => sleepUntil time fuel
    | _ => return ()

/-- Lets time go by. -/
def sleep : Utility :=
  withOptions [] 1 fun c _ arguments => do
    if arguments = [] then misused c "missing operand" 1
    else
      let wrong := arguments.filter fun argument => (duration? argument).isNone
      if wrong ≠ [] then
        wrong.forM fun argument => complain c ("invalid time interval " ++ quotedText argument)
        say (c.helpHint ++ "\n")
        return 1
      else
        let durations := arguments.filterMap duration?
        if durations.contains none then Program.diverge
        else
          let total := (durations.filterMap id).foldl (· + ·) 0
          let now ← Program.askD 0 Unix.elapsed
          sleepUntil (now + total) Program.patience
          return 0

/-- The number of a signal, given by number or by name. -/
def signalOf? (text : String) : Option Nat :=
  match text.toNat? with
  | some n => if n < Unix.signalCount then some n else none
  | none =>
    let upper := String.ofList (text.toList.map Char.toUpper)
    let name := if upper.startsWith "SIG" then (upper.drop 3).toString else upper
    Unix.signalNumber? name

/-- The code for an end. -/
def codeOf : Unix.Ending → Nat
  | .exited code => code
  | .killed signal => 128 + signal

/-- Waits for the end of a child, whatever signals come. -/
def awaitAnyChild : Nat → Program (Option Unix.Ending)
  | 0 => Program.diverge
  | fuel + 1 => do
    match ← Program.ask (Unix.awaitChild .always) with
    | .ok (some (_, ending)) => return some ending
    | .ok none => awaitAnyChild fuel
    | .error .interrupted => awaitAnyChild fuel
    | .error _ => return none

/-- The task of a process that becomes a program. -/
def taskOf (c : Call) (argv : List String) (explain : String → Errno → String) : Unix.Task :=
  Program.task (becomeOrFail c argv c.environment explain)

/-- Runs a program for a limited time. -/
def timeout : Utility :=
  withLeadingOptions [valued 's' ["signal"], valued 'k' ["kill-after"],
    named 'p' ["preserve-status"] .without, named 'f' ["foreground"] .without,
    flag 'v' ["verbose"]] 125 fun c o rest => do
    match rest with
    | limit :: name :: arguments =>
      let signal? := signalOf? ((o.value? 's').getD "TERM")
      match duration? limit, signal? with
      | none, _ => misused c ("invalid time interval " ++ quotedText limit) 125
      | _, none =>
        misused c (quotedText ((o.value? 's').getD "") ++ ": invalid signal") 125
      | some time?, some signal =>
        let start ← Program.askD 0 Unix.elapsed
        let pid ← Program.fork (taskOf c (name :: arguments) fun name errno =>
          "failed to run command " ++ quotedAlways name ++ ": " ++ errno.words)
        let ended ← match time?.filter (· ≠ 0) with
          | some time => Program.askD none (Unix.awaitChildUntil (start + time))
          | none => do pure ((← awaitAnyChild Program.patience).map fun ending => (pid, ending))
        match ended with
        | some (_, ending) => return codeOf ending
        | none =>
          Program.request (Unix.sendSignal pid signal)
          Program.request (Unix.sendSignal pid 18)
          let second ← match (o.value? 'k').bind duration? with
            | some (some more) => do
              let now ← Program.askD 0 Unix.elapsed
              let ended ← Program.askD none (Unix.awaitChildUntil (now + more))
              if ended.isNone then Program.request (Unix.sendSignal pid 9)
              pure (ended.map (·.2))
            | _ => pure none
          let ending ← match second with
            | some ending => pure (some ending)
            | none => awaitAnyChild Program.patience
          let code := (ending.map codeOf).getD 0
          if o.has 'p' then return code
          else return if ending = some (.killed 9) then 137 else 124
    | _ => do
      say (c.helpHint ++ "\n")
      return 125

/-! ## Arguments from the input -/

/-- The words of a text, in which quotes and backslashes escape blanks. The fuel bounds how many
characters there are. -/
def inputWords : List Char → Option (List Char) → Bool → Option Char → List (List Char)
  | [], current, _, _ => (current.map List.reverse).toList
  | c :: rest, current, escaped, quote =>
    let add := fun (d : Char) => some (d :: current.getD [])
    if escaped then inputWords rest (add c) false quote
    else
      match quote with
      | some q =>
        if c = q then inputWords rest (some (current.getD [])) false none
        else inputWords rest (add c) false quote
      | none =>
        if c = '\\' then inputWords rest current true none
        else if c = '"' || c = '\x27' then inputWords rest (some (current.getD [])) false (some c)
        else if c = ' ' || c = '\t' || c = '\n' then
          (current.map List.reverse).toList ++ inputWords rest none false none
        else inputWords rest (add c) false none

/-- The quote that a text leaves open, where a line ends within it. -/
def openQuote? : List Char → Bool → Option Char → Option Char
  | [], _, quote? => quote?
  | c :: rest, escaped, none =>
    if escaped then openQuote? rest false none
    else if c = '\\' then openQuote? rest true none
    else openQuote? rest false (if c = '"' || c = '\x27' then some c else none)
  | c :: rest, _, some q =>
    if c = '\n' then some q
    else if c = q then openQuote? rest false none
    else openQuote? rest false (some q)

/-- Lists of at most so many items. The fuel bounds how many there are. -/
def chunks {α : Type} (size : Nat) : Nat → List α → List (List α)
  | 0, _ => []
  | _ + 1, [] => []
  | fuel + 1, items => items.take size :: chunks size fuel (items.drop size)

/-- A text with another one for each place where a mark stands. -/
def replaceMarks (mark value text : List Char) : Nat → List Char
  | 0 => text
  | fuel + 1 =>
    match text with
    | [] => []
    | c :: rest =>
      if mark ≠ [] && mark.isPrefixOf text then
        value ++ replaceMarks mark value (text.drop mark.length) fuel
      else c :: replaceMarks mark value rest fuel

/-- Runs commands one after the other, until one of them ends in a way that ends all. -/
def runCommands (c : Call) (isTraced : Bool) : Nat → List (List String) → Program Nat
  | code, [] => return code
  | code, argv :: rest => do
    if isTraced then say (String.intercalate " " argv ++ "\n")
    discard (Program.fork (Program.task (do
      match ← Program.ask (Unix.openFile "/dev/null" .forReading) with
      | .ok n =>
        Program.request (Unix.duplicateOnto n 0)
        Program.request (Unix.close n)
      | .error _ => pure ()
      becomeOrFail c argv c.environment fun name errno => name ++ ": " ++ errno.words)))
    let name := argv.headD ""
    match ← awaitAnyChild Program.patience with
    | some (.exited 255) => failing c (name ++ ": exited with status 255; aborting") 124
    | some (.exited own) =>
      if own = 126 || own = 127 then return own
      else runCommands c isTraced (if own = 0 then code else 123) rest
    | some (.killed signal) =>
      failing c (name ++ ": terminated by signal " ++ toString signal) 125
    | none => return code

/-- Runs a command with the words of the input as arguments. -/
def xargs : Utility :=
  withLeadingOptions [flag '0' ["null"], valued 'n' ["max-args"], valued 'I' [],
    valued 'd' ["delimiter"], flag 'r' ["no-run-if-empty"], flag 't' ["verbose"],
    valued 'L' ["max-lines"], valued 'P' ["max-procs"], valued 's' ["max-chars"],
    flag 'x' ["exit"], valued 'a' ["arg-file"]] 1 fun c o rest => do
    let command := if rest = [] then ["echo"] else rest
    let text := ((← contentOf ((o.value? 'a').getD "-")).toOption).getD ""
    let delimiter? := if o.has '0' then some '\x00'
      else match (o.value? 'd').map String.toList with
        | some ['\\', 'n'] => some '\n'
        | some ['\\', 't'] => some '\t'
        | some ['\\', '0'] => some '\x00'
        | some (d :: _) => some d
        | _ => none
    let lines := (linesOf '\n' text).1.map fun line => line.toList.dropWhile (· = ' ')
    let words := match delimiter? with
      | some d => (linesOf d text).1
      | none =>
        if o.has 'I' then (lines.filter (· ≠ [])).map fun line =>
          String.ofList (((inputWords line none false none).intersperse [' ']).flatten)
        else (inputWords text.toList none false none).map String.ofList
    let count := words.length + 1
    let commands := match o.value? 'I', (o.value? 'n').bind String.toNat?,
        (o.value? 'L').bind String.toNat? with
      | some mark, _, _ => words.map fun word => command.map fun part =>
        String.ofList (replaceMarks mark.toList word.toList part.toList (part.length + 1))
      | none, some n, _ => (chunks (max n 1) count words).map fun own => command ++ own
      | none, none, some n =>
        (chunks (max n 1) count (lines.filter (· ≠ []))).map fun own =>
          command ++ own.flatMap fun line =>
            (inputWords line none false none).map String.ofList
      | none, none, none =>
        if words = [] && o.has 'r' then [] else [command ++ words]
    let commands := if commands = [] && !o.has 'r' && !o.has 'I' then [command] else commands
    if delimiter?.isNone then
      if let some quote := openQuote? text.toList false none then
        return ← failing c ("unmatched " ++ (if quote = '"' then "double" else "single") ++
          " quote; by default quotes are special to xargs unless you use the -0 option") 1
    runCommands c (o.has 't') 0 commands

end Shipyard.Utility
