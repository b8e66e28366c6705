import Shipyard.Shell.Builtin
import Shipyard.Shell.Redirection

/-!
# Scripts, traps and shells of their own

What can be done once commands can be run: an `Evaluator` runs a command, and with one of them a
script is run command by command, a trap is run when a signal has come, a shell is brought to its
end, and a command is run in a shell of its own.
-/

namespace Shipyard.Shell

open Unix (Pid)

/-- How a command is run. -/
structure Setting where
  /-- whether nothing is left to do for the shell behind it -/
  isLast : Bool
  /-- whether its failure is looked at -/
  isTested : Bool
  deriving DecidableEq, Repr

namespace Setting

/-- A command with others behind it. -/
def plain : Setting := ⟨false, false⟩

/-- A command whose failure is looked at. -/
def tested : Setting := ⟨false, true⟩

/-- A command of which only the failure may be looked at. -/
def inner (s : Setting) : Setting := { s with isLast := false }

/-- A command that is all that its shell does. -/
def only (s : Setting) : Setting := { s with isLast := true }

end Setting

/-- What runs a command. -/
abbrev Evaluator := Setting → Statement → Effect Unit

/-- Runs a command, if there is one. -/
def evaluateIfAny (evaluate : Evaluator) (setting : Setting) : Option Statement → Effect Unit
  | none => return ()
  | some body => evaluate setting body

/-! ## Scripts -/

/-- Writes the lines of a script that were read, if that is asked for: from the first one that was
not written before to the one where the reading stands, all of it. Gives what is left to be written.
-/
def echoLines (unseen rest : List Char) : Effect (List Char) := do
  let front := unseen.take (unseen.length - rest.length)
  if front = [] then return unseen
  else
    let isWhole := front.getLast? = some '\n'
    let behind := rest.takeWhile (· ≠ '\n')
    let lines := if isWhole then front else front ++ rest.take (behind.length + 1)
    if (← get).hasOption 'v' then say (String.ofList lines)
    return unseen.drop lines.length

/-- Runs what is left of a script, and tells whether a command was run, now or before. Where lines
are written when they are read, `unseen` is what is still to be written. The fuel bounds how many
lines there are. -/
def runReader (evaluate : Evaluator) (setting : Setting) :
    Nat → Bool → Option (List Char) → Reader → Effect Bool
  | 0, _, _, _ => diverge
  | fuel + 1, hasRun, unseen?, r => do
    let s ← get
    match { r with aliases := s.aliases, documents := s.documents }.nextCommand with
    | .error (line, fault) =>
      match unseen? with
      | some unseen =>
        let lines := (Text.splitAt '\n' unseen).take (line + 1 - r.line)
        let count := (lines.map (·.length + 1)).foldl (· + ·) 0
        discard (echoLines unseen (unseen.drop count))
      | none => pure ()
      modify fun s => { s with line }
      abort fault.message
    | .ok (command?, r) =>
      let unseen? ← match unseen? with
        | some unseen => do pure (some (← echoLines unseen r.rest))
        | none => pure none
      modify fun s => { s with documents := r.documents }
      match command? with
      | none => return hasRun
      | some none => runReader evaluate setting fuel hasRun unseen? r
      | some (some body) =>
        evaluate { setting with isLast := setting.isLast && r.isAtEnd } body
        runReader evaluate setting fuel true unseen? r

/-- Runs a script, and tells whether there was a command in it. Its lines may be written when they
are read. -/
def runLines (evaluate : Evaluator) (setting : Setting) (echoes : Bool) (text : String) :
    Effect Bool :=
  let cs := text.toList
  runReader evaluate setting (cs.length + 2) false (if echoes then some cs else none)
    (.ofText cs 1 #[] [])

/-- Runs a script, and tells whether there was a command in it. -/
def runText (evaluate : Evaluator) (setting : Setting) (text : String) : Effect Bool :=
  runLines evaluate setting false text

/-- Runs a script from a file, and tells whether there was a command in it. -/
def runFileText (evaluate : Evaluator) (setting : Setting) (text : String) : Effect Bool :=
  runLines evaluate setting true text

/-! ## Traps -/

/-- Whether something is to be done when a signal comes. -/
def State.hasTraps (s : State) : Bool := s.traps.any (·.2 ≠ "")

/-- Does what is to be done when signals have come. The code stays what it is. -/
def runActions (evaluate : Evaluator) (code : Nat) : List Nat → Effect Unit
  | [] => return ()
  | signal :: rest => do
    match (← get).traps.lookup signal with
    | none => runActions evaluate code rest
    | some action =>
      discard (runText evaluate .plain action)
      finishWith code
      runActions evaluate code rest

/-- Does what is to be done when signals come, if some have come. -/
def runTraps (evaluate : Evaluator) : Effect Unit := do
  let s ← get
  if s.hasTraps then
    let signals ← askD [] Unix.takeSignals
    if signals ≠ [] then
      let code := s.trapCode.getD s.code
      modify fun s => { s with trapCode := some code }
      let result ← attempt (runActions evaluate code (signals.mergeSort fun a b => a ≤ b))
      match result with
      | .ok () => modify fun now => { now with trapCode := s.trapCode }
      | .error .leavesShell => throw .leavesShell
      | .error .failed => throw .failed
      | .error halt =>
        modify fun now => { now with trapCode := s.trapCode }
        throw halt

/-- Does what is to be done at the end of a shell. Its code stays what it is, unless what is done
ends the shell with another one or fails. -/
def runLastTrap (evaluate : Evaluator) : Effect Unit := do
  let s ← get
  match s.traps.lookup 0 with
  | none => return ()
  | some action =>
    let traps := s.traps.filter (·.1 ≠ 0)
    set { s with traps, trapCode := some s.code, loops := 0 }
    match ← attempt (runText evaluate .plain action) with
    | .error .failed => return ()
    | _ =>
      let kept := (← get).trapCode
      finishWith (kept.getD s.code)

/-- Runs something as all that a shell does. -/
def runToEnd (evaluate : Evaluator) (body : Effect Unit) : Effect Unit := do
  match ← attempt body with
  | .error .leavesShell => modify fun s => { s with code := s.trapCode.getD s.code }
  | _ => pure ()
  modify fun s => { s with trapCode := none }
  runLastTrap evaluate

/-! ## Shells of their own -/

/-- Makes a process that goes on from the state of this shell, and gives its number. -/
def forkWith (body : Effect Unit) : Effect Pid := do
  let s ← get
  run (Unix.Program.fork (Unix.Program.task (do
    let (_, s) ← StateT.run (ExceptT.run body) s
    return s.code)))

/-- Runs something in a shell of its own. -/
def forkShell (evaluate : Evaluator) (body : Effect Unit) : Effect Pid :=
  forkWith do
    modify fun s => { s with jobs := [] }
    runToEnd evaluate do
      forgetTraps
      body

/-- What a process does first that is let run: it does not mind the signals of a terminal, and the
first one of a job has no input. -/
def detach (isFirst : Bool) : Effect Unit := do
  [2, 3].forM fun signal => tell (Unix.dispose signal .ignored)
  if isFirst then
    tell (Unix.close 0)
    discard (ask (Unix.openFile "/dev/null" .forReading))

/-- Lets a stream lead to what another descriptor leads to, which is closed. -/
def moveStream (stream descriptor : Nat) : Effect Unit := do
  if descriptor ≠ stream then
    tell (Unix.duplicateOnto descriptor stream)
    tell (Unix.close descriptor)

/-- The output of a command, which runs in a shell of its own. -/
def captureWith (evaluate : Evaluator) : Capture
  | none => return ""
  | some body => do
    match ← ask Unix.makePipe with
    | .error _ => abort "Pipe call failed"
    | .ok (intake, outlet) =>
      let pid ← forkShell evaluate do
        tell (Unix.close intake)
        moveStream 1 outlet
        evaluate (Setting.plain.only) body
      let job ← addJob [pid] false
      tell (Unix.close outlet)
      let text ← run (Unix.Program.readAll intake)
      tell (Unix.close intake)
      let code ← finishJob job
      modify fun s => { s with capturedCode := code }
      return String.ofList ((text.toOption.getD "").toList.filter (· ≠ '\x00'))

end Shipyard.Shell
