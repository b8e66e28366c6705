import Shipyard.Shell.Command

/-!
# Evaluation of shell scripts

What the commands of a script do. One step of `evaluate` looks at a command and leaves the commands
inside of it to the next one; fuel bounds how deeply commands and calls are nested, and how often a
loop turns.
-/

namespace Shipyard.Shell

open Unix (Pid)

/-! ## Loops -/

/-- How a turn of a loop ends. -/
inductive TurnEnd where
  /-- at its end -/
  | done
  /-- the next turn is to begin -/
  | again
  /-- the loop is left -/
  | left
  deriving DecidableEq, Repr

/-- Runs a part of a loop. -/
def turn (body : Effect Unit) : Effect TurnEnd := do
  match ← attempt body with
  | .ok () => return .done
  | .error (.leavesLoops n) => if n ≤ 1 then return .left else throw (.leavesLoops (n - 1))
  | .error (.nextTurn n) => if n ≤ 1 then return .again else throw (.nextTurn (n - 1))
  | .error halt => throw halt

/-- Runs something as a loop. -/
def asLoop (body : Effect Unit) : Effect Unit := do
  modify fun s => { s with loops := s.loops + 1 }
  andFinally body (modify fun s => { s with loops := s.loops - 1 })

/-- Runs a loop that goes on while its condition succeeds, or until it does. The code is that of the
latest turn. -/
def runLoop (condition body : Effect Unit) (untilTrue : Bool) : Nat → Nat → Effect Unit
  | 0, _ => diverge
  | fuel + 1, code => do
    match ← turn condition with
    | .left => finishWith code
    | .again => runLoop condition body untilTrue fuel code
    | .done =>
      if ((← get).code = 0) = untilTrue then finishWith code
      else
        let result ← turn body
        -- The code of the condition that ends the loop does not count, only that of the body.
        let code := (← get).code
        if result = .left then finishWith code else runLoop condition body untilTrue fuel code

/-- Runs a loop over values. -/
def runEach (name : String) (body : Effect Unit) : List String → Effect Unit
  | [] => return ()
  | value :: rest => do
    assign name value
    if (← turn body) = .left then return () else runEach name body rest

/-! ## Choices -/

/-- The body of the arm whose patterns fit a text. -/
def fittingArm (capture : Capture) (text : List Char) :
    List (List Word × Option Statement) → Effect (Option Statement)
  | [] => return none
  | (patterns, body) :: rest => do
    if ← fitsAny patterns then return body else fittingArm capture text rest
where
  /-- Whether one of some patterns fits. -/
  fitsAny : List Word → Effect Bool
    | [] => return false
    | word :: rest => do
      let pattern ← expandPattern capture word
      if pattern.accepts text then return true else fitsAny rest

/-! ## Commands with processes of their own -/

/-- Starts the commands of a pipeline, of which the first one reads from a descriptor if there is
one, and gives the numbers of their processes. -/
def startStages (evaluate : Evaluator) (setting : Setting) (isBackground : Bool) :
    Bool → Option Nat → List Statement → Effect (List Pid)
  | _, _, [] => return []
  | isFirst, intake?, stage :: rest => do
    let pipe? ← if rest = [] then pure none
      else match ← ask Unix.makePipe with
        | .ok pipe => pure (some pipe)
        | .error _ => abort "Pipe call failed"
    let pid ← forkShell evaluate do
      if isBackground then detach isFirst
      match pipe? with
      | some (intake, _) => tell (Unix.close intake)
      | none => pure ()
      match intake? with
      | some intake => moveStream 0 intake
      | none => pure ()
      match pipe? with
      | some (_, outlet) => moveStream 1 outlet
      | none => pure ()
      evaluate setting.only stage
    -- The shell keeps no end of a pipe but the one that the next stage reads from: as long as a
    -- writing end is open anywhere, the reader does not come to the end.
    match intake? with
    | some intake => tell (Unix.close intake)
    | none => pure ()
    match pipe? with
    | some (_, outlet) => tell (Unix.close outlet)
    | none => pure ()
    let pids ← startStages evaluate setting isBackground false (pipe?.map (·.1)) rest
    return pid :: pids

/-- Waits for a job unless it was let run. -/
def settleJob (pids : List Pid) (isBackground : Bool) : Effect Unit := do
  let job ← addJob pids isBackground
  finishWith (← if isBackground then pure 0 else finishJob job)

/-- Runs a command in a shell of its own, or in this one if nothing is left to do behind it. -/
def runApart (evaluate : Evaluator) (setting : Setting) (isBackground : Bool)
    (redirections : List Redirection) (body : Option Statement) : Effect Unit := do
  let capture := captureWith evaluate
  let goals ← redirections.mapM (expandRedirection capture)
  let inside := fun (isTested : Bool) => do
    redirectForGood capture goals
    evaluateIfAny evaluate ⟨true, isTested⟩ body
  if !isBackground && setting.isLast && !(← get).hasTraps then inside setting.isTested
  else
    let pid ← forkShell evaluate do
      if isBackground then detach true
      inside (setting.isTested && !isBackground)
    settleJob [pid] isBackground

/-- Runs a command with redirections. -/
def runRedirected (evaluate : Evaluator) (setting : Setting) (redirections : List Redirection)
    (body : Option Statement) : Effect Bool := do
  let capture := captureWith evaluate
  let goals ← redirections.mapM (expandRedirection capture)
  let (kept, done) ← redirectEach capture true [] goals
  if done then
    andFinally (evaluateIfAny evaluate setting.inner body) (restoreStreams kept)
  else
    restoreStreams kept
    finishWith 2
  return !done

/-! ## Evaluation -/

/-- Runs a command, and tells whether its failure may end the shell. -/
def runStatement (evaluate : Evaluator) (setting : Setting) : Statement → Effect Bool
  | .simple line assignments words redirections => do
    runSimple evaluate setting line assignments words redirections
    return true
  | .pipeline stages isBackground => do
    let pids ← startStages evaluate setting isBackground true none stages
    settleJob pids isBackground
    return true
  | .background line body redirections => do
    modify fun s => { s with line }
    runApart evaluate setting true redirections (some body)
    return true
  | .subshell line body redirections => do
    modify fun s => { s with line }
    runApart evaluate setting false redirections body
    return true
  | .redirected line body redirections => do
    modify fun s => { s with line }
    runRedirected evaluate setting redirections body
  | .sequence first second => do
    evaluate setting.inner first
    evaluate setting second
    return false
  | .andThen first second => do
    -- The code of the first command is looked at, so its failure never ends the shell.
    evaluate .tested first
    if (← get).code = 0 then evaluate setting second
    return false
  | .orElse first second => do
    evaluate .tested first
    if (← get).code ≠ 0 then evaluate setting second
    return false
  | .negation body => do
    evaluate .tested body
    modify fun s => { s with code := if s.code = 0 then 1 else 0 }
    return false
  | .choice condition yes no => do
    evaluateIfAny evaluate .tested condition
    if (← get).code = 0 then evaluateIfAny evaluate setting yes
    else
      match no with
      | some body => evaluate setting body
      | none => finishWith 0
    return false
  | .loop untilTrue condition body => do
    asLoop (runLoop (evaluateIfAny evaluate .tested condition)
      (evaluateIfAny evaluate setting.inner body) untilTrue Unix.Program.patience 0)
    return false
  | .each line name words body => do
    modify fun s => { s with line }
    let values := (← words.mapM (expandFields (captureWith evaluate))).flatten
    if values = [] then finishWith 0
    asLoop (runEach name (evaluateIfAny evaluate setting.inner body) values)
    return false
  | .cases line word arms => do
    modify fun s => { s with line }
    let capture := captureWith evaluate
    let text ← expandText capture .text word
    let body? ← fittingArm capture text.toList arms
    match body? with
    | some body => evaluate setting body
    | none => finishWith 0
    return false
  | .function _ name body => do
    modify fun s => { s with
      functions := (name, body) :: s.functions.filter (·.1 ≠ name)
      found := s.found.filter (·.1 ≠ name) }
    finishWith 0
    return false

/-- Runs a command and the traps of the signals that come before and behind it. A failure ends the
shell where that is asked for, unless it is looked at. -/
def runGuarded (evaluate : Evaluator) : Evaluator := fun setting statement => do
  if (← get).hasOption 'n' then return ()
  else
    runTraps evaluate
    let mayEnd ← runStatement evaluate setting statement
    runTraps evaluate
    let s ← get
    if mayEnd && s.hasOption 'e' && !setting.isTested && s.code ≠ 0 then leaveWith s.code

/-- Runs a command, with commands nested at most so deeply. -/
def evaluateWithin : Nat → Evaluator
  | 0 => fun _ _ => diverge
  | depth + 1 => fun setting statement => runGuarded (evaluateWithin depth) setting statement

/-- How deeply commands may be nested. -/
def nestingLimit : Nat := 1000000

/-- Runs a command. -/
def evaluate : Evaluator := evaluateWithin nestingLimit

end Shipyard.Shell
