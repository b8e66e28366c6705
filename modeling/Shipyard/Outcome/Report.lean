import Shipyard.Asset.Artifact
import Shipyard.Console.Notice
import Shipyard.Outcome.ExitCode
import Shipyard.Step.Formula
import Shipyard.Text.Blank

/-!
# Outcomes and reports

What is left of a branch and of a whole run. A branch ends done or failed and tells the states it
has passed. The report of a run has one outcome for each target, and what became of the formula if
it was asked for. From a report follow what the user is told and how the program ends: with the code
of the first branch that failed, else with that of the formula.
-/

namespace Shipyard

/-- The states of a branch. -/
inductive BranchState where
  | pending
  | building
  | packaged
  | published
  | done
  | failed
  deriving DecidableEq, Repr

namespace BranchState

/-- The word for a state. -/
def word : BranchState → String
  | pending => "pending"
  | building => "building"
  | packaged => "packaged"
  | published => "published"
  | done => "done"
  | failed => "failed"

/-- All states. -/
def all : List BranchState := [pending, building, packaged, published, done, failed]

/-- The state of a word. -/
def ofWord? (w : String) : Option BranchState := all.find? (·.word = w)

end BranchState

/-- What is left of a branch. -/
structure BranchOutcome where
  /-- what was built -/
  target : BuildTarget
  /-- the last state -/
  state : BranchState
  /-- all states, in order -/
  history : List BranchState
  /-- the artifact, if it got so far -/
  artifact : Option Artifact := none
  /-- the release with the assets of the branch, if it is done -/
  release : Option PublishedRelease := none
  /-- why it failed -/
  error : Option BranchError := none
  deriving DecidableEq, Repr

/-- Whether a branch is done. -/
def BranchOutcome.ok (o : BranchOutcome) : Bool := o.state = .done

/-- The code of an outcome. A failure without an error has none of its own. -/
def BranchOutcome.exitCode (o : BranchOutcome) : ExitCode :=
  if o.ok then .ok else (o.error.map BranchError.exitCode).getD .ok

/-- What became of the formula. -/
abbrev FormulaResult := Except FormulaFailure FormulaBump

/-- Two results are the same if both went well or both failed, in the same way. -/
instance FormulaResult.decEq : DecidableEq FormulaResult
  | .ok a, .ok b =>
    if h : a = b then isTrue (congrArg Except.ok h) else isFalse fun e => h (Except.ok.inj e)
  | .error a, .error b =>
    if h : a = b then isTrue (congrArg Except.error h) else isFalse fun e => h (Except.error.inj e)
  | .ok _, .error _ => isFalse nofun
  | .error _, .ok _ => isFalse nofun

/-- What is left of a run. -/
structure RunReport where
  /-- the release -/
  event : ReleaseEvent
  /-- one outcome for each target -/
  outcomes : List BranchOutcome
  /-- what became of the formula, if it was asked for -/
  formula : Option FormulaResult
  deriving DecidableEq

/-! ## Telling -/

/-- An error as it is told: a line for it, and each line of its hint below. -/
def ReleaseError.notices (e : ReleaseError) : List Notice :=
  .error e.headline :: (Text.lines (e.hint.getD "")).map fun line => .print ("  " ++ line) .dim

/-- An outcome as it is told. -/
def BranchOutcome.notices (o : BranchOutcome) : List Notice :=
  if o.ok then
    [.success (o.target.platform ++ ": " ++ (o.artifact.map Artifact.archiveName).getD "done")]
  else
    .print (o.target.platform ++ ": " ++ o.state.word) .error ::
      ((o.error.map fun e => (ReleaseError.branch e).notices).getD [])

/-- Words with a link behind them; nothing is left behind the words if there is none. -/
def withLink (words : String) (url : Option String) : String :=
  Text.stripEnd (words ++ " " ++ url.getD "")

namespace RunReport

/-- The outcome of a platform. -/
def outcomeFor (r : RunReport) (platform : String) : Option BranchOutcome :=
  r.outcomes.find? (·.target.platform = platform)

/-- The outcomes that are not done. -/
def failed (r : RunReport) : List BranchOutcome := r.outcomes.filter fun o => !o.ok

/-- What is told about the formula. -/
def formulaNotices (r : RunReport) : List Notice :=
  match r.formula with
  | none => [.print "formula: not requested" .dim]
  | some (.ok (.submitted _ url)) => [.success (withLink "formula: bump requested" url)]
  | some (.ok (.skipped _ url)) => [.info (withLink "formula: already requested" url)]
  | some (.error failure) => (ReleaseError.formula failure).notices

/-- A report as it is told. -/
def notices (r : RunReport) : List Notice :=
  .header ("Release " ++ r.event.tag) :: r.outcomes.flatMap BranchOutcome.notices ++
    r.formulaNotices

/-- The code of the first branch that failed. -/
def branchCode (r : RunReport) : ExitCode := (r.failed.head?.map BranchOutcome.exitCode).getD .ok

/-- The code of a report. A failure of the formula counts only if no branch has a code. -/
def exitCode (r : RunReport) : ExitCode :=
  match r.formula with
  | some (.error _) => if r.branchCode = .ok then .formulaError else r.branchCode
  | _ => r.branchCode

end RunReport

end Shipyard
