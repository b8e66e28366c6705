import Shipyard.Run.Branch

/-!
# Release runs

A run has one branch for each target. The branches share nothing but the release that they attach
their assets to. A branch that meets a fault has crashed, and the others go on. When the branch of
the gate is done, the formula is bumped once.
-/

namespace Shipyard.Release

variable {σ : Type}

/-- The outcome of a branch that met a fault. -/
def crashedOutcome (target : BuildTarget) (fault : Fault) : BranchOutcome where
  target := target
  state := .failed
  history := [.pending, .failed]
  error := some (.crashed {
    platform := target.platform
    message := "branch crashed: " ++ fault.message })

/-- Runs a branch to its outcome, whatever happens. -/
def runBranch (host : Host σ) (c : RunContext) (console : Console) (target : BuildTarget) :
    Action σ BranchOutcome := do
  match ← Action.caught (Branch.run host c target console) with
  | .ok outcome => return outcome
  | .error fault => return crashedOutcome target fault

/-- Runs the branches of all targets. -/
def runBranches (host : Host σ) (c : RunContext) (console : Console) :
    List BuildTarget → Action σ (List BranchOutcome)
  | [] => return []
  | target :: rest => do
    let outcome ← runBranch host c console target
    let outcomes ← runBranches host c console rest
    return outcome :: outcomes

/-- The outcome that counts for a target: that of its last branch. -/
def outcomeOf? (outcomes : List BranchOutcome) (target : BuildTarget) : Option BranchOutcome :=
  outcomes.reverse.find? (·.target = target)

/-- Bumps the formula if the branch of the gate is done. -/
def runFormula (host : Host σ) (c : RunContext) (console : Console) (gate : Option BranchOutcome) :
    Action σ (Option FormulaResult) := do
  match gate with
  | none => return none
  | some outcome =>
    if outcome.ok then
      let out := console.within "formula"
      let request := Formula.requestOf c none
      Action.tell out (.info ("requesting " ++ request.formula ++ " " ++ request.tag ++ " on " ++
        request.tap))
      return some (← Formula.bump host c request out)
    else
      Action.tell console (.warning ("formula bump not requested: " ++
        BuildTarget.formulaGate.platform ++ " branch ended " ++ outcome.state.word))
      return none

/-- Runs all branches and then the formula. A run without targets is refused. -/
def run (host : Host σ) (c : RunContext) (targets : List BuildTarget) (console : Console) :
    Action σ RunReport := do
  if targets = [] then throw (.refused .noWorkers)
  let outcomes ← runBranches host c console targets
  let formula ← runFormula host c console (outcomeOf? outcomes BuildTarget.formulaGate)
  return ⟨c.event, targets.filterMap (outcomeOf? outcomes), formula⟩

end Shipyard.Release
