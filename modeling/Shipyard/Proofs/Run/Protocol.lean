import Shipyard.Proofs.Asset.Name
import Shipyard.Proofs.Build.Protocol
import Shipyard.Proofs.Formula.Protocol
import Shipyard.Proofs.Packaging.Layout
import Shipyard.Proofs.Publication.Protocol
import Shipyard.Run.Release

/-!
# What a run says to its host

The exchanges of a branch are those of its build and, if it gets so far, those of its publication.
The exchanges of a run are those of its branches, one after the other, and those of the bump behind
them.
-/

namespace Shipyard

variable {σ : Type} {c : RunContext} {target : BuildTarget} {targets : List BuildTarget}

/-! ## Branches -/

namespace Branch

/-- A packaging of the program of a branch fits the branch. -/
abbrev Packaged (c : RunContext) (target : BuildTarget) :
    Except PackagingFailure Artifact → Prop :=
  Packaging.Fits target c.config.project.binaryName c.event.version (c.stagingDir target)

/-- How a branch ends whose publication has ended. -/
def endOf (target : BuildTarget) (artifact : Artifact) :
    Except Fault (Except PublishFailure PublishedRelease) → Except Fault BranchOutcome
  | .error fault => .error fault
  | .ok (.error failure) =>
    .ok (failedOutcome target [.pending, .building, .packaged] (some artifact) (.publish failure))
  | .ok (.ok release) => .ok (doneOutcome target artifact artifact.names release)

/-- **A branch.** -/
inductive Transcript (c : RunContext) (target : BuildTarget) : Protocol σ BranchOutcome
  /-- the build met a fault -/
  | buildFaulted {es : List (Exchange σ)} {fault : Fault} :
      Build.Transcript c target es (.error fault) → Transcript c target es (.error fault)
  /-- the build failed -/
  | buildFailed {es : List (Exchange σ)} {failure : BuildFailure} :
      Build.Transcript c target es (.ok (.error failure)) →
      Transcript c target es
        (.ok (failedOutcome target [.pending, .building] none (.build failure)))
  /-- the packaging met a fault -/
  | packagingFaulted {es : List (Exchange σ)} {built : BuiltBinary} {fault : Fault} :
      Build.Transcript c target es (.ok (.ok built)) → Transcript c target es (.error fault)
  /-- the packaging failed -/
  | packagingFailed {es : List (Exchange σ)} {built : BuiltBinary} {failure : PackagingFailure} :
      Build.Transcript c target es (.ok (.ok built)) → Packaged c target (.error failure) →
      Transcript c target es
        (.ok (failedOutcome target [.pending, .building] none (.packaging failure)))
  /-- the artifact was published, or that was tried -/
  | published {es es' : List (Exchange σ)} {built : BuiltBinary} {artifact : Artifact}
      {r : Except Fault (Except PublishFailure PublishedRelease)} :
      Build.Transcript c target es (.ok (.ok built)) → Packaged c target (.ok artifact) →
      Publication.Transcript c artifact es' r →
      Transcript c target (es ++ es') (endOf target artifact r)

theorem follows_publish (host : Host σ) (c : RunContext) (target : BuildTarget)
    (artifact : Artifact) (out : Console) :
    Action.Follows host (publish host.logged c target artifact out) fun es ended =>
      ∃ r, Publication.Transcript c artifact es r ∧ ended = endOf target artifact r := by
  have hrun := Publication.follows_run host c artifact out
  refine .tell_bind (hrun.bind (fun published => ?_) fun es fault h => ⟨_, h, rfl⟩)
  cases published with
  | error failure =>
    exact .tell_bind (Action.follows_pure fun es h =>
      ⟨.ok (.error failure), es.append_nil.symm ▸ h, rfl⟩)
  | ok release =>
    refine .tell_bind (.orRefused_bind (fun files hfiles => ?_) fun refusal hrefusal es h => ?_)
    · refine Action.follows_pure fun es h => ⟨.ok (.ok release), es.append_nil.symm ▸ h, ?_⟩
      rw [Artifact.names_of_assets_eq_ok hfiles]
      rfl
    · cases h with
      | attached _ hfiles _ =>
        rw [hrefusal] at hfiles
        cases hfiles

/-- Every branch has a transcript. -/
theorem follows_run (host : Host σ) (c : RunContext) (target : BuildTarget) (console : Console) :
    Action.Follows host (run host.logged c target console) (Transcript c target) := by
  have hbuild := Build.follows_run host c target (console.within target.platform)
  refine .tell_bind (hbuild.bind (fun built => ?_) fun es fault h => .buildFaulted h)
  cases built with
  | error failure => exact .tell_bind (Action.follows_pure_after fun es h => .buildFailed h)
  | ok built =>
    refine .onFiles_bind (fun packaged fs hpackaged => ?_) fun fault es h => ?_
    · have hfits := Packaging.gives_run host.logged.archiver .none built
        c.config.project.binaryName c.event.version (c.stagingDir target) c.config.sidecarPolicy
        fs packaged hpackaged
      cases packaged with
      | error failure =>
        refine .tell_bind (Action.follows_pure_after fun es h => ?_)
        rw [h.target_eq] at hfits
        exact .packagingFailed h hfits
      | ok artifact =>
        refine (follows_publish host c target artifact _).mono ?_
        rintro es' _ ⟨r, h', rfl⟩ es h
        rw [h.target_eq] at hfits
        exact .published h hfits h'
    · rw [List.append_nil]
      exact .packagingFaulted h

end Branch

/-! ## Runs -/

namespace Release

/-- The outcome of a branch, however it ended. -/
def settled (target : BuildTarget) : Except Fault BranchOutcome → BranchOutcome
  | .ok outcome => outcome
  | .error fault => crashedOutcome target fault

theorem follows_runBranch (host : Host σ) (c : RunContext) (console : Console)
    (target : BuildTarget) :
    Action.Follows host (runBranch host.logged c console target) fun es r =>
      ∃ ended, Branch.Transcript c target es ended ∧ r = .ok (settled target ended) := by
  have hcaught := (Branch.follows_run host c target console).caught
  refine hcaught.bind (fun ended => ?_) ?_
  · cases ended with
    | ok outcome =>
      refine Action.follows_pure ?_
      rintro es ⟨_, h, ⟨⟩⟩
      exact ⟨_, es.append_nil.symm ▸ h, rfl⟩
    | error fault =>
      refine Action.follows_pure ?_
      rintro es ⟨_, h, ⟨⟩⟩
      exact ⟨_, es.append_nil.symm ▸ h, rfl⟩
  · rintro es fault ⟨_, h, ⟨⟩⟩

/-- The exchanges of branches, one after the other, with their outcomes. -/
inductive Branches (c : RunContext) :
    List BuildTarget → List (Exchange σ) → List BranchOutcome → Prop
  /-- no branch is left -/
  | nil : Branches c [] [] []
  /-- a branch, and those behind it -/
  | cons {target : BuildTarget} {targets : List BuildTarget} {es es' : List (Exchange σ)}
      {ended : Except Fault BranchOutcome} {outcomes : List BranchOutcome} :
      Branch.Transcript c target es ended → Branches c targets es' outcomes →
      Branches c (target :: targets) (es ++ es') (settled target ended :: outcomes)

theorem follows_runBranches (host : Host σ) (c : RunContext) (console : Console)
    (targets : List BuildTarget) :
    Action.Follows host (runBranches host.logged c console targets) fun es r =>
      ∃ outcomes, r = .ok outcomes ∧ Branches c targets es outcomes := by
  induction targets with
  | nil => exact Action.follows_pure ⟨[], rfl, .nil⟩
  | cons target rest ih =>
    refine (follows_runBranch host c console target).bind (fun outcome => ?_) ?_
    · refine ih.bind (fun outcomes => ?_) ?_
      · refine Action.follows_pure ?_
        rintro es' ⟨_, ⟨⟩, hrest⟩ es ⟨ended, hbranch, ⟨⟩⟩
        exact ⟨_, rfl, .cons hbranch (es'.append_nil.symm ▸ hrest)⟩
      · rintro es' fault ⟨_, ⟨⟩, -⟩
    · rintro es fault ⟨_, -, ⟨⟩⟩

/-- The gate of a run is open if its branch is done. -/
def GateOpen (outcomes : List BranchOutcome) : Prop :=
  ∃ outcome, outcomeOf? outcomes BuildTarget.formulaGate = some outcome ∧ outcome.ok = true

/-- The formula is bumped if the gate is open, and nothing is said to the host if it is closed. -/
inductive Gated (c : RunContext) (outcomes : List BranchOutcome) :
    Protocol σ (Option FormulaResult)
  /-- the gate is closed -/
  | closed : ¬ GateOpen outcomes → Gated c outcomes [] (.ok none)
  /-- the bump met a fault -/
  | faulted {es : List (Exchange σ)} {fault : Fault} : GateOpen outcomes →
      Formula.Transcript c (Formula.requestOf c none) es (.error fault) →
      Gated c outcomes es (.error fault)
  /-- the bump has a result -/
  | bumped {es : List (Exchange σ)} {result : FormulaResult} : GateOpen outcomes →
      Formula.Transcript c (Formula.requestOf c none) es (.ok result) →
      Gated c outcomes es (.ok (some result))

theorem follows_runFormula (host : Host σ) (c : RunContext) (console : Console)
    (outcomes : List BranchOutcome) :
    Action.Follows host
      (runFormula host.logged c console (outcomeOf? outcomes BuildTarget.formulaGate))
      (Gated c outcomes) := by
  unfold runFormula
  rcases hgate : outcomeOf? outcomes BuildTarget.formulaGate with _ | outcome
  · refine Action.follows_pure (.closed ?_)
    rintro ⟨outcome, hsome, -⟩
    rw [hgate] at hsome
    cases hsome
  by_cases hok : outcome.ok = true
  · simp only [hok, if_true]
    have hopen : GateOpen outcomes := ⟨outcome, hgate, hok⟩
    refine .tell_bind ((Formula.follows_bump host c _ _).bind (fun result => ?_) ?_)
    · exact Action.follows_pure_after fun es h => .bumped hopen h
    · exact fun es fault h => .faulted hopen h
  · simp only [hok]
    refine .tell_bind (Action.follows_pure (.closed ?_))
    rintro ⟨outcome', hsome, hok'⟩
    rw [hgate] at hsome
    cases hsome
    exact hok hok'

/-- The report of a run. -/
def reportOf (c : RunContext) (targets : List BuildTarget) (outcomes : List BranchOutcome)
    (formula : Option FormulaResult) : RunReport :=
  ⟨c.event, targets.filterMap (outcomeOf? outcomes), formula⟩

/-- **A whole run.** -/
inductive Transcript (c : RunContext) (targets : List BuildTarget) : Protocol σ RunReport
  /-- there is no target -/
  | idle : targets = [] → Transcript c targets [] (.error (.refused .noWorkers))
  /-- the bump met a fault -/
  | faulted {es es' : List (Exchange σ)} {outcomes : List BranchOutcome} {fault : Fault} :
      targets ≠ [] → Branches c targets es outcomes → Gated c outcomes es' (.error fault) →
      Transcript c targets (es ++ es') (.error fault)
  /-- the run has a report -/
  | reported {es es' : List (Exchange σ)} {outcomes : List BranchOutcome}
      {formula : Option FormulaResult} :
      targets ≠ [] → Branches c targets es outcomes → Gated c outcomes es' (.ok formula) →
      Transcript c targets (es ++ es') (.ok (reportOf c targets outcomes formula))

/-- Every run has a transcript. -/
theorem follows_run (host : Host σ) (c : RunContext) (targets : List BuildTarget)
    (console : Console) :
    Action.Follows host (run host.logged c targets console) (Transcript c targets) := by
  unfold run
  by_cases htargets : targets = []
  · simp only [htargets, if_true]
    exact Action.follows_throw (.idle rfl)
  simp only [htargets, if_false]
  refine (follows_runBranches host c console targets).bind (fun outcomes => ?_) ?_
  · refine (follows_runFormula host c console outcomes).bind (fun formula => ?_) ?_
    · refine Action.follows_pure ?_
      rintro es' hgated es ⟨_, ⟨⟩, h⟩
      exact .reported htargets h (es'.append_nil.symm ▸ hgated)
    · rintro es' fault hgated es ⟨_, ⟨⟩, h⟩
      exact .faulted htargets h hgated
  · rintro es fault ⟨_, ⟨⟩, -⟩

end Release

end Shipyard
