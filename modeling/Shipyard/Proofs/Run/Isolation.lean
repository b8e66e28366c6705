import Shipyard.Proofs.Publication.Parallel
import Shipyard.Proofs.Run.Parallel
import Shipyard.Run.Release

/-!
# Branches side by side

Packaging and publication go alike in two runs of a branch as well, so whole branches do: from files
that are beside each other and releases that hold the same of its names, a branch on a steady host
ends in the same way and leaves its directory and its names in the same state
(`Branch.pairs_run`). A bump asks nothing of files and assets and changes none, so on a steady host
it always comes to the same end.
-/

namespace Shipyard

open Shipyard.Action FileSystem

variable {σ : Type} {host : Host σ} {c : RunContext} {assets : σ → Set String}
  {target : BuildTarget} {s₁ s₂ : σ} {fs₁ fs₂ : FileSystem}

/-! ## Bumps side by side -/

section Bumps

variable {F : FileSystem → FileSystem → Prop} {request : FormulaRequest}
  (hsteady : Steady host c assets)

include hsteady

namespace Formula

/-- A command of a bump goes alike, for it touches no assets and runs no program of a build. -/
theorem pairs_issue {command : Command} (hrequest : ReleaseRequest.ofArgv? command.argv = none)
    (hbuilds : ¬ command.Builds) :
    Pairs (Joined F (Sharing assets [] s₁ s₂)) (issue host command) (issue host command)
      (Keeping (Joined F (Sharing assets [] s₁ s₂)) Eq) (Joined F (Sharing assets [] s₁ s₂)) := by
  refine hsteady.pairs_issue_of_not_builds ?_ ?_ hbuilds
  · rw [Command.Looks, hrequest]
    rintro ⟨⟩
  · rw [Command.touched, hrequest]
    exact fun name hname => absurd hname List.not_mem_nil

theorem pairs_findOpen (token : String) :
    Pairs (Joined F (Sharing assets [] s₁ s₂)) (findOpen host c request token)
      (findOpen host c request token) (Keeping (Joined F (Sharing assets [] s₁ s₂)) Eq)
      (Joined F (Sharing assets [] s₁ s₂)) := by
  refine (pairs_issue hsteady rfl (Publication.not_builds_of_gh rfl)).bind_keeping ?_
  rintro reply _ rfl
  cases reply with
  | error failure => exact pairs_pure fun p q h => ⟨rfl, h⟩
  | ok output =>
    refine .orFault_bind (fun read _ => ?_) fun p q h => h
    cases read with
    | error what => exact pairs_pure fun p q h => ⟨rfl, h⟩
    | ok answer => exact pairs_pure fun p q h => ⟨rfl, h⟩

theorem pairs_submit (token : String) (out : Console) :
    Pairs (Joined F (Sharing assets [] s₁ s₂)) (submit host c request token out)
      (submit host c request token out) (Keeping (Joined F (Sharing assets [] s₁ s₂)) Eq)
      (Joined F (Sharing assets [] s₁ s₂)) := by
  have hbuilds : ¬ (bumpCommand c request token).Builds := by
    rintro ⟨program, hprogram, hhead⟩
    obtain rfl : "brew" = program := Option.some.inj hhead
    revert hprogram
    decide
  refine .echo_bind ((pairs_issue hsteady rfl hbuilds).bind_keeping ?_)
  rintro reply _ rfl
  cases reply with
  | error failure => exact pairs_pure fun p q h => ⟨rfl, h⟩
  | ok output => exact pairs_pure fun p q h => ⟨rfl, h⟩

theorem pairs_bump (out : Console) :
    Pairs (Joined F (Sharing assets [] s₁ s₂)) (bump host c request out)
      (bump host c request out) (Keeping (Joined F (Sharing assets [] s₁ s₂)) Eq)
      (Joined F (Sharing assets [] s₁ s₂)) := by
  unfold bump
  rcases c.formulaToken? with _ | token
  · exact pairs_pure fun p q h => ⟨rfl, h⟩
  dsimp only
  split
  · exact pairs_submit hsteady token out
  · refine (pairs_findOpen hsteady token).bind_keeping ?_
    rintro found _ rfl
    rcases found with failure | _ | url
    · exact pairs_pure fun p q h => ⟨rfl, h⟩
    · exact pairs_submit hsteady token out
    · exact pairs_pure fun p q h => ⟨rfl, h⟩

end Formula

/-- **The formula is bumped alike** behind the same outcome of its gate. -/
theorem Release.pairs_runFormula (console : Console) (gate : Option BranchOutcome) :
    Pairs (Joined F (Sharing assets [] s₁ s₂)) (runFormula host c console gate)
      (runFormula host c console gate) (Keeping (Joined F (Sharing assets [] s₁ s₂)) Eq)
      (Joined F (Sharing assets [] s₁ s₂)) := by
  unfold runFormula
  rcases gate with _ | outcome
  · exact pairs_pure fun p q h => ⟨rfl, h⟩
  dsimp only
  split
  · refine .tell_bind ((Formula.pairs_bump hsteady _).bind_keeping ?_)
    rintro result _ rfl
    exact pairs_pure fun p q h => ⟨rfl, h⟩
  · exact .tell_bind (pairs_pure fun p q h => ⟨rfl, h⟩)

end Bumps

/-! ## Branches side by side -/

namespace Branch

theorem doneOutcome_eq {artifact : Artifact} {names : List String} {r r' : PublishedRelease}
    (h : r.restrict names = r'.restrict names) :
    doneOutcome target artifact names r = doneOutcome target artifact names r' := by
  rw [doneOutcome, h]
  rfl

variable (hsteady : Steady host c assets)

include hsteady

/-- Publications of one artifact go alike. -/
theorem pairs_publish {artifact : Artifact} (hartifact : Path.IsName artifact.archiveName)
    {F : FileSystem → FileSystem → Prop} (out : Console) :
    Pairs (Joined F (Sharing assets artifact.names s₁ s₂)) (publish host c target artifact out)
      (publish host c target artifact out)
      (Keeping (Joined F (Sharing assets artifact.names s₁ s₂)) Eq)
      (Joined F (Sharing assets artifact.names s₁ s₂)) := by
  refine .tell_bind ((Publication.pairs_run hsteady hartifact out).bind_keeping
    fun x y hmatching => ?_)
  cases hmatching with
  | failed => exact .tell_bind (pairs_pure fun p q h => ⟨rfl, h⟩)
  | shown hsame =>
    refine .tell_bind (.orRefused_bind (fun files hfiles => ?_) fun p q h => h)
    rw [Artifact.names_of_assets_eq_ok hfiles]
    exact pairs_pure fun p q h => ⟨doneOutcome_eq hsame, h⟩

variable (htarget : target ∈ BuildTarget.all) (hsite : Build.Site fs₁ c.workDir target.platform)
  (hprogram : '/' ∉ c.config.project.binaryName.toList) (hversion : '/' ∉ c.event.version.toList)

include htarget hprogram hversion

/-- Packagings of one program go alike, and so do the publications behind them. -/
theorem pairs_package (out : Console) :
    Pairs (Joined (Cleared c target fs₁ fs₂) (Sharing assets (c.assetNames target) s₁ s₂))
      (package host c target ⟨target, Build.expectedBinary target (c.checkoutDir target)
        c.config.project.binaryName⟩ out)
      (package host c target ⟨target, Build.expectedBinary target (c.checkoutDir target)
        c.config.project.binaryName⟩ out)
      (Keeping (Joined (Cleared c target fs₁ fs₂) (Sharing assets (c.assetNames target) s₁ s₂)) Eq)
      (Joined (Cleared c target fs₁ fs₂) (Sharing assets (c.assetNames target) s₁ s₂)) := by
  obtain ⟨o, houtputs, ho⟩ :=
    Packaging.exists_outputs_usable htarget c fs₁.cwd hprogram hversion
  refine (pairs_onFiles (Packaging.confined_run houtputs
    (Packaging.usable_expectedBinary htarget c fs₁.cwd hprogram)
    (Packaging.usable_stagingDir htarget c fs₁.cwd).inReach ho)
    (Packaging.gives_run _ _ _ _ _ _ _)).bind_keeping ?_
  rintro packaged _ ⟨rfl, hfits⟩
  cases packaged with
  | error failure => exact .tell_bind (pairs_pure fun p q h => ⟨rfl, h⟩)
  | ok artifact =>
    rw [← names_of_archive hfits.2]
    exact pairs_publish hsteady (isName_of_archive htarget hfits.2) out

include hsite

/-- **Branches go alike** if they begin beside each other. -/
theorem pairs_run (htree : fs₁.IsTree)
    (hbeside : Build.Beside c.workDir target.platform fs₁ fs₂) (console : Console) :
    Pairs (Joined (fun fs gs => fs = fs₁ ∧ gs = fs₂) (Sharing assets (c.assetNames target) s₁ s₂))
      (run host c target console) (run host c target console)
      (Keeping (Joined (Started c target fs₁ fs₂) (Sharing assets (c.assetNames target) s₁ s₂)) Eq)
      (Joined (Started c target fs₁ fs₂) (Sharing assets (c.assetNames target) s₁ s₂)) := by
  refine .tell_bind ((Build.pairs_run hsteady htarget hsite htree hbeside hprogram _).bind_ended
    (fun failure => ?_) ?_)
  · exact .tell_bind (pairs_pure fun p q h => ⟨rfl, h⟩)
  · exact (pairs_package hsteady htarget hprogram hversion _).mono (fun _ _ h => h)
      (fun _ _ p q h => ⟨h.1, joined_started p q h.2⟩) joined_started

end Branch

end Shipyard
