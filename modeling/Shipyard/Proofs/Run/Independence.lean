import Shipyard.Proofs.Plan.Event
import Shipyard.Proofs.Run.Delivery
import Shipyard.Proofs.Run.Order
import Shipyard.Proofs.Run.Selective

/-!
# Branches do not see each other

On a steady host every branch of a run ends as it would alone, and a run of the same targets in
another order leaves the same files and the same release.
-/

namespace Shipyard.Release

open Shipyard.Action FileSystem

variable {σ : Type} {host : Host σ} {c : RunContext} {assets : σ → Set String} {console : Console}
  {w v v' final : World σ} {target : BuildTarget} {targets targets' : List BuildTarget}
  {report : RunReport}

/-! ## Settings -/

/-- Branches can be told apart if the directory of all branches is one that can be made without
leaving another one again, and not by a way through the checkout of a branch. -/
theorem setting_of_apart (hsteady : Steady host c assets) (htree : w.files.IsTree)
    (hleads : w.files.Extendable c.workDir)
    (hapart : ∀ target ∈ BuildTarget.all, ∀ l, Above w.files.cwd c.workDir l →
      ¬ Below w.files.cwd (c.checkoutDir target) l)
    (hprogram : '/' ∉ c.config.project.binaryName.toList)
    (htag : ReleaseEvent.isTag c.event.tag = true) : Setting host c assets w := by
  refine ⟨hsteady, htree, fun target htarget => ⟨?_, fun l hl => ?_, hleads⟩, hprogram,
    ReleaseEvent.slash_notMem_of_isTag htag⟩
  · exact BuildTarget.platform_plain target htarget
  · rw [← RunContext.branchDir_eq htarget, ← RunContext.checkoutDir_eq]
    exact hapart target htarget l hl

/-! ## Whole runs -/

/-- The outcome that the formula waits for. -/
def gateAlone (host : Host σ) (c : RunContext) (console : Console) (w : World σ)
    (targets : List BuildTarget) : Option BranchOutcome :=
  outcomeOf? (targets.map (outcomeAlone host c console w)) BuildTarget.formulaGate

/-- Of branches that end as they do alone each outcome counts for its target. -/
theorem outcomeOf?_map_outcomeAlone (hnodup : targets.Nodup) (htarget : target ∈ targets) :
    outcomeOf? (targets.map (outcomeAlone host c console w)) target =
      some (outcomeAlone host c console w target) := by
  have hmap : (targets.map (outcomeAlone host c console w)).map (·.target) = targets := by
    rw [List.map_map]
    exact (List.map_congr_left fun _ _ => outcomeAlone_target).trans (List.map_id _)
  have hcounts := outcomeOf?_target (hmap.symm ▸ hnodup) (List.mem_map_of_mem htarget)
  rwa [outcomeAlone_target] at hcounts

theorem outcomeOf?_eq_none (htarget : target ∉ targets) :
    outcomeOf? (targets.map (outcomeAlone host c console w)) target = none := by
  refine List.find?_eq_none.mpr fun outcome hmem htold => htarget ?_
  obtain ⟨other, hother, rfl⟩ := List.mem_map.mp (List.mem_reverse.mp hmem)
  rw [outcomeAlone_target, decide_eq_true_eq] at htold
  exact htold ▸ hother

theorem gateAlone_eq (hnodup : targets.Nodup) :
    gateAlone host c console w targets =
      if BuildTarget.formulaGate ∈ targets then
        some (outcomeAlone host c console w BuildTarget.formulaGate)
      else none := by
  split
  · next hgate => exact outcomeOf?_map_outcomeAlone hnodup hgate
  · next hgate => exact outcomeOf?_eq_none hgate

/-- The formula is bumped in the same way from any world, and neither files nor assets are
touched. -/
theorem runOn_runFormula (hsteady : Steady host c assets) {gate : Option BranchOutcome}
    {formula : Option FormulaResult}
    (h : runOn (runFormula host c console gate) v = (.ok formula, v')) (u : World σ) :
    ∃ u', runOn (runFormula host c console gate) u = (.ok formula, u') ∧ u'.files = u.files ∧
      ∀ name, name ∈ assets u'.outside ↔ name ∈ assets u.outside := by
  have hpairs : Pairs
      (Joined (fun fs gs => fs = v.files ∧ gs = u.files) (Sharing assets [] v.outside u.outside))
      (runFormula host c console gate) (runFormula host c console gate) _ _ :=
    pairs_runFormula hsteady console gate
  have hstart : Sharing assets [] v.outside u.outside v.outside u.outside := by
    refine ⟨fun _ _ => Iff.rfl, fun _ _ => Iff.rfl, fun _ hname => ?_⟩
    exact absurd hname (not_or.mpr ⟨List.not_mem_nil, List.not_mem_nil⟩)
  rcases hpairs v u ⟨⟨rfl, rfl⟩, hstart⟩ with
    ⟨x, _, _, u', hrun, hrun', rfl, hleft⟩ | ⟨fault, _, _, hrun, -⟩
  · obtain rfl : formula = x := Except.ok.inj (Prod.mk.inj (h.symm.trans hrun)).1
    exact ⟨u', hrun', hleft.1.2, fun name => hleft.2.kept' name List.not_mem_nil⟩
  · rw [h] at hrun
    cases hrun

/-- Runs of the same setting, in two pieces: the branches, and the formula behind the outcome of the
gate. -/
theorem Setting.runOn_run (hsetting : Setting host c assets w) (console : Console)
    (htargets : ∀ target ∈ targets, target ∈ BuildTarget.all) (hnodup : targets.Nodup)
    (hne : targets ≠ []) :
    ∃ v, Composed host c assets console w targets v ∧
      runOn (run host c targets console) w =
        match runOn (runFormula host c console (gateAlone host c console w targets)) v with
        | (.ok formula, v') =>
          (.ok ⟨c.event, targets.map (outcomeAlone host c console w), formula⟩, v')
        | (.error fault, v') => (.error fault, v') := by
  have hstart : Composed host c assets console w [] w := ⟨rfl, .nil, .nil⟩
  obtain ⟨v, hruns, hcomposed⟩ := hstart.runBranches hsetting (fun _ h => absurd h List.not_mem_nil)
    htargets hnodup fun _ _ => List.not_mem_nil
  have hdone : ∀ target, target ∈ targets ↔ target ∈ targets.reverse ++ [] := by simp
  refine ⟨v, ⟨hcomposed.cwd, hcomposed.files.congr hdone, hcomposed.assets.congr hdone⟩, ?_⟩
  have houtcomes : targets.filterMap
      (outcomeOf? (targets.map (outcomeAlone host c console w))) =
        targets.map (outcomeAlone host c console w) := by
    calc targets.filterMap (outcomeOf? (targets.map (outcomeAlone host c console w)))
        = targets.filterMap (some ∘ outcomeAlone host c console w) :=
          List.filterMap_congr fun target htarget => outcomeOf?_map_outcomeAlone hnodup htarget
      _ = targets.map (outcomeAlone host c console w) := congrFun List.filterMap_eq_map' _
  rw [Release.runOn_run hne hruns, houtcomes]
  rfl

/-- A run whose gate is that of a run that has returned, or is closed, returns as well. -/
theorem Setting.exists_runOn_run (hsetting : Setting host c assets w)
    (htargets : ∀ target ∈ targets, target ∈ BuildTarget.all) (hnodup : targets.Nodup)
    (hne : targets ≠ []) {gate : Option BranchOutcome} {formula : Option FormulaResult}
    (hformula : runOn (runFormula host c console gate) v = (.ok formula, v'))
    (hgate : gateAlone host c console w targets = gate ∨
      gateAlone host c console w targets = none) :
    ∃ report left, runOn (run host c targets console) w = (.ok report, left) ∧
      report.outcomes = targets.map (outcomeAlone host c console w) ∧
      ∃ u, Composed host c assets console w targets u ∧ left.files = u.files ∧
        ∀ name, name ∈ assets left.outside ↔ name ∈ assets u.outside := by
  obtain ⟨u, hcomposed, hrun⟩ := hsetting.runOn_run console htargets hnodup hne
  have hreturns : ∃ formula' u', runOn (runFormula host c console
      (gateAlone host c console w targets)) u = (.ok formula', u') ∧ u'.files = u.files ∧
        ∀ name, name ∈ assets u'.outside ↔ name ∈ assets u.outside := by
    rcases hgate with hgate | hgate
    all_goals rw [hgate]
    · exact ⟨formula, runOn_runFormula hsetting.steady hformula u⟩
    · exact ⟨none, u, rfl, rfl, fun _ => Iff.rfl⟩
  obtain ⟨formula', u', hformula', hfiles, hassets⟩ := hreturns
  rw [hformula'] at hrun
  exact ⟨_, u', hrun, rfl, u, hcomposed, hfiles, hassets⟩

/-- **Whether branches do not see each other**: every branch of a run that has returned ends as it
does in a run of its target alone from the same start, and the same targets in another order leave
the same files and the same assets. -/
structure Isolated (host : Host σ) (c : RunContext) (assets : σ → Set String) (console : Console)
    (w : World σ) (targets : List BuildTarget) (report : RunReport) (final : World σ) : Prop where
  /-- alone a branch ends in the same way -/
  alone : ∀ target ∈ targets, ∃ outcome lone left,
    outcomeOf? report.outcomes target = some outcome ∧
      runOn (run host c [target] console) w = (.ok lone, left) ∧ lone.outcomes = [outcome]
  /-- the order of the branches makes no difference -/
  ordered : ∀ targets' : List BuildTarget, targets'.Perm targets → ∃ report' final',
    runOn (run host c targets' console) w = (.ok report', final') ∧ final'.files = final.files ∧
      ∀ name, name ∈ assets final'.outside ↔ name ∈ assets final.outside

/-- **Branches do not see each other** on a steady host, in a run of distinct built-in targets. The
files have to be a tree, and the directory of all branches has to be one that can be made without
leaving another one again, and not by a way through the checkout of a branch. -/
theorem run_isolated (hsteady : Steady host c assets) (htree : w.files.IsTree)
    (hleads : w.files.Extendable c.workDir)
    (hapart : ∀ target ∈ BuildTarget.all, ∀ l, Above w.files.cwd c.workDir l →
      ¬ Below w.files.cwd (c.checkoutDir target) l)
    (hprogram : '/' ∉ c.config.project.binaryName.toList)
    (htag : ReleaseEvent.isTag c.event.tag = true)
    (htargets : ∀ target ∈ targets, target ∈ BuildTarget.all) (hnodup : targets.Nodup)
    (hrun : runOn (run host c targets console) w = (.ok report, final)) :
    Isolated host c assets console w targets report final := by
  have hsetting : Setting host c assets w :=
    setting_of_apart hsteady htree hleads hapart hprogram htag
  have hne : targets ≠ [] := by
    rintro rfl
    cases hrun
  obtain ⟨v, hcomposed, hsplit⟩ := hsetting.runOn_run console htargets hnodup hne
  rw [hsplit] at hrun
  rcases hformula : runOn (runFormula host c console (gateAlone host c console w targets)) v with
    ⟨fault | formula, v'⟩
  all_goals
    rw [hformula] at hrun
    cases hrun
  obtain ⟨v'', hformula', hfiles, hassets⟩ := runOn_runFormula hsteady hformula v
  obtain rfl : final = v'' := (Prod.mk.inj (hformula.symm.trans hformula')).2
  refine ⟨fun target htarget => ?_, fun targets' hperm => ?_⟩
  · -- the gate of a single branch is open only if it is the gate of the whole run
    have hgate : gateAlone host c console w [target] = gateAlone host c console w targets ∨
        gateAlone host c console w [target] = none := by
      rw [gateAlone_eq hnodup, gateAlone_eq (List.nodup_singleton target)]
      by_cases hsame : BuildTarget.formulaGate ∈ [target]
      · rw [List.mem_singleton.mp hsame, if_pos (List.mem_singleton_self _), if_pos htarget]
        exact .inl rfl
      · exact .inr (if_neg hsame)
    obtain ⟨lone, left, hlone, houtcomes, -⟩ := hsetting.exists_runOn_run
      (List.forall_mem_singleton.mpr (htargets target htarget)) (List.nodup_singleton target)
      (by simp) hformula hgate
    exact ⟨_, lone, left, outcomeOf?_map_outcomeAlone hnodup htarget, hlone, houtcomes⟩
  · have hgate : gateAlone host c console w targets' = gateAlone host c console w targets := by
      rw [gateAlone_eq hnodup, gateAlone_eq (hperm.nodup_iff.mpr hnodup)]
      simp only [hperm.mem_iff]
    obtain ⟨report', final', hrun', -, u, hcomposed', hfiles', hassets'⟩ :=
      hsetting.exists_runOn_run (fun target htarget => htargets target (hperm.mem_iff.mp htarget))
        (hperm.nodup_iff.mpr hnodup) (fun hnil => hne (List.nil_perm.mp (hnil ▸ hperm))) hformula
        (.inl hgate)
    have hsame := fun target => hperm.mem_iff (a := target)
    refine ⟨report', final', hrun', ?_, fun name => ?_⟩
    · rw [hfiles', hfiles]
      refine ext_node? (hcomposed'.cwd.trans hcomposed.cwd.symm) fun l => ?_
      exact hcomposed'.files.unique (hcomposed.files.congr hsame) l
    · rw [hassets', hassets]
      exact iff_of_eq (hcomposed'.assets.unique (hcomposed.assets.congr hsame) name)

/-! ## Trials -/

/-- A run on the host with the selective release. -/
def trial (effect : Command → Disk Unit) (c : RunContext) (fs : FileSystem)
    (targets : List BuildTarget) : Except Fault RunReport × World Bool :=
  runOn (run (Selective.host effect) c targets Console.plain) ⟨fs, [], [], false⟩

/-- A run of Windows and macOS whose builds do what they are for. -/
def rehearsed : Except Fault RunReport × World Bool :=
  trial (Rehearsal.perform Rehearsal.script) Rehearsal.context (FileSystem.empty [])
    [BuildTarget.windows, BuildTarget.macos]

set_option maxRecDepth 100000 in
/-- The branch of Windows fails, and that of macOS is done. -/
theorem rehearsed_states :
    (rehearsed.1.map fun report => report.outcomes.map (·.state)).toOption =
      some [BranchState.failed, BranchState.done] := by
  decide +kernel

theorem plain_workDir : Plain ["r", ".rbr"] := by
  show ∀ name ∈ _, _
  decide

/-- The directory of all branches leads down from the root, and not through a checkout. -/
theorem rehearsed_leads (cwd : Location) :
    (FileSystem.empty cwd).Extendable Rehearsal.context.workDir ∧
      ∀ target ∈ BuildTarget.all, ∀ l, Above cwd Rehearsal.context.workDir l →
        ¬ Below cwd (Rehearsal.context.checkoutDir target) l := by
  refine ⟨⟨⟨.root, []⟩, [], _, rfl, ⟨rfl, rfl⟩, .inl plain_workDir⟩, ?_⟩
  intro target htarget l hl hbelow
  have hlength : l.length ≤ 2 := by
    have hunder : Above cwd (Path.under ⟨.root, []⟩ ["r", ".rbr"]) l := hl
    rcases above_under plain_workDir hunder with ⟨count, rfl⟩ | ⟨-, hend⟩
    · rw [List.take_nil]
      exact Nat.zero_le 2
    · exact hend.length_le
  rw [Below, RunContext.checkoutDir_eq, Path.place_entry (by decide),
    RunContext.place_branchDir htarget] at hbelow
  have hlong : 4 ≤ l.length := hbelow.length_le
  omega

/-- **A failed branch changes nothing for another one.** -/
theorem run_isolated_rehearsed : ∃ report, rehearsed.1 = .ok report ∧
    report.outcomes.map (·.state) = [BranchState.failed, BranchState.done] ∧
    Isolated (Selective.host (Rehearsal.perform Rehearsal.script)) Rehearsal.context
      Selective.assets Console.plain ⟨FileSystem.empty [], [], [], false⟩
      [BuildTarget.windows, BuildTarget.macos] report rehearsed.2 := by
  have hstates := rehearsed_states
  rcases hreport : rehearsed.1 with fault | report
  · rw [hreport] at hstates
    cases hstates
  have hrun : rehearsed = (.ok report, rehearsed.2) := by
    rw [← hreport]
  rw [hreport] at hstates
  refine ⟨report, rfl, Option.some.inj hstates, ?_⟩
  exact run_isolated
    (Selective.steady_host (Selective.contained_perform (by decide)))
    (isTree_empty []) (rehearsed_leads []).1 (rehearsed_leads []).2 (by decide) (by decide)
    (by decide) (by decide) hrun

/-! ## Ways to the directory of all branches -/

/-- The rehearsed release with another directory for all branches. -/
def elsewhere (names : List String) : RunContext :=
  { Rehearsal.context with workDir := ⟨.root, names⟩ }

variable {effect : Command → Disk Unit} {names : List String} {fs : FileSystem}

/-- Whether branches see each other in a run of Linux and macOS, although the host is steady and
names and files are as they should be. -/
structure Exposed (effect : Command → Disk Unit) (c : RunContext) (fs : FileSystem) : Prop where
  /-- the host -/
  steady : Steady (Selective.host effect) c Selective.assets
  /-- the files -/
  tree : fs.IsTree
  /-- the name of the program -/
  program : '/' ∉ c.config.project.binaryName.toList
  /-- the tag -/
  tag : ReleaseEvent.isTag c.event.tag = true
  /-- the branches -/
  seen : ¬ ∀ report final,
    trial effect c fs [BuildTarget.linux, BuildTarget.macos] = (.ok report, final) →
      Isolated (Selective.host effect) c Selective.assets Console.plain ⟨fs, [], [], false⟩
        [BuildTarget.linux, BuildTarget.macos] report final

/-- Whether macOS ends otherwise behind Linux than alone. -/
def endsOtherwise (effect : Command → Disk Unit) (c : RunContext) (fs : FileSystem) : Bool :=
  match (trial effect c fs [BuildTarget.linux, BuildTarget.macos]).1,
    (trial effect c fs [BuildTarget.macos]).1 with
  | .ok report, .ok lone => lone.outcomes ≠ (outcomeOf? report.outcomes BuildTarget.macos).toList
  | _, _ => false

/-- Whether something else is left at a location if macOS comes first. -/
def leavesOther (effect : Command → Disk Unit) (c : RunContext) (fs : FileSystem)
    (l : Location) : Bool :=
  (trial effect c fs [BuildTarget.linux, BuildTarget.macos]).1.toBool &&
    (trial effect c fs [BuildTarget.macos, BuildTarget.linux]).2.files.node? l ≠
      (trial effect c fs [BuildTarget.linux, BuildTarget.macos]).2.files.node? l

theorem exposed_of (hcontained : Selective.Contained (elsewhere names) effect)
    (htree : fs.IsTree)
    (h : endsOtherwise effect (elsewhere names) fs = true ∨
      ∃ l, leavesOther effect (elsewhere names) fs l = true) :
    Exposed effect (elsewhere names) fs := by
  refine ⟨Selective.steady_host hcontained, htree, ?_, ?_, fun hall => ?_⟩
  · show '/' ∉ Rehearsal.context.config.project.binaryName.toList
    decide
  · show ReleaseEvent.isTag Rehearsal.context.event.tag = true
    decide
  rcases h with hends | ⟨l, hleaves⟩
  · unfold endsOtherwise at hends
    split at hends
    · next report lone hreport hlone =>
      obtain ⟨outcome, lone', left, houtcome, hrun, houtcomes⟩ :=
        (hall report _ (by rw [← hreport])).alone BuildTarget.macos (by decide)
      have hsame : trial effect (elsewhere names) fs [BuildTarget.macos] = (.ok lone', left) := hrun
      rw [hsame] at hlone
      obtain rfl : lone' = lone := Except.ok.inj hlone
      rw [houtcome, houtcomes] at hends
      simp at hends
    · cases hends
  · obtain ⟨hok, hne⟩ := Bool.and_eq_true_iff.mp hleaves
    rcases hreport : (trial effect (elsewhere names) fs
      [BuildTarget.linux, BuildTarget.macos]).1 with fault | report
    · rw [hreport] at hok
      cases hok
    obtain ⟨report', final, hrun, hfiles, -⟩ := (hall report _ (by rw [← hreport])).ordered
      [BuildTarget.macos, BuildTarget.linux] (List.Perm.swap ..)
    have hsame : trial effect (elsewhere names) fs [BuildTarget.macos, BuildTarget.linux] =
      (.ok report', final) := hrun
    rw [hsame, hfiles] at hne
    simp at hne

/-- A file where a directory should be. -/
def blocked : FileSystem := (FileSystem.empty []).put ([] ++ ["w"]) (.file ⟨[], 0o644, 0⟩)

theorem isTree_blocked : blocked.IsTree := (isTree_empty []).put rfl (by decide) _

/-- The directories down to an old checkout of Linux. -/
def aged : FileSystem :=
  (((FileSystem.empty []).put ([] ++ ["w"]) .directory).put (["w"] ++ ["linux"]) .directory).put
    (["w", "linux"] ++ ["src"]) .directory

theorem isTree_aged : aged.IsTree := by
  have hwork : ((FileSystem.empty []).put ([] ++ ["w"]) .directory).IsTree :=
    (isTree_empty []).put rfl (by decide) .directory
  exact (hwork.put (by decide) (by decide +kernel) .directory).put (by decide +kernel)
    (by decide) .directory

/-- An old checkout of Linux with a directory in it. -/
def nested : FileSystem := aged.put (["w", "linux", "src"] ++ ["x"]) .directory

theorem isTree_nested : nested.IsTree :=
  isTree_aged.put (by decide) (by decide +kernel) .directory

set_option maxRecDepth 100000 in
theorem endsOtherwise_blocked :
    endsOtherwise (Rehearsal.perform Rehearsal.script) (elsewhere ["n", "..", "w"]) blocked =
      true := by
  decide

set_option maxRecDepth 100000 in
theorem leavesOther_nested :
    leavesOther Selective.clearUp (elsewhere ["w", "linux", "src", "x", "..", "..", ".."]) nested
      ["w", "linux", "src", "x"] = true := by
  decide +kernel

/-- **Branches see each other by the way to their directory.** A way that cannot be made to its
end is found in part by the second branch, and a way through a checkout is cleared away by its
branch. -/
theorem branches_exposed :
    Exposed (Rehearsal.perform Rehearsal.script) (elsewhere ["n", "..", "w"]) blocked ∧
      Exposed Selective.clearUp (elsewhere ["w", "linux", "src", "x", "..", "..", ".."]) nested :=
  ⟨exposed_of (Selective.contained_perform (by decide)) isTree_blocked
      (.inl endsOtherwise_blocked),
    exposed_of (Selective.contained_clearUp _) isTree_nested (.inr ⟨_, leavesOther_nested⟩)⟩

end Shipyard.Release
