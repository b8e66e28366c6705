import Mathlib.Data.List.Nodup
import Mathlib.Logic.ExistsUnique
import Shipyard.Proofs.Rehearsal
import Shipyard.Proofs.Run.Coupling
import Shipyard.Proofs.Run.Protocol

/-!
# Outcomes are well formed

The fields of an outcome belong together: it has one of four shapes, and the shape is told by the
states that the branch has passed. A report has one such outcome for each target, in the order of
the targets.
-/

namespace Shipyard

/-! ## Shapes -/

/-- The shapes of an outcome. -/
inductive OutcomeShape where
  /-- all went well -/
  | done
  /-- the build or the packaging failed -/
  | unpackaged
  /-- the publication failed -/
  | unpublished
  /-- the branch met a fault -/
  | crashed
  deriving DecidableEq, Repr

namespace OutcomeShape

/-- The states that a branch passes. -/
def history : OutcomeShape → List BranchState
  | done => [.pending, .building, .packaged, .published, .done]
  | unpackaged => [.pending, .building, .failed]
  | unpublished => [.pending, .building, .packaged, .failed]
  | crashed => [.pending, .failed]

/-- A shape is told by its states. -/
theorem eq_of_history_eq {shape shape' : OutcomeShape} (h : shape.history = shape'.history) :
    shape = shape' := by
  revert h
  cases shape <;> cases shape' <;> decide

end OutcomeShape

/-- What an outcome has besides its states. -/
def BranchOutcome.Carries (o : BranchOutcome) : OutcomeShape → Prop
  | .done =>
    o.state = .done ∧ o.error = none ∧ ∃ artifact release, o.artifact = some artifact ∧
      o.release = some release ∧ ∀ name, name ∈ release.assets ↔ name ∈ artifact.names
  | .unpackaged =>
    o.state = .failed ∧ o.artifact = none ∧ o.release = none ∧
      ((∃ failure, o.error = some (.build failure)) ∨
        ∃ failure, o.error = some (.packaging failure))
  | .unpublished =>
    o.state = .failed ∧ o.release = none ∧ (∃ artifact, o.artifact = some artifact) ∧
      ∃ failure, o.error = some (.publish failure)
  | .crashed =>
    o.state = .failed ∧ o.artifact = none ∧ o.release = none ∧
      ∃ crash, o.error = some (.crashed crash)

/-- **A well formed outcome.** -/
structure BranchOutcome.WellFormed (o : BranchOutcome) : Prop where
  /-- it has one shape -/
  shape : ∃! shape : OutcomeShape, o.history = shape.history ∧ o.Carries shape
  /-- its state is the last one -/
  last : o.history.getLast? = some o.state
  /-- its error is one of its platform -/
  platform : ∀ error, o.error = some error → error.platform = o.target.platform

theorem BranchOutcome.wellFormed_of_carries {o : BranchOutcome} (shape : OutcomeShape)
    (hhistory : o.history = shape.history) (hcarries : o.Carries shape)
    (hplatform : ∀ error, o.error = some error → error.platform = o.target.platform) :
    o.WellFormed where
  shape :=
    ⟨shape, ⟨hhistory, hcarries⟩, fun _ h =>
      OutcomeShape.eq_of_history_eq (h.1.symm.trans hhistory)⟩
  last := by
    rw [hhistory]
    cases shape with
    | done | unpackaged | unpublished | crashed => exact congrArg some hcarries.1.symm
  platform := hplatform

/-! ## Failures of a publication -/

theorem BuildTarget.platformOfTriple?_triple :
    ∀ target ∈ all, platformOfTriple? target.triple = some target.platform := by
  decide

/-- The platform of an artifact is looked up by its triple. -/
theorem Artifact.platform_of_triple {artifact : Artifact} {target : BuildTarget}
    (htarget : target ∈ BuildTarget.all) (h : artifact.triple = target.triple) :
    artifact.platform = target.platform := by
  rw [Artifact.platform, h, BuildTarget.platformOfTriple?_triple target htarget]
  rfl

namespace Publication

variable {σ : Type} {c : RunContext} {es : List (Exchange σ)} {failure : PublishFailure}

theorem Attachment.platform_eq {platform token : String} {files : List Path}
    (h : Attachment c platform token files es (.ok (.error failure))) :
    failure.platform = platform := by
  cases h with
  | failed => rfl
  | @viewed e looked _ _ _ _ _ hr =>
    rcases hread : reading c platform looked.answer with fault | failure' | release
    · rw [hread] at hr
      cases hr
    · rw [hread] at hr
      cases hr
      exact (reading_eq_ok_error hread).1
    · rw [hread] at hr
      simp only [confirmation] at hr
      split at hr
      · cases hr
      · cases hr
        rfl

/-- A failure of a publication is one of the platform of its artifact. -/
theorem Transcript.platform_eq {artifact : Artifact}
    (h : Transcript c artifact es (.ok (.error failure))) :
    failure.platform = artifact.platform := by
  cases h with
  | noToken => rfl
  | undone _ _ hattachment _ => exact hattachment.platform_eq

/-- A publication that succeeds has seen all names of its artifact. -/
theorem Transcript.mem_of_mem_names {artifact : Artifact} {release : PublishedRelease}
    (h : Transcript c artifact es (.ok (.ok release))) :
    ∀ name ∈ artifact.names, name ∈ release.assets := by
  cases h with
  | attached _ hfiles hattachment =>
    cases hattachment with
    | viewed _ _ _ hr =>
      rw [← Artifact.names_of_assets_eq_ok hfiles]
      exact (confirmation_eq_ok_ok hr.symm).2

end Publication

/-! ## Branches -/

namespace Release

variable {σ : Type} {c : RunContext} {target : BuildTarget} {targets : List BuildTarget}
  {es : List (Exchange σ)}

theorem settled_target {ended : Except Fault BranchOutcome}
    (h : Branch.Transcript c target es ended) : (settled target ended).target = target := by
  cases h with
  | buildFaulted | buildFailed | packagingFaulted | packagingFailed => rfl
  | @published _ _ _ _ r => rcases r with fault | failure | release <;> rfl

/-- **Every branch ends well formed.** -/
theorem settled_wellFormed {ended : Except Fault BranchOutcome}
    (hbuiltIn : target ∈ BuildTarget.all) (h : Branch.Transcript c target es ended) :
    (settled target ended).WellFormed := by
  have hcrashed : ∀ fault, (crashedOutcome target fault).WellFormed := by
    intro fault
    refine BranchOutcome.wellFormed_of_carries .crashed rfl ⟨rfl, rfl, rfl, _, rfl⟩ ?_
    rintro _ ⟨⟩
    rfl
  cases h with
  | buildFaulted | packagingFaulted => exact hcrashed _
  | buildFailed hbuild =>
    refine BranchOutcome.wellFormed_of_carries .unpackaged rfl ⟨rfl, rfl, rfl, .inl ⟨_, rfl⟩⟩ ?_
    rintro _ ⟨⟩
    exact hbuild.platform_eq
  | packagingFailed _ hpackaged =>
    refine BranchOutcome.wellFormed_of_carries .unpackaged rfl ⟨rfl, rfl, rfl, .inr ⟨_, rfl⟩⟩ ?_
    rintro _ ⟨⟩
    exact hpackaged
  | @published _ _ _ artifact r _ hpackaged hpublication =>
    rcases r with fault | failure | release
    · exact hcrashed fault
    · refine BranchOutcome.wellFormed_of_carries .unpublished rfl ⟨rfl, rfl, ⟨_, rfl⟩, _, rfl⟩ ?_
      rintro _ ⟨⟩
      show failure.platform = target.platform
      rw [hpublication.platform_eq, Artifact.platform_of_triple hbuiltIn hpackaged.1]
    · refine BranchOutcome.wellFormed_of_carries .done rfl
        ⟨rfl, rfl, artifact, release.restrict artifact.names, rfl, rfl, fun name => ?_⟩ nofun
      -- the release is cut down to the names of the artifact, and it has both of them
      have hnames := hpublication.mem_of_mem_names name
      simp only [PublishedRelease.restrict, List.mem_filter, List.contains_iff_mem]
      exact ⟨fun h => h.2, fun h => ⟨hnames h, h⟩⟩

theorem Branches.map_target {outcomes : List BranchOutcome} (h : Branches c targets es outcomes) :
    outcomes.map (·.target) = targets := by
  induction h with
  | nil => rfl
  | cons hbranch _ ih => rw [List.map_cons, ih, settled_target hbranch]

theorem Branches.wellFormed {outcomes : List BranchOutcome} (h : Branches c targets es outcomes)
    (hbuiltIn : ∀ target ∈ targets, target ∈ BuildTarget.all) :
    ∀ outcome ∈ outcomes, outcome.WellFormed := by
  induction h with
  | nil =>
    intro outcome hmem
    cases hmem
  | cons hbranch _ ih =>
    have htargets := List.forall_mem_cons.mp hbuiltIn
    exact List.forall_mem_cons.mpr ⟨settled_wellFormed htargets.1 hbranch, ih htargets.2⟩

/-- The exchanges of one branch, with those of the branches before it and behind it. -/
theorem Branches.split {outcomes : List BranchOutcome} (h : Branches c targets es outcomes)
    {outcome : BranchOutcome} (hmem : outcome ∈ outcomes) :
    ∃ targets₁ targets₂ es₁ own es₂ outcomes₁ outcomes₂ ended,
      targets = targets₁ ++ outcome.target :: targets₂ ∧ es = es₁ ++ (own ++ es₂) ∧
      Branches c targets₁ es₁ outcomes₁ ∧ Branch.Transcript c outcome.target own ended ∧
      Branches c targets₂ es₂ outcomes₂ ∧ outcome = settled outcome.target ended := by
  induction h with
  | nil => cases hmem
  | @cons target targets own rest ended outcomes hbranch hrest ih =>
    rcases List.mem_cons.mp hmem with rfl | hmem
    · rw [settled_target hbranch]
      exact ⟨[], targets, [], own, rest, [], outcomes, ended, rfl, rfl, .nil, hbranch, hrest, rfl⟩
    · obtain ⟨targets₁, targets₂, es₁, own', es₂, outcomes₁, outcomes₂, ended', htargets, hes, h₁,
        hown, h₂, heq⟩ := ih hmem
      refine ⟨target :: targets₁, targets₂, own ++ es₁, own', es₂, _, outcomes₂, ended', ?_, ?_,
        .cons hbranch h₁, hown, h₂, heq⟩
      · rw [htargets, List.cons_append]
      · rw [hes, List.append_assoc]

/-! ## Reports -/

/-- Of branches for distinct targets each outcome is the one that counts for its target. -/
theorem outcomeOf?_target {outcomes : List BranchOutcome}
    (hnodup : (outcomes.map (·.target)).Nodup) {outcome : BranchOutcome}
    (hmem : outcome ∈ outcomes) : outcomeOf? outcomes outcome.target = some outcome := by
  have hsome : (outcomeOf? outcomes outcome.target).isSome = true :=
    List.find?_isSome.mpr ⟨outcome, List.mem_reverse.mpr hmem, by simp⟩
  obtain ⟨found, hfound⟩ := Option.isSome_iff_exists.mp hsome
  have htarget : found.target = outcome.target := by simpa using List.find?_some hfound
  have hmem' : found ∈ outcomes := List.mem_reverse.mp (List.mem_of_find?_eq_some hfound)
  rw [hfound, List.inj_on_of_nodup_map hnodup hmem' hmem htarget]

/-- So the report of the branches has their outcomes. -/
theorem Branches.filterMap_outcomeOf? {outcomes : List BranchOutcome}
    (h : Branches c targets es outcomes) (hnodup : targets.Nodup) :
    targets.filterMap (outcomeOf? outcomes) = outcomes := by
  have htargets := h.map_target
  rw [← htargets] at hnodup
  rw [← htargets, List.filterMap_map]
  calc outcomes.filterMap (outcomeOf? outcomes ∘ (·.target))
      = outcomes.filterMap some :=
        List.filterMap_congr fun outcome hmem => outcomeOf?_target hnodup hmem
    _ = outcomes := List.filterMap_some

theorem Transcript.exists_of_ok {report : RunReport} (h : Transcript c targets es (.ok report))
    (hnodup : targets.Nodup) :
    ∃ es₁ es₂ outcomes formula, es = es₁ ++ es₂ ∧ Branches c targets es₁ outcomes ∧
      Gated c outcomes es₂ (.ok formula) ∧ report = ⟨c.event, outcomes, formula⟩ := by
  cases h with
  | reported _ hbranches hgated =>
    refine ⟨_, _, _, _, rfl, hbranches, hgated, ?_⟩
    rw [reportOf, hbranches.filterMap_outcomeOf? hnodup]

/-- **Every outcome of a report is well formed**, and the outcomes are those of the targets, in
their order. -/
theorem report_wellFormed {host : Host σ} {console : Console} {w : World σ} {report : RunReport}
    (hnodup : targets.Nodup) (hbuiltIn : ∀ target ∈ targets, target ∈ BuildTarget.all)
    (hrun : (Action.runOn (run host c targets console) w).1 = .ok report) :
    report.outcomes.map (·.target) = targets ∧ ∀ outcome ∈ report.outcomes, outcome.WellFormed := by
  have htranscript :=
    (mirrors_run host c targets console).holds (follows_run host c targets console) w
  rw [hrun] at htranscript
  obtain ⟨es₁, es₂, outcomes, formula, -, hbranches, -, rfl⟩ := htranscript.exists_of_ok hnodup
  exact ⟨hbranches.map_target, hbranches.wellFormed hbuiltIn⟩

/-- A rehearsal without tokens for two platforms, of which one cannot be compiled. -/
def failingRun : Except Fault RunReport :=
  (Action.runOn (run (Rehearsal.host Rehearsal.script) { Rehearsal.context with environ := [] }
    [BuildTarget.windows, BuildTarget.macos] Console.plain)
    (Rehearsal.world [⟨["rustup"], none, 1, 0, .exit 1 "" "no network"⟩])).1

set_option maxRecDepth 100000 in
theorem failingRun_isOk : failingRun.isOk = true := by
  decide +kernel

/-- Both outcomes are well formed. -/
theorem report_wellFormed_failingRun :
    ∃ report, failingRun = .ok report ∧
      report.outcomes.map (·.target) = [BuildTarget.windows, BuildTarget.macos] ∧
        ∀ outcome ∈ report.outcomes, outcome.WellFormed := by
  have hok := failingRun_isOk
  rcases hrun : failingRun with fault | report
  · rw [hrun] at hok
    cases hok
  · exact ⟨report, rfl, report_wellFormed (by decide) (by decide) hrun⟩

end Release

end Shipyard
