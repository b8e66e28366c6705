import Shipyard.Proofs.Rehearsal
import Shipyard.Proofs.Run.Outcomes
import Shipyard.Proofs.Run.Requests

/-!
# Delivery of the report

Whatever happens to the commands of a run, its branches end, each with an outcome. The bump behind
them has nobody to catch its faults: if one of its commands meets a fault, or the list of pull
requests is refused by its reader, the run ends with that fault and without a report, and the
outcomes of the branches are lost with it (`Release.bump_loses_outcomes`). Nothing else keeps a run
over targets from its report (`Release.run_delivers`).
-/

namespace Shipyard

open Shipyard.Action

variable {σ : Type} {host : Host σ} {c : RunContext} {es : List (Exchange σ)}
  {targets : List BuildTarget}

/-! ## Bumps -/

/-- Whether an exchange breaks off what it is part of: the command met a fault, or it gave a list of
pull requests that is refused by its reader. -/
def Exchange.Breaks (e : Exchange σ) : Prop :=
  (∃ fault, e.answer = .error fault) ∨
    e.lists = true ∧ ∃ output fault,
      e.answer = .ok (.ok output) ∧ output ≠ "" ∧ Value.ofJson output = .error fault

namespace Formula

variable {request : FormulaRequest} {token : String} {e : Exchange σ}

theorem found_eq_error_iff (hlist : e.command = listCommand c request token) :
    (∃ fault, found request e.answer = .error fault) ↔ e.Breaks := by
  have hlists := lists_of_list hlist
  rcases hanswer : e.answer with fault | failure | output
  · simp [found, Exchange.Breaks, hanswer]
  · simp [found, Exchange.Breaks, hanswer]
  by_cases houtput : output = ""
  · have hread : Value.ofJson "[]" = .ok (.ok (.list [])) := by rfl
    simp [found, Exchange.Breaks, hanswer, houtput, hread]
  · rcases hread : Value.ofJson output with fault | what | answer
    · simp [found, Exchange.Breaks, hanswer, hlists, houtput, hread]
    · simp [found, Exchange.Breaks, hanswer, houtput, hread]
    · simp [found, Exchange.Breaks, hanswer, houtput, hread]

theorem submitted_eq_error_iff (hbump : e.command = bumpCommand c request token) :
    (∃ fault, submitted request e.answer = .error fault) ↔ e.Breaks := by
  have hlists := not_lists_of_bump hbump
  rcases hanswer : e.answer with fault | failure | output
  all_goals simp [submitted, Exchange.Breaks, hanswer, hlists]

/-- **A bump meets a fault exactly where one of its exchanges breaks it off.** -/
theorem Transcript.eq_error_iff {r : Except Fault (Except FormulaFailure FormulaBump)}
    (h : Transcript c request es r) : (∃ fault, r = .error fault) ↔ ∃ e ∈ es, e.Breaks := by
  cases h with
  | noToken => simp
  | forced _ _ hbump =>
    rw [submitted_eq_error_iff hbump]
    simp
  | faulted _ _ hlist hfound =>
    have hbreaks := (found_eq_error_iff hlist).mp ⟨_, hfound⟩
    simp [hbreaks]
  | failed _ _ hlist hfound | skipped _ _ hlist hfound =>
    have hbreaks := (found_eq_error_iff hlist).not.mp (by simp [hfound])
    simp [hbreaks]
  | unforced _ _ hlist hfound hbump =>
    have hbreaks := (found_eq_error_iff hlist).not.mp (by simp [hfound])
    rw [submitted_eq_error_iff hbump]
    simp [hbreaks]

end Formula

/-! ## Runs -/

namespace Release

variable {outcomes : List BranchOutcome} {console : Console} {w v : World σ}

theorem Gated.eq_error_iff {r : Except Fault (Option FormulaResult)} (h : Gated c outcomes es r) :
    (∃ fault, r = .error fault) ↔ ∃ e ∈ es, e.Breaks := by
  cases h with
  | closed => simp
  | faulted _ h => exact (iff_of_true ⟨_, rfl⟩ (h.eq_error_iff.mp ⟨_, rfl⟩))
  | bumped _ h => exact (iff_of_false (by simp) (h.eq_error_iff.not.mp (by simp)))

/-- Of the exchanges of a run, those behind the branches are the ones of the bump. -/
theorem Branches.exists_breaks_iff {es' : List (Exchange σ)}
    {r : Except Fault (Option FormulaResult)} (h : Branches c targets es outcomes)
    (hgated : Gated c outcomes es' r) (hbuiltIn : ∀ target ∈ targets, target ∈ BuildTarget.all) :
    (∃ e ∈ es ++ es', e.ofBump = true ∧ e.Breaks) ↔ ∃ fault, r = .error fault := by
  rw [hgated.eq_error_iff]
  constructor
  · rintro ⟨e, he, hof, hbreaks⟩
    rcases List.mem_append.mp he with he | he
    · rw [h.not_ofBump hbuiltIn e he] at hof
      cases hof
    · exact ⟨e, he, hbreaks⟩
  · rintro ⟨e, he, hbreaks⟩
    exact ⟨e, List.mem_append_right _ he, hgated.ofBump e he, hbreaks⟩

/-- **A run over targets meets a fault exactly where an exchange of its bump breaks it off.** -/
theorem Transcript.eq_error_iff {r : Except Fault RunReport} (h : Transcript c targets es r)
    (hne : targets ≠ []) (hbuiltIn : ∀ target ∈ targets, target ∈ BuildTarget.all) :
    (∃ fault, r = .error fault) ↔ ∃ e ∈ es, e.ofBump = true ∧ e.Breaks := by
  cases h with
  | idle htargets => exact absurd htargets hne
  | faulted _ hbranches hgated =>
    rw [hbranches.exists_breaks_iff hgated hbuiltIn]
    simp
  | reported _ hbranches hgated =>
    rw [hbranches.exists_breaks_iff hgated hbuiltIn]
    simp

/-- A run is its branches and then the formula. -/
theorem runOn_run (hne : targets ≠ [])
    (hruns : runOn (runBranches host c console targets) w = (.ok outcomes, v)) :
    runOn (run host c targets console) w =
      match runOn (runFormula host c console (outcomeOf? outcomes BuildTarget.formulaGate)) v with
      | (.ok formula, v') => (.ok ⟨c.event, targets.filterMap (outcomeOf? outcomes), formula⟩, v')
      | (.error fault, v') => (.error fault, v') := by
  unfold run
  rw [if_neg hne]
  refine (runOn_bind_ok hruns).trans ?_
  rw [runOn_bind]
  rcases runOn (runFormula host c console (outcomeOf? outcomes BuildTarget.formulaGate)) v with
    ⟨fault | formula, v'⟩
  · rfl
  · rfl

/-- **What a run delivers.** It goes through all branches to these outcomes, and then through the
formula. -/
structure Delivers (host : Host σ) (c : RunContext) (targets : List BuildTarget)
    (console : Console) (w : World σ) (outcomes : List BranchOutcome) : Prop where
  /-- the branches end with the outcomes, and the report is that of the formula behind them -/
  behind : ∃ v, runOn (runBranches host c console targets) w = (.ok outcomes, v) ∧
    (runOn (run host c targets console) w).1 =
      (runOn (runFormula host c console (outcomeOf? outcomes BuildTarget.formulaGate)) v).1.map
        fun formula => ⟨c.event, outcomes, formula⟩
  /-- each target has an outcome, in the order of the targets -/
  inOrder : outcomes.map (·.target) = targets
  /-- there is a report with the outcomes unless an exchange of the bump breaks the run off -/
  unbroken : (∃ formula, (runOn (run host c targets console) w).1 =
      .ok ⟨c.event, outcomes, formula⟩) ↔
    ∀ e ∈ exchanges host c targets console w, e.ofBump = true → ¬ e.Breaks

/-- **A run over targets delivers the outcomes of its branches**, whatever its host answers, unless
its bump is broken off. -/
theorem run_delivers (host : Host σ) (c : RunContext) (console : Console) (w : World σ)
    (hne : targets ≠ []) (hnodup : targets.Nodup)
    (hbuiltIn : ∀ target ∈ targets, target ∈ BuildTarget.all) :
    ∃ outcomes, Delivers host c targets console w outcomes := by
  obtain ⟨outcomes, hresult, hbranches⟩ :=
    (mirrors_runBranches host c console targets).holds (follows_runBranches host c console targets)
      w
  rcases hruns : runOn (runBranches host c console targets) w with ⟨r, v⟩
  rw [hruns] at hresult
  obtain rfl : r = .ok outcomes := hresult
  have hreport : (runOn (run host c targets console) w).1 =
      (runOn (runFormula host c console (outcomeOf? outcomes BuildTarget.formulaGate)) v).1.map
        fun formula => ⟨c.event, outcomes, formula⟩ := by
    rw [runOn_run hne hruns, hbranches.filterMap_outcomeOf? hnodup]
    rcases runOn (runFormula host c console (outcomeOf? outcomes BuildTarget.formulaGate)) v with
      ⟨fault | formula, v'⟩
    · rfl
    · rfl
  refine ⟨outcomes, ⟨v, hruns, hreport⟩, hbranches.map_target, ?_⟩
  -- the branches end without a fault, so a fault of the run is one of its last step
  have hfaults := (transcript_exchanges host c targets console w).eq_error_iff hne hbuiltIn
  constructor
  · rintro ⟨formula, hok⟩ e he hof hbreaks
    obtain ⟨fault, hfault⟩ := hfaults.mpr ⟨e, he, hof, hbreaks⟩
    rw [hok] at hfault
    cases hfault
  · intro hnone
    rcases hformula : (runOn (runFormula host c console
        (outcomeOf? outcomes BuildTarget.formulaGate)) v).1 with fault | formula
    · rw [hformula] at hreport
      obtain ⟨e, he, hof, hbreaks⟩ := hfaults.mp ⟨fault, hreport⟩
      exact absurd hbreaks (hnone e he hof)
    · rw [hformula] at hreport
      exact ⟨formula, hreport⟩

/-! ## A bump that is broken off -/

/-- The world of a rehearsal in which the bump meets a fault. -/
def brokenWorld : World Stage := Rehearsal.world [⟨["brew"], none, 1, 0, .fault "no text"⟩]

/-- The branch of macOS in that rehearsal. -/
def brokenBranches : Except Fault (List BranchOutcome) × World Stage :=
  runOn (runBranches (Rehearsal.host Rehearsal.script) Rehearsal.context Console.plain
    [BuildTarget.macos]) brokenWorld

/-- The run of which it is the only branch. -/
def brokenRun : Except Fault RunReport × World Stage :=
  runOn (run (Rehearsal.host Rehearsal.script) Rehearsal.context [BuildTarget.macos]
    Console.plain) brokenWorld

/-- How that rehearsal ends: the branch is done, and there is no report. -/
def EndsBroken : Prop :=
  (brokenBranches.1.map fun outcomes => outcomes.map fun o => (o.target, o.state)).toOption =
      some [(BuildTarget.macos, .done)] ∧
    brokenRun.1.toBool = false

instance : Decidable EndsBroken := inferInstanceAs (Decidable (_ ∧ _))

set_option maxRecDepth 100000 in
theorem endsBroken : EndsBroken := by
  decide +kernel

/-- **A fault of the bump loses the outcomes of the branches.** The only branch is done, and the run
ends without a report. -/
theorem bump_loses_outcomes :
    (∃ outcome, brokenBranches.1 = .ok [outcome] ∧ outcome.target = BuildTarget.macos ∧
        outcome.state = .done) ∧
      ¬ ∃ report, brokenRun.1 = .ok report := by
  obtain ⟨hbranches, hrun⟩ := endsBroken
  constructor
  · rcases houtcomes : brokenBranches.1 with fault | outcomes
    · rw [houtcomes] at hbranches
      cases hbranches
    rw [houtcomes] at hbranches
    have hmap : outcomes.map (fun o => (o.target, o.state)) = [(BuildTarget.macos, .done)] :=
      Option.some.inj hbranches
    obtain ⟨outcome, rfl, houtcome⟩ := List.map_eq_singleton_iff.mp hmap
    exact ⟨outcome, rfl, congrArg Prod.fst houtcome, congrArg Prod.snd houtcome⟩
  · rintro ⟨report, hreport⟩
    rw [hreport] at hrun
    cases hrun

/-- Its outcome was there to be delivered. -/
theorem run_delivers_brokenRun :
    ∃ outcomes, Delivers (Rehearsal.host Rehearsal.script) Rehearsal.context [BuildTarget.macos]
      Console.plain brokenWorld outcomes :=
  run_delivers _ _ _ _ (List.cons_ne_nil _ _) (by decide) (by decide)

end Release

end Shipyard
