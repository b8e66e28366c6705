import Shipyard.Proofs.CommandLine.Command
import Shipyard.Proofs.Run.Gate

/-!
# How the command for all targets ends

The command gets as far as its settings, as far as its event, or as far as a report, and the code
that the program ends with is read off a table. Before there is a report nothing is done: no command
is issued and no file is touched. A failure of the formula counts only if all branches are done, and
the first branch that is not done counts before the others.
-/

namespace Shipyard

variable {σ : Type}

/-! ## The table -/

/-- Whether an error of a branch has a code. -/
inductive BranchError.Code : BranchError → Nat → Prop
  /-- a tool is missing -/
  | toolchainMissing {failure : BuildFailure} : failure.kind = .toolchainMissing →
      Code (.build failure) 2
  /-- the build failed for another reason -/
  | build {failure : BuildFailure} : failure.kind ≠ .toolchainMissing → Code (.build failure) 3
  /-- the branch crashed -/
  | crashed {crash : BranchCrash} : Code (.crashed crash) 3
  /-- the packaging failed -/
  | packaging {failure : PackagingFailure} : Code (.packaging failure) 4
  /-- the publication failed -/
  | publish {failure : PublishFailure} : Code (.publish failure) 5

/-- Whether all branches of a report are done. -/
def RunReport.AllDone (report : RunReport) : Prop := ∀ o ∈ report.outcomes, o.state = .done

/-- Whether a report has a code. -/
inductive RunReport.Code (report : RunReport) : Nat → Prop
  /-- that of the first branch that is not done, whatever became of the formula -/
  | branch {before after : List BranchOutcome} {outcome : BranchOutcome} {error : BranchError}
      {code : Nat} : report.outcomes = before ++ outcome :: after →
      (∀ o ∈ before, o.state = .done) → outcome.state ≠ .done → outcome.error = some error →
      error.Code code → Code report code
  /-- that of the formula, if all branches are done -/
  | formula {failure : FormulaFailure} : report.AllDone →
      report.formula = some (.error failure) → Code report 6
  /-- none if the formula went well, too -/
  | well {bump : FormulaBump} : report.AllDone → report.formula = some (.ok bump) → Code report 0

/-! ## Reports -/

namespace BranchError

theorem code_exitCode (error : BranchError) : error.Code error.exitCode.number := by
  cases error with
  | build failure =>
    by_cases hkind : failure.kind = .toolchainMissing
    · simp only [exitCode, hkind, if_true]
      exact .toolchainMissing hkind
    · simp only [exitCode, hkind, if_false]
      exact .build hkind
  | packaging failure => exact .packaging
  | publish failure => exact .publish
  | crashed crash => exact .crashed

theorem Code.ne_zero {error : BranchError} {code : Nat} (h : error.Code code) : code ≠ 0 := by
  cases h with
  | toolchainMissing | build | crashed | packaging | publish => decide

theorem exitCode_ne_ok (error : BranchError) : error.exitCode ≠ .ok := fun h =>
  error.code_exitCode.ne_zero (by rw [h]; rfl)

end BranchError

/-- A well formed outcome that is not done has an error. -/
theorem BranchOutcome.WellFormed.exists_error {o : BranchOutcome} (h : o.WellFormed)
    (hstate : o.state ≠ .done) : ∃ error, o.error = some error := by
  obtain ⟨shape, ⟨-, hcarries⟩, -⟩ := h.shape
  cases shape with
  | done => exact absurd hcarries.1 hstate
  | unpackaged =>
    rcases hcarries.2.2.2 with ⟨failure, herror⟩ | ⟨failure, herror⟩
    · exact ⟨_, herror⟩
    · exact ⟨_, herror⟩
  | unpublished =>
    obtain ⟨failure, herror⟩ := hcarries.2.2.2
    exact ⟨_, herror⟩
  | crashed =>
    obtain ⟨crash, herror⟩ := hcarries.2.2.2
    exact ⟨_, herror⟩

namespace RunReport

variable {report : RunReport}

/-- A report whose branches are not all done has a first one that is not. -/
theorem exists_first (h : ¬ report.AllDone) :
    ∃ before outcome after, report.outcomes = before ++ outcome :: after ∧
      (∀ o ∈ before, o.state = .done) ∧ outcome.state ≠ .done ∧
      report.failed.head? = some outcome := by
  unfold AllDone at h
  push Not at h
  obtain ⟨o, hmem, hstate⟩ := h
  have hsome : (report.outcomes.find? fun o => !o.ok).isSome = true :=
    List.find?_isSome.mpr ⟨o, hmem, by simpa [BranchOutcome.ok] using hstate⟩
  obtain ⟨outcome, hfind⟩ := Option.isSome_iff_exists.mp hsome
  obtain ⟨hok, before, after, houtcomes, hbefore⟩ := List.find?_eq_some_iff_append.mp hfind
  refine ⟨before, outcome, after, houtcomes, fun o ho => ?_, ?_, ?_⟩
  · simpa [BranchOutcome.ok] using hbefore o ho
  · simpa [BranchOutcome.ok] using hok
  · rw [failed, List.head?_filter, hfind]

theorem failed_eq_nil (h : report.AllDone) : report.failed = [] := by
  rw [failed, List.filter_eq_nil_iff]
  intro o ho
  simp [BranchOutcome.ok, h o ho]

/-- **The code of a report.** It is in accordance with the table if no outcome lacks its error, and
the formula was asked for in case all branches are done. -/
theorem code_exitCode (herrors : ∀ o ∈ report.outcomes, o.state ≠ .done → ∃ error,
    o.error = some error) (hformula : report.AllDone → report.formula.isSome = true) :
    report.Code report.exitCode.number := by
  by_cases hdone : report.AllDone
  · have hbranches : report.branchCode = .ok := by
      rw [branchCode, failed_eq_nil hdone]
      rfl
    obtain ⟨result, hresult⟩ := Option.isSome_iff_exists.mp (hformula hdone)
    rcases result with failure | bump
    · simp only [exitCode, hresult, hbranches, if_true]
      exact .formula hdone hresult
    · simp only [exitCode, hresult, hbranches]
      exact .well hdone hresult
  · obtain ⟨before, outcome, after, houtcomes, hbefore, hstate, hfirst⟩ := exists_first hdone
    have hmem : outcome ∈ report.outcomes := by simp [houtcomes]
    obtain ⟨error, herror⟩ := herrors outcome hmem hstate
    have hbranches : report.branchCode = error.exitCode := by
      simp [branchCode, hfirst, BranchOutcome.exitCode, BranchOutcome.ok, hstate, herror]
    -- an error has a code, so that of the formula cannot take its place
    have hcode : report.exitCode = error.exitCode := by
      unfold exitCode
      split
      · rw [hbranches, if_neg error.exitCode_ne_ok]
      · exact hbranches
    rw [hcode]
    exact .branch houtcomes hbefore hstate herror error.code_exitCode

/-- The code is zero in one case alone. -/
theorem Code.eq_zero_iff {code : Nat} (h : report.Code code) :
    code = 0 ↔ report.AllDone ∧ ∃ bump, report.formula = some (.ok bump) := by
  cases h with
  | @branch _ _ outcome _ _ houtcomes _ hstate _ hcode =>
    refine ⟨fun hzero => absurd hzero hcode.ne_zero, fun ⟨hdone, _⟩ => ?_⟩
    exact absurd (hdone outcome (by simp [houtcomes])) hstate
  | formula _ hformula =>
    refine ⟨nofun, fun ⟨_, bump, hbump⟩ => ?_⟩
    rw [hformula] at hbump
    cases hbump
  | @well bump hdone hformula => exact ⟨fun _ => ⟨hdone, bump, hformula⟩, fun _ => rfl⟩

end RunReport

/-- The code of a run over all targets is in accordance with the table. -/
theorem Release.Transcript.code_exitCode {c : RunContext} {es : List (Exchange σ)}
    {report : RunReport} (h : Release.Transcript c BuildTarget.all es (.ok report)) :
    report.outcomes.map (·.target) = BuildTarget.all ∧ report.Code report.exitCode.number := by
  have hnodup : BuildTarget.all.Nodup := by decide
  obtain ⟨es₁, es₂, outcomes, formula, -, hbranches, hgated, rfl⟩ := h.exists_of_ok hnodup
  refine ⟨hbranches.map_target, RunReport.code_exitCode ?_ fun hdone => ?_⟩
  · exact fun o ho => (hbranches.wellFormed (fun _ h => h) o ho).exists_error
  -- if all branches are done, so is that of the gate
  · have hmacos : BuildTarget.macos ∈ outcomes.map (·.target) := by
      rw [hbranches.map_target]
      decide
    obtain ⟨outcome, hmem, htarget⟩ := List.mem_map.mp hmacos
    exact hgated.isSome_iff.mpr ((hbranches.gateOpen_iff hnodup).mpr
      ⟨by decide, outcome, hmem, htarget, hdone outcome hmem⟩)

/-! ## The course of the command -/

namespace CommandLine

/-- How far the command gets. -/
inductive Course where
  /-- there are no settings -/
  | unset (e : ConfigError)
  /-- there is no event -/
  | rejected (e : UnrecognizedEvent)
  /-- there is a report -/
  | reported (report : RunReport)

/-- Whether a course has a code. -/
inductive Course.Code : Course → Nat → Prop
  /-- there are no settings -/
  | unset {e : ConfigError} : Code (.unset e) 2
  /-- there is no event -/
  | rejected {e : UnrecognizedEvent} : Code (.rejected e) 1
  /-- the code is that of the report -/
  | reported {report : RunReport} {code : Nat} : report.Code code → Code (.reported report) code

/-- Whether everything went well. -/
def Course.Succeeds : Course → Prop
  | .unset _ => False
  | .rejected _ => False
  | .reported report => report.AllDone ∧ ∃ bump, report.formula = some (.ok bump)

theorem Course.Code.eq_zero_iff {course : Course} {code : Nat} (h : course.Code code) :
    code = 0 ↔ course.Succeeds := by
  cases h with
  | unset | rejected => exact ⟨nofun, False.elim⟩
  | reported h => exact h.eq_zero_iff

variable {host : Host σ} {homes : Homes} {environ : Environment} {eventOptions : EventOptions}
  {sourceOptions : SourceOptions} {source root : Path} {words : List String} {w w' : World σ}

/-- Which course the command takes, and the world that it leaves. -/
inductive Takes (host : Host σ) (environ : Environment) (eventOptions : EventOptions)
    (sourceOptions : SourceOptions) (root : Path) (w : World σ) : Course → World σ → Prop
  /-- there are no settings, and nothing was done -/
  | unset {e : ConfigError} {w' : World σ} :
      ((sourceOptions.settings root).runOn w.files).1 = .ok (.error e) → Untouched w w' →
      Takes host environ eventOptions sourceOptions root w (.unset e) w'
  /-- there is no event, and nothing was done -/
  | rejected {config : Config} {e : UnrecognizedEvent} {w' : World σ} :
      ((sourceOptions.settings root).runOn w.files).1 = .ok (.ok config) →
      (eventOptions.load.runOn w.files).1 = .ok (.error e) → Untouched w w' →
      Takes host environ eventOptions sourceOptions root w (.rejected e) w'
  /-- the branches of all targets were run, with nothing done before and behind them -/
  | reported {config : Config} {event : ReleaseEvent} {c : RunContext} {report : RunReport}
      {w₁ w₂ w' : World σ} :
      ((sourceOptions.settings root).runOn w.files).1 = .ok (.ok config) →
      (eventOptions.load.runOn w.files).1 = .ok (.ok event) →
      RunContext.create w.files.cwd event (config.withForce sourceOptions.force) root environ =
        .ok c →
      Untouched w w₁ →
      Action.runOn (Release.run host c BuildTarget.all Console.plain) w₁ = (.ok report, w₂) →
      Untouched w₂ w' →
      Takes host environ eventOptions sourceOptions root w (.reported report) w'

theorem runAll_eq (host : Host σ) (homes : Homes) (environ : Environment)
    (eventOptions : EventOptions) (sourceOptions : SourceOptions) :
    runAll host homes environ eventOptions sourceOptions =
      inContext homes environ eventOptions sourceOptions fun c =>
        reportOn (Release.run host c BuildTarget.all Console.plain) (·.notices) (·.exitCode) :=
  rfl

/-- The command ends in accordance with its course. -/
theorem runAll_takes
    (hsource : expandHome homes environ (Path.ofText sourceOptions.source) = .ok source)
    (hroot : RunContext.rootOf w.files.cwd source = .ok root) {ended : Except Ending ExitCode}
    (hrun : CommandAction.runOn (runAll host homes environ eventOptions sourceOptions) w =
      (.ok ended, w')) :
    ∃ course, Takes host environ eventOptions sourceOptions root w course w' ∧
      course.Code (endingOf ended).code := by
  rw [runAll_eq, runOn_inContext hsource hroot] at hrun
  rcases hsettings : ((sourceOptions.settings root).runOn w.files).1 with fault | e | config
  all_goals
    rw [hsettings] at hrun
    dsimp only at hrun
  · cases hrun
  · cases hrun
    exact ⟨_, .unset hsettings ⟨rfl, rfl, rfl⟩, .unset⟩
  rcases hevent : (eventOptions.load.runOn w.files).1 with fault | e | event
  all_goals
    rw [hevent] at hrun
    dsimp only at hrun
  · cases hrun
  · cases hrun
    exact ⟨_, .rejected hsettings hevent (untouched_told w _), .rejected⟩
  rcases hcreate : RunContext.create w.files.cwd event (config.withForce sourceOptions.force) root
    environ with refusal | c
  all_goals
    rw [hcreate] at hrun
    dsimp only at hrun
  · cases hrun
  rw [runOn_reportOn] at hrun
  generalize hw₁ : w.told _ = w₁ at hrun
  have htranscript := Release.transcript_exchanges host c BuildTarget.all Console.plain w₁
  rcases hreport : Action.runOn (Release.run host c BuildTarget.all Console.plain) w₁ with
    ⟨fault | report, w₂⟩
  all_goals
    rw [hreport] at hrun htranscript
    cases hrun
  exact ⟨_, .reported hsettings hevent hcreate (hw₁ ▸ untouched_told w _) hreport
    (untouched_told w₂ _), .reported htranscript.code_exitCode.2⟩

/-- Whenever the program ends, it ends in accordance with a course that it has taken. -/
theorem exists_takes
    (hwords : Invocation.ofWords environ words = .ok (.run eventOptions sourceOptions))
    (hsource : expandHome homes environ (Path.ofText sourceOptions.source) = .ok source)
    (hroot : RunContext.rootOf w.files.cwd source = .ok root) {ending : Ending}
    (hrun : Action.runOn (execute host homes environ words) w = (.ok ending, w')) :
    ∃ course, Takes host environ eventOptions sourceOptions root w course w' ∧
      course.Code ending.code := by
  rw [runOn_execute hwords] at hrun
  rcases hended : CommandAction.runOn (perform host homes environ (.run eventOptions sourceOptions))
    w with ⟨fault | ended, w₁⟩
  all_goals
    rw [hended] at hrun
    cases hrun
  exact runAll_takes hsource hroot hended

/-- **The command for all targets ends if there is no token for the bump.** Once there are settings,
an event and a context, only a command of the bump could meet a fault that no outcome reports. -/
theorem exists_ending
    (hwords : Invocation.ofWords environ words = .ok (.run eventOptions sourceOptions))
    (hsource : expandHome homes environ (Path.ofText sourceOptions.source) = .ok source)
    (hroot : RunContext.rootOf w.files.cwd source = .ok root) {config : Config}
    (hsettings : ((sourceOptions.settings root).runOn w.files).1 = .ok (.ok config))
    {event : ReleaseEvent} (hevent : (eventOptions.load.runOn w.files).1 = .ok (.ok event))
    {c : RunContext} (hcreate : RunContext.create w.files.cwd event
      (config.withForce sourceOptions.force) root environ = .ok c)
    (htoken : c.formulaToken? = none) :
    ∃ ending, (Action.runOn (execute host homes environ words) w).1 = .ok ending := by
  rw [runOn_execute hwords]
  show ∃ ending, (CommandAction.runOn (runAll host homes environ eventOptions sourceOptions)
    w).1.map endingOf = .ok ending
  rw [runAll_eq, runOn_inContext hsource hroot, hsettings]
  dsimp only
  rw [hevent]
  dsimp only
  rw [hcreate]
  dsimp only
  rw [runOn_reportOn]
  generalize w.told _ = w₁
  have htranscript := Release.transcript_exchanges host c BuildTarget.all Console.plain w₁
  obtain ⟨report, hreport⟩ := htranscript.exists_eq_ok_of_no_token (by decide) htoken
  obtain ⟨w₂, hrun⟩ : ∃ w₂, Action.runOn (Release.run host c BuildTarget.all Console.plain) w₁ =
      (.ok report, w₂) := ⟨_, Prod.ext hreport rfl⟩
  rw [hrun]
  exact ⟨_, rfl⟩

theorem Takes.map_target {report : RunReport}
    (h : Takes host environ eventOptions sourceOptions root w (.reported report) w') :
    report.outcomes.map (·.target) = BuildTarget.all := by
  cases h with
  | @reported _ _ c _ w₁ w₂ _ _ _ _ _ hreport _ =>
    have htranscript := Release.transcript_exchanges host c BuildTarget.all Console.plain w₁
    rw [hreport] at htranscript
    exact htranscript.code_exitCode.1

/-- **The code of the command for all targets.** Whenever the program ends, it has taken a course,
its code is the one that the table has for the course, and it is zero if all branches are done and
the bump was requested or not needed, and in no other case. -/
theorem run_decides
    (hwords : Invocation.ofWords environ words = .ok (.run eventOptions sourceOptions))
    (hsource : expandHome homes environ (Path.ofText sourceOptions.source) = .ok source)
    (hroot : RunContext.rootOf w.files.cwd source = .ok root) {ending : Ending}
    (hrun : Action.runOn (execute host homes environ words) w = (.ok ending, w')) :
    ∃ course, Takes host environ eventOptions sourceOptions root w course w' ∧
      course.Code ending.code ∧ (ending.code = 0 ↔ course.Succeeds) ∧
      ∀ report, course = .reported report →
        report.outcomes.map (·.target) =
          [BuildTarget.linux, BuildTarget.windows, BuildTarget.macos] := by
  obtain ⟨course, htakes, hcode⟩ := exists_takes hwords hsource hroot hrun
  refine ⟨course, htakes, hcode, hcode.eq_zero_iff, ?_⟩
  rintro report rfl
  exact htakes.map_target

/-- A command line for all targets. -/
def rehearsedWords : List String := ["run", "--event", "/event.json"]

/-- A world that holds an event and nothing else, and in which the first checkout fails. -/
def rehearsedWorld : World Stage :=
  { Rehearsal.world [⟨["git", "clone"], none, 1, 0, .exit 1 "" "no network"⟩] with
    files := (FileSystem.empty ["r"]).put ["event.json"] (.file ⟨Utf8.encode
      (Json.write (.table [("action", .text "published"), ("release", .table
        [("tag_name", .text "v1"), ("target_commitish", .text "abc")])])), 0o644, 0⟩) }

/-- A run in which every branch and the formula go another way: the checkout for Linux fails, the
linker for Windows is missing, macOS is done, and there is no token for the bump. -/
def rehearsedRun : Except Fault Ending × World Stage :=
  Action.runOn (execute (Rehearsal.host { Rehearsal.script with installed := false }) []
    [("GITHUB_TOKEN", "t")] rehearsedWords) rehearsedWorld

set_option maxRecDepth 100000 in
theorem rehearsedRun_code : rehearsedRun.1.toOption.map Ending.code = some 3 := by
  decide +kernel

/-- The failed checkout decides: it comes before the missing linker and hides the missing token. -/
theorem run_decides_rehearsedRun :
    ∃ course, Takes (Rehearsal.host { Rehearsal.script with installed := false })
        [("GITHUB_TOKEN", "t")] ⟨"/event.json", none, none⟩ ⟨".", none, none⟩ ⟨.root, ["r"]⟩
        rehearsedWorld course rehearsedRun.2 ∧
      course.Code 3 ∧ (3 = 0 ↔ course.Succeeds) ∧
      ∀ report, course = .reported report →
        report.outcomes.map (·.target) =
          [BuildTarget.linux, BuildTarget.windows, BuildTarget.macos] := by
  have hcode := rehearsedRun_code
  rcases hrun : rehearsedRun with ⟨fault | ending, w'⟩
  · rw [hrun] at hcode
    cases hcode
  rw [hrun] at hcode
  obtain hcode : ending.code = 3 := Option.some.inj hcode
  have hwords : Invocation.ofWords [("GITHUB_TOKEN", "t")] rehearsedWords =
      .ok (.run ⟨"/event.json", none, none⟩ ⟨".", none, none⟩) := rfl
  have hsource : expandHome [] [("GITHUB_TOKEN", "t")] (Path.ofText ".") =
      .ok ⟨.relative, []⟩ := rfl
  have hroot : RunContext.rootOf rehearsedWorld.files.cwd ⟨.relative, []⟩ =
      .ok ⟨.root, ["r"]⟩ := rfl
  have hdecides := run_decides hwords hsource hroot hrun
  rw [hcode] at hdecides
  exact hdecides

end CommandLine

end Shipyard
