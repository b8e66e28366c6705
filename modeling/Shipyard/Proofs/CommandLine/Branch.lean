import Shipyard.Proofs.CommandLine.Decision
import Shipyard.Proofs.Run.Independence

/-!
# How the command for one target ends

The command for one target goes the way of the command for all targets up to its branch, and then
ends with the code of its outcome. So it ends as the other one reports of that branch, if the branch
finds there what it finds alone: because none comes before it, or because branches do not see each
other. The exception is a branch that meets a fault. The command for all targets makes an outcome of
it, and the command for one target ends without any code.
-/

namespace Shipyard

open Shipyard.Action FileSystem

variable {σ : Type} {host : Host σ} {c : RunContext} {assets : σ → Set String} {w v : World σ}
  {target : BuildTarget}

/-! ## Outcomes -/

/-- Whether an outcome is that of a branch that met a fault. -/
def BranchOutcome.Crashed (o : BranchOutcome) : Prop := ∃ crash, o.error = some (.crashed crash)

/-- Whether an outcome has a code. -/
inductive BranchOutcome.Code (o : BranchOutcome) : Nat → Prop
  /-- none if the branch is done -/
  | done : o.state = .done → Code o 0
  /-- else that of its error -/
  | failed {error : BranchError} {code : Nat} : o.state ≠ .done → o.error = some error →
      error.Code code → Code o code

theorem BranchOutcome.WellFormed.code_exitCode {o : BranchOutcome} (h : o.WellFormed) :
    o.Code o.exitCode.number := by
  by_cases hstate : o.state = .done
  · simp only [exitCode, ok, hstate, decide_true, if_true]
    exact .done hstate
  · obtain ⟨error, herror⟩ := h.exists_error hstate
    have hcode : o.exitCode = error.exitCode := by
      simp [exitCode, ok, hstate, herror]
    rw [hcode]
    exact .failed hstate herror error.code_exitCode

/-- A branch that ends with an outcome has not crashed. -/
theorem Branch.Transcript.not_crashed {es : List (Exchange σ)} {outcome : BranchOutcome}
    (h : Transcript c target es (.ok outcome)) : ¬ outcome.Crashed := by
  generalize hr : (.ok outcome : Except Fault BranchOutcome) = r at h
  rintro ⟨crash, hcrash⟩
  cases h with
  | buildFaulted | packagingFaulted => cases hr
  | buildFailed | packagingFailed =>
    cases hr
    cases hcrash
  | @published _ _ _ _ ended =>
    rcases ended with fault | failure | release
    · cases hr
    all_goals
      cases hr
      cases hcrash

/-- The outcome of a platform is the one of its target, if there is one for each built-in target. -/
theorem RunReport.outcomeFor_platform {report : RunReport} {outcome : BranchOutcome}
    (htargets : report.outcomes.map (·.target) = BuildTarget.all)
    (hmem : outcome ∈ report.outcomes) :
    report.outcomeFor outcome.target.platform = some outcome := by
  have hplatforms : (report.outcomes.map (·.target.platform)).Nodup := by
    have hmap : report.outcomes.map (·.target.platform) = BuildTarget.platformNames := by
      rw [BuildTarget.platformNames, ← htargets, List.map_map]
      rfl
    rw [hmap]
    decide
  have hsome : (report.outcomeFor outcome.target.platform).isSome = true :=
    List.find?_isSome.mpr ⟨outcome, hmem, by simp⟩
  obtain ⟨found, hfound⟩ := Option.isSome_iff_exists.mp hsome
  have hplatform : found.target.platform = outcome.target.platform := by
    simpa using List.find?_some hfound
  rw [hfound, List.inj_on_of_nodup_map hplatforms (List.mem_of_find?_eq_some hfound) hmem hplatform]

/-! ## Branches -/

/-- What the user was told and which commands were issued has no influence on a step. -/
theorem coupled_scene (host : Host σ) : Coupled Eq host host fun w v => w.scene = v.scene where
  installed := rfl
  archiver := rfl
  files h := congrArg Prod.fst h
  tells h _ := h
  works h _ := congrArg (Prod.mk _) (congrArg Prod.snd h)
  issues := by
    intro w v h c c' hlike
    obtain rfl := hlike.eq
    have hfiles : w.files = v.files := congrArg Prod.fst h
    have houtside : w.outside = v.outside := congrArg Prod.snd h
    rw [runOn_issue, runOn_issue, hfiles, houtside]
    exact ⟨rfl, rfl⟩

theorem Branch.runOn_run_congr {console : Console} (h : w.scene = v.scene) :
    (runOn (run host c target console) w).1 = (runOn (run host c target console) v).1 :=
  (alike_run (coupled_scene host) c.interchangeable_self target console w v h).1

/-! ### Whether a bump is forced -/

/-- The same inputs with another answer to whether a bump is forced, if there is one. -/
def RunContext.withForce (c : RunContext) (force : Option Bool) : RunContext :=
  { c with config := c.config.withForce force }

section

variable (force : Option Bool)

theorem Build.run_withForce (out : Console) :
    run host (c.withForce force) target out = run host c target out := by
  cases force with
  | none => rfl
  | some answer => rfl

theorem Publication.deleteAttached_withForce (token : String) (attached names : List String)
    (out : Console) :
    deleteAttached host (c.withForce force) token attached out names =
      deleteAttached host c token attached out names := by
  have hcommand (name : String) :
      deleteCommand (c.withForce force) token name = deleteCommand c token name := by
    cases force with
    | none => rfl
    | some answer => rfl
  induction names with
  | nil => rfl
  | cons name rest ih =>
    unfold deleteAttached
    rw [ih, hcommand]

theorem Publication.run_withForce (artifact : Artifact) (out : Console) :
    run host (c.withForce force) artifact out = run host c artifact out := by
  unfold run detach
  simp only [deleteAttached_withForce]
  cases force with
  | none => rfl
  | some answer => rfl

/-- A branch does not ask whether a bump is forced. -/
theorem Branch.run_withForce (console : Console) :
    run host (c.withForce force) target console = run host c target console := by
  unfold run package publish
  simp only [Build.run_withForce, Publication.run_withForce]
  cases force with
  | none => rfl
  | some answer => rfl

theorem RunContext.create_withForce (cwd : Location) (event : ReleaseEvent) (config : Config)
    (source : Path) (environ : Environment) :
    create cwd event (config.withForce force) source environ =
      (create cwd event config source environ).map (·.withForce force) := by
  unfold create
  cases rootOf cwd source with
  | error refusal => rfl
  | ok root =>
    cases force with
    | none => rfl
    | some answer => rfl

end

/-! ## Branches of a run -/

namespace Release

/-- **Whether a branch finds in a run of all targets what it finds alone.** -/
inductive Undisturbed (host : Host σ) (c : RunContext) (assets : σ → Set String) (w : World σ)
    (target : BuildTarget) : Prop
  /-- no branch comes before it -/
  | first : BuildTarget.all.head? = some target → Undisturbed host c assets w target
  /-- branches do not see each other: the host is steady, the files are a tree, and names and
  directories lead nowhere else -/
  | apart : Steady host c assets → w.files.IsTree → w.files.Extendable c.workDir →
      (∀ other ∈ BuildTarget.all, ∀ l, Above w.files.cwd c.workDir l →
        ¬ Below w.files.cwd (c.checkoutDir other) l) →
      '/' ∉ c.config.project.binaryName.toList → Undisturbed host c assets w target

/-- Only the files of the world matter. -/
theorem Undisturbed.congr (h : Undisturbed host c assets w target) (hfiles : v.files = w.files) :
    Undisturbed host c assets v target := by
  cases h with
  | first hfirst => exact .first hfirst
  | apart hsteady htree hleads hapart hprogram =>
    rw [← hfiles] at htree hleads hapart
    exact .apart hsteady htree hleads hapart hprogram

/-- The first branch is the only one so far. -/
theorem head?_runBranches {console : Console} {rest : List BuildTarget}
    {outcomes : List BranchOutcome}
    (h : runOn (runBranches host c console (target :: rest)) w = (.ok outcomes, v)) :
    outcomes.head? = some (outcomeAlone host c console w target) := by
  have hfirst := runOn_runBranch host c console target w
  have hboth := (runOn_bind_ok hfirst).symm.trans h
  rw [runOn_bind] at hboth
  split at hboth
  · next others _ _ =>
    cases hboth
    rfl
  · cases hboth

/-- **The report of a run of all targets** has for an undisturbed branch the outcome that it has
alone. -/
theorem Undisturbed.outcomeFor (h : Undisturbed host c assets w target)
    (htarget : target ∈ BuildTarget.all) (htag : ReleaseEvent.isTag c.event.tag = true)
    {console : Console} {report : RunReport}
    (hrun : runOn (run host c BuildTarget.all console) w = (.ok report, v)) :
    report.outcomeFor target.platform = some (outcomeAlone host c console w target) := by
  have htranscript := transcript_exchanges host c BuildTarget.all console w
  rw [hrun] at htranscript
  have htargets := htranscript.code_exitCode.1
  have hmem : outcomeAlone host c console w target ∈ report.outcomes := by
    cases h with
    | first hfirst =>
      -- the branches give their outcomes in order, and the first one starts from the same world
      obtain rfl : BuildTarget.linux = target := Option.some.inj hfirst
      obtain ⟨outcomes, hresult, hbranches⟩ :=
        (mirrors_runBranches host c console BuildTarget.all).holds
          (follows_runBranches host c console BuildTarget.all) w
      rcases hruns : runOn (runBranches host c console BuildTarget.all) w with ⟨r, u⟩
      rw [hruns] at hresult
      obtain rfl : r = .ok outcomes := hresult
      rw [runOn_run (by decide) hruns, hbranches.filterMap_outcomeOf? (by decide)] at hrun
      split at hrun
      · cases hrun
        exact List.mem_of_head? (head?_runBranches hruns)
      · cases hrun
    | apart hsteady htree hleads hapart hprogram =>
      -- the outcomes are those of the branches alone, whatever the last step does
      have hsetting := setting_of_apart hsteady htree hleads hapart hprogram htag
      obtain ⟨u, -, hsplit⟩ := hsetting.runOn_run console (fun _ h => h) (by decide) (by decide)
      rw [hrun] at hsplit
      split at hsplit
      · cases hsplit
        exact List.mem_map_of_mem htarget
      · cases hsplit
  have houtcome := RunReport.outcomeFor_platform htargets hmem
  rwa [outcomeAlone_target] at houtcome

end Release

/-! ## The command -/

namespace CommandLine

variable {homes : Homes} {environ : Environment} {eventOptions : EventOptions}
  {sourceOptions : SourceOptions} {source root : Path} {words words' : List String}
  {force : Option Bool} {course : Course} {w' : World σ}

/-- Whether a command works in a context: it is that of the settings and the event that the files
hold. -/
def WorksIn (environ : Environment) (eventOptions : EventOptions) (sourceOptions : SourceOptions)
    (root : Path) (w : World σ) (c : RunContext) : Prop :=
  ∃ config event, ((sourceOptions.settings root).runOn w.files).1 = .ok (.ok config) ∧
    (eventOptions.load.runOn w.files).1 = .ok (.ok event) ∧
      RunContext.create w.files.cwd event (config.withForce sourceOptions.force) root environ =
        .ok c

theorem WorksIn.isTag (h : WorksIn environ eventOptions sourceOptions root w c) :
    ReleaseEvent.isTag c.event.tag = true := by
  obtain ⟨config, event, -, hevent, hcreate⟩ := h
  have htag := ReleaseEvent.isTag_of_load hevent
  unfold RunContext.create at hcreate
  rcases hroot : RunContext.rootOf w.files.cwd root with refusal | sourceRoot
  all_goals
    rw [hroot] at hcreate
    cases hcreate
  exact htag

theorem targetOf_platform (htarget : target ∈ BuildTarget.all) :
    (targetOf target.platform : CommandAction σ BuildTarget) = pure target := by
  have hfound : ∀ target ∈ BuildTarget.all,
      BuildTarget.ofPlatform? target.platform = some target := by
    decide
  unfold targetOf
  rw [hfound target htarget]

theorem runBranch_eq (host : Host σ) (homes : Homes) (environ : Environment)
    (eventOptions : EventOptions) (sourceOptions : SourceOptions)
    (htarget : target ∈ BuildTarget.all) :
    runBranch host homes environ target.platform eventOptions sourceOptions =
      inContext homes environ eventOptions sourceOptions fun c =>
        reportOn (Branch.run host c target Console.plain) (·.notices) (·.exitCode) := by
  unfold runBranch inContext reportOn
  simp only [targetOf_platform htarget, pure_bind]

/-- With a source that is found, the command for one target is its branch in the context of the
settings and the event. -/
theorem runOn_runBranch
    (hsource : expandHome homes environ (Path.ofText sourceOptions.source) = .ok source)
    (hroot : RunContext.rootOf w.files.cwd source = .ok root)
    (htarget : target ∈ BuildTarget.all) :
    (CommandAction.runOn
        (runBranch host homes environ target.platform eventOptions sourceOptions) w).1 =
      match ((sourceOptions.settings root).runOn w.files).1 with
      | .error fault => .error fault
      | .ok (.error e) => .ok (.error ⟨2, some ⟨true, "error: " ++ e.message⟩⟩)
      | .ok (.ok config) =>
        match (eventOptions.load.runOn w.files).1 with
        | .error fault => .error fault
        | .ok (.error _) => .ok (.error ⟨1, none⟩)
        | .ok (.ok event) =>
          match RunContext.create w.files.cwd event (config.withForce sourceOptions.force) root
            environ with
          | .error refusal => .error (.refused refusal)
          | .ok c =>
            (Action.runOn (Branch.run host c target Console.plain) w).1.map
              fun outcome => .ok outcome.exitCode := by
  rw [runBranch_eq host homes environ eventOptions sourceOptions htarget,
    runOn_inContext hsource hroot]
  rcases ((sourceOptions.settings root).runOn w.files).1 with fault | e | config
  · rfl
  · rfl
  dsimp only
  rcases (eventOptions.load.runOn w.files).1 with fault | e | event
  · rfl
  · rfl
  dsimp only
  rcases RunContext.create w.files.cwd event (config.withForce sourceOptions.force) root
    environ with refusal | c
  · rfl
  dsimp only
  generalize hw₁ : w.told _ = w₁
  have hsame : w.scene = w₁.scene := hw₁ ▸ rfl
  rw [runOn_reportOn, Branch.runOn_run_congr hsame]
  rcases Action.runOn (Branch.run host c target Console.plain) w₁ with ⟨fault | outcome, w₂⟩
  · rfl
  · rfl

/-- **How the command for one target ends** where the command for all targets takes a course. -/
inductive Course.Agrees (target : BuildTarget) : Course → Except Fault Ending → Prop
  /-- there are no settings for it either -/
  | unset {e : ConfigError} {ending : Ending} : ending.code = 2 →
      Agrees target (.unset e) (.ok ending)
  /-- nor is there an event -/
  | rejected {e : UnrecognizedEvent} {ending : Ending} : ending.code = 1 →
      Agrees target (.rejected e) (.ok ending)
  /-- it ends with the code of the outcome that is reported -/
  | reported {report : RunReport} {outcome : BranchOutcome} {ending : Ending} :
      report.outcomeFor target.platform = some outcome → ¬ outcome.Crashed →
      outcome.Code ending.code → Agrees target (.reported report) (.ok ending)
  /-- it ends without a code where the outcome is that of a fault -/
  | crashed {report : RunReport} {fault : Fault} :
      report.outcomeFor target.platform = some (Release.crashedOutcome target fault) →
      Agrees target (.reported report) (.error fault)

/-- The command for one target ends in accordance with the course of the command for all. -/
theorem Takes.agrees (h : Takes host environ eventOptions sourceOptions root w course w')
    (hwords : Invocation.ofWords environ words =
      .ok (.branch target.platform eventOptions { sourceOptions with force := force }))
    (hsource : expandHome homes environ (Path.ofText sourceOptions.source) = .ok source)
    (hroot : RunContext.rootOf w.files.cwd source = .ok root)
    (htarget : target ∈ BuildTarget.all)
    (hundisturbed : ∀ c, WorksIn environ eventOptions sourceOptions root w c →
      Release.Undisturbed host c assets w target) :
    course.Agrees target (Action.runOn (execute host homes environ words) w).1 := by
  have hbranch : (Action.runOn (execute host homes environ words) w).1 =
      (CommandAction.runOn (runBranch host homes environ target.platform eventOptions
        { sourceOptions with force := force }) w).1.map endingOf := by
    rw [runOn_execute hwords]
    rfl
  have hsource' : expandHome homes environ
      (Path.ofText (SourceOptions.source { sourceOptions with force := force })) = .ok source :=
    hsource
  have hsame : (SourceOptions.settings { sourceOptions with force := force } root).runOn w.files =
    (sourceOptions.settings root).runOn w.files := rfl
  rw [hbranch, runOn_runBranch hsource' hroot htarget, hsame]
  cases h with
  | unset hsettings _ =>
    rw [hsettings]
    exact .unset rfl
  | rejected hsettings hevent _ =>
    rw [hsettings]
    dsimp only
    rw [hevent]
    exact .rejected rfl
  | @reported config event c report w₁ w₂ _ hsettings hevent hcreate hbefore hreport _ =>
    rw [hsettings]
    dsimp only
    rw [hevent]
    dsimp only
    have hworks : WorksIn environ eventOptions sourceOptions root w c :=
      ⟨config, event, hsettings, hevent, hcreate⟩
    have houtcome := ((hundisturbed c hworks).congr hbefore.files).outcomeFor htarget
      hworks.isTag hreport
    -- both commands have the same context, whether a bump is forced aside
    rw [RunContext.create_withForce] at hcreate ⊢
    rcases hlone : RunContext.create w.files.cwd event config root environ with refusal | lone
    all_goals
      rw [hlone] at hcreate
      cases hcreate
    have hscene : w₁.scene = w.scene := by
      rw [World.scene, World.scene, hbefore.files, hbefore.outside]
    rw [Release.outcomeAlone, Release.alone, Branch.runOn_run_congr hscene,
      Branch.run_withForce] at houtcome
    show (Course.reported report).Agrees target (((Action.runOn
      (Branch.run host (lone.withForce force) target Console.plain) w).1.map _).map endingOf)
    rw [Branch.run_withForce]
    have htranscript := (Branch.mirrors_run host lone target Console.plain).holds
      (Branch.follows_run host lone target Console.plain) w
    rcases hended : (Action.runOn (Branch.run host lone target Console.plain) w).1 with
      fault | outcome
    all_goals rw [hended] at houtcome htranscript
    · exact .crashed houtcome
    · exact .reported houtcome htranscript.not_crashed
        (Release.settled_wellFormed htarget htranscript).code_exitCode

/-- **The command for one target agrees with the command for all targets.** Whenever the latter
ends, it has taken a course, and the former ends in accordance with it if its branch finds in the
run what it finds alone: with the code of its outcome, unless the outcome is that of a fault. -/
theorem branch_agrees
    (hwords : Invocation.ofWords environ words = .ok (.run eventOptions sourceOptions))
    (hwords' : Invocation.ofWords environ words' =
      .ok (.branch target.platform eventOptions { sourceOptions with force := force }))
    (hsource : expandHome homes environ (Path.ofText sourceOptions.source) = .ok source)
    (hroot : RunContext.rootOf w.files.cwd source = .ok root)
    (htarget : target ∈ BuildTarget.all)
    (hundisturbed : ∀ c, WorksIn environ eventOptions sourceOptions root w c →
      Release.Undisturbed host c assets w target) {ending : Ending}
    (hrun : Action.runOn (execute host homes environ words) w = (.ok ending, w')) :
    ∃ course, Takes host environ eventOptions sourceOptions root w course w' ∧
      course.Agrees target (Action.runOn (execute host homes environ words') w).1 := by
  obtain ⟨course, htakes, -⟩ := exists_takes hwords hsource hroot hrun
  exact ⟨course, htakes, htakes.agrees hwords' hsource hroot htarget hundisturbed⟩

/-! ## Trials -/

/-- A command line for one platform alone. -/
def loneWords (platform : String) : List String := ["branch", platform, "--event", "/event.json"]

/-- The world of the host with the selective release that holds an event and nothing else. -/
def selectiveWorld : World Bool := ⟨rehearsedWorld.files, [], [], false⟩

/-- How a command ends on that host. -/
def selectiveRun (words : List String) : Except Fault Ending × World Bool :=
  Action.runOn (execute (Selective.host (Rehearsal.perform Rehearsal.script)) []
    [("GITHUB_TOKEN", "t")] words) selectiveWorld

set_option maxRecDepth 100000 in
theorem settings_selective : ((SourceOptions.settings ⟨".", none, none⟩ ⟨.root, ["r"]⟩).runOn
    selectiveWorld.files).1 = .ok (.ok Config.default) := by
  rfl

set_option maxRecDepth 100000 in
theorem event_selective : ((EventOptions.load ⟨"/event.json", none, none⟩).runOn
    selectiveWorld.files).1 = .ok (.ok ⟨"v1", "abc"⟩) := by
  decide +kernel

set_option maxRecDepth 100000 in
theorem loneRun_code : (selectiveRun (loneWords "macos")).1.toOption.map Ending.code = some 0 := by
  decide +kernel

theorem isTree_selectiveWorld : selectiveWorld.files.IsTree := by
  have hput (node : Node) : ((FileSystem.empty ["r"]).put ([] ++ ["event.json"]) node).IsTree :=
    (isTree_empty ["r"]).put rfl (by decide) node
  exact hput _

/-- Its branches do not see each other. -/
theorem undisturbed_selective
    (h : WorksIn [("GITHUB_TOKEN", "t")] ⟨"/event.json", none, none⟩ ⟨".", none, none⟩
      ⟨.root, ["r"]⟩ selectiveWorld c) :
    Release.Undisturbed (Selective.host (Rehearsal.perform Rehearsal.script)) c Selective.assets
      selectiveWorld BuildTarget.macos := by
  obtain ⟨config, event, hsettings, -, hcreate⟩ := h
  rw [settings_selective] at hsettings
  obtain rfl : Config.default = config := Except.ok.inj (Except.ok.inj hsettings)
  have hwork : c.workDir = Rehearsal.context.workDir := by
    cases hcreate
    rfl
  have hprogram : c.config.project.binaryName = "replibyte" := by
    cases hcreate
    rfl
  have hcheckout (target : BuildTarget) :
      c.checkoutDir target = Rehearsal.context.checkoutDir target := by
    rw [RunContext.checkoutDir, RunContext.branchDir, hwork]
    rfl
  have hread : ∀ target ∈ BuildTarget.all,
      Path.ofText (Rehearsal.context.checkoutDir target).text =
        Rehearsal.context.checkoutDir target := by
    decide
  refine .apart (Selective.steady_host (Selective.contained_perform ?_)) isTree_selectiveWorld
    ?_ ?_ ?_
  · simpa only [hcheckout] using hread
  · rw [hwork]
    exact ⟨⟨.root, []⟩, [], _, rfl, ⟨rfl, rfl⟩, .inl Release.plain_workDir⟩
  · simp only [hcheckout, hwork]
    exact (Release.rehearsed_leads _).2
  · rw [hprogram]
    decide

/-- The branch of Linux fails and decides how the run ends, but not how macOS ends alone. -/
theorem branch_agrees_selectiveRun :
    ∃ course, Takes (Selective.host (Rehearsal.perform Rehearsal.script)) [("GITHUB_TOKEN", "t")]
        ⟨"/event.json", none, none⟩ ⟨".", none, none⟩ ⟨.root, ["r"]⟩ selectiveWorld course
        (selectiveRun rehearsedWords).2 ∧
      course.Agrees BuildTarget.macos (selectiveRun (loneWords "macos")).1 ∧
      (selectiveRun (loneWords "macos")).1.toOption.map Ending.code = some 0 := by
  have hwords : Invocation.ofWords [("GITHUB_TOKEN", "t")] rehearsedWords =
      .ok (.run ⟨"/event.json", none, none⟩ ⟨".", none, none⟩) := rfl
  have hwords' : Invocation.ofWords [("GITHUB_TOKEN", "t")] (loneWords "macos") =
      .ok (.branch "macos" ⟨"/event.json", none, none⟩ ⟨".", none, none⟩) := rfl
  have hsource : expandHome [] [("GITHUB_TOKEN", "t")] (Path.ofText ".") =
      .ok ⟨.relative, []⟩ := rfl
  have hroot : RunContext.rootOf selectiveWorld.files.cwd ⟨.relative, []⟩ =
      .ok ⟨.root, ["r"]⟩ := rfl
  obtain ⟨c, hcreate, htoken⟩ : ∃ c, RunContext.create selectiveWorld.files.cwd ⟨"v1", "abc"⟩
      (Config.default.withForce false) ⟨.root, ["r"]⟩ [("GITHUB_TOKEN", "t")] = .ok c ∧
        c.formulaToken? = none := ⟨_, rfl, by decide⟩
  have hends : ∃ ending, (selectiveRun rehearsedWords).1 = .ok ending :=
    exists_ending hwords hsource hroot settings_selective event_selective hcreate htoken
  rcases hrun : selectiveRun rehearsedWords with ⟨ended, w'⟩
  rw [hrun] at hends
  obtain ⟨ending, rfl⟩ := hends
  obtain ⟨course, htakes, hagrees⟩ := branch_agrees hwords hwords' hsource hroot (by decide)
    (fun _ => undisturbed_selective) hrun
  exact ⟨course, htakes, hagrees, loneRun_code⟩

/-! ## A branch that meets a fault -/

/-- A world in which every checkout meets a fault. -/
def faultyWorld : World Stage :=
  { Rehearsal.world [⟨["git", "clone"], none, 9, 0, .fault "boom"⟩] with
    files := rehearsedWorld.files }

/-- How a command ends in that world. -/
def faultyRun (words : List String) : Except Fault Ending × World Stage :=
  Action.runOn (execute (Rehearsal.host Rehearsal.script) [] [("GITHUB_TOKEN", "t")] words)
    faultyWorld

set_option maxRecDepth 100000 in
theorem faultyRun_ends : (faultyRun rehearsedWords).1.toOption.map Ending.code = some 3 ∧
    (faultyRun (loneWords "linux")).1.toOption.map Ending.code = none := by
  decide +kernel

/-- **A branch that meets a fault has no code of its own.** The command for all targets reports the
branch of Linux with code 3, and the command for Linux ends with the fault. -/
theorem fault_ends_branch : ∃ report outcome,
    Takes (Rehearsal.host Rehearsal.script) [("GITHUB_TOKEN", "t")] ⟨"/event.json", none, none⟩
      ⟨".", none, none⟩ ⟨.root, ["r"]⟩ faultyWorld (.reported report)
      (faultyRun rehearsedWords).2 ∧
    report.outcomeFor "linux" = some outcome ∧ outcome.Code 3 ∧
      ∀ ending, (faultyRun (loneWords "linux")).1 ≠ .ok ending := by
  obtain ⟨hcode, hbranch⟩ := faultyRun_ends
  rcases hrun : faultyRun rehearsedWords with ⟨fault | ending, w'⟩
  · rw [hrun] at hcode
    cases hcode
  rw [hrun] at hcode
  obtain hcode : ending.code = 3 := Option.some.inj hcode
  have hwords : Invocation.ofWords [("GITHUB_TOKEN", "t")] rehearsedWords =
      .ok (.run ⟨"/event.json", none, none⟩ ⟨".", none, none⟩) := rfl
  have hwords' : Invocation.ofWords [("GITHUB_TOKEN", "t")] (loneWords "linux") =
      .ok (.branch "linux" ⟨"/event.json", none, none⟩ ⟨".", none, none⟩) := rfl
  have hsource : expandHome [] [("GITHUB_TOKEN", "t")] (Path.ofText ".") =
      .ok ⟨.relative, []⟩ := rfl
  have hroot : RunContext.rootOf faultyWorld.files.cwd ⟨.relative, []⟩ = .ok ⟨.root, ["r"]⟩ := rfl
  obtain ⟨course, htakes, hends⟩ := exists_takes hwords hsource hroot hrun
  have hfirst (c : RunContext) : Release.Undisturbed (Rehearsal.host Rehearsal.script) c
      (fun _ => ∅) faultyWorld BuildTarget.linux := .first rfl
  have hagrees : course.Agrees BuildTarget.linux (faultyRun (loneWords "linux")).1 :=
    htakes.agrees hwords' hsource hroot (by decide) fun c _ => hfirst c
  rw [hcode] at hends
  generalize (faultyRun (loneWords "linux")).1 = ended at hbranch hagrees ⊢
  cases hends with
  | reported _ =>
    cases hagrees with
    | reported => cases hbranch
    | crashed houtcome => exact ⟨_, _, htakes, houtcome, .failed nofun rfl .crashed, nofun⟩

end CommandLine

end Shipyard
