import Shipyard.Proofs.Command.Work
import Shipyard.Proofs.Plan.Event
import Shipyard.Proofs.Run.Directories
import Shipyard.Proofs.Run.Discipline

/-!
# A branch stays in its own directory

Between its commands a branch clears its checkout, makes its directories and packages its program.
All of this happens below its own directory, whatever the commands do; above that it makes nothing
but the directories that are missing. Neither the directory of all branches nor the files have to be
of a special kind. The name of the program has: with a slash in it, it can lead anywhere.
-/

namespace Shipyard

open Shipyard.Action FileSystem Disk Packaging

variable {σ : Type} {host : Host σ} {c : RunContext} {target : BuildTarget} {fs gs : FileSystem}
  {cwd l : Location} {p : Path}

/-! ## The directory of a branch -/

namespace Branch

/-- Whether a location is above the directory of a branch and not in it. -/
def OnWay (c : RunContext) (target : BuildTarget) (cwd l : Location) : Prop :=
  Above cwd c.workDir l ∧ ¬ Below cwd (c.branchDir target) l

/-- **Whether work stays in the directory of a branch.** Nothing is changed but what is in the
directory, and above it only directories are made that were missing. -/
def Stays (c : RunContext) (target : BuildTarget) (fs gs : FileSystem) : Prop :=
  Local (OnWay c target fs.cwd) (Below fs.cwd (c.branchDir target)) fs gs

instance : IsPreorder FileSystem (Stays c target) where
  refl fs := Local.refl _ _ fs
  trans fs gs hs h h' := by
    have hcwd : gs.cwd = fs.cwd := h.cwd
    unfold Stays at h'
    rw [hcwd] at h'
    exact h.trans h'

/-- What is changed is in the directory, or it is a directory above that was missing. -/
theorem Stays.below_of_ne (h : Stays c target fs gs) (hne : gs.node? l ≠ fs.node? l) :
    Below fs.cwd (c.branchDir target) l ∨
      Above fs.cwd c.workDir l ∧ fs.node? l = none ∧ gs.node? l = some .directory := by
  rcases h.node l with hbelow | hsame | ⟨hway, hnone, hnew⟩
  · exact .inl hbelow
  · exact absurd hsame hne
  · exact .inr ⟨hway.1, hnone, hnew⟩

/-- No file outside of the directory of all branches is changed or removed. -/
theorem Stays.file_of_not_below (h : Stays c target fs gs) (htarget : target ∈ BuildTarget.all)
    (hl : ¬ Below fs.cwd c.workDir l) {f : File} (hf : fs.node? l = some (.file f)) :
    gs.node? l = some (.file f) := by
  by_contra hne
  rw [← hf] at hne
  rcases h.below_of_ne hne with hbelow | ⟨-, hnone, -⟩
  · rw [Below, RunContext.place_branchDir htarget] at hbelow
    exact hl ((List.prefix_append ..).trans hbelow)
  · rw [hf] at hnone
    cases hnone

/-- Confined work stays in the directory. -/
theorem stays_of_confined {α : Type} {d : Disk α}
    (hd : ∀ cwd, Confined cwd (OnWay c target cwd) (Below cwd (c.branchDir target)) d)
    (fs : FileSystem) : Stays c target fs (d.runOn fs).2 :=
  (hd fs.cwd).stays rfl

/-- What can be used from the directory of all branches on can be used on the way. -/
theorem usable_onWay
    (h : Usable cwd (Above cwd c.workDir) (Below cwd (c.branchDir target)) p) :
    Usable cwd (OnWay c target cwd) (Below cwd (c.branchDir target)) p := by
  refine ⟨fun l hl => ?_, h.place⟩
  by_cases hbelow : Below cwd (c.branchDir target) l
  · exact .inr hbelow
  · exact .inl ⟨(h.inReach l hl).resolve_right hbelow, hbelow⟩

end Branch

/-! ## Builds -/

namespace Build

open Branch

variable (htarget : target ∈ BuildTarget.all)

include htarget

/-- Clearing a checkout stays in the directory of its branch, also if the way there leads through
the checkout. -/
theorem stays_clearCheckout (fs : FileSystem) :
    Stays c target fs ((attempt (clearCheckout (c.checkoutDir target))).runOn fs).2 := by
  refine stays_of_confined (fun cwd => ?_) fs
  -- the checkout is an entry of the directory, so what is cleared is in it
  have hbelow (l : Location) (hl : Below cwd ((c.branchDir target).entry sourceName) l) :
      Below cwd (c.branchDir target) l := by
    rw [Below, Path.place_entry (by decide)] at hl
    exact (List.prefix_append ..).trans hl
  rw [RunContext.checkoutDir_eq]
  exact (confined_clearCheckout (usable_onWay (usable_branchDir htarget c cwd)).inReach hbelow
    fun l hl hsource => hl.2 (hbelow l hsource)).attempt

theorem works_prepareCheckout (out : Console) :
    Works (Stays c target) (prepareCheckout host.filmed.logged c target out)
      fun prepared => ∀ checkout, prepared = .ok checkout → checkout = c.checkoutDir target := by
  refine .onFiles_bind (stays_clearCheckout htarget) fun cleared => ?_
  cases cleared with
  | error e => exact works_pure nofun
  | ok u =>
    refine ((uncut_issueInOrder host out _).works fun _ => trivial).bind fun reply _ => ?_
    cases reply with
    | error failure => exact works_pure nofun
    | ok u =>
      refine works_pure ?_
      rintro _ ⟨⟩
      rfl

omit htarget in
theorem works_compile (out : Console) :
    Works (Stays c target) (compile host.filmed.logged c target (c.checkoutDir target) out)
      fun built => ∀ b, built = .ok b → b = ⟨target, output c target⟩ := by
  refine ((uncut_issueInOrder host out _).works fun _ => trivial).bind fun reply _ => ?_
  cases reply with
  | error failure => exact works_pure nofun
  | ok u =>
    refine .onFiles_bind (fun fs => ?_) fun found => ?_
    · rw [reads_isFile]
      exact refl_of (Stays c target) fs
    · cases found with
      | false => exact works_pure nofun
      | true =>
        refine works_pure ?_
        rintro _ ⟨⟩
        rfl

/-- **A build stays in the directory of its branch**, and gives the program of its checkout. -/
theorem works_run (out : Console) :
    Works (Stays c target) (run host.filmed.logged c target out)
      fun built => ∀ b, built = .ok b → b = ⟨target, output c target⟩ := by
  unfold run
  split
  · exact works_pure nofun
  · refine (works_prepareCheckout htarget out).bind fun prepared hprepared => ?_
    cases prepared with
    | error failure => exact works_pure nofun
    | ok checkout =>
      obtain rfl := hprepared checkout rfl
      exact works_compile out

/-- A program that a build gives is that of its checkout. -/
theorem eq_of_runOn_run {out : Console} {v : World σ} {built : BuiltBinary}
    (h : (runOn (run host c target out) v).1 = .ok (.ok built)) :
    built = ⟨target, output c target⟩ := by
  have halike := alike_run (coupled_filmed host v.issued) c.interchangeable_self target out
    v.filmed.logged v ⟨rfl, (List.append_nil _).symm⟩
  exact (works_run htarget out).gives _ _ (halike.1.trans h) built rfl

omit htarget in
/-- **The program lies in the checkout**, if its name has no slash. -/
theorem below_output (h : target.LeadsDown) (cwd : Location)
    (hprogram : '/' ∉ c.config.project.binaryName.toList) :
    Below cwd (c.checkoutDir target) ((output c target).place cwd) := by
  have hcheckout : Usable cwd (fun _ => True) (Below cwd (c.checkoutDir target))
      (c.checkoutDir target) := ⟨fun _ _ => .inl trivial, List.prefix_refl _⟩
  exact (hcheckout.expectedBinary h hprogram).place

end Build

/-! ## Branches -/

namespace Branch

section

variable (htarget : target ∈ BuildTarget.all)
  (hprogram : '/' ∉ c.config.project.binaryName.toList) (hversion : '/' ∉ c.event.version.toList)

include htarget hprogram hversion

/-- A packaging stays in the directory of its branch. -/
theorem stays_packaging (fs : FileSystem) :
    Stays c target fs ((packaging host c target).runOn fs).2 := by
  refine stays_of_confined (fun cwd => ?_) fs
  obtain ⟨o, houtputs, ho⟩ := exists_outputs_usable htarget c cwd hprogram hversion
  exact confined_run houtputs (usable_onWay (usable_expectedBinary htarget c cwd hprogram))
    (usable_onWay (usable_stagingDir htarget c cwd)).inReach
    ⟨usable_onWay ho.renamed, usable_onWay ho.archive, usable_onWay ho.sidecar⟩

/-- **Every run of a branch stays in its directory.** -/
theorem works_run (console : Console) :
    Works (Stays c target) (run host.filmed.logged c target console) fun _ => True := by
  refine .tell_bind ((Build.works_run htarget _).bind fun built hbuilt => ?_)
  cases built with
  | error failure => exact .tell_bind (works_pure trivial)
  | ok built =>
    obtain rfl := hbuilt built rfl
    have hpackaging : ∀ fs, Stays c target fs ((packaging host c target).runOn fs).2 :=
      stays_packaging htarget hprogram hversion
    refine .onFiles_bind hpackaging fun packaged => ?_
    cases packaged with
    | error failure => exact .tell_bind (works_pure trivial)
    | ok artifact => exact (uncut_publish host c target artifact _).works fun _ => trivial

end

/-- **Whether a run of a branch stays in the directory of the branch.** What it does itself is what
happens to the files before its first command, between two commands and behind the last one. -/
structure Secluded (host : Host σ) (c : RunContext) (target : BuildTarget) (console : Console)
    (w : World σ) : Prop where
  /-- its film shows the commands that it issues -/
  issued : (runOn (run host c target console) w).2.issued =
    w.issued ++ (film host c target console w).map (·.command)
  /-- it changes nothing but what is in the directory, and above it makes only directories that are
  missing -/
  inside : Exchange.Between
    (fun fs gs => ∀ l, gs.node? l ≠ fs.node? l → Below fs.cwd (c.branchDir target) l ∨
      Above fs.cwd c.workDir l ∧ fs.node? l = none ∧ gs.node? l = some .directory)
    w.files (film host c target console w) (runOn (run host c target console) w).2.files
  /-- it changes or removes no file outside of the directory of all branches -/
  outside : Exchange.Between
    (fun fs gs => ∀ l f, ¬ Below fs.cwd c.workDir l → fs.node? l = some (.file f) →
      gs.node? l = some (.file f))
    w.files (film host c target console w) (runOn (run host c target console) w).2.files
  /-- the program that it packages lies in its checkout -/
  program : ∀ (v : World σ) built,
    (runOn (Build.run host c target (console.within target.platform)) v).1 = .ok (.ok built) →
      Below v.files.cwd (c.checkoutDir target) (built.path.place v.files.cwd)

/-- **Every branch stays in its own directory**, whatever its host does, wherever the directory is
and whatever the files hold, if the name of the program has no slash. -/
theorem run_secluded {payload : Table} {name revision : Option String}
    (hevent : ReleaseEvent.ofPayload payload name revision = .ok c.event)
    (htarget : target ∈ BuildTarget.all)
    (hprogram : '/' ∉ c.config.project.binaryName.toList) (host : Host σ) (console : Console)
    (w : World σ) : Secluded host c target console w := by
  have hversion : '/' ∉ c.event.version.toList :=
    ReleaseEvent.slash_notMem_of_isTag (ReleaseEvent.isTag_of_ofPayload hevent)
  have halike := alike_run (coupled_filmed host w.issued) c.interchangeable_self target console
  -- the work of the run is that of the filmed run, whose pictures are the film
  have hstays : Exchange.Between (Stays c target) w.files (film host c target console w)
      (runOn (run host c target console) w).2.files :=
    halike.films (works_run htarget hprogram hversion console).films
  refine ⟨halike.issued_eq, hstays.mono fun fs gs h l => h.below_of_ne,
    hstays.mono fun fs gs h l f hl hf => h.file_of_not_below htarget hl hf, ?_⟩
  intro v built hbuilt
  rw [Build.eq_of_runOn_run htarget hbuilt]
  exact Build.below_output (BuildTarget.leadsDown target htarget) _ hprogram

/-- The branch for Linux of a rehearsal in which the upload fails stays in its directory. -/
theorem run_secluded_torn : Secluded (Rehearsal.host Rehearsal.script) Rehearsal.context
    BuildTarget.linux Console.plain torn := by
  have hevent : ReleaseEvent.ofPayload [("action", .text "published"), ("release", .table
      [("tag_name", .text "v1"), ("target_commitish", .text "abc")])] none none =
        .ok Rehearsal.context.event := by
    decide
  exact run_secluded hevent (by decide) (by decide) _ _ _

/-! ## A name that leads out -/

/-- The rehearsed release of a program whose name leads three directories up. -/
def straying : RunContext :=
  { Rehearsal.context with
    config := { Config.default with
      project := { Config.default.project with binaryName := "../../../x" } } }

/-- A file of the source that has the name of the program of a version. -/
def precious : Location := ["r", "x_v1_x86_64-unknown-linux-musl"]

/-- The root of the source with that file in it. -/
def strayingWorld : World Stage :=
  { Rehearsal.world [] with
    files := ((FileSystem.empty []).put ["r"] .directory).put precious
      (.file ⟨Utf8.encode "precious", 0o644, 0⟩) }

/-- The branch for Linux of that release, on a host that makes the program. -/
def strayingHost : Host Stage :=
  Rehearsal.host { Rehearsal.script with produces := some "../../../x" }

set_option maxRecDepth 100000 in
/-- **The name of a program can lead out of the directory.** A configuration with such a name is
accepted. A file of the source outside of the directory of all branches is removed, and no command
has touched it. -/
theorem name_leads_out :
    Config.ofTable [("project", .table [("binary_name", .text "../../../x")])] =
        .ok straying.config ∧
      Below [] straying.sourceRoot precious ∧ ¬ Below [] straying.workDir precious ∧
      strayingWorld.files.node? precious = some (.file ⟨Utf8.encode "precious", 0o644, 0⟩) ∧
      (∀ e ∈ film strayingHost straying BuildTarget.linux Console.plain strayingWorld,
        e.kept.node? precious = e.found.node? precious) ∧
      (runOn (run strayingHost straying BuildTarget.linux Console.plain)
        strayingWorld).2.files.node? precious = none := by
  refine ⟨?_, ?_, ?_, ?_, ?_, ?_⟩
  · decide
  · show straying.sourceRoot.place [] <+: precious
    decide
  · show ¬ straying.workDir.place [] <+: precious
    decide
  all_goals decide +kernel

end Branch

end Shipyard
