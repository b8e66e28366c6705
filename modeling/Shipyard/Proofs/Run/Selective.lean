import Shipyard.Proofs.Rehearsal
import Shipyard.Proofs.Run.Directories
import Shipyard.Proofs.Run.Steady

/-!
# A steady host

The release of this host takes the assets of macOS and no others; what it has taken stays. Nothing
is installed that would link a program for Windows. What builds do to the files is left open: the
host is steady if they keep to their checkouts (`Selective.Contained`), whatever they do there.
-/

namespace Shipyard.Selective

open FileSystem Disk

/-! ## The release -/

/-- The names that the release takes. -/
def pair : List String := Rehearsal.context.assetNames BuildTarget.macos

/-- The names that are attached, if they are. -/
def names (attached : Bool) : List String := if attached then pair else []

/-- The assets of the release. -/
def assets (attached : Bool) : Set String := {name | name ∈ names attached}

/-- What a request is answered with, and whether the names are attached then. -/
def ask (attached : Bool) : ReleaseRequest → Answer × Bool
  | .view => (.ok (.ok (Rehearsal.describe (.int 1) (names attached))), attached)
  | .upload first second =>
    (.ok (.ok ""), attached || (ReleaseRequest.upload first second).touched = pair)
  | .delete _ => (.ok (.error ⟨["gh"], 1, "", ""⟩), attached)

/-- The host with that release and certain builds. -/
def host (effect : Command → Disk Unit) : Host Bool where
  answer command files attached :=
    match ReleaseRequest.ofArgv? command.argv with
    | some request => ((ask attached request).1, files, (ask attached request).2)
    | none => (.ok (.ok ""), ((effect command).runOn files).2, attached)
  installed _ := false
  archiver := Archive.storing

variable {effect : Command → Disk Unit} {command : Command} {request : ReleaseRequest}
  {fs : FileSystem} {s t : Bool} {name : String} {c : RunContext} {target : BuildTarget}

theorem answer_of_request (h : ReleaseRequest.ofArgv? command.argv = some request) :
    (host effect).answer command fs s = ((ask s request).1, fs, (ask s request).2) := by
  simp only [host, h]

theorem answer_of_none (h : ReleaseRequest.ofArgv? command.argv = none) :
    (host effect).answer command fs s = (.ok (.ok ""), ((effect command).runOn fs).2, s) := by
  simp only [host, h]

theorem mem_assets : name ∈ assets s ↔ s = true ∧ name ∈ pair := by
  cases s <;> simp [assets, names]

/-- No other names are attached than those that the request is about. -/
theorem mem_assets_ask_of_not_mem (h : name ∉ request.touched) :
    name ∈ assets (ask s request).2 ↔ name ∈ assets s := by
  cases request with
  | view => rfl
  | delete other => rfl
  | upload first second =>
    rw [mem_assets, mem_assets]
    refine and_congr_left fun hmem => ?_
    have hother : (ReleaseRequest.upload first second).touched ≠ pair := fun hpair =>
      h (hpair ▸ hmem)
    simp [ask, hother]

/-- What becomes of those depends on nothing else. -/
theorem mem_assets_ask_of_mem (h : name ∈ request.touched)
    (hsame : name ∈ assets s ↔ name ∈ assets t) :
    name ∈ assets (ask s request).2 ↔ name ∈ assets (ask t request).2 := by
  cases request with
  | view => exact hsame
  | delete other => exact hsame
  | upload first second =>
    by_cases hpair : (ReleaseRequest.upload first second).touched = pair
    · rw [hpair] at h
      simp [mem_assets, ask, hpair, h]
    · simpa [mem_assets, ask, hpair] using hsame

/-- The description of a release gives its number and its names. -/
theorem describes_table (names : List String) :
    Describes (.table [("databaseId", .int 1),
      ("assets", .list (names.map fun name => .table [("name", .text name)]))])
      {name | name ∈ names} := by
  refine ⟨_, _, _, rfl, rfl, rfl, fun name => ?_⟩
  constructor
  · exact fun hname => ⟨_, List.mem_map_of_mem hname, _, rfl, rfl⟩
  · rintro ⟨entry, hentry, fields, hfields, hfound⟩
    obtain ⟨other, hother, rfl⟩ := List.mem_map.mp hentry
    cases hfields
    cases hfound
    exact hother

set_option maxRecDepth 100000 in
theorem ofJson_describe (attached : Bool) :
    Value.ofJson (Rehearsal.describe (.int 1) (names attached)) =
      .ok (.ok (.table [("databaseId", .int 1),
        ("assets", .list ((names attached).map fun name => .table [("name", .text name)]))])) := by
  cases attached <;> rfl

/-! ## The builds -/

/-- Whether the builds of a host keep to their checkouts. -/
structure Contained (c : RunContext) (effect : Command → Disk Unit) : Prop where
  /-- a build sees and changes nothing else -/
  confined {target : BuildTarget} {command : Command} (cwd : Location) :
    target ∈ BuildTarget.all → command ∈ Build.commandsOf c target →
      Confined cwd (Build.OnWay c target cwd) (Below cwd (c.checkoutDir target)) (effect command)
  /-- other commands do nothing to files -/
  other {command : Command} : ¬ command.Builds → effect command = pure ()

/-- **Such a host is steady.** -/
theorem steady_host (h : Contained c effect) : Steady (host effect) c assets where
  answers := by
    intro command fs gs s t hlooks
    -- only a view shows the release, and nothing shows the files
    rcases hrequest : ReleaseRequest.ofArgv? command.argv with _ | request
    · rw [answer_of_none hrequest, answer_of_none hrequest]
    · rw [answer_of_request hrequest, answer_of_request hrequest]
      cases request with
      | view => exact absurd hrequest hlooks
      | upload first second => rfl
      | delete name => rfl
  looks := by
    intro command hview
    refine .inr ⟨1, fun fs s => ⟨_, _, ?_, ofJson_describe s, describes_table (names s), rfl⟩⟩
    rw [answer_of_request (hview ▸ ReleaseRequest.ofArgv?_argv c .view)]
    rfl
  keeps := by
    intro command fs s name hname
    rcases hrequest : ReleaseRequest.ofArgv? command.argv with _ | request
    · rw [answer_of_none hrequest]
    · rw [Command.touched, hrequest] at hname
      rw [answer_of_request hrequest]
      exact mem_assets_ask_of_not_mem hname
  touches := by
    intro command fs gs s t hsame name hname
    have hsame := hsame name hname
    rcases hrequest : ReleaseRequest.ofArgv? command.argv with _ | request
    · rwa [answer_of_none hrequest, answer_of_none hrequest]
    · rw [Command.touched, hrequest] at hname
      rw [answer_of_request hrequest, answer_of_request hrequest]
      exact mem_assets_ask_of_mem hname hsame
  writes := by
    intro target command fs s htarget hcommand
    -- a command of a build is no request, so it is the effect that writes
    rw [answer_of_none (Build.builds_of_mem hcommand).ofArgv?]
    exact (h.confined fs.cwd htarget hcommand).stays rfl
  sees := by
    intro target command fs gs s t htarget hcommand hseen
    have hbuilds := (Build.builds_of_mem hcommand).ofArgv?
    rw [answer_of_none hbuilds, answer_of_none hbuilds]
    exact ((h.confined fs.cwd htarget hcommand).same rfl hseen).2
  writesNothing := by
    intro command fs s hbuilds
    rcases hrequest : ReleaseRequest.ofArgv? command.argv with _ | request
    · rw [answer_of_none hrequest, h.other hbuilds]
      rfl
    · rw [answer_of_request hrequest]

/-! ## Builds that compile -/

/-- A compilation puts the program where the compiler of its target puts it. -/
theorem perform_of_compiles {program triple : String} {rest : List String}
    (hargv : command.argv = program :: rest) (hprogram : program = "docker" ∨ program = "cargo")
    (hlast : (Text.words (rest.getLastD program)).getLast? = some triple) :
    Rehearsal.perform Rehearsal.script command =
      Rehearsal.compile "replibyte" command.cwd triple := by
  rw [List.getLastD_eq_getLast?] at hlast
  rcases hprogram with rfl | rfl
  all_goals simp [Rehearsal.perform, Rehearsal.script, hargv, hlast]

set_option maxRecDepth 100000 in
/-- The command lines of a compilation end with the target. -/
theorem getLast?_words : ∀ target ∈ BuildTarget.all,
    (Text.words target.triple).getLast? = some target.triple ∧
      (Text.words (Build.containerScript target.triple)).getLast? = some target.triple := by
  decide

/-- What is made is what the build looks for. -/
theorem compile_eq (htarget : target ∈ BuildTarget.all) (checkout : Path) :
    ∃ file, Rehearsal.compile "replibyte" checkout target.triple =
      placeFile (Build.expectedBinary target checkout "replibyte") file := by
  have hsuffix : ∀ target ∈ BuildTarget.all,
      (if Text.contains target.triple "windows" then ".exe" else "") = target.exeSuffix := by
    decide
  unfold Rehearsal.compile
  rw [hsuffix target htarget]
  exact ⟨_, rfl⟩

theorem perform_of_mem (htarget : target ∈ BuildTarget.all) {checkout : Path}
    (hcommand : command ∈ Build.compileCommands c target checkout) :
    Rehearsal.perform Rehearsal.script command = pure () ∨
      ∃ file, Rehearsal.perform Rehearsal.script command =
        placeFile (Build.expectedBinary target checkout "replibyte") file := by
  obtain ⟨hnative, hcontainer⟩ := getLast?_words target htarget
  obtain ⟨file, hcompile⟩ := compile_eq htarget checkout
  unfold Build.compileCommands Build.commands at hcommand
  split at hcommand
  · obtain rfl := List.mem_singleton.mp hcommand
    refine .inr ⟨file, (perform_of_compiles rfl (.inl rfl) ?_).trans hcompile⟩
    simpa [List.getLast?_cons] using hcontainer
  · rcases List.mem_cons.mp hcommand with rfl | hcommand
    · exact .inl rfl
    · obtain rfl := List.mem_singleton.mp hcommand
      refine .inr ⟨file, (perform_of_compiles rfl (.inr rfl) ?_).trans hcompile⟩
      exact hnative

/-- A checkout is below itself, and everything above is on the way. -/
theorem usable_checkoutDir (c : RunContext) (target : BuildTarget) (cwd : Location) :
    Packaging.Usable cwd (Build.OnWay c target cwd) (Below cwd (c.checkoutDir target))
      (c.checkoutDir target) := by
  refine ⟨fun l hl => ?_, List.prefix_refl _⟩
  by_cases hbelow : Below cwd (c.checkoutDir target) l
  · exact .inr hbelow
  · rw [RunContext.checkoutDir_eq] at hl
    rcases above_entry_iff.mp hl with habove | rfl
    · exact .inl ⟨habove, hbelow⟩
    · rw [RunContext.checkoutDir_eq] at hbelow
      exact absurd (List.prefix_refl _) hbelow

/-- Builds that do what they are for keep to their checkouts, if these can be written down. -/
theorem contained_perform
    (hread : ∀ target ∈ BuildTarget.all,
      Path.ofText (c.checkoutDir target).text = c.checkoutDir target) :
    Contained c (Rehearsal.perform Rehearsal.script) where
  confined := by
    intro target command cwd htarget hcommand
    have hcheckout := usable_checkoutDir c target cwd
    rcases List.mem_append.mp hcommand with hcommand | hcommand
    · rcases List.mem_cons.mp hcommand with rfl | hcommand
      · -- a clone makes the directory of the checkout
        show Confined cwd _ _ (makeDirectories (Path.ofText (c.checkoutDir target).text))
        rw [hread target htarget]
        exact confined_makeDirectories hcheckout.inReach
      · obtain rfl := List.mem_singleton.mp hcommand
        exact confined_pure ()
    · rcases perform_of_mem htarget hcommand with hnone | ⟨file, hfile⟩
      · rw [hnone]
        exact confined_pure ()
      · -- what is compiled is written below it
        rw [hfile]
        have hbinary := hcheckout.expectedBinary (BuildTarget.leadsDown target htarget)
          (show '/' ∉ "replibyte".toList by decide)
        exact (confined_makeDirectories hbinary.inReach.parent).bind fun _ =>
          (confined_writeBytes hbinary.inReach hbinary.place _).bind fun _ =>
            confined_setStatus hbinary.inReach hbinary.place _ _
  other := by
    intro command hbuilds
    have hother (program : String) (hprogram : program ∈ Build.programs) (rest : List String) :
        command.argv ≠ program :: rest := by
      intro hargv
      exact hbuilds ⟨program, hprogram, by rw [hargv]; rfl⟩
    unfold Rehearsal.perform
    split
    · next hargv => exact absurd hargv (hother "git" (by decide) _)
    · next program rest _ hargv =>
      have hdocker : program ≠ "docker" := by
        rintro rfl
        exact hother "docker" (by decide) _ hargv
      have hcargo : program ≠ "cargo" := by
        rintro rfl
        exact hother "cargo" (by decide) _ hargv
      simp [hdocker, hcargo]
    · rfl

/-! ## Builds that clear up -/

/-- A compilation in a container does nothing but remove a directory of its checkout. -/
def clearUp (command : Command) : Disk Unit :=
  if command.argv.head? = some "docker" then removeTree (command.cwd.entry "x") else pure ()

/-- Such builds keep to their checkouts as well. -/
theorem contained_clearUp (c : RunContext) : Contained c clearUp where
  confined := by
    intro target command cwd htarget hcommand
    rcases List.mem_append.mp hcommand with hcommand | hcommand
    · have hgit : command.argv.head? = some "git" := by
        simp only [Build.checkoutCommands, List.mem_cons, List.not_mem_nil, or_false] at hcommand
        rcases hcommand with rfl | rfl <;> rfl
      rw [clearUp, hgit]
      exact confined_pure ()
    · obtain ⟨build, -, rfl⟩ := List.mem_map.mp hcommand
      unfold clearUp
      split
      · have hx := Packaging.usable_entry (usable_checkoutDir c target cwd)
          (show "x" ≠ ".." by decide)
        refine confined_removeTree hx.inReach ?_ (fun l hl => hx.place.trans hl) fun l hl hx' =>
          hl.2 (hx.place.trans hx')
        rw [Path.place_entry (by decide)]
        simp
      · exact confined_pure ()
  other := by
    intro command hbuilds
    refine if_neg fun hdocker => hbuilds ⟨"docker", by decide, hdocker⟩

end Shipyard.Selective
