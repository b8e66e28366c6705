import Shipyard.Outcome.Report
import Shipyard.Proofs.Build.Protocol
import Shipyard.Proofs.Formula.Protocol
import Shipyard.Proofs.Publication.Protocol
import Shipyard.Proofs.Rehearsal
import Shipyard.Proofs.Run.Coupling
import Shipyard.Proofs.Text.Lines

/-!
# What a failed command wrote

A command that fails stops the step that issued it (`StoppedBy`), and the end of what it wrote is
the hint of the failure. The hint is one text, and it is cut into lines again when the failure is
told. Nothing is lost on the way (`StoppedBy.tells_lastLines`): every end of a line is blank, so
there is something in the last line of a stripped text, and the lines that were joined are those
that are told.
-/

namespace Shipyard

variable {σ : Type} {host : Host σ} {c : RunContext} {failed : CommandFailure}
  {error : ReleaseError}

/-! ## Hints -/

/-- Whether an error is that of a step that a failed command has stopped. A publication is stopped
by its upload, or by the look that is to confirm it; what fails on the way back stops nothing. -/
inductive StoppedBy (host : Host σ) (c : RunContext) (failed : CommandFailure) :
    ReleaseError → Prop
  /-- a command of a build -/
  | build {target : BuildTarget} {out : Console} {w : World σ} {x : Exchange σ}
      {failure : BuildFailure} :
      x ∈ Action.exchanges (Build.run host.logged c target out) w.logged →
      x.answer = .ok (.error failed) →
      (Action.runOn (Build.run host c target out) w).1 = .ok (.error failure) →
      StoppedBy host c failed (.branch (.build failure))
  /-- an upload -/
  | upload {artifact : Artifact} {out : Console} {w : World σ} {x : Exchange σ}
      {after : List (Exchange σ)} {failure : PublishFailure} :
      Action.exchanges (Publication.run host.logged c artifact out) w.logged = x :: after →
      x.answer = .ok (.error failed) →
      (Action.runOn (Publication.run host c artifact out) w).1 = .ok (.error failure) →
      StoppedBy host c failed (.branch (.publish failure))
  /-- a look behind an upload that went well -/
  | confirmation {artifact : Artifact} {out : Console} {w : World σ} {x y : Exchange σ}
      {after : List (Exchange σ)} {failure : PublishFailure} :
      Action.exchanges (Publication.run host.logged c artifact out) w.logged = x :: y :: after →
      x.succeeded = true → y.answer = .ok (.error failed) →
      (Action.runOn (Publication.run host c artifact out) w).1 = .ok (.error failure) →
      StoppedBy host c failed (.branch (.publish failure))
  /-- a command of a bump -/
  | formula {request : FormulaRequest} {out : Console} {w : World σ} {x : Exchange σ}
      {failure : FormulaFailure} :
      x ∈ Action.exchanges (Formula.bump host.logged c request out) w.logged →
      x.answer = .ok (.error failed) →
      (Action.runOn (Formula.bump host c request out) w).1 = .ok (.error failure) →
      StoppedBy host c failed (.formula failure)

namespace Build

/-- Behind a command that failed no other is issued. -/
theorem InOrder.eq_of_failed {commands : List Command} {es : List (Exchange σ)}
    {r : Except Fault (Except CommandFailure Unit)} (h : InOrder commands es r) {x : Exchange σ}
    (hx : x ∈ es) (hanswer : x.answer = .ok (.error failed)) : r = .ok (.error failed) := by
  induction h with
  | done => cases hx
  | answered _ hwell _ ih =>
    rcases List.mem_cons.mp hx with rfl | hx
    · cases hwell.symm.trans hanswer
    · exact ih hx
  | failed _ hfailed =>
    obtain rfl := List.mem_singleton.mp hx
    cases hfailed.symm.trans hanswer
    rfl
  | faulted _ hfault =>
    obtain rfl := List.mem_singleton.mp hx
    cases hfault.symm.trans hanswer

/-- A command that fails makes a build fail, with what it wrote. -/
theorem Transcript.exists_failure {target : BuildTarget} {es : List (Exchange σ)}
    {r : Except Fault (Except BuildFailure BuiltBinary)} (h : Transcript c target es r)
    {x : Exchange σ} (hx : x ∈ es) (hanswer : x.answer = .ok (.error failed)) :
    ∃ failure, r = .ok (.error failure) ∧ failure.hint = failed.hint := by
  cases h with
  | noLinker => cases hx
  | faulted hcheckout =>
    cases hcheckout with
    | crashed => cases hx
    | faulted horder => cases horder.eq_of_failed hx hanswer
  | failed hcheckout =>
    cases hcheckout with
    | kept => cases hx
    | failed horder =>
      obtain rfl := Except.error.inj (Except.ok.inj (horder.eq_of_failed hx hanswer))
      exact ⟨_, rfl, by simp only [checkoutFailed]⟩
  | compiled hcheckout hcompile =>
    rcases List.mem_append.mp hx with hx | hx
    · cases hcheckout with
      | done horder => cases horder.eq_of_failed hx hanswer
    · cases hcompile with
      | failed horder =>
        obtain rfl := Except.error.inj (Except.ok.inj (horder.eq_of_failed hx hanswer))
        exact ⟨_, rfl, by simp only [compileFailed]⟩
      | faulted horder | crashed horder | missing horder | done horder =>
        cases horder.eq_of_failed hx hanswer

end Build

namespace Publication

variable {artifact : Artifact} {failure : PublishFailure} {x y : Exchange σ}
  {es after : List (Exchange σ)}

theorem Transcript.hint_eq_of_upload (h : Transcript c artifact es (.ok (.error failure)))
    (hes : es = x :: after) (hanswer : x.answer = .ok (.error failed)) :
    failure.hint = failed.hint := by
  cases h with
  | noToken => cases hes
  | undone _ _ hattach _ =>
    cases hattach with
    | failed _ hupload =>
      obtain ⟨rfl, -⟩ := List.cons.inj hes
      obtain rfl := Except.error.inj (Except.ok.inj (hupload.symm.trans hanswer))
      simp only [uploadFailed]
    | viewed _ hupload _ _ =>
      obtain ⟨rfl, -⟩ := List.cons.inj hes
      cases hupload.symm.trans hanswer

theorem Transcript.hint_eq_of_confirmation (h : Transcript c artifact es (.ok (.error failure)))
    (hes : es = x :: y :: after) (hx : x.succeeded = true)
    (hanswer : y.answer = .ok (.error failed)) : failure.hint = failed.hint := by
  obtain ⟨output, hx⟩ := Exchange.succeeded_iff.mp hx
  cases h with
  | noToken => cases hes
  | undone _ _ hattach _ =>
    cases hattach with
    | failed _ hupload =>
      obtain ⟨rfl, -⟩ := List.cons.inj hes
      cases hupload.symm.trans hx
    | viewed _ _ _ hr =>
      -- the look gives its failure, and nothing is missing from a release that was not read
      obtain ⟨-, hback⟩ := List.cons.inj hes
      obtain ⟨rfl, -⟩ := List.cons.inj hback
      rw [hanswer] at hr
      obtain rfl := Except.error.inj (Except.ok.inj hr)
      simp only [lookupFailed]

end Publication

namespace Formula

variable {request : FormulaRequest} {x : Exchange σ}

theorem submitted_of_failed (hanswer : x.answer = .ok (.error failed)) :
    ∃ failure, submitted request x.answer = .ok (.error failure) ∧
      failure.hint = failed.hint := by
  rw [hanswer]
  exact ⟨_, rfl, by dsimp only⟩

theorem found_of_failed (request : FormulaRequest) (hanswer : x.answer = .ok (.error failed)) :
    ∃ failure, found request x.answer = .ok (.error failure) ∧ failure.hint = failed.hint := by
  rw [hanswer]
  exact ⟨_, rfl, by dsimp only⟩

/-- A command that fails makes a bump fail, with what it wrote. -/
theorem Transcript.exists_failure {es : List (Exchange σ)}
    {r : Except Fault (Except FormulaFailure FormulaBump)} (h : Transcript c request es r)
    (hx : x ∈ es) (hanswer : x.answer = .ok (.error failed)) :
    ∃ failure, r = .ok (.error failure) ∧ failure.hint = failed.hint := by
  obtain ⟨failure, hfailed, hhint⟩ := found_of_failed request hanswer
  cases h with
  | noToken => cases hx
  | forced =>
    obtain rfl := List.mem_singleton.mp hx
    exact submitted_of_failed hanswer
  | faulted _ _ _ hfound | skipped _ _ _ hfound =>
    obtain rfl := List.mem_singleton.mp hx
    cases hfailed.symm.trans hfound
  | failed _ _ _ hfound =>
    obtain rfl := List.mem_singleton.mp hx
    obtain rfl := Except.error.inj (Except.ok.inj (hfailed.symm.trans hfound))
    exact ⟨failure, rfl, hhint⟩
  | unforced _ _ _ hfound =>
    rcases List.mem_cons.mp hx with rfl | hx
    · cases hfailed.symm.trans hfound
    · obtain rfl := List.mem_singleton.mp hx
      exact submitted_of_failed hanswer

end Formula

theorem transcript_build (host : Host σ) (c : RunContext) (target : BuildTarget) (out : Console)
    (w : World σ) :
    Build.Transcript c target (Action.exchanges (Build.run host.logged c target out) w.logged)
      (Action.runOn (Build.run host c target out) w).1 :=
  (Build.mirrors_run host c target out).holds (Build.follows_run host c target out) w

theorem transcript_publication (host : Host σ) (c : RunContext) (artifact : Artifact)
    (out : Console) (w : World σ) :
    Publication.Transcript c artifact
      (Action.exchanges (Publication.run host.logged c artifact out) w.logged)
      (Action.runOn (Publication.run host c artifact out) w).1 :=
  (Publication.mirrors_run host c artifact out).holds (Publication.follows_run host c artifact out)
    w

theorem transcript_bump (host : Host σ) (c : RunContext) (request : FormulaRequest) (out : Console)
    (w : World σ) :
    Formula.Transcript c request
      (Action.exchanges (Formula.bump host.logged c request out) w.logged)
      (Action.runOn (Formula.bump host c request out) w).1 :=
  (Formula.mirrors_bump host c request out).holds (Formula.follows_bump host c request out) w

/-- The end of what the command wrote is the hint. -/
theorem StoppedBy.hint_eq (h : StoppedBy host c failed error) : error.hint = failed.hint := by
  cases h with
  | @build target out w x failure hx hanswer hrun =>
    obtain ⟨_, hsame, hhint⟩ := (transcript_build host c target out w).exists_failure hx hanswer
    obtain rfl := Except.error.inj (Except.ok.inj (hrun.symm.trans hsame))
    exact hhint
  | @upload artifact out w x after failure hes hanswer hrun =>
    have htranscript := transcript_publication host c artifact out w
    rw [hrun] at htranscript
    exact htranscript.hint_eq_of_upload hes hanswer
  | @confirmation artifact out w x y after failure hes hx hanswer hrun =>
    have htranscript := transcript_publication host c artifact out w
    rw [hrun] at htranscript
    exact htranscript.hint_eq_of_confirmation hes hx hanswer
  | @formula request out w x failure hx hanswer hrun =>
    obtain ⟨_, hsame, hhint⟩ := (transcript_bump host c request out w).exists_failure hx hanswer
    obtain rfl := Except.error.inj (Except.ok.inj (hrun.symm.trans hsame))
    exact hhint

/-- A failed command always stops a build. -/
theorem exists_stoppedBy_of_build {target : BuildTarget} {out : Console} {w : World σ}
    {x : Exchange σ} (hx : x ∈ Action.exchanges (Build.run host.logged c target out) w.logged)
    (hanswer : x.answer = .ok (.error failed)) : ∃ error, StoppedBy host c failed error := by
  obtain ⟨failure, hrun, -⟩ := (transcript_build host c target out w).exists_failure hx hanswer
  exact ⟨_, .build hx hanswer hrun⟩

/-- A failed command always stops a bump. -/
theorem exists_stoppedBy_of_bump {request : FormulaRequest} {out : Console} {w : World σ}
    {x : Exchange σ}
    (hx : x ∈ Action.exchanges (Formula.bump host.logged c request out) w.logged)
    (hanswer : x.answer = .ok (.error failed)) : ∃ error, StoppedBy host c failed error := by
  obtain ⟨failure, hrun, -⟩ := (transcript_bump host c request out w).exists_failure hx hanswer
  exact ⟨_, .formula hx hanswer hrun⟩

/-! ## The last lines -/

/-- How an error is told with the last lines of what a command wrote about errors, or else of what
it wrote. -/
structure ReleaseError.Shows (error : ReleaseError) (failed : CommandFailure)
    (earlier shown : List String) : Prop where
  /-- these are all lines, without the blanks around them -/
  lines : Text.MadeOf
    (Text.strip (if Text.strip failed.errors = "" then failed.output else failed.errors)).toList
    ((earlier ++ shown).map String.toList)
  /-- twenty of them are shown, or all if there are no more -/
  count : shown.length = min 20 (earlier ++ shown).length
  /-- each is a record of its own behind that of the error -/
  records : error.notices.map Notice.record =
    ⟨.error, "error: " ++ error.headline⟩ :: shown.map fun line => ⟨.dim, "  " ++ line⟩
  /-- none of these records is cut any further -/
  unbroken : ∀ line ∈ shown, Text.Unbroken ("  " ++ line)
  /-- there are none exactly if the command wrote nothing but blanks -/
  silent : shown = [] ↔
    (∀ c ∈ failed.errors.toList, Text.isBlank c = true) ∧
      ∀ c ∈ failed.output.toList, Text.isBlank c = true
  /-- the lines are joined to the hint, and it is cut into them -/
  again : Text.lines (failed.tail CommandFailure.tailLength) = shown

namespace CommandFailure

theorem told_eq (e : CommandFailure) :
    e.told = Text.strip (if Text.strip e.errors = "" then e.output else e.errors) := by
  rw [told, ite_not, apply_ite Text.strip]

theorem told_eq_empty_iff (e : CommandFailure) :
    e.told = "" ↔ (∀ c ∈ e.errors.toList, Text.isBlank c = true) ∧
      ∀ c ∈ e.output.toList, Text.isBlank c = true := by
  rw [← Text.strip_eq_empty_iff, ← Text.strip_eq_empty_iff, told]
  split
  · next h => exact ⟨fun hempty => absurd hempty h, fun hempty => hempty.1⟩
  · next h => exact ⟨fun hempty => ⟨not_not.mp h, hempty⟩, fun hempty => hempty.2⟩

/-- The lines that a user gets to see. -/
def shown (e : CommandFailure) : List String := lastItems tailLength (Text.lines e.told)

theorem shown_eq_drop (e : CommandFailure) :
    e.shown = (Text.lines e.told).drop ((Text.lines e.told).length - 20) := by
  have htwenty : tailLength.toNat = 20 := rfl
  rw [shown, lastItems, if_pos (by decide), htwenty]

theorem ne_empty_of_getLast?_lines_told (e : CommandFailure) {line : String}
    (h : (Text.lines e.told).getLast? = some line) : line ≠ "" := by
  rw [told_eq] at h
  exact Text.ne_empty_of_getLast?_lines_strip h

theorem unbroken_of_mem_shown (e : CommandFailure) {line : String} (h : line ∈ e.shown) :
    Text.Unbroken line := by
  rw [shown_eq_drop] at h
  exact Text.unbroken_of_mem_lines (List.mem_of_mem_drop h)

/-- **Joined lines** are cut into themselves again. -/
theorem lines_tail (e : CommandFailure) : Text.lines (e.tail tailLength) = e.shown := by
  refine Text.lines_intercalate_of_getLast? (fun line h => e.unbroken_of_mem_shown h)
    fun line hlast => ?_
  -- the last line that is shown is the last of all lines, however many are left out
  have hshown : e.shown.getLast? = some line := hlast
  rw [shown_eq_drop, List.getLast?_drop] at hshown
  split at hshown
  · cases hshown
  · exact e.ne_empty_of_getLast?_lines_told hshown

/-- No hint has no lines. -/
theorem lines_hint (e : CommandFailure) : Text.lines (e.hint.getD "") = e.shown := by
  rw [← lines_tail, hint]
  split
  · next h => rw [h, Option.getD_none]
  · rw [Option.getD_some]

theorem shown_eq_nil_iff (e : CommandFailure) : e.shown = [] ↔ e.told = "" := by
  rw [shown_eq_drop, List.drop_eq_nil_iff, ← Text.lines_eq_nil_iff, ← List.length_eq_zero_iff]
  omega

end CommandFailure

theorem ReleaseError.exists_shows (h : error.hint = failed.hint) :
    ∃ earlier shown, error.Shows failed earlier shown := by
  refine ⟨(Text.lines failed.told).take ((Text.lines failed.told).length - 20), failed.shown,
    ?_, ?_, ?_, ?_, ?_, ?_⟩
  · rw [← failed.told_eq, failed.shown_eq_drop, List.take_append_drop]
    exact Text.madeOf_lines failed.told
  · rw [failed.shown_eq_drop, List.take_append_drop, List.length_drop]
    omega
  · rw [ReleaseError.notices, h, failed.lines_hint, List.map_cons, List.map_map]
    rfl
  · intro line hline
    exact Text.unbroken_append.mpr ⟨by decide, failed.unbroken_of_mem_shown hline⟩
  · rw [failed.shown_eq_nil_iff, failed.told_eq_empty_iff]
  · exact failed.lines_tail

/-- **What a failed command wrote reaches the user.** The step that it stops fails with the end of
it as a hint, and the failure is told with the last lines, each on its own and unchanged. -/
theorem StoppedBy.tells_lastLines (h : StoppedBy host c failed error) :
    error.hint = failed.hint ∧ ∃ earlier shown, error.Shows failed earlier shown :=
  ⟨h.hint_eq, ReleaseError.exists_shows h.hint_eq⟩

/-- What a compilation writes in twenty-one lines, with all ends that a line can have. -/
def brokenErrors : String :=
  "\n a\r\nb\x0bc\x0cd\x1ce\x1df\x1eg\x85h\u2028i\u2029j\rk\n\nl\r\n" ++
    "\r\n  m\nn\no\np\nq\nr\ns\n \x1f\n"

/-- A run in which the container cannot compile. -/
def brokenCompilation : World Stage :=
  Rehearsal.world [⟨["docker"], none, 1, 0, .exit 101 "out" brokenErrors⟩]

/-- The failure of its last command. -/
def dockerFailure : CommandFailure where
  argv := ["docker", "run", "--rm", "--volume", "/r/.rbr/linux/src:/root/src", "--workdir",
    "/root/src", "joseluisq/rust-linux-darwin-builder:1.60.0", "sh", "-c",
    "cargo build --release --target x86_64-unknown-linux-musl"]
  code := 101
  output := "out"
  errors := brokenErrors

set_option maxRecDepth 100000 in
/-- Twenty of the lines are shown, and two of them are empty. -/
theorem StoppedBy.tells_lastLines_dockerFailure :
    StoppedBy (Rehearsal.host Rehearsal.script) Rehearsal.context dockerFailure
        (.branch (.build (Build.compileFailed .linux dockerFailure))) ∧
      (ReleaseError.branch (.build (Build.compileFailed .linux dockerFailure))).notices.map
          Notice.record =
        ⟨.error, "error: [linux] build: build failed (exit 101)"⟩ ::
          ["b", "c", "d", "e", "f", "g", "h", "i", "j", "k", "", "l", "", "  m", "n", "o", "p",
            "q", "r", "s"].map fun line => ⟨.dim, "  " ++ line⟩ := by
  have hlast : (.ok (.error dockerFailure) : Answer) ∈ (Action.exchanges (Build.run
      (Rehearsal.host Rehearsal.script).logged Rehearsal.context .linux Console.plain)
      brokenCompilation.logged).map (·.answer) := by decide +kernel
  have hrun : (Action.runOn (Build.run (Rehearsal.host Rehearsal.script) Rehearsal.context .linux
      Console.plain) brokenCompilation).1 =
        .ok (.error (Build.compileFailed .linux dockerFailure)) := by decide +kernel
  obtain ⟨x, hx, hanswer⟩ := List.mem_map.mp hlast
  have hstopped : StoppedBy (Rehearsal.host Rehearsal.script) Rehearsal.context dockerFailure
      (.branch (.build (Build.compileFailed .linux dockerFailure))) := .build hx hanswer hrun
  obtain ⟨-, earlier, shown, hshows⟩ := hstopped.tells_lastLines
  have hagain : Text.lines (dockerFailure.tail CommandFailure.tailLength) =
      ["b", "c", "d", "e", "f", "g", "h", "i", "j", "k", "", "l", "", "  m", "n", "o", "p", "q",
        "r", "s"] := by decide +kernel
  have hheadline : "error: " ++ (ReleaseError.branch (.build
      (Build.compileFailed .linux dockerFailure))).headline =
        "error: [linux] build: build failed (exit 101)" := by decide +kernel
  refine ⟨hstopped, ?_⟩
  rw [hshows.records, ← hshows.again, hagain, hheadline]

end Shipyard
