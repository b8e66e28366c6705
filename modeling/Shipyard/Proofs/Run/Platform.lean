import Mathlib.Data.List.Infix
import Shipyard.Proofs.Packaging.Fresh
import Shipyard.Proofs.Packaging.SidecarFile
import Shipyard.Proofs.Run.Outcomes

/-!
# Platforms of failures

A failure about an artifact names a platform, and two ways lead back to it. A publication looks for
the target with the architecture of the artifact, a verification for a target whose architecture
occurs in the name of the archive. The first always finds the target that was packaged. The second
tries the targets in their order, so it finds one that comes before if the program or its version
happen to have the architecture of that one in their names (`platform_of_failures`).
-/

namespace Shipyard

open Disk

/-! ## Occurrences -/

namespace Text

theorem containsChars_eq_true_iff (needle cs : List Char) :
    containsChars needle cs = true ↔ needle <:+: cs := by
  induction cs with
  | nil => rw [containsChars, List.isEmpty_iff, List.infix_nil]
  | cons c cs ih =>
    rw [containsChars, Bool.or_eq_true, ih, List.isPrefixOf_iff_prefix, List.infix_cons_iff]

/-- Whether a text contains another one. -/
theorem contains_eq_true_iff (s needle : String) :
    contains s needle = true ↔ needle.toList <:+: s.toList :=
  containsChars_eq_true_iff needle.toList s.toList

end Text

/-! ## Targets in their order -/

namespace BuildTarget

variable {target other : BuildTarget} {name : String}

/-- The built-in targets that are tried before a target. -/
def earlier (target : BuildTarget) : List BuildTarget := all.takeWhile (· ≠ target)

theorem all_eq_append : ∀ target ∈ all,
    all = target.earlier ++ target :: (all.dropWhile (· ≠ target)).drop 1 := by
  decide

theorem platform_ne_of_mem_earlier :
    ∀ target ∈ all, ∀ other ∈ target.earlier, other.platform ≠ target.platform := by
  decide

/-- A name with the architecture of a target is one of that target, unless it has the architecture
of a target that is tried before. -/
theorem platformOfArchive?_eq (htarget : target ∈ all)
    (hown : target.triple.toList <:+: name.toList) :
    platformOfArchive? name =
      some ((target.earlier.find? fun other => Text.contains name other.triple).getD
        target).platform := by
  have hfound : Text.contains name target.triple = true :=
    (Text.contains_eq_true_iff name target.triple).mpr hown
  rw [platformOfArchive?, all_eq_append target htarget, List.find?_append, List.find?_cons, hfound]
  cases target.earlier.find? fun other => Text.contains name other.triple <;> rfl

/-- **First hits.** The platform of a target is found exactly if no target that is tried before has
its architecture in the name. -/
theorem platformOfArchive?_eq_iff (htarget : target ∈ all)
    (hown : target.triple.toList <:+: name.toList) :
    platformOfArchive? name = some target.platform ↔
      ∀ other ∈ target.earlier, ¬ other.triple.toList <:+: name.toList := by
  rw [platformOfArchive?_eq htarget hown]
  constructor
  · intro h other hother hcontained
    rcases hfind : target.earlier.find? (fun other => Text.contains name other.triple) with
      _ | first
    · exact List.find?_eq_none.mp hfind other hother
        ((Text.contains_eq_true_iff name other.triple).mpr hcontained)
    · rw [hfind] at h
      exact absurd (Option.some.inj h)
        (platform_ne_of_mem_earlier target htarget first (List.mem_of_find?_eq_some hfind))
  · intro hnone
    have hfind : target.earlier.find? (fun other => Text.contains name other.triple) = none := by
      refine List.find?_eq_none.mpr fun other hother hcontains => ?_
      exact hnone other hother ((Text.contains_eq_true_iff name other.triple).mp hcontains)
    rw [hfind]
    rfl

/-- The end of a name has the architecture of its target. -/
theorem triple_infix_append_archiveTail (target : BuildTarget) (front : String) :
    target.triple.toList <:+: (front ++ target.archiveTail).toList := by
  refine ⟨front.toList ++ ['_'],
    target.exeSuffix.toList ++ target.archiveFormat.suffix.toList, ?_⟩
  simp [archiveTail]

/-- And not even together with what stands in front of it does it have one of a target that is tried
before. -/
theorem infix_append_archiveTail_iff (htarget : target ∈ all) (hother : other ∈ target.earlier)
    (front : String) :
    other.triple.toList <:+: (front ++ target.archiveTail).toList ↔
      other.triple.toList <:+: front.toList := by
  have hends : ∀ target ∈ all, ∀ other ∈ target.earlier,
      ¬ other.triple.toList <:+: target.archiveTail.toList ∧
        ∀ stop ∈ other.triple.toList.tails, stop <+: target.archiveTail.toList → stop = [] := by
    decide +kernel
  obtain ⟨hnot, hstop⟩ := hends target htarget other hother
  rw [String.toList_append, List.infix_append_iff]
  constructor
  · rintro (hfront | htail | ⟨start, stop, heq, hstart, hprefix⟩)
    · exact hfront
    · exact absurd htail hnot
    · have hsuffix : stop <:+ other.triple.toList := ⟨start, heq.symm⟩
      obtain rfl := hstop stop ((List.mem_tails _ _).mpr hsuffix) hprefix
      rw [List.append_nil] at heq
      exact heq ▸ hstart.isInfix
  · exact .inl

end BuildTarget

/-! ## The two ways -/

theorem Publication.platform_eq {σ : Type} {host : Host σ} {c : RunContext} {artifact : Artifact}
    {out : Console} {w : World σ} {failure : PublishFailure}
    (h : (Action.runOn (run host c artifact out) w).1 = .ok (.error failure)) :
    failure.platform = artifact.platform := by
  have htranscript :=
    (mirrors_run host c artifact out).holds (follows_run host c artifact out) w
  rw [h] at htranscript
  exact htranscript.platform_eq

theorem Verification.Judges.platform_eq {mishap : Option OsError} {fs : FileSystem}
    {archive : Path} {failure : PackagingFailure} (h : Judges mishap fs archive (.error failure)) :
    failure.platform = platformFor archive.name := by
  cases h with
  | absent | unrecorded | unread | differs => rfl

theorem Verification.platform_eq {mishap : Option OsError} {fs : FileSystem} {archive : Path}
    {failure : PackagingFailure}
    (h : (runOn (run mishap archive) fs).1 = .ok (.error failure)) :
    failure.platform = platformFor archive.name := by
  rcases escapes_or_judges mishap fs archive with ⟨fault, hescapes⟩ | ⟨verdict, hjudges⟩
  · rw [runOn_run_of_escapes hescapes] at h
    cases h
  · rw [runOn_run_of_judges hjudges] at h
    obtain rfl := Except.ok.inj h
    exact hjudges.platform_eq

/-! ## Artifacts -/

namespace Packaging

variable {archiver : Archiver} {mishaps : Mishaps} {target : BuildTarget} {source outDir : Path}
  {program version : String} {policy : SidecarPolicy} {artifact : Artifact} {fs fs' : FileSystem}

/-- The platform of an artifact is the one of the target that was packaged. -/
theorem platform_of_run (htarget : target ∈ BuildTarget.all)
    (h : runOn (run archiver mishaps ⟨target, source⟩ program version outDir policy) fs =
      (.ok (.ok artifact), fs')) : artifact.platform = target.platform := by
  have hfits := gives_run archiver mishaps ⟨target, source⟩ program version outDir policy fs _
    (congrArg Prod.fst h)
  exact Artifact.platform_of_triple htarget hfits.1

/-- The name of its archive is what stands in front of the end for the target. -/
theorem exists_name_of_run (htarget : target ∈ BuildTarget.all)
    (h : runOn (run archiver mishaps ⟨target, source⟩ program version outDir policy) fs =
      (.ok (.ok artifact), fs')) :
    ∃ front, artifact.archive.name = front ++ target.archiveTail ∧
      ('/' ∉ program.toList → '/' ∉ version.toList → front = program ++ "_" ++ version) := by
  have hfits := gives_run archiver mishaps ⟨target, source⟩ program version outDir policy fs _
    (congrArg Prod.fst h)
  obtain ⟨dir, front, hplain, -, houtputs⟩ := exists_layout htarget program version outDir
  refine ⟨front, ?_, fun hprogram hversion => (hplain ⟨hprogram, hversion⟩).2⟩
  rw [hfits.2, ← archive_of_outputs (houtputs [])]
  exact Path.name_entry dir (front ++ target.archiveTail)

/-! ### Artifacts without their files -/

/-- Where the archive of a fresh artifact lies. -/
def freshArchive (program : String) : Path :=
  Path.child ⟨.root, ["dist"]⟩ (BuildTarget.macos.archiveName program "v1")

/-- Without any files it is missed. -/
theorem exists_failure_of_freshRun {sidecar : Path}
    (h : freshRun program = (.ok (.ok artifact), fs'))
    (hpath : sidecarPath (freshArchive program) = .ok sidecar)
    (hfind : (FileSystem.empty []).find? (freshArchive program) = .ok none) :
    ∃ failure, (runOn (Verification.run none artifact.archive) (FileSystem.empty [])).1 =
      .ok (.error failure) := by
  have hfits := gives_run _ _ _ _ _ _ _ _ _ (congrArg Prod.fst h)
  have harchive : artifact.archive = freshArchive program := hfits.2
  rw [harchive, Verification.runOn_run_of_absent hpath hfind nofun]
  exact ⟨_, rfl⟩

/-- A publication of anything without a token. -/
def tokenless (artifact : Artifact) : Except Fault (Except PublishFailure PublishedRelease) :=
  (Action.runOn (Publication.run (Rehearsal.host Rehearsal.script)
    { Rehearsal.context with environ := [] } artifact Console.plain) (Rehearsal.world [])).1

set_option maxRecDepth 100000 in
/-- A program may be called as an architecture. -/
theorem freshName?_architecture :
    freshName? "x86_64-pc-windows-gnu" =
      some "x86_64-pc-windows-gnu_v1_x86_64-apple-darwin.zip" := by
  decide

/-! ### Failures -/

/-- **Platforms of failures.** Whenever and wherever an artifact is published or its archive
verified, a failure of the publication has the platform of the target that was packaged. A failure
of the verification has it exactly if the name of the archive does not have the architecture of a
target that is tried before; if neither the program nor the version has a slash, this is a question
of their names alone. -/
theorem platform_of_failures (htarget : target ∈ BuildTarget.all)
    (h : runOn (run archiver mishaps ⟨target, source⟩ program version outDir policy) fs =
      (.ok (.ok artifact), fs')) :
    (∀ (σ : Type) (host : Host σ) (c : RunContext) (out : Console) (w : World σ) failure,
      (Action.runOn (Publication.run host c artifact out) w).1 = .ok (.error failure) →
        failure.platform = target.platform) ∧
    (∀ mishap later failure,
      (runOn (Verification.run mishap artifact.archive) later).1 = .ok (.error failure) →
        (failure.platform = target.platform ↔ ∀ other ∈ target.earlier,
          ¬ other.triple.toList <:+: artifact.archive.name.toList)) ∧
    ('/' ∉ program.toList → '/' ∉ version.toList → ∀ other ∈ target.earlier,
      (other.triple.toList <:+: artifact.archive.name.toList ↔
        other.triple.toList <:+: (program ++ "_" ++ version).toList)) := by
  obtain ⟨front, hname, hplain⟩ := exists_name_of_run htarget h
  refine ⟨fun σ host c out w failure hfails => ?_, fun mishap later failure hfails => ?_,
    fun hprogram hversion other hother => ?_⟩
  · exact (Publication.platform_eq hfails).trans (platform_of_run htarget h)
  · have hown : target.triple.toList <:+: artifact.archive.name.toList :=
      hname ▸ BuildTarget.triple_infix_append_archiveTail target front
    obtain ⟨platform, hplatform⟩ :
        ∃ platform, BuildTarget.platformOfArchive? artifact.archive.name = some platform :=
      ⟨_, BuildTarget.platformOfArchive?_eq htarget hown⟩
    rw [Verification.platform_eq hfails, ← BuildTarget.platformOfArchive?_eq_iff htarget hown,
      Verification.platformFor, hplatform, Option.getD_some, Option.some_inj]
  · rw [hname, BuildTarget.infix_append_archiveTail_iff htarget hother front,
      hplain hprogram hversion]

/-- The archive of a program with a name of its own is missed on macOS, where a publication without
a token fails as well. -/
theorem platform_of_failures_freshRun :
    ∃ artifact fs', freshRun "p" = (.ok (.ok artifact), fs') ∧
      (∃ failure, tokenless artifact = .ok (.error failure) ∧ failure.platform = "macos") ∧
      ∃ failure, (runOn (Verification.run none artifact.archive) (FileSystem.empty [])).1 =
        .ok (.error failure) ∧ failure.platform = "macos" := by
  obtain ⟨artifact, fs', hrun, -⟩ := exists_fresh freshName?_eq.1
  obtain ⟨hpublication, hverification, hplain⟩ := platform_of_failures (by decide) hrun
  obtain ⟨unpublished, htokenless⟩ : ∃ failure, tokenless artifact = .ok (.error failure) :=
    ⟨_, rfl⟩
  refine ⟨artifact, fs', hrun,
    ⟨unpublished, htokenless, hpublication _ _ _ _ _ unpublished htokenless⟩, ?_⟩
  obtain ⟨failure, hfails⟩ := exists_failure_of_freshRun hrun rfl (by decide)
  refine ⟨failure, hfails, (hverification _ _ failure hfails).mpr fun other hother => ?_⟩
  have hnone : ∀ other ∈ BuildTarget.macos.earlier,
      ¬ other.triple.toList <:+: ("p" ++ "_" ++ "v1").toList := by
    decide
  rw [hplain (by decide) (by decide) other hother]
  exact hnone other hother

/-- **A name leads to another platform.** The archive was packaged for macOS, and it is missed on
Windows. -/
theorem architecture_misleads :
    ∃ artifact fs', freshRun "x86_64-pc-windows-gnu" = (.ok (.ok artifact), fs') ∧
      ∃ failure, (runOn (Verification.run none artifact.archive) (FileSystem.empty [])).1 =
        .ok (.error failure) ∧ failure.platform ≠ BuildTarget.macos.platform := by
  obtain ⟨artifact, fs', hrun, hname⟩ := exists_fresh freshName?_architecture
  obtain ⟨failure, hfails⟩ := exists_failure_of_freshRun hrun rfl (by decide)
  refine ⟨artifact, fs', hrun, failure, hfails, ?_⟩
  rw [Verification.platform_eq hfails, hname]
  decide

end Packaging

end Shipyard
