import Shipyard.Proofs.Packaging.Places
import Shipyard.Proofs.Packaging.SidecarFile
import Shipyard.Proofs.Packaging.Staging

/-!
# Fresh artifacts

What a verification says of an artifact that was just packaged (`Packaging.verification_of_packaged`).
Everything is in place, so it comes down to the sidecar: it is read back, or its form does not keep
the name of the archive together and it is taken for malformed.
-/

namespace Shipyard.Packaging

open FileSystem Disk

variable {archiver : Archiver} {mishaps : Mishaps} {target : BuildTarget} {source outDir : Path}
  {program version : String} {policy : SidecarPolicy} {artifact : Artifact} {fs fs' : FileSystem}
  {o : Outputs}

/-! ## Packagings that succeed -/

/-- A packaging that gives an artifact has staged the program and packed it. -/
theorem staged_of_run
    (h : runOn (run archiver mishaps ⟨target, source⟩ program version outDir policy) fs =
      (.ok (.ok artifact), fs')) :
    ∃ o fs₁ fs₂, outputs target program version outDir = .ok o ∧
      runOn (stage mishaps source outDir o) fs = (.ok (), fs₁) ∧
      runOn (pack archiver mishaps target.archiveFormat o) fs₁ = (.ok (), fs₂) := by
  unfold run at h
  rcases houtputs : outputs target program version outDir with refusal | o
  all_goals simp only [houtputs] at h
  · cases h
  rw [runOn_bind_ok (runOn_pure o fs)] at h
  obtain ⟨staged, fs₁, hstage, h⟩ := runOn_bind_eq_ok.mp h
  cases staged with
  | error e => cases h
  | ok u =>
  obtain ⟨packed, fs₂, hpack, h⟩ := runOn_bind_eq_ok.mp h
  cases packed with
  | error fault =>
    obtain ⟨_, _, _, h⟩ := runOn_bind_eq_ok.mp h
    cases h
  | ok u =>
  exact ⟨o, fs₁, fs₂, rfl, runOn_attempt_eq_ok.mp hstage, runOn_attemptPacking_eq_ok.mp hpack⟩

/-- Staging consists of three steps. -/
theorem steps_of_stage (h : runOn (stage mishaps source outDir o) fs = (.ok (), fs')) :
    ∃ fs₁ fs₂, runOn (makeDirectories outDir) fs = (.ok (), fs₁) ∧
      runOn (clear mishaps o) fs₁ = (.ok (), fs₂) ∧
      runOn (copyFile mishaps source o.renamed) fs₂ = (.ok (), fs') := by
  obtain ⟨_, fs₁, hmake, h⟩ := runOn_bind_eq_ok.mp h
  obtain ⟨_, fs₂, hclear, hcopy⟩ := runOn_bind_eq_ok.mp h
  exact ⟨fs₁, fs₂, hmake, hclear, hcopy⟩

theorem clearing_of_clear (h : runOn (clear mishaps o) fs = (.ok (), fs')) :
    mishaps.clearing = .none ∧ runOn (removeAll [o.renamed, o.archive, o.sidecar]) fs =
      (.ok (), fs') := by
  unfold clear at h
  rcases hclearing : mishaps.clearing with _ | ⟨count, e⟩
  all_goals rw [hclearing] at h
  · exact ⟨rfl, h⟩
  · obtain ⟨_, _, _, h⟩ := runOn_bind_eq_ok.mp h
    cases h

theorem copying_of_copyFile {destination : Path}
    (h : runOn (copyFile mishaps source destination) fs = (.ok (), fs')) :
    mishaps.copying = .none ∧ ∃ content fs₁,
      runOn (writeBytes destination content) fs = (.ok (), fs₁) := by
  obtain ⟨file, fs₁, hopen, hcopy⟩ := runOn_bind_eq_ok.mp h
  obtain rfl : fs₁ = fs := by
    have hreads := reads_openFile (p := source) fs
    rwa [hopen] at hreads
  rcases hcopying : mishaps.copying with _ | ⟨copied, e⟩
  all_goals rw [hcopying] at hcopy
  · obtain ⟨_, fs₂, hwrite, -⟩ := runOn_bind_eq_ok.mp hcopy
    exact ⟨rfl, file.content, fs₂, hwrite⟩
  · cases copied with
    | none => cases hcopy
    | some content =>
      obtain ⟨_, _, _, hthrow⟩ := runOn_bind_eq_ok.mp hcopy
      cases hthrow

theorem packing_of_pack {format : ArchiveFormat}
    (h : runOn (pack archiver mishaps format o) fs = (.ok (), fs')) : mishaps.packing = .none := by
  unfold pack at h
  rcases hpacking : mishaps.packing with _ | ⟨written, fault⟩
  · rfl
  · rw [hpacking] at h
    obtain ⟨_, _, _, h⟩ := runOn_bind_eq_ok.mp h
    cases h

/-- Then nothing went wrong by itself that leaves more than it should. -/
theorem tame_of_run
    (h : runOn (run archiver mishaps ⟨target, source⟩ program version outDir policy) fs =
      (.ok (.ok artifact), fs')) : mishaps.Tame := by
  obtain ⟨o, fs₁, fs₂, -, hstage, hpack⟩ := staged_of_run h
  obtain ⟨_, _, -, hclear, hcopy⟩ := steps_of_stage hstage
  refine ⟨(clearing_of_clear hclear).1, fun copied e h => ?_, fun written fault h => ?_⟩
  · rw [(copying_of_copyFile hcopy).1] at h
    cases h
  · rw [packing_of_pack hpack] at h
    cases h

/-! ## The directory of the artifact -/

theorem locate_of_writeBytes {p : Path} {content : Bytes}
    (h : runOn (writeBytes p content) fs = (.ok (), fs')) : ∃ loc, fs.locate p = .ok loc := by
  rw [runOn_writeBytes] at h
  rcases hlocate : fs.locate p with fault | loc
  · rw [FileRequest.run_of_lost (r := FileRequest.writeBytes p content) hlocate] at h
    cases h
  · exact ⟨loc, rfl⟩

/-- **Staging finds its directory.** The copy was written, so once the directory for all artifacts
is there, the one that the names lead to is there as well. -/
theorem reaches_of_stage {x : Layout} {fs₁ : FileSystem}
    (h : runOn (stage mishaps source outDir x.outputs) fs = (.ok (), fs'))
    (hmake : runOn (makeDirectories outDir) fs = (.ok (), fs₁)) : ∃ base, fs₁.Reaches x.dir base := by
  obtain ⟨fs₁', fs₂, hmake', hclear, hcopy⟩ := steps_of_stage h
  obtain rfl : fs₁' = fs₁ := congrArg Prod.snd (hmake'.symm.trans hmake)
  obtain ⟨-, content, fs₃, hwrite⟩ := copying_of_copyFile hcopy
  obtain ⟨loc, hlocate⟩ := locate_of_writeBytes hwrite
  obtain ⟨base, hreaches, -, -⟩ := reaches_of_locate (x.ne_up .renamed) hlocate
  have hsame : SameDirectories fs₁' fs₂ := (touches_clear.of_runOn hclear).directories
  exact ⟨base, hreaches.of_sameDirectories hsame.symm⟩

/-- **What is left.** A packaging that gives an artifact leaves it with its sidecar, wherever the
names lead. -/
theorem packed_of_run (htarget : target ∈ BuildTarget.all)
    (h : runOn (run archiver mishaps ⟨target, source⟩ program version outDir policy) fs =
      (.ok (.ok artifact), fs')) :
    ∃ dir base front content,
      Packed (Layout.of target dir base front) (policy.formatFor target) content fs' ∧
        artifact = ⟨program, version, target.triple, (Layout.of target dir base front).path .archive,
          ⟨Sha256.digest content, (Layout.of target dir base front).name .archive⟩⟩ := by
  obtain ⟨dir, front, -, -, houtputs⟩ := exists_layout htarget program version outDir
  obtain ⟨o, fs₁, -, ho, hstage, -⟩ := staged_of_run h
  obtain rfl : (Layout.of target dir [] front).outputs = o :=
    Except.ok.inj ((houtputs []).symm.trans ho)
  obtain ⟨fs₂, -, hmake, -, -⟩ := steps_of_stage hstage
  obtain ⟨base, hreaches⟩ := reaches_of_stage hstage hmake
  have hrun := ensures_run (x := Layout.of target dir base front) (tame_of_run h) archiver source
    policy (houtputs base) fun fs₂' hmake' => by
      obtain rfl : fs₂ = fs₂' := congrArg Prod.snd (hmake.symm.trans hmake')
      exact hreaches
  obtain ⟨-, hartifact⟩ := hrun.of_runOn_ok rfl h
  obtain ⟨content, hpacked, hfields⟩ := hartifact artifact rfl
  exact ⟨dir, base, front, content, hpacked, hfields⟩

/-! ## Verification -/

/-- What a verification says of a fresh artifact. -/
def verdict (artifact : Artifact) (format : SidecarFormat) : Except PackagingFailure Checksum :=
  if Checksum.ReadsBack artifact.archive.name format then .ok artifact.checksum
  else .error {
    platform := Verification.platformFor artifact.archive.name
    kind := .checksumFailed
    message := "missing or malformed sidecar: " ++ sidecarName artifact.archive.name
    hint := none
    path := (sidecarPath artifact.archive).toOption }

theorem Packed.verified {dir : Path} {base : Location} {front : String} {format : SidecarFormat}
    {content : Bytes} {fs : FileSystem}
    (h : Packed (Layout.of target dir base front) format content fs)
    (hartifact : artifact = ⟨program, version, target.triple,
      (Layout.of target dir base front).path .archive,
      ⟨Sha256.digest content, (Layout.of target dir base front).name .archive⟩⟩) :
    runOn (Verification.run none artifact.archive) fs = (.ok (verdict artifact format), fs) := by
  obtain ⟨x, hx⟩ : ∃ x, x = Layout.of target dir base front := ⟨_, rfl⟩
  have hpath : sidecarPath (x.path .archive) = .ok (x.path .sidecar) :=
    hx ▸ Layout.sidecarPath_of target dir base front
  have hname : x.name .sidecar = sidecarName (x.name .archive) :=
    hx ▸ (Layout.sidecarName_of target dir base front).symm
  have hmark : '_' ∈ (x.name .archive).toList := by
    rw [hx]
    simp [Layout.of, Role.tail, BuildTarget.archiveTail]
  rw [← hx] at h hartifact
  have hentry : ∀ role, (x.path role).name = x.name role := fun role => Path.name_entry _ _
  have hlocate : ∀ role, fs.locate (x.path role) = .ok (x.location role) := fun role =>
    h.reaches.locate (x.ne_up role) (h.opened role)
  have hfile : fs.find? (x.path .archive) = .ok (some (.file ⟨content, newFileMode, 0⟩)) :=
    find?_eq_some_iff.mpr ⟨_, hlocate .archive, h.archive⟩
  have hhashed : Verification.hashed none (x.path .archive) ⟨content, newFileMode, 0⟩ =
      .ok (Sha256.digest content) :=
    (Verification.hashed_eq_ok_iff hfile).mpr
      ⟨content, ⟨_, _, hlocate .archive, h.archive, mayBeRead_new _, rfl⟩, rfl⟩
  -- the sidecar holds what was rendered, and gives it back or nothing
  have hfinds := Checksum.Finds.read
    ⟨_, _, hlocate .sidecar, h.sidecar, mayBeRead_new _, rfl⟩
  rw [hentry, hname, sidecarName, Text.dropEnd_append, sidecarText,
    ← Checksum.ofSidecarText?_unixLines, Checksum.ofSidecarText?_render content hmark (by decide)]
    at hfinds
  subst hartifact
  rw [verdict]
  dsimp only
  rw [hentry]
  by_cases hback : Checksum.ReadsBack (x.name .archive) format
  · rw [if_pos hback] at hfinds ⊢
    exact Verification.runOn_run_of_judges (.agrees hpath hfile hfinds hhashed)
  · rw [if_neg hback] at hfinds ⊢
    have hrun : runOn (Verification.run none (x.path .archive)) fs = _ :=
      Verification.runOn_run_of_judges (.unrecorded hpath hfile hfinds)
    rw [hrun, hpath, hentry, hentry, hname]
    rfl

/-- **Fresh artifacts.** Right behind a packaging, a verification of the archive gives the checksum
of the artifact. Only if the sidecar is a named one and the name of the archive has a blank, it says
that the sidecar is missing or malformed. -/
theorem verification_of_packaged (htarget : target ∈ BuildTarget.all)
    (h : runOn (run archiver mishaps ⟨target, source⟩ program version outDir policy) fs =
      (.ok (.ok artifact), fs')) :
    runOn (Verification.run none artifact.archive) fs' =
      (.ok (verdict artifact (policy.formatFor target)), fs') := by
  obtain ⟨dir, base, front, content, hpacked, hartifact⟩ := packed_of_run htarget h
  exact hpacked.verified hartifact

/-! ## A name with a blank -/

/-- A packaging for a target with named sidecars. -/
def freshRun (program : String) : Except Fault (Except PackagingFailure Artifact) × FileSystem :=
  runOn (run Archive.storing .none ⟨.macos, ⟨.root, ["p"]⟩⟩ program "v1" ⟨.root, ["dist"]⟩ .perTarget)
    rehearsedFiles

/-- The name of the archive that it gives. -/
def freshName? (program : String) : Option String :=
  match (freshRun program).1 with
  | .ok (.ok artifact) => some artifact.archive.name
  | _ => none

set_option maxRecDepth 100000 in
theorem freshName?_eq : freshName? "p" = some "p_v1_x86_64-apple-darwin.zip" ∧
    freshName? "my tool" = some "my tool_v1_x86_64-apple-darwin.zip" := by
  decide

theorem exists_fresh {program name : String} (h : freshName? program = some name) :
    ∃ artifact fs', freshRun program = (.ok (.ok artifact), fs') ∧ artifact.archive.name = name := by
  rw [freshName?] at h
  rcases hrun : freshRun program with ⟨_ | _ | artifact, fs'⟩
  all_goals
    rw [hrun] at h
    cases h
  exact ⟨artifact, fs', rfl, rfl⟩

/-- **A blank loses the checksum.** The archive was packaged without a failure, and is said to have
no sidecar or a malformed one. -/
theorem blank_loses_checksum :
    ∃ artifact fs', freshRun "my tool" = (.ok (.ok artifact), fs') ∧
      (runOn (Verification.run none artifact.archive) fs').1 ≠ .ok (.ok artifact.checksum) := by
  obtain ⟨artifact, fs', hrun, hname⟩ := exists_fresh freshName?_eq.2
  refine ⟨artifact, fs', hrun, ?_⟩
  obtain ⟨dir, base, front, content, hpacked, hartifact⟩ := packed_of_run (by decide) hrun
  have hlost : ¬ Checksum.ReadsBack artifact.archive.name
      (SidecarPolicy.perTarget.formatFor .macos) := by
    rw [hname]
    decide
  rw [hpacked.verified hartifact, verdict, if_neg hlost]
  nofun

/-- Without a blank it is verified. -/
theorem verification_of_packaged_freshRun :
    ∃ artifact fs', freshRun "p" = (.ok (.ok artifact), fs') ∧
      (runOn (Verification.run none artifact.archive) fs').1 = .ok (.ok artifact.checksum) := by
  obtain ⟨artifact, fs', hrun, hname⟩ := exists_fresh freshName?_eq.1
  refine ⟨artifact, fs', hrun, ?_⟩
  have hback : Checksum.ReadsBack artifact.archive.name
      (SidecarPolicy.perTarget.formatFor .macos) := by
    rw [hname]
    decide
  rw [verification_of_packaged (by decide) hrun, verdict, if_pos hback]

end Shipyard.Packaging
