import Shipyard.Proofs.FileSystem.Look
import Shipyard.Proofs.Packaging.Fresh
import Shipyard.Proofs.Packaging.Places

/-!
# What a failed packaging leaves

A packaging that fails behind the copy takes away its outputs, all three of them, whatever they hold
(`failed_leaves_nothing`). The first step is different: where it stops while old outputs are
removed, some of these are left, and a copy that breaks off stays (`unstaged_leaves_halves`).
-/

namespace Shipyard.Packaging

open FileSystem Disk

variable {archiver : Archiver} {mishaps : Mishaps} {target : BuildTarget} {source outDir : Path}
  {program version : String} {policy : SidecarPolicy} {fs fs' fs₁ : FileSystem} {o : Outputs}
  {failure : PackagingFailure} {fault : Fault} {p : Path} {ps : List Path}

/-! ## Vacant outputs -/

/-- Behind what was removed there is no file. -/
theorem vacant_of_removeAll (h : runOn (removeAll ps) fs = (.ok (), fs')) (hp : p ∈ ps) :
    fs'.Vacant p := by
  have hsame := ((touches_removeAll ps).of_runOn h).directories
  refine vacant_iff.mpr fun l f hlocate hnode => ?_
  rw [node?_of_removeAll h hp (hsame.locate.mp hlocate)] at hnode
  cases hnode

theorem vacant_of_makeRoom (h : runOn (makeRoom mishaps outDir o) fs = (.ok (), fs'))
    (hp : p ∈ o.paths) : fs'.Vacant p := by
  refine vacant_iff.mpr fun l f hlocate hnode => ?_
  rw [node?_of_makeRoom h hp hlocate] at hnode
  cases hnode

/-! ## Copies that fail -/

/-- A copy that fails has written nothing, or it has broken off. -/
theorem cases_of_copyFile_error {destination : Path}
    (h : runOn (copyFile mishaps source destination) fs = (.error fault, fs')) :
    fs' = fs ∨ ∃ part e, mishaps.copying = some (some part, e) ∧
      runOn (writeBytes destination part) fs = (.ok (), fs') := by
  rw [copyFile, runOn_bind] at h
  rcases hopen : runOn (openFile source) fs with ⟨fault' | file, fs₁⟩
  all_goals
    have hread := reads_openFile (p := source) fs
    rw [hopen] at h hread
    obtain rfl : fs₁ = fs := hread
  · cases h
    exact .inl rfl
  dsimp only at h
  rcases hcopying : mishaps.copying with _ | ⟨_ | part, e⟩
  all_goals
    rw [hcopying] at h
    dsimp only at h
  -- a copy is written before its status is set, and that never fails behind a path that was written
  · rw [runOn_bind] at h
    rcases hwrite : runOn (writeBytes destination file.content) fs₁ with ⟨fault' | u, fs₂⟩
    all_goals rw [hwrite] at h
    · cases h
      exact .inl (eq_of_writeBytes_error hwrite)
    · obtain ⟨l, hlocate⟩ := locate_of_writeBytes hwrite
      have hsame := ((touches_writeBytes _ _).of_runOn hwrite).directories
      dsimp only at h
      rw [runOn_setStatus, FileRequest.run_of_found
        (r := FileRequest.setStatus destination file.mode file.modified)
        (hsame.locate.mpr hlocate)] at h
      rcases hnode : fs₂.node? l with _ | _ | g
      all_goals
        rw [hnode] at h
        cases h
  · cases h
    exact .inl rfl
  · rw [runOn_bind] at h
    rcases hwrite : runOn (writeBytes destination part) fs₁ with ⟨fault' | u, fs₂⟩
    all_goals
      rw [hwrite] at h
      cases h
    · exact .inl (eq_of_writeBytes_error hwrite)
    · exact .inr ⟨part, e, rfl, hwrite⟩

/-- What was written is found. -/
theorem find?_of_writeBytes {content : Bytes}
    (h : runOn (writeBytes p content) fs = (.ok (), fs')) :
    ∃ f, fs'.find? p = .ok (some (.file f)) ∧ f.content = content := by
  obtain ⟨l, hlocate⟩ := locate_of_writeBytes h
  have hsame := ((touches_writeBytes p content).of_runOn h).directories
  rw [runOn_writeBytes] at h
  have hnode := FileRequest.node?_run (r := FileRequest.writeBytes p content) hlocate l
  rw [h, if_pos rfl] at hnode
  rw [FileRequest.run_of_found (r := FileRequest.writeBytes p content) hlocate] at h
  rw [find?_of_locate (hsame.locate.mpr hlocate), hnode]
  rcases hfound : fs.node? l with _ | _ | f
  all_goals
    rw [hfound] at h
    dsimp only [FileRequest.writeBytes] at h ⊢
  · exact ⟨_, rfl, rfl⟩
  · cases h
  · by_cases hwritten : f.mayBeWritten = true
    · rw [if_pos hwritten]
      exact ⟨_, rfl, rfl⟩
    · rw [if_neg hwritten] at h
      cases h

/-! ## Later failures -/

/-- Behind the copy a packaging fails while it packs or while it certifies, and takes away two of
its outputs. -/
theorem failure_cases (houtputs : outputs target program version outDir = .ok o)
    (hstage : runOn (stage mishaps source outDir o) fs = (.ok (), fs₁))
    (hrun : runOn (run archiver mishaps ⟨target, source⟩ program version outDir policy) fs =
      (.ok (.error failure), fs')) :
    (∃ fault fs₂, runOn (pack archiver mishaps target.archiveFormat o) fs₁ = (.error fault, fs₂) ∧
        runOn (removeAll [o.renamed, o.archive]) fs₂ = (.ok (), fs')) ∨
      ∃ fs₂ fs₃ fs₄ fault,
        runOn (pack archiver mishaps target.archiveFormat o) fs₁ = (.ok (), fs₂) ∧
        runOn (removeAll [o.renamed]) fs₂ = (.ok (), fs₃) ∧
        runOn (certify mishaps (policy.formatFor target) o) fs₃ = (.error fault, fs₄) ∧
        runOn (removeAll [o.archive, o.sidecar]) fs₄ = (.ok (), fs') := by
  unfold run at hrun
  simp only [houtputs, pure_bind] at hrun
  rw [runOn_bind_ok (runOn_attempt_eq_ok.mpr hstage)] at hrun
  obtain ⟨packed, fs₂, hpack, hrun⟩ := runOn_bind_eq_ok.mp hrun
  cases packed with
  | error fault =>
    -- packing failed
    obtain ⟨_, fs₃, hremove, hrun⟩ := runOn_bind_eq_ok.mp hrun
    cases hrun
    left
    rw [runOn_attemptPacking] at hpack
    rcases hpacked : runOn (pack archiver mishaps target.archiveFormat o) fs₁ with
      ⟨fault' | u, fs₂'⟩
    all_goals rw [hpacked] at hpack
    · cases fault' <;> cases hpack <;> exact ⟨_, _, rfl, hremove⟩
    · cases hpack
  | ok u =>
  obtain ⟨_, fs₃, hremove, hrun⟩ := runOn_bind_eq_ok.mp hrun
  obtain ⟨certified, fs₄, hcertify, hrun⟩ := runOn_bind_eq_ok.mp hrun
  cases certified with
  | ok checksum => cases hrun
  | error e =>
  -- certifying failed
  obtain ⟨_, fs₅, hclean, hrun⟩ := runOn_bind_eq_ok.mp hrun
  cases hrun
  right
  rw [runOn_attempt] at hcertify
  rcases hcertified : runOn (certify mishaps (policy.formatFor target) o) fs₃ with
    ⟨fault' | checksum, fs₄'⟩
  all_goals rw [hcertified] at hcertify
  · cases fault' <;> cases hcertify
    exact ⟨fs₂, fs₃, _, _, runOn_attemptPacking_eq_ok.mp hpack, hremove, hcertified, hclean⟩
  · cases hcertify

/-- **Later failures leave nothing.** Behind a copy that was made, a packaging that fails has left
none of its outputs. -/
theorem vacant_of_staged (houtputs : outputs target program version outDir = .ok o)
    (hstage : runOn (stage mishaps source outDir o) fs = (.ok (), fs₁))
    (hsidecar : fs₁.Vacant o.sidecar)
    (hrun : runOn (run archiver mishaps ⟨target, source⟩ program version outDir policy) fs =
      (.ok (.error failure), fs')) :
    fs'.Vacant o.archive ∧ fs'.Vacant o.sidecar ∧ fs'.Vacant o.renamed := by
  have hapart := places_ne houtputs
  rcases failure_cases houtputs hstage hrun with ⟨fault, fs₂, hpack, hremove⟩ |
    ⟨fs₂, fs₃, fs₄, fault, -, hremove, hcertify, hclean⟩
  -- the sidecar was removed ahead of the copy and is not there yet
  · obtain ⟨-, hrs, has⟩ := hapart fs₁.cwd
    have hpacked := touches_pack.of_runOn hpack
    have hsidecar₂ := hpacked.vacant hsidecar (by simpa using has)
    obtain ⟨-, hrs₂, has₂⟩ := hapart fs₂.cwd
    have hremoved := (touches_removeAll _).of_runOn hremove
    exact ⟨vacant_of_removeAll hremove (by simp),
      hremoved.vacant hsidecar₂ (by simpa using ⟨hrs₂, has₂⟩),
      vacant_of_removeAll hremove (by simp)⟩
  -- the copy was removed ahead of the sidecar
  · obtain ⟨-, hrs, -⟩ := hapart fs₃.cwd
    have hcertified := touches_certify.of_runOn hcertify
    have hrenamed₄ := hcertified.vacant (vacant_of_removeAll hremove (List.mem_singleton_self _))
      (by simpa using hrs.symm)
    obtain ⟨hra₄, hrs₄, -⟩ := hapart fs₄.cwd
    have hcleaned := (touches_removeAll _).of_runOn hclean
    exact ⟨vacant_of_removeAll hclean (by simp), vacant_of_removeAll hclean (by simp),
      hcleaned.vacant hrenamed₄ (by simpa using ⟨hra₄.symm, hrs₄.symm⟩)⟩

/-! ## Failures -/

/-- **What a failure leaves.** Once old outputs were removed, a packaging that fails leaves none of
its outputs, whichever step fails; only of a copy that broke off the part is there. If they could
not be removed, nothing was written: every file is an old one. -/
theorem failed_leaves_nothing
    (hrun : runOn (run archiver mishaps ⟨target, source⟩ program version outDir policy) fs =
      (.ok (.error failure), fs')) :
    ∃ o, outputs target program version outDir = .ok o ∧
      (∀ fs₁, runOn (makeRoom mishaps outDir o) fs = (.ok (), fs₁) →
        fs'.Vacant o.archive ∧ fs'.Vacant o.sidecar ∧
          (fs'.Vacant o.renamed ∨ failure.kind = .renameFailed ∧
            ∃ part e f, mishaps.copying = some (some part, e) ∧
              fs'.find? o.renamed = .ok (some (.file f)) ∧ f.content = part)) ∧
      ∀ fault fs₁, runOn (makeRoom mishaps outDir o) fs = (.error fault, fs₁) →
        failure.kind = .renameFailed ∧ fs' = fs₁ ∧ Cleared outDir o fs fs' := by
  obtain ⟨o, -, -, -, houtputs, -⟩ := exists_outputs target program version outDir
  refine ⟨o, houtputs, fun fs₁ hroom => ?_, fun fault fs₁ hroom => ?_⟩
  · -- with room made nothing is left but what a copying that was cut short has written
    have hvacant : ∀ p ∈ o.paths, fs₁.Vacant p := fun p hp => vacant_of_makeRoom hroom hp
    obtain ⟨hra, hrs, -⟩ := places_ne houtputs fs₁.cwd
    have hstaged : runOn (stage mishaps source outDir o) fs =
        runOn (copyFile mishaps source o.renamed) fs₁ := by
      rw [stage_eq, runOn_bind_ok hroom]
    rcases hcopy : runOn (copyFile mishaps source o.renamed) fs₁ with ⟨fault | u, fs₂⟩
    all_goals
      rw [hcopy] at hstaged
      have htouched := touches_copyFile.of_runOn hcopy
      have harchive := htouched.vacant (hvacant o.archive (by simp [Outputs.paths]))
        (by simpa using hra)
      have hsidecar := htouched.vacant (hvacant o.sidecar (by simp [Outputs.paths]))
        (by simpa using hrs)
    · have hends := run_of_unstaged houtputs archiver policy hstaged
      rw [hrun] at hends
      obtain ⟨rfl, hfailure⟩ := hends
      obtain ⟨_, ⟨⟩, hkind⟩ := hfailure _ rfl
      refine ⟨harchive, hsidecar, ?_⟩
      rcases cases_of_copyFile_error hcopy with rfl | ⟨part, e, hcopying, hwrite⟩
      · exact .inl (hvacant o.renamed (by simp [Outputs.paths]))
      · obtain ⟨f, hfound, hcontent⟩ := find?_of_writeBytes hwrite
        exact .inr ⟨hkind, part, e, f, hcopying, hfound, hcontent⟩
    · obtain ⟨harchive', hsidecar', hrenamed'⟩ := vacant_of_staged houtputs hstaged hsidecar hrun
      exact ⟨harchive', hsidecar', .inl hrenamed'⟩
  · -- without it staging ended there, and nothing was done behind the clearing
    have hcleared := cleared_makeRoom mishaps outDir o fs
    rw [hroom] at hcleared
    have hstaged : runOn (stage mishaps source outDir o) fs = (.error fault, fs₁) := by
      rw [stage_eq, runOn_bind_error hroom]
    have hends := run_of_unstaged houtputs archiver policy hstaged
    rw [hrun] at hends
    obtain ⟨rfl, hfailure⟩ := hends
    obtain ⟨_, ⟨⟩, hkind⟩ := hfailure _ rfl
    exact ⟨hkind, rfl, hcleared⟩

/-! ## A directory with old outputs -/

/-- The outputs for a target in a directory. -/
def agedOutputs : Outputs :=
  ⟨⟨.root, ["dist", "p_v1_x86_64-apple-darwin"]⟩, ⟨.root, ["dist", "p_v1_x86_64-apple-darwin.zip"]⟩,
    ⟨.root, ["dist", "p_v1_x86_64-apple-darwin.zip.sha256sum"]⟩⟩

/-- A program, and what an earlier packaging has left of it. -/
def agedFiles : FileSystem :=
  ((rehearsedFiles.put ["dist"] .directory).put ["dist", "p_v1_x86_64-apple-darwin.zip"]
    (.file ⟨[], newFileMode, 0⟩)).put ["dist", "p_v1_x86_64-apple-darwin.zip.sha256sum"]
      (.file ⟨[], newFileMode, 0⟩)

/-- How another packaging ends. -/
def agedRun (mishaps : Mishaps) : Except Fault (Except PackagingFailure Artifact) × FileSystem :=
  runOn (run Archive.storing mishaps ⟨.macos, ⟨.root, ["p"]⟩⟩ "p" "v1" ⟨.root, ["dist"]⟩ .perTarget)
    agedFiles

/-- Whether it fails. -/
def agedFails (mishaps : Mishaps) : Bool := (agedRun mishaps).1 matches .ok (.error _)

theorem exists_failure (h : agedFails mishaps = true) :
    ∃ failure fs', agedRun mishaps = (.ok (.error failure), fs') := by
  rw [agedFails] at h
  rcases hrun : agedRun mishaps with ⟨_ | failure | artifact, fs'⟩
  all_goals rw [hrun] at h
  · cases h
  · exact ⟨failure, fs', rfl⟩
  · cases h

/-- The sidecar cannot be written to its end. -/
def tornSidecar : Mishaps := { writing := some ([0], ⟨.inputOutput, .none⟩) }

/-- The sidecar cannot be removed. -/
def stuckSidecar : Mishaps := { clearing := some (2, ⟨.inputOutput, .none⟩) }

/-- The copy cannot be written to its end. -/
def tornCopy : Mishaps := { copying := some (some [0], ⟨.inputOutput, .none⟩) }

set_option maxRecDepth 100000 in
theorem agedFails_tornSidecar : agedFails tornSidecar = true ∧
    (runOn (makeRoom tornSidecar ⟨.root, ["dist"]⟩ agedOutputs) agedFiles).1 = .ok () := by
  decide

/-- Of a sidecar that is written in part nothing is left, nor of the pair before it. -/
theorem failed_leaves_nothing_tornSidecar :
    ∃ failure fs', agedRun tornSidecar = (.ok (.error failure), fs') ∧
      fs'.Vacant agedOutputs.renamed ∧ fs'.Vacant agedOutputs.archive ∧
        fs'.Vacant agedOutputs.sidecar := by
  obtain ⟨hfails, hroom⟩ := agedFails_tornSidecar
  obtain ⟨failure, fs', hrun⟩ := exists_failure hfails
  rw [agedRun] at hrun
  obtain ⟨o, houtputs, hsettled, -⟩ := failed_leaves_nothing hrun
  obtain rfl : agedOutputs = o := by
    have haged : outputs .macos "p" "v1" ⟨.root, ["dist"]⟩ = .ok agedOutputs := by decide
    exact Except.ok.inj (haged.symm.trans houtputs)
  rcases hmade : runOn (makeRoom tornSidecar ⟨.root, ["dist"]⟩ agedOutputs) agedFiles with ⟨r, fs₁⟩
  rw [hmade] at hroom
  obtain rfl : r = .ok () := hroom
  obtain ⟨harchive, hsidecar, hrenamed | ⟨-, _, _, _, hcopying, -⟩⟩ := hsettled fs₁ hmade
  · exact ⟨failure, fs', hrun, hrenamed, harchive, hsidecar⟩
  · cases hcopying

/-- **The first step leaves halves.** A removal that stops ahead of the sidecar leaves it without
its archive, and a copy that breaks off stays. -/
theorem unstaged_leaves_halves :
    (agedFails stuckSidecar = true ∧
        (agedRun stuckSidecar).2.find? agedOutputs.archive = .ok none ∧
        (agedRun stuckSidecar).2.find? agedOutputs.sidecar =
          .ok (some (.file ⟨[], newFileMode, 0⟩))) ∧
      agedFails tornCopy = true ∧
        (agedRun tornCopy).2.find? agedOutputs.renamed =
          .ok (some (.file ⟨[0], newFileMode, 0⟩)) := by
  decide

end Shipyard.Packaging
