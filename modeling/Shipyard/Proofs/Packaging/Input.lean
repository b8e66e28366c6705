import Shipyard.Proofs.Packaging.Places
import Shipyard.Proofs.Packaging.Staging

/-!
# The program of a packaging

A packaging reads a program that is somewhere in the files, and does nothing to it, unless the
program is in the place of an output (`program_kept`). Old outputs are removed ahead of the copy, so
a program in such a place may be gone before it is read (`program_in_place_of_output`).
-/

namespace Shipyard.Packaging

open FileSystem Disk

variable {archiver : Archiver} {mishaps : Mishaps} {target : BuildTarget} {source outDir : Path}
  {program version : String} {policy : SidecarPolicy} {fs fs' : FileSystem} {o : Outputs}
  {l : Location} {f : File} {result : Except Fault (Except PackagingFailure Artifact)}

/-! ## Kept programs -/

theorem Cleared.locate (h : Cleared outDir o fs fs') (hlocate : fs.locate source = .ok l) :
    fs'.locate source = .ok l := by
  obtain ⟨fs₁, hgrown, htouched⟩ := h.touched
  exact htouched.directories.locate.mpr (hgrown.locate hlocate)

/-- **The program is kept.** Whatever fails in a packaging, the program is the same file behind its
path afterwards, unless its place is that of an output. There it may be gone; then the packaging has
ended with the failure that it cannot be copied, or with a fault. -/
theorem program_kept (hlocate : fs.locate source = .ok l) (hnode : fs.node? l = some (.file f))
    (hrun : runOn (run archiver mishaps ⟨target, source⟩ program version outDir policy) fs =
      (result, fs')) :
    ∃ o, outputs target program version outDir = .ok o ∧ fs'.locate source = .ok l ∧
      ((∀ p ∈ o.paths, p.place fs.cwd ≠ l) → fs'.node? l = some (.file f)) ∧
      (fs'.node? l = some (.file f) ∨ fs'.node? l = none ∧
        ∀ r, result = .ok r → ∃ failure, r = .error failure ∧ failure.kind = .renameFailed) := by
  obtain ⟨o, -, -, -, houtputs, -⟩ := exists_outputs target program version outDir
  have htouched := touched_run houtputs archiver mishaps source policy fs
  rw [hrun] at htouched
  obtain ⟨fs₁, hgrown, htouched⟩ := htouched
  refine ⟨o, houtputs, htouched.directories.locate.mpr (hgrown.locate hlocate), ?_, ?_⟩
  · intro hapart
    rw [htouched.node l fun p hp hfound => hapart p hp ?_, hgrown.file_iff.mpr hnode]
    rw [eq_place_of_locate hfound, hgrown.cwd]
  rcases stage_cases mishaps source outDir o fs with ⟨fault, fs₂, hcleared, hstage⟩ |
    ⟨fs₂, hcleared, hvacant, hstage⟩
  -- nothing is copied, and the files are those that clearing has left
  · have hends := run_of_unstaged houtputs archiver policy hstage
    rw [hrun] at hends
    obtain ⟨rfl, hfailure⟩ := hends
    exact (hcleared.file l f hnode).imp_right fun hgone => ⟨hgone, hfailure⟩
  rcases hcleared.file l f hnode with hkept | hgone
  -- what is still there after clearing is behind no output, and nothing else is touched any more
  · left
    have hlater := touched_of_copyFile houtputs archiver policy hstage
    rw [hrun] at hlater
    rw [hlater.node l fun p hp hfound => ?_, hkept]
    rw [hvacant p hp l hfound] at hkept
    cases hkept
  -- what is gone cannot be opened
  · right
    have hopen : runOn (openFile source) fs₂ = (.error (osError .noEntry source), fs₂) := by
      refine Prod.ext ?_ (reads_openFile fs₂)
      rw [runOn_openFile, FileRequest.run_of_found (r := FileRequest.openFile source)
        (hcleared.locate hlocate), hgone]
      rfl
    have hcopy : runOn (copyFile mishaps source o.renamed) fs₂ =
        (.error (osError .noEntry source), fs₂) := runOn_bind_error hopen
    have hends := run_of_unstaged houtputs archiver policy (hstage.trans hcopy)
    rw [hrun] at hends
    obtain ⟨rfl, hfailure⟩ := hends
    exact ⟨hgone, hfailure⟩

/-! ## A program in the directory of the outputs -/

/-- A program in the directory for the outputs. -/
def neighborFiles (name : String) : FileSystem :=
  ((FileSystem.empty []).put ["dist"] .directory).put ["dist", name]
    (.file ⟨Utf8.encode "p", 0o755, 0⟩)

/-- How its packaging ends. -/
def neighborRun (mishaps : Mishaps) (name : String) :
    Except Fault (Except PackagingFailure Artifact) × FileSystem :=
  runOn (run Archive.storing mishaps ⟨.macos, ⟨.root, ["dist", name]⟩⟩ "p" "v1" ⟨.root, ["dist"]⟩
    .perTarget) (neighborFiles name)

/-- The archive cannot be written to its end. -/
def fullDisk : Mishaps := { packing := some ([0], .os ⟨.inputOutput, .none⟩) }

theorem outputs_neighbor : outputs .macos "p" "v1" ⟨.root, ["dist"]⟩ =
    .ok ⟨⟨.root, ["dist", "p_v1_x86_64-apple-darwin"]⟩,
      ⟨.root, ["dist", "p_v1_x86_64-apple-darwin.zip"]⟩,
      ⟨.root, ["dist", "p_v1_x86_64-apple-darwin.zip.sha256sum"]⟩⟩ := by
  decide

/-- Under a name of its own the program is kept, here by a packaging that fails. -/
theorem program_kept_neighbor :
    (neighborFiles "p").locate ⟨.root, ["dist", "p"]⟩ = .ok ["dist", "p"] ∧
      (neighborFiles "p").node? ["dist", "p"] = some (.file ⟨Utf8.encode "p", 0o755, 0⟩) ∧
      (neighborRun fullDisk "p").2.node? ["dist", "p"] =
        some (.file ⟨Utf8.encode "p", 0o755, 0⟩) := by
  have hlocate : (neighborFiles "p").locate ⟨.root, ["dist", "p"]⟩ = .ok ["dist", "p"] := by
    decide
  have hnode : (neighborFiles "p").node? ["dist", "p"] =
      some (.file ⟨Utf8.encode "p", 0o755, 0⟩) := by
    rfl
  have hrun : runOn (run Archive.storing fullDisk ⟨.macos, ⟨.root, ["dist", "p"]⟩⟩ "p" "v1"
      ⟨.root, ["dist"]⟩ .perTarget) (neighborFiles "p") =
        ((neighborRun fullDisk "p").1, (neighborRun fullDisk "p").2) := (Prod.eta _).symm
  obtain ⟨o, houtputs, -, hkept, -⟩ := program_kept hlocate hnode hrun
  cases outputs_neighbor.symm.trans houtputs
  exact ⟨hlocate, hnode, hkept (by decide)⟩

/-- **Under the name of an output it is lost.** The program is removed as an old copy of itself. -/
theorem program_in_place_of_output :
    (neighborFiles "p_v1_x86_64-apple-darwin").find?
        ⟨.root, ["dist", "p_v1_x86_64-apple-darwin"]⟩ =
          .ok (some (.file ⟨Utf8.encode "p", 0o755, 0⟩)) ∧
      (neighborRun .none "p_v1_x86_64-apple-darwin").2.find?
        ⟨.root, ["dist", "p_v1_x86_64-apple-darwin"]⟩ = .ok none := by
  exact ⟨rfl, rfl⟩

end Shipyard.Packaging
