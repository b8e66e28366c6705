import Shipyard.Proofs.FileSystem.Touch
import Shipyard.Proofs.Packaging.Steps

/-!
# The places of the outputs

For every target, program and version a packaging has three outputs, and their paths lead to three
different places (`nodup_places`), however the names are made up. Apart from the directory that it
makes, a packaging touches nothing but what is behind these paths: each step is given with the
outputs that it touches, and the removals with what they take away.
-/

namespace Shipyard.Packaging

open FileSystem Disk

variable {target : BuildTarget} {program version : String} {source outDir p : Path} {o : Outputs}
  {mishaps : Mishaps} {fs fs' : FileSystem} {ps : List Path} {l : Location}

/-! ## Outputs -/

/-- The paths of the outputs, in the order of their removal. -/
def Outputs.paths (o : Outputs) : List Path := [o.renamed, o.archive, o.sidecar]

theorem length_suffix (format : ArchiveFormat) : 4 ≤ format.suffix.length := by
  cases format <;> decide

theorem suffix_no_slash (format : ArchiveFormat) : '/' ∉ format.suffix.toList := by
  cases format <;> decide

theorem length_sidecarName (archiveName : String) :
    archiveName.length < (sidecarName archiveName).length := by
  rw [sidecarName, String.length_append]
  have : 0 < sidecarSuffix.length := by decide
  omega

/-- **Every packaging has outputs.** Archive and sidecar are in one directory, and the copy is there
as well under a shorter name, or it would have to be that directory. -/
theorem exists_outputs (target : BuildTarget) (program version : String) (outDir : Path) :
    ∃ o dir front name, outputs target program version outDir = .ok o ∧
      (o.renamed = dir ∨ o.renamed = dir.entry front) ∧ front.length < name.length ∧
      4 ≤ name.length ∧ o.archive = dir.entry name ∧ o.sidecar = dir.entry (sidecarName name) := by
  obtain ⟨q, front, -, hfront, hread⟩ := Path.exists_child (target.binaryName program version)
  obtain ⟨name, hname⟩ : ∃ name, name = front ++ target.archiveFormat.suffix := ⟨_, rfl⟩
  have hlength : name.length = front.length + target.archiveFormat.suffix.length := by
    rw [hname, String.length_append]
  have hsuffix := length_suffix target.archiveFormat
  have hrenamed : outDir.child (target.binaryName program version) = outDir / q ∨
      outDir.child (target.binaryName program version) = (outDir / q).entry front := by
    have hbinary := hread "" (by simp)
    rw [String.append_empty, String.append_empty] at hbinary
    rw [Path.child, hbinary]
    rcases q.child_of_no_slash hfront with hchild | hchild
    · exact .inl (by rw [hchild])
    · exact .inr (by rw [hchild, Path.join_entry])
  -- with its suffix the text is longer than the two that are no names
  have hisName : Path.IsName name := by
    refine ⟨?_, ?_, by simp [hname, hfront, suffix_no_slash]⟩
    all_goals
      rintro rfl
      have hlong : 4 ≤ String.length _ := hsuffix.trans (hlength ▸ Nat.le_add_left ..)
      exact absurd hlong (by decide)
  have harchive : outDir.child (target.archiveName program version) = (outDir / q).entry name := by
    rw [Path.child, BuildTarget.archiveName, hread _ (suffix_no_slash _), ← hname,
      q.child_of_isName hisName, Path.join_entry]
  have hsidecar : sidecarPath ((outDir / q).entry name) =
      .ok ((outDir / q).entry (sidecarName name)) := by
    rw [sidecarPath, Path.name_entry]
    simp [Path.withName?, Path.entry]
  refine ⟨⟨outDir.child (target.binaryName program version), (outDir / q).entry name,
    (outDir / q).entry (sidecarName name)⟩, outDir / q, front, name, ?_, hrenamed, by omega,
    by omega, rfl, rfl⟩
  unfold outputs
  rw [harchive]
  dsimp only
  rw [hsidecar]
  rfl

/-- **The outputs are apart.** No two of their paths lead to the same place. -/
theorem nodup_places (h : outputs target program version outDir = .ok o) (cwd : Location) :
    (o.paths.map (·.place cwd)).Nodup := by
  obtain ⟨o', dir, front, name, ho, hrenamed, hfront, hlong, harchive, hsidecar⟩ :=
    exists_outputs target program version outDir
  obtain rfl : o' = o := Except.ok.inj (ho.symm.trans h)
  have hlonger := length_sidecarName name
  have hplace : ∀ s : String, 4 ≤ s.length → (dir.entry s).place cwd = dir.place cwd ++ [s] := by
    refine fun s hs => Path.place_entry ?_ cwd dir
    rintro rfl
    exact absurd hs (by decide)
  -- the place of the copy is the directory, or above it, or its name is a shorter one
  have hshort : ∀ s : String, front.length < s.length →
      o'.renamed.place cwd ≠ dir.place cwd ++ [s] := by
    intro s hs heq
    rcases hrenamed with hdir | hentry
    · rw [hdir] at heq
      simp at heq
    · by_cases hup : front = ".."
      · have hplace : o'.renamed.place cwd = (dir.place cwd).dropLast := by
          rw [hentry, hup, Path.place_eq, Path.entry, List.foldl_append]
          rfl
        have hcount := congrArg List.length (hplace.symm.trans heq)
        rw [List.length_dropLast, List.length_append, List.length_singleton] at hcount
        omega
      · rw [hentry, Path.place_entry hup] at heq
        obtain rfl : front = s := by simpa using heq
        omega
  have hdiffer : name ≠ sidecarName name := fun heq => by
    rw [← heq] at hlonger
    omega
  simp [Outputs.paths, harchive, hsidecar, hplace _ hlong, hplace _ (hlong.trans hlonger.le),
    hshort _ hfront, hshort _ (hfront.trans hlonger), hdiffer]

theorem places_ne (h : outputs target program version outDir = .ok o) (cwd : Location) :
    o.renamed.place cwd ≠ o.archive.place cwd ∧ o.renamed.place cwd ≠ o.sidecar.place cwd ∧
      o.archive.place cwd ≠ o.sidecar.place cwd := by
  simpa [Outputs.paths, and_assoc] using nodup_places h cwd

/-! ## Touched outputs -/

theorem touches_removeAll (ps : List Path) : Touches ps (removeAll ps) := by
  induction ps with
  | nil => exact touches_pure ()
  | cons p rest ih =>
    exact ((touches_removeIfPresent p).mono (by simp)).bind fun _ =>
      ih.mono (List.subset_cons_self ..)

theorem touches_clear : Touches o.paths (clear mishaps o) := by
  unfold clear
  dsimp only
  split
  · exact touches_removeAll _
  · exact ((touches_removeAll _).mono (List.take_subset ..)).bind fun _ => touches_throw _

theorem touches_copyFile {destination : Path} :
    Touches [destination] (copyFile mishaps source destination) := by
  refine reads_openFile.touches.bind fun file => ?_
  have hwrite := touches_writeBytes destination
  split
  · exact (hwrite _).bind fun _ => touches_setStatus destination _ _
  · split
    · exact (hwrite _).bind fun _ => touches_throw _
    · exact (touches_pure ()).bind fun _ => touches_throw _

theorem touches_pack {archiver : Archiver} {format : ArchiveFormat} :
    Touches [o.archive] (pack archiver mishaps format o) := by
  unfold pack
  split
  · exact reads_openFile.touches.bind fun file => touches_writeBytes o.archive _
  · exact (touches_writeBytes o.archive _).bind fun _ => touches_throw _

theorem touches_attemptPacking {d : Disk Unit} (h : Touches ps d) :
    Touches ps (attemptPacking d) := by
  intro fs
  have hfs := h fs
  rw [runOn_attemptPacking]
  rcases hrun : runOn d fs with ⟨fault | u, fs'⟩
  all_goals rw [hrun] at hfs
  · cases fault <;> exact hfs
  · exact hfs

theorem touches_certify {format : SidecarFormat} :
    Touches [o.sidecar] (certify mishaps format o) := by
  have hread : Reads (Checksum.ofFile o.archive) :=
    (reads_readBytes.bind fun _ => reads_pure).bind fun _ => reads_pure
  unfold certify
  split
  · exact touches_throw _
  · refine hread.touches.bind fun checksum => ?_
    split
    · exact (touches_writeBytes o.sidecar _).bind fun _ => touches_pure _
    · exact (touches_writeBytes o.sidecar _).bind fun _ => (touches_throw _).bind fun _ =>
        touches_pure _

/-! ## Removals -/

/-- A removal takes away and gives nothing. -/
theorem node?_removeAll (ps : List Path) (fs : FileSystem) (l : Location) :
    (runOn (removeAll ps) fs).2.node? l = fs.node? l ∨
      (runOn (removeAll ps) fs).2.node? l = none := by
  induction ps generalizing fs with
  | nil => exact .inl rfl
  | cons p rest ih =>
    have hfirst : ((FileRequest.removeIfPresent p).run fs).2.node? l = fs.node? l ∨
        ((FileRequest.removeIfPresent p).run fs).2.node? l = none := by
      rcases hlocate : fs.locate p with fault | loc
      · rw [FileRequest.run_of_lost (r := FileRequest.removeIfPresent p) hlocate]
        exact .inl rfl
      · rw [FileRequest.node?_run (r := FileRequest.removeIfPresent p) hlocate]
        by_cases hl : l = loc
        · rw [if_pos hl, hl]
          rcases fs.node? loc with _ | _ | f
          · exact .inr rfl
          · exact .inl rfl
          · exact .inr rfl
        · exact .inl (if_neg hl)
    rw [← runOn_removeIfPresent] at hfirst
    show (runOn (removeIfPresent p >>= fun _ => removeAll rest) fs).2.node? l = _ ∨
      (runOn (removeIfPresent p >>= fun _ => removeAll rest) fs).2.node? l = _
    rcases hrun : runOn (removeIfPresent p) fs with ⟨fault | u, fs₁⟩
    all_goals rw [hrun] at hfirst
    · rw [runOn_bind_error hrun]
      exact hfirst
    · rw [runOn_bind_ok hrun]
      rcases ih fs₁ with hsame | hnone
      · rw [hsame]
        exact hfirst
      · exact .inr hnone

/-- **What a removal that succeeds takes away:** all that its paths lead to. -/
theorem node?_of_removeAll (h : runOn (removeAll ps) fs = (.ok (), fs')) (hp : p ∈ ps)
    (hlocate : fs.locate p = .ok l) : fs'.node? l = none := by
  induction ps generalizing fs with
  | nil => exact absurd hp List.not_mem_nil
  | cons q rest ih =>
    obtain ⟨_, fs₁, hfirst, hrest⟩ := runOn_bind_eq_ok.mp h
    have hsame : SameDirectories fs fs₁ := ((touches_removeIfPresent q).of_runOn hfirst).directories
    rcases List.mem_cons.mp hp with rfl | hp
    · have hgone : fs₁.node? l = none := by
        rw [runOn_removeIfPresent,
          FileRequest.run_of_found (r := FileRequest.removeIfPresent p) hlocate] at hfirst
        have hnode := FileRequest.node?_run (r := FileRequest.removeIfPresent p) hlocate l
        rw [FileRequest.run_of_found (r := FileRequest.removeIfPresent p) hlocate, hfirst,
          if_pos rfl] at hnode
        rcases hfound : fs.node? l with _ | _ | f
        all_goals rw [hfound] at hfirst hnode
        · exact hnode
        · cases hfirst
        · exact hnode
      have hleft := node?_removeAll rest fs₁ l
      rw [show runOn (removeAll rest) fs₁ = (.ok (), fs') from hrest, hgone] at hleft
      exact hleft.elim id id
    · exact ih hrest hp (hsame.locate.mpr hlocate)

/-- Clearing takes away and gives nothing. -/
theorem node?_clear (mishaps : Mishaps) (o : Outputs) (fs : FileSystem) (l : Location) :
    (runOn (clear mishaps o) fs).2.node? l = fs.node? l ∨
      (runOn (clear mishaps o) fs).2.node? l = none := by
  unfold clear
  dsimp only
  split
  · exact node?_removeAll _ fs l
  · next count e _ =>
    have hleft := node?_removeAll ([o.renamed, o.archive, o.sidecar].take count) fs l
    rcases hrun : runOn (removeAll ([o.renamed, o.archive, o.sidecar].take count)) fs with
      ⟨fault | u, fs₁⟩
    all_goals rw [hrun] at hleft
    · rw [runOn_bind_error hrun]
      exact hleft
    · rw [runOn_bind_ok hrun]
      exact hleft

/-- If it succeeds, nothing is behind the paths of the outputs. -/
theorem node?_of_clear (h : runOn (clear mishaps o) fs = (.ok (), fs')) (hp : p ∈ o.paths)
    (hlocate : fs'.locate p = .ok l) : fs'.node? l = none := by
  have hsame := (touches_clear.of_runOn h).directories
  unfold clear at h
  rcases hclearing : mishaps.clearing with _ | ⟨count, e⟩
  all_goals rw [hclearing] at h
  · exact node?_of_removeAll h hp (hsame.locate.mp hlocate)
  · obtain ⟨_, _, _, h⟩ := runOn_bind_eq_ok.mp h
    cases h

/-! ## Making room -/

/-- What a packaging does before it copies the program: it makes the directory, and removes what an
earlier packaging has left. -/
def makeRoom (mishaps : Mishaps) (outDir : Path) (o : Outputs) : Disk Unit := do
  makeDirectories outDir
  clear mishaps o

theorem stage_eq : stage mishaps source outDir o =
    makeRoom mishaps outDir o >>= fun _ => copyFile mishaps source o.renamed := by
  rw [makeRoom, bind_assoc]
  rfl

/-- Files from which only outputs have been removed, and to which only directories have been
added. -/
structure Cleared (outDir : Path) (o : Outputs) (fs fs' : FileSystem) : Prop where
  /-- the directory for the outputs may have been made, and outputs are touched -/
  touched : ∃ fs₁, GrownAbove outDir fs fs₁ ∧ Touched o.paths fs₁ fs'
  /-- a file is still there or gone -/
  file : ∀ l f, fs.node? l = some (.file f) → fs'.node? l = some (.file f) ∨ fs'.node? l = none
  /-- no file is new -/
  old : ∀ l f, fs'.node? l = some (.file f) → fs.node? l = some (.file f)

/-- **Making room** only removes outputs, whether it succeeds. -/
theorem cleared_makeRoom (mishaps : Mishaps) (outDir : Path) (o : Outputs) (fs : FileSystem) :
    Cleared outDir o fs (runOn (makeRoom mishaps outDir o) fs).2 := by
  have hmade := ensures_makeDirectories (p := outDir) fs rfl
  rw [makeRoom]
  rcases hrun : runOn (makeDirectories outDir) fs with ⟨fault | u, fs₁⟩
  all_goals rw [hrun] at hmade
  · rw [runOn_bind_error hrun]
    exact ⟨⟨fs₁, hmade, .refl ..⟩, fun l f hf => .inl (hmade.file_iff.mpr hf),
      fun l f hf => hmade.file_iff.mp hf⟩
  · rw [runOn_bind_ok hrun]
    refine ⟨⟨fs₁, hmade.1, touches_clear fs₁⟩, fun l f hf => ?_, fun l f hf => ?_⟩
    · rw [← hmade.1.file_iff.mpr hf]
      exact node?_clear mishaps o fs₁ l
    · rcases node?_clear mishaps o fs₁ l with hsame | hnone
      · exact hmade.1.file_iff.mp (hsame.symm.trans hf)
      · rw [hnone] at hf
        cases hf

/-- If it succeeds, nothing is behind the paths of the outputs. -/
theorem node?_of_makeRoom (h : runOn (makeRoom mishaps outDir o) fs = (.ok (), fs'))
    (hp : p ∈ o.paths) (hlocate : fs'.locate p = .ok l) : fs'.node? l = none := by
  obtain ⟨_, fs₁, -, hclear⟩ := runOn_bind_eq_ok.mp h
  exact node?_of_clear hclear hp hlocate

/-- How staging goes on from the files with room for the outputs. -/
theorem stage_cases (mishaps : Mishaps) (source outDir : Path) (o : Outputs) (fs : FileSystem) :
    (∃ fault fs₁, Cleared outDir o fs fs₁ ∧
        runOn (stage mishaps source outDir o) fs = (.error fault, fs₁)) ∨
      ∃ fs₁, Cleared outDir o fs fs₁ ∧
        (∀ p ∈ o.paths, ∀ l, fs₁.locate p = .ok l → fs₁.node? l = none) ∧
        runOn (stage mishaps source outDir o) fs =
          runOn (copyFile mishaps source o.renamed) fs₁ := by
  have hcleared := cleared_makeRoom mishaps outDir o fs
  rw [stage_eq]
  rcases hroom : runOn (makeRoom mishaps outDir o) fs with ⟨fault | u, fs₁⟩
  all_goals rw [hroom] at hcleared
  · exact .inl ⟨fault, fs₁, hcleared, runOn_bind_error hroom⟩
  · exact .inr ⟨fs₁, hcleared, fun p hp l hl => node?_of_makeRoom hroom hp hl,
      runOn_bind_ok hroom⟩

/-! ## Whole packagings -/

section Run

variable {archiver : Archiver} {policy : SidecarPolicy} {fault : Fault} {fs₁ : FileSystem}
  (houtputs : outputs target program version outDir = .ok o)

include houtputs

/-- A packaging that cannot stage the program ends there: with a failure, or with a fault that is no
error of the operating system. -/
theorem run_of_unstaged (archiver : Archiver) (policy : SidecarPolicy)
    (h : runOn (stage mishaps source outDir o) fs = (.error fault, fs₁)) :
    (runOn (run archiver mishaps ⟨target, source⟩ program version outDir policy) fs).2 = fs₁ ∧
      ∀ r, (runOn (run archiver mishaps ⟨target, source⟩ program version outDir policy) fs).1 =
          .ok r → ∃ failure, r = .error failure ∧ failure.kind = .renameFailed := by
  unfold run
  simp only [houtputs, pure_bind]
  rw [runOn_bind, runOn_attempt, h]
  cases fault with
  | os e =>
    refine ⟨rfl, ?_⟩
    rintro r ⟨⟩
    exact ⟨_, rfl, rfl⟩
  | _ => exact ⟨rfl, nofun⟩

/-- Once it is staged, only outputs are touched. -/
theorem touched_of_staged (h : runOn (stage mishaps source outDir o) fs = (.ok (), fs₁)) :
    Touched o.paths fs₁
      (runOn (run archiver mishaps ⟨target, source⟩ program version outDir policy) fs).2 := by
  unfold run
  simp only [houtputs, pure_bind]
  rw [runOn_bind_ok (runOn_attempt_eq_ok.mpr h)]
  have hremove : ∀ ps ⊆ o.paths, Touches o.paths (removeAll ps) := fun ps hps =>
    (touches_removeAll ps).mono hps
  refine Touches.bind ((touches_attemptPacking touches_pack).mono (by simp [Outputs.paths]))
    (fun packed => ?_) fs₁
  cases packed with
  | error fault => exact (hremove _ (by simp [Outputs.paths])).bind fun _ => touches_pure _
  | ok u =>
  refine (hremove _ (by simp [Outputs.paths])).bind fun _ => ?_
  refine (touches_certify.attempt.mono (by simp [Outputs.paths])).bind fun certified => ?_
  cases certified with
  | error e => exact (hremove _ (by simp [Outputs.paths])).bind fun _ => touches_pure _
  | ok checksum => exact touches_pure _

/-- Behind the files with room for the outputs, a packaging touches outputs only. -/
theorem touched_of_copyFile (archiver : Archiver) (policy : SidecarPolicy)
    (hstage : runOn (stage mishaps source outDir o) fs =
      runOn (copyFile mishaps source o.renamed) fs₁) :
    Touched o.paths fs₁
      (runOn (run archiver mishaps ⟨target, source⟩ program version outDir policy) fs).2 := by
  have hcopy : Touches o.paths (copyFile mishaps source o.renamed) :=
    touches_copyFile.mono (by simp [Outputs.paths])
  rcases hcopied : runOn (copyFile mishaps source o.renamed) fs₁ with ⟨fault | u, fs₂⟩
  all_goals
    have htouched := hcopy.of_runOn hcopied
    rw [hcopied] at hstage
  · rw [(run_of_unstaged houtputs archiver policy hstage).1]
    exact htouched
  · exact htouched.trans (touched_of_staged houtputs hstage)

/-- **What a packaging touches:** its outputs, in the files with the directory for them. -/
theorem touched_run (archiver : Archiver) (mishaps : Mishaps) (source : Path)
    (policy : SidecarPolicy) (fs : FileSystem) :
    ∃ fs₁, GrownAbove outDir fs fs₁ ∧ Touched o.paths fs₁
      (runOn (run archiver mishaps ⟨target, source⟩ program version outDir policy) fs).2 := by
  rcases stage_cases mishaps source outDir o fs with ⟨fault, fs₂, hcleared, hstage⟩ |
    ⟨fs₂, hcleared, -, hstage⟩
  all_goals obtain ⟨fs₁, hgrown, htouched⟩ := hcleared.touched
  · refine ⟨fs₁, hgrown, ?_⟩
    rw [(run_of_unstaged houtputs archiver policy hstage).1]
    exact htouched
  · exact ⟨fs₁, hgrown, htouched.trans (touched_of_copyFile houtputs archiver policy hstage)⟩

end Run

end Shipyard.Packaging
