import Shipyard.Proofs.FileSystem.Agreement
import Shipyard.Proofs.Packaging.Steps

/-!
# A packaging is confined

A packaging sees the program, the directory for its outputs and its three outputs. If these lie in
some part of the files, it is confined to that part.
-/

namespace Shipyard.Packaging

open FileSystem Disk

variable {cwd : Location} {above below : Location → Prop} {mishaps : Mishaps} {o : Outputs}

/-- Whether a file can be used and changed by a confined computation. -/
structure Usable (cwd : Location) (above below : Location → Prop) (p : Path) : Prop where
  /-- it can be looked up -/
  inReach : InReach cwd above below p
  /-- it is below -/
  place : below (p.place cwd)

/-- So whether all outputs of a packaging can. -/
structure Outputs.Usable (cwd : Location) (above below : Location → Prop) (o : Outputs) :
    Prop where
  /-- the copy -/
  renamed : Packaging.Usable cwd above below o.renamed
  /-- the archive -/
  archive : Packaging.Usable cwd above below o.archive
  /-- the sidecar -/
  sidecar : Packaging.Usable cwd above below o.sidecar

theorem confined_removeAll {ps : List Path} (h : ∀ p ∈ ps, Usable cwd above below p) :
    Confined cwd above below (removeAll ps) := by
  induction ps with
  | nil => exact confined_pure _
  | cons p rest ih =>
    obtain ⟨hp, hrest⟩ := List.forall_mem_cons.mp h
    exact (confined_removeIfPresent hp.inReach hp.place).bind fun _ => ih hrest

theorem confined_clear (ho : o.Usable cwd above below) :
    Confined cwd above below (clear mishaps o) := by
  have hall : ∀ p ∈ [o.renamed, o.archive, o.sidecar], Usable cwd above below p := by
    simp [ho.renamed, ho.archive, ho.sidecar]
  unfold clear
  dsimp only
  split
  · exact confined_removeAll hall
  · refine (confined_removeAll fun p hp => ?_).bind fun _ => confined_throw _
    exact hall p (List.mem_of_mem_take hp)

theorem confined_copyFile {source destination : Path} (hsource : Usable cwd above below source)
    (hdestination : Usable cwd above below destination) :
    Confined cwd above below (copyFile mishaps source destination) := by
  refine (confined_openFile hsource.inReach hsource.place).bind fun file => ?_
  have hwrite := confined_writeBytes hdestination.inReach hdestination.place
  split
  · exact (hwrite _).bind fun _ => confined_setStatus hdestination.inReach hdestination.place _ _
  · split
    · exact (hwrite _).bind fun _ => confined_throw _
    · exact (confined_pure ()).bind fun _ => confined_throw _

theorem confined_stage {source outDir : Path} (hsource : Usable cwd above below source)
    (houtDir : InReach cwd above below outDir) (ho : o.Usable cwd above below) :
    Confined cwd above below (stage mishaps source outDir o) :=
  (confined_makeDirectories houtDir).bind fun _ =>
    (confined_clear ho).bind fun _ => confined_copyFile hsource ho.renamed

theorem confined_pack {archiver : Archiver} {format : ArchiveFormat}
    (ho : o.Usable cwd above below) :
    Confined cwd above below (pack archiver mishaps format o) := by
  have hwrite := confined_writeBytes ho.archive.inReach ho.archive.place
  unfold pack
  split
  · exact (confined_openFile ho.renamed.inReach ho.renamed.place).bind fun file => hwrite _
  · exact (hwrite _).bind fun _ => confined_throw _

theorem confined_attemptPacking {d : Disk Unit} (hd : Confined cwd above below d) :
    Confined cwd above below (attemptPacking d) := by
  constructor
  · intro fs gs hcwd h
    obtain ⟨hresult, hleft⟩ := hd.same hcwd h
    rw [runOn_attemptPacking, runOn_attemptPacking]
    rcases hrun : runOn d fs with ⟨r, fs'⟩
    rcases hrun' : runOn d gs with ⟨r', gs'⟩
    rw [hrun, hrun'] at hresult hleft
    obtain rfl : r' = r := hresult
    rcases r' with fault | a
    · cases fault <;> exact ⟨rfl, hleft⟩
    · exact ⟨rfl, hleft⟩
  · intro fs hcwd
    have hstays := hd.stays hcwd
    rw [runOn_attemptPacking]
    rcases hrun : runOn d fs with ⟨fault | a, fs'⟩
    all_goals rw [hrun] at hstays
    · cases fault <;> exact hstays
    · exact hstays

theorem confined_certify {format : SidecarFormat} (ho : o.Usable cwd above below) :
    Confined cwd above below (certify mishaps format o) := by
  have hwrite := confined_writeBytes ho.sidecar.inReach ho.sidecar.place
  have hread : Confined cwd above below (Checksum.ofFile o.archive) :=
    ((((confined_openFile ho.archive.inReach ho.archive.place).bind fun _ => confined_pure _).bind
      fun _ => confined_pure _).bind fun _ => confined_pure _)
  unfold certify
  split
  · exact confined_throw _
  · refine hread.bind fun checksum => ?_
    split
    · exact (hwrite _).bind fun _ => confined_pure _
    · exact (hwrite _).bind fun _ => (confined_throw _).bind fun _ => confined_pure _

/-- **A packaging is confined** to where its program and its outputs are. -/
theorem confined_run {archiver : Archiver} {target : BuildTarget} {source outDir : Path}
    {program version : String} {policy : SidecarPolicy}
    (houtputs : outputs target program version outDir = .ok o)
    (hsource : Usable cwd above below source) (houtDir : InReach cwd above below outDir)
    (ho : o.Usable cwd above below) :
    Confined cwd above below
      (run archiver mishaps ⟨target, source⟩ program version outDir policy) := by
  have hremove : ∀ ps ⊆ [o.renamed, o.archive, o.sidecar],
      Confined cwd above below (removeAll ps) := by
    refine fun ps hps => confined_removeAll fun p hp => ?_
    have hmem := hps hp
    simp only [List.mem_cons, List.not_mem_nil, or_false] at hmem
    rcases hmem with rfl | rfl | rfl
    · exact ho.renamed
    · exact ho.archive
    · exact ho.sidecar
  unfold run
  simp only [houtputs, pure_bind]
  refine (confined_stage hsource houtDir ho).attempt.bind fun staged => ?_
  cases staged with
  | error e => exact confined_pure _
  | ok u =>
  refine (confined_attemptPacking (confined_pack ho)).bind fun packed => ?_
  cases packed with
  | error fault => exact (hremove _ (by simp)).bind fun _ => confined_pure _
  | ok u =>
  refine (hremove _ (by simp)).bind fun _ => ?_
  refine (confined_certify ho).attempt.bind fun certified => ?_
  cases certified with
  | error e => exact (hremove _ (by simp)).bind fun _ => confined_pure _
  | ok checksum => exact confined_pure _

end Shipyard.Packaging
