import Shipyard.Proofs.FileSystem.Directories

/-!
# What a computation touches

A computation that makes and removes no directory keeps all walks, so a path leads to the same place
all along. What it touches is then a matter of the paths that it uses: `Disk.Touches` says that
nothing else changes, whatever the computation gives. Where a path leads to a place without a
directory, each request is one update of that place.
-/

namespace Shipyard

namespace FileSystem

variable {fs gs hs : FileSystem} {p : Path} {ps qs : List Path} {l loc : Location}
  {node : Option Node}

/-! ## The same walks -/

/-- Where the directories are the same, so is every place that is found. -/
theorem SameDirectories.locate (h : SameDirectories fs gs) :
    gs.locate p = .ok loc ↔ fs.locate p = .ok loc := by
  rw [locate_eq_ok_iff, locate_eq_ok_iff, h.cwd, h.foldlM_step]

/-- More directories keep the places that were found. -/
theorem Grown.locate {dirs : Location → Prop} (h : Grown dirs fs gs)
    (hlocate : fs.locate p = .ok loc) : gs.locate p = .ok loc := by
  obtain ⟨hnull, hshort, hwalk⟩ := locate_eq_ok_iff.mp hlocate
  obtain ⟨hroad, hfits, hloc⟩ := foldlM_step_eq_ok_iff.mp hwalk
  refine locate_eq_ok_iff.mpr ⟨hnull, hshort, foldlM_step_eq_ok_iff.mpr ?_⟩
  rw [h.cwd]
  exact ⟨fun l hl => h.directory (hroad l hl), hfits, hloc⟩

/-! ## Updates of one place -/

theorem ne_nil_of_node? (h : fs.node? loc ≠ some .directory) : loc ≠ [] := by
  rintro rfl
  exact h (node?_nil fs)

theorem node?_set_of_ne (fs : FileSystem) (node : Option Node) (h : l ≠ loc) :
    (fs.set loc node).node? l = fs.node? l := by
  by_cases hloc : loc = []
  · rw [hloc, set_nil]
  · rw [node?_set _ _ _ hloc, if_neg h]

/-! ## Touched files -/

/-- Whether file systems have the same directories and differ at most where some paths lead. -/
structure Touched (ps : List Path) (fs gs : FileSystem) : Prop where
  /-- the directories are the same -/
  directories : SameDirectories fs gs
  /-- what no path leads to is the same -/
  node : ∀ l, (∀ p ∈ ps, fs.locate p ≠ .ok l) → gs.node? l = fs.node? l

namespace Touched

theorem refl (ps : List Path) (fs : FileSystem) : Touched ps fs fs := ⟨.refl fs, fun _ _ => rfl⟩

theorem mono (h : Touched ps fs gs) (hps : ps ⊆ qs) : Touched qs fs gs :=
  ⟨h.directories, fun l hl => h.node l fun p hp => hl p (hps hp)⟩

theorem trans (h : Touched ps fs gs) (h' : Touched ps gs hs) : Touched ps fs hs := by
  refine ⟨h.directories.trans h'.directories, fun l hl => ?_⟩
  rw [h'.node l fun p hp hlocate => hl p hp (h.directories.locate.mp hlocate), h.node l hl]

end Touched

end FileSystem

namespace Disk

open FileSystem

variable {α β : Type} {d : Disk α} {f : α → Disk β} {fs fs' : FileSystem} {p : Path}
  {ps qs : List Path} {loc : Location}

/-! ## Computations that touch little -/

/-- Whether a computation keeps all directories and changes files at most behind some paths. -/
def Touches (ps : List Path) (d : Disk α) : Prop := ∀ fs, Touched ps fs (runOn d fs).2

theorem Touches.of_runOn {r : Except Fault α} (h : Touches ps d) (hrun : runOn d fs = (r, fs')) :
    Touched ps fs fs' := by
  have := h fs
  rwa [hrun] at this

theorem Reads.touches (h : Reads d) : Touches ps d := fun fs => by
  rw [h fs]
  exact .refl ps fs

theorem touches_pure (a : α) : Touches ps (pure a : Disk α) := reads_pure.touches

theorem touches_throw (fault : Fault) : Touches ps (throw fault : Disk α) := reads_throw.touches

theorem Touches.mono (h : Touches ps d) (hps : ps ⊆ qs) : Touches qs d := fun fs => (h fs).mono hps

theorem Touches.bind (hd : Touches ps d) (hf : ∀ a, Touches ps (f a)) : Touches ps (d >>= f) := by
  intro fs
  have hfirst := hd fs
  rcases hrun : runOn d fs with ⟨fault | a, fs'⟩
  all_goals rw [hrun] at hfirst
  · rw [runOn_bind_error hrun]
    exact hfirst
  · rw [runOn_bind_ok hrun]
    exact hfirst.trans (hf a fs')

theorem Touches.attempt (hd : Touches ps d) : Touches ps (Disk.attempt d) := by
  intro fs
  have hfs := hd fs
  rw [runOn_attempt]
  rcases hrun : runOn d fs with ⟨fault | a, fs'⟩
  all_goals rw [hrun] at hfs
  · cases fault <;> exact hfs
  · exact hfs

/-- A request that makes no directory touches what is behind its path. -/
theorem touches_request {r : FileRequest α} (hrun : ∀ fs, runOn d fs = r.run fs)
    (hr : r.MakesNone) : Touches [r.path] d := by
  intro fs
  rw [hrun]
  refine ⟨hr.sameDirectories fs, fun l hl => ?_⟩
  rcases hlocate : fs.locate r.path with fault | loc
  · rw [FileRequest.run_of_lost hlocate]
  · rw [FileRequest.node?_run hlocate, if_neg]
    rintro rfl
    exact hl r.path (List.mem_singleton_self _) hlocate

theorem touches_writeBytes (p : Path) (content : Bytes) : Touches [p] (writeBytes p content) :=
  touches_request (runOn_writeBytes p content) FileRequest.makesNone_writeBytes

theorem touches_setStatus (p : Path) (mode : Nat) (modified : Int) :
    Touches [p] (setStatus p mode modified) :=
  touches_request (runOn_setStatus p mode modified) FileRequest.makesNone_setStatus

theorem touches_removeIfPresent (p : Path) : Touches [p] (removeIfPresent p) :=
  touches_request (runOn_removeIfPresent p) FileRequest.makesNone_removeIfPresent

/-! ## Requests at a place that was found -/

section Found

variable (hlocate : fs.locate p = .ok loc)

include hlocate

theorem runOn_removeIfPresent_of_locate (hnode : fs.node? loc ≠ some .directory) :
    runOn (removeIfPresent p) fs = (.ok (), fs.set loc none) := by
  rw [runOn_removeIfPresent, FileRequest.run_of_found hlocate]
  rcases hfound : fs.node? loc with _ | _ | f
  · rfl
  · exact absurd hfound hnode
  · rfl

theorem runOn_writeBytes_of_locate (hnode : fs.node? loc = none) (content : Bytes) :
    runOn (writeBytes p content) fs =
      (.ok (), fs.set loc (some (.file ⟨content, newFileMode, 0⟩))) := by
  rw [runOn_writeBytes, FileRequest.run_of_found hlocate, hnode]
  rfl

theorem runOn_setStatus_of_locate {f : File} (hnode : fs.node? loc = some (.file f)) (mode : Nat)
    (modified : Int) :
    runOn (setStatus p mode modified) fs =
      (.ok (), fs.set loc (some (.file { f with mode, modified }))) := by
  rw [runOn_setStatus, FileRequest.run_of_found hlocate, hnode]
  rfl

theorem runOn_openFile_of_locate {f : File} (hnode : fs.node? loc = some (.file f))
    (hread : f.mayBeRead = true) : runOn (openFile p) fs = (.ok f, fs) := by
  refine Prod.ext ?_ (reads_openFile fs)
  rw [runOn_openFile, FileRequest.run_of_found hlocate, hnode]
  dsimp only [FileRequest.openFile]
  rw [if_pos hread]

end Found

/-- A write that fails has changed nothing. -/
theorem eq_of_writeBytes_error {content : Bytes} {fault : Fault}
    (h : runOn (writeBytes p content) fs = (.error fault, fs')) : fs' = fs := by
  rw [runOn_writeBytes] at h
  rcases hlocate : fs.locate p with fault' | loc
  · rw [FileRequest.run_of_lost (r := FileRequest.writeBytes p content) hlocate] at h
    cases h
    rfl
  · rw [FileRequest.run_of_found (r := FileRequest.writeBytes p content) hlocate] at h
    have hset := fs.set_node? loc
    rcases hnode : fs.node? loc with _ | _ | f
    all_goals
      rw [hnode] at h hset
      dsimp only [FileRequest.writeBytes] at h
    · cases h
    · cases h
      exact hset
    · split at h
      · cases h
      · cases h
        exact hset

end Disk

end Shipyard
