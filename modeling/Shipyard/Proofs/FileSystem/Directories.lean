import Shipyard.Proofs.FileSystem.Request

/-!
# Making directories

To make a directory with all that is missing above it changes no file and takes nothing away: it
puts directories where there was nothing, and only at the places above its path. If it succeeds, the
path leads to a directory.
-/

namespace Shipyard

variable {fs gs hs : FileSystem} {p dir : Path} {base loc : Location}

/-! ## Growing -/

namespace FileSystem

/-- Whether two file systems differ at most by further directories, at certain locations. -/
structure Grown (dirs : Location → Prop) (fs gs : FileSystem) : Prop where
  /-- the current directory is the same -/
  cwd : gs.cwd = fs.cwd
  /-- every node is the same, or it is a directory where there was nothing -/
  node : ∀ loc, gs.node? loc = fs.node? loc ∨
    fs.node? loc = none ∧ gs.node? loc = some .directory ∧ dirs loc

namespace Grown

variable {dirs dirs' : Location → Prop}

theorem refl (dirs : Location → Prop) (fs : FileSystem) : Grown dirs fs fs :=
  ⟨rfl, fun _ => .inl rfl⟩

theorem mono (h : Grown dirs fs gs) (hdirs : ∀ loc, dirs loc → dirs' loc) : Grown dirs' fs gs :=
  ⟨h.cwd, fun loc => (h.node loc).imp_right fun ⟨h₁, h₂, h₃⟩ => ⟨h₁, h₂, hdirs loc h₃⟩⟩

theorem directory (h : Grown dirs fs gs) (hdirectory : fs.node? loc = some .directory) :
    gs.node? loc = some .directory := by
  rcases h.node loc with hsame | ⟨-, hnew, -⟩
  · rw [hsame, hdirectory]
  · exact hnew

theorem file_iff (h : Grown dirs fs gs) {f : File} :
    gs.node? loc = some (.file f) ↔ fs.node? loc = some (.file f) := by
  rcases h.node loc with hsame | ⟨hnone, hnew, -⟩
  · rw [hsame]
  · simp [hnone, hnew]

theorem node_of_not (h : Grown dirs fs gs) (hloc : ¬ dirs loc) : gs.node? loc = fs.node? loc :=
  (h.node loc).resolve_right fun hnew => hloc hnew.2.2

theorem trans (h : Grown dirs fs gs) (h' : Grown dirs gs hs) : Grown dirs fs hs := by
  refine ⟨h'.cwd.trans h.cwd, fun loc => ?_⟩
  rcases h'.node loc with hsame | ⟨hnone, hnew, hloc⟩
  · rw [hsame]
    exact h.node loc
  · rcases h.node loc with hsame | ⟨hnone', -, -⟩
    · exact .inr ⟨hsame ▸ hnone, hnew, hloc⟩
    · exact .inr ⟨hnone', hnew, hloc⟩

end Grown

/-- The places of a path and of all paths above it. -/
def Above (cwd : Location) (p : Path) (loc : Location) : Prop :=
  ∃ count, loc = (⟨p.anchor, p.parts.take count⟩ : Path).place cwd

theorem above_place (cwd : Location) (p : Path) : Above cwd p (p.place cwd) :=
  ⟨p.parts.length, by rw [List.take_length]⟩

theorem above_of_parent {cwd : Location} (h : Above cwd p.parent loc) : Above cwd p loc := by
  obtain ⟨count, rfl⟩ := h
  refine ⟨min count (p.parts.length - 1), ?_⟩
  rw [Path.parent, List.dropLast_eq_take, List.take_take]

end FileSystem

/-! ## Making -/

namespace Disk

open FileSystem

variable {fs₀ : FileSystem}

/-- The files that come from others by making directories above a path, whether this succeeds. -/
abbrev GrownAbove (p : Path) (fs₀ fs : FileSystem) : Prop := Grown (Above fs₀.cwd p) fs₀ fs

/-- What has become of some files in which a directory was to be made. -/
theorem grown_makeDirectory (hcwd : fs.cwd = fs₀.cwd) :
    Grown (Above fs₀.cwd p) fs ((FileRequest.makeDirectory p).run fs).2 := by
  refine ⟨FileRequest.cwd_run .., fun l => ?_⟩
  rcases hlocate : fs.locate p with fault | loc
  · rw [FileRequest.run_of_lost (r := FileRequest.makeDirectory p) hlocate]
    exact .inl rfl
  rw [FileRequest.node?_run (r := FileRequest.makeDirectory p) hlocate]
  by_cases hl : l = loc
  · rw [if_pos hl, hl]
    rcases hnode : fs.node? loc with _ | node
    · refine .inr ⟨rfl, rfl, ?_⟩
      rw [eq_place_of_locate hlocate, hcwd]
      exact above_place ..
    · exact .inl rfl
  · exact .inl (if_neg hl)

theorem ensures_makeDirectory :
    Ensures (GrownAbove p fs₀) (makeDirectory p)
      (fun _ fs => GrownAbove p fs₀ fs ∧ ∃ base, fs.Reaches p base)
      (fun _ => GrownAbove p fs₀) := by
  intro fs hgrown
  have hstep : Grown (Above fs₀.cwd p) fs ((FileRequest.makeDirectory p).run fs).2 :=
    grown_makeDirectory hgrown.cwd
  rw [runOn_makeDirectory]
  rcases hrun : (FileRequest.makeDirectory p).run fs with ⟨fault | u, fs'⟩
  · rw [hrun] at hstep
    exact hgrown.trans hstep
  rw [hrun] at hstep
  refine ⟨hgrown.trans hstep, ?_⟩
  rcases hlocate : fs.locate p with fault | loc
  · rw [FileRequest.run_of_lost (r := FileRequest.makeDirectory p) hlocate] at hrun
    cases hrun
  have hnode := FileRequest.node?_run (r := FileRequest.makeDirectory p) hlocate loc
  rw [hrun, if_pos rfl] at hnode
  rw [FileRequest.run_of_found (r := FileRequest.makeDirectory p) hlocate] at hrun
  rcases hold : fs.node? loc with _ | node
  · rw [hold] at hnode
    -- the directories on the road were there before
    obtain ⟨hroad, hfits, hplace⟩ := foldlM_step_eq_ok_iff.mp (locate_eq_ok_iff.mp hlocate).2.2
    refine ⟨loc, foldlM_step_eq_ok_iff.mpr ?_, hnode⟩
    rw [hstep.cwd]
    exact ⟨fun l hl => hstep.directory (hroad l hl), hfits, hplace⟩
  · rw [hold] at hrun
    cases hrun

theorem ensures_isDirectory :
    Ensures (GrownAbove p fs₀) (isDirectory p)
      (fun found fs => GrownAbove p fs₀ fs ∧ (found = true → ∃ base, fs.Reaches p base))
      (fun _ => GrownAbove p fs₀) := by
  intro fs hgrown
  have hfind : runOn (find? p) fs = (fs.find? p, fs) := runOn_query _ fs
  unfold isDirectory
  rw [runOn_bind, hfind]
  rcases hfound : fs.find? p with fault | node
  · exact hgrown
  · refine ⟨hgrown, fun hdirectory => exists_reaches_of_find? ?_⟩
    rw [hfound, of_decide_eq_true hdirectory]

theorem ensures_ensureDirectory :
    Ensures (GrownAbove p fs₀) (ensureDirectory p)
      (fun _ fs => GrownAbove p fs₀ fs ∧ ∃ base, fs.Reaches p base)
      (fun _ => GrownAbove p fs₀) := by
  refine ensures_makeDirectory.attempt.bind fun made => ?_
  cases made with
  | ok u => exact ensures_pure fun _ h => h
  | error e =>
    refine ensures_isDirectory.bind fun found => ?_
    split
    · next h => exact ensures_pure fun _ hfs => ⟨hfs.1, hfs.2 (Bool.and_eq_true_iff.mp h).2⟩
    · exact ensures_throw fun _ hfs => hfs.1

theorem ensures_ensureDirectories (depth : Nat) (p : Path) :
    Ensures (GrownAbove p fs₀) (ensureDirectories depth p)
      (fun _ fs => GrownAbove p fs₀ fs ∧ ∃ base, fs.Reaches p base)
      (fun _ => GrownAbove p fs₀) := by
  induction depth generalizing p fs₀ with
  | zero => exact ensures_ensureDirectory
  | succ depth ih =>
    refine ensures_ensureDirectory.attempt.bind fun made => ?_
    cases made with
    | ok u => exact ensures_pure fun _ h => h
    | error e =>
      dsimp only
      split
      · refine Ensures.bind (Q := fun _ => GrownAbove p fs₀) ?_ fun _ => ensures_ensureDirectory
        -- what is grown so far is the beginning for the directories above
        intro fs hgrown
        have hstart : GrownAbove p.parent fs fs := .refl ..
        have habove := ih p.parent fs hstart
        have hmore : ∀ fs', GrownAbove p.parent fs fs' → GrownAbove p fs₀ fs' := by
          intro fs' h
          refine hgrown.trans (h.mono fun loc hloc => ?_)
          rw [hgrown.cwd] at hloc
          exact above_of_parent hloc
        rcases hrun : runOn (ensureDirectories depth p.parent) fs with ⟨fault | u, fs'⟩
        · rw [hrun] at habove
          exact hmore fs' habove
        · rw [hrun] at habove
          exact hmore fs' habove.1
      · exact ensures_throw fun _ h => h

/-- **Making directories.** Nothing but directories above the path is made, and if it succeeds, the
path leads to a directory. -/
theorem ensures_makeDirectories :
    Ensures (· = fs₀) (makeDirectories p)
      (fun _ fs => GrownAbove p fs₀ fs ∧ ∃ base, fs.Reaches p base)
      (fun _ => GrownAbove p fs₀) :=
  (ensures_ensureDirectories _ p).mono (fun fs h => h ▸ .refl _ fs) (fun _ _ h => h)
    fun _ _ h => h

end Disk

end Shipyard
