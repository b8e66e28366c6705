import Shipyard.Proofs.FileSystem.Touch

/-!
# Looking at a path

A look at a path finds a node or nothing; only a path that is too long ends it with an error. A path
is vacant if no file is found behind it.
-/

namespace Shipyard

namespace FileSystem

variable {fs gs : FileSystem} {p q : Path} {ps : List Path}

/-! ## Paths that are too long -/

/-- Whether a path is too long, or one of its names. -/
def TooLong (p : Path) : Prop :=
  maxPathBytes < p.text.utf8ByteSize ∨ ∃ name ∈ p.parts, maxNameBytes < name.utf8ByteSize

instance (p : Path) : Decidable (TooLong p) := inferInstanceAs (Decidable (_ ∨ _))

/-- The errors of one step. -/
theorem step_eq_error {loc : Location} {name : String} {errno : Errno}
    (h : fs.step loc name = .error errno) :
    errno = .noEntry ∨ errno = .notDirectory ∨
      errno = .nameTooLong ∧ maxNameBytes < name.utf8ByteSize := by
  rw [step] at h
  split at h
  · cases h
    exact .inl rfl
  · cases h
    exact .inr (.inl rfl)
  · split at h
    · cases h
    · split at h
      · next hlong =>
        cases h
        exact .inr (.inr ⟨rfl, hlong⟩)
      · cases h

theorem foldlM_step_eq_error {names : List String} {loc : Location} {errno : Errno}
    (h : names.foldlM fs.step loc = .error errno) :
    errno = .noEntry ∨ errno = .notDirectory ∨
      errno = .nameTooLong ∧ ∃ name ∈ names, maxNameBytes < name.utf8ByteSize := by
  induction names generalizing loc with
  | nil => cases h
  | cons name names ih =>
    rw [List.foldlM_cons] at h
    rcases hstep : fs.step loc name with e | loc'
    · rw [hstep] at h
      cases h
      rcases step_eq_error hstep with he | he | ⟨he, hlong⟩
      · exact .inl he
      · exact .inr (.inl he)
      · exact .inr (.inr ⟨he, name, List.mem_cons_self, hlong⟩)
    · rw [hstep] at h
      rcases ih h with he | he | ⟨he, other, hmem, hlong⟩
      · exact .inl he
      · exact .inr (.inl he)
      · exact .inr (.inr ⟨he, other, List.mem_cons_of_mem _ hmem, hlong⟩)

/-- A look at a path finds something or nothing, unless the path is too long. -/
theorem find?_eq_error {fault : Fault} (h : fs.find? p = .error fault) :
    fault = osError .nameTooLong p ∧ TooLong p := by
  rw [find?] at h
  split at h
  · cases h
  split at h
  · cases h
  · cases h
  · cases h
  next errno hnoEntry hnotDirectory hwalk =>
  cases h
  rw [walk] at hwalk
  split at hwalk
  · next hlong =>
    cases hwalk
    exact ⟨rfl, .inl hlong⟩
  · rcases foldlM_step_eq_error hwalk with rfl | rfl | ⟨rfl, hlong⟩
    · exact absurd rfl hnoEntry
    · exact absurd rfl hnotDirectory
    · exact ⟨rfl, .inr hlong⟩

theorem find?_eq_some_iff {node : Node} :
    fs.find? p = .ok (some node) ↔ ∃ loc, fs.locate p = .ok loc ∧ fs.node? loc = some node := by
  constructor
  · intro h
    rw [find?] at h
    split at h
    · cases h
    next hnull =>
    split at h
    · next loc hwalk =>
      refine ⟨loc, ?_, Except.ok.inj h⟩
      rw [locate, if_neg hnull, hwalk]
    · cases h
    · cases h
    · cases h
  · rintro ⟨loc, hlocate, hnode⟩
    rw [find?_of_locate hlocate, hnode]

/-- A path that leads somewhere is not too long. -/
theorem not_tooLong_of_locate {loc : Location} (h : fs.locate p = .ok loc) : ¬ TooLong p := by
  obtain ⟨-, hshort, hwalk⟩ := locate_eq_ok_iff.mp h
  obtain ⟨-, hfits, -⟩ := foldlM_step_eq_ok_iff.mp hwalk
  rintro (hlong | ⟨name, hname, hlong⟩)
  · exact absurd hshort (Nat.not_le.mpr hlong)
  · rcases hfits name hname with rfl | hfits
    · exact absurd hlong (by decide)
    · exact absurd hfits (Nat.not_le.mpr hlong)

/-! ## Vacant paths -/

/-- Whether no file is found behind a path. -/
def Vacant (fs : FileSystem) (p : Path) : Prop := ∀ f, fs.find? p ≠ .ok (some (.file f))

theorem vacant_iff : fs.Vacant p ↔ ∀ l f, fs.locate p = .ok l → fs.node? l ≠ some (.file f) := by
  constructor
  · intro h l f hlocate hnode
    exact h f (find?_eq_some_iff.mpr ⟨l, hlocate, hnode⟩)
  · intro h f hfound
    obtain ⟨l, hlocate, hnode⟩ := find?_eq_some_iff.mp hfound
    exact h l f hlocate hnode

/-- A path stays vacant if nothing is touched but what is behind other paths. -/
theorem Touched.vacant (h : Touched ps fs gs) (hvacant : fs.Vacant p)
    (hapart : ∀ q ∈ ps, q.place fs.cwd ≠ p.place fs.cwd) : gs.Vacant p := by
  rw [vacant_iff] at hvacant ⊢
  intro l f hlocate
  have hbefore := h.directories.locate.mp hlocate
  rw [h.node l fun q hq hfound => hapart q hq ?_]
  · exact hvacant l f hbefore
  · rw [← eq_place_of_locate hfound, ← eq_place_of_locate hbefore]

end FileSystem

/-! ## Looks for a file -/

namespace Disk

open FileSystem

variable {fs : FileSystem} {p : Path}

/-- A look that finds something or nothing tells whether it is a file. -/
theorem runOn_isFile {found : Option Node} (h : fs.find? p = .ok found) :
    (∃ f, found = some (.file f) ∧ runOn (isFile p) fs = (.ok true, fs)) ∨
      (∀ f, found ≠ some (.file f)) ∧ runOn (isFile p) fs = (.ok false, fs) := by
  have hfind : runOn (Disk.find? p) fs = (.ok found, fs) := by
    rw [Disk.find?, runOn_query, h]
  rw [isFile, runOn_bind_ok hfind]
  rcases found with _ | _ | f
  · exact .inr ⟨by rintro f ⟨⟩, rfl⟩
  · exact .inr ⟨by rintro f ⟨⟩, rfl⟩
  · exact .inl ⟨f, rfl, rfl⟩

theorem runOn_isFile_of_file {f : File} (h : fs.find? p = .ok (some (.file f))) :
    runOn (isFile p) fs = (.ok true, fs) := by
  rcases runOn_isFile h with ⟨-, -, hyes⟩ | ⟨hno, -⟩
  · exact hyes
  · exact absurd rfl (hno f)

theorem runOn_isFile_of_error {fault : Fault} (h : fs.find? p = .error fault) :
    runOn (isFile p) fs = (.error fault, fs) := by
  have hfind : runOn (Disk.find? p) fs = (.error fault, fs) := by
    rw [Disk.find?, runOn_query, h]
  rw [isFile, runOn_bind_error hfind]

/-- What is taken for a file was found behind a path that is not vacant. -/
theorem not_vacant_of_isFile {fs' : FileSystem} (h : runOn (isFile p) fs = (.ok true, fs')) :
    ¬ fs.Vacant p := by
  rcases hfind : fs.find? p with fault | found
  · rw [runOn_isFile_of_error hfind] at h
    cases h
  rcases runOn_isFile hfind with ⟨f, rfl, -⟩ | ⟨-, hno⟩
  · exact fun hvacant => hvacant f hfind
  · rw [hno] at h
    cases h

/-- Behind a vacant path there is no file, unless the path is too long to be looked up. -/
theorem runOn_isFile_of_vacant (h : fs.Vacant p) :
    runOn (isFile p) fs = (.ok false, fs) ∨
      TooLong p ∧ runOn (isFile p) fs = (.error (osError .nameTooLong p), fs) := by
  rcases hfind : fs.find? p with fault | found
  · obtain ⟨rfl, hlong⟩ := find?_eq_error hfind
    exact .inr ⟨hlong, runOn_isFile_of_error hfind⟩
  rcases runOn_isFile hfind with ⟨f, rfl, -⟩ | ⟨-, hno⟩
  · exact absurd hfind (h f)
  · exact .inl hno

end Disk

end Shipyard
