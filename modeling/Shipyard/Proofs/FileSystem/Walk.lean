import Shipyard.FileSystem.Basic
import Shipyard.Proofs.Path

/-!
# Walks

Where a walk ends is a matter of the names alone: it is the place that `Path.resolve` gives. The
files only decide whether it gets there, and for that all locations on the road have to be
directories. So a change that keeps the directories keeps all walks.
-/

namespace Shipyard

/-! ## Places -/

namespace Path

/-- Where a walk over a path begins. -/
def start (cwd : Location) (p : Path) : Location := if p.anchor = .relative then cwd else []

/-- The location of a path by its names alone. -/
def place (cwd : Location) (p : Path) : Location := (p.resolve cwd).parts

theorem place_eq (cwd : Location) (p : Path) :
    p.place cwd = p.parts.foldl stepLexically (p.start cwd) := rfl

theorem place_entry {name : String} (h : name ≠ "..") (cwd : Location) (dir : Path) :
    (dir.entry name).place cwd = dir.place cwd ++ [name] := by
  rw [place_eq, place_eq, entry, List.foldl_append, List.foldl_cons, List.foldl_nil, stepLexically,
    if_neg h]
  rfl

end Path

namespace FileSystem

variable {fs gs : FileSystem} {p dir : Path} {base start loc : Location} {name : String}
  {names : List String}

/-! ## Roads -/

/-- Whether a step of a walk takes a name. -/
def Fits (name : String) : Prop := name = ".." ∨ name.utf8ByteSize ≤ maxNameBytes

/-- The locations at which a walk over names takes its steps. -/
def road : Location → List String → List Location
  | _, [] => []
  | start, name :: rest => start :: road (Path.stepLexically start name) rest

theorem step_eq_ok_iff {next : Location} :
    fs.step start name = .ok next ↔
      fs.node? start = some .directory ∧ Fits name ∧ next = Path.stepLexically start name := by
  unfold step Path.stepLexically Fits
  rcases fs.node? start with _ | _ | f
  · simp
  · by_cases hup : name = ".."
    · simp [hup, eq_comm]
    · by_cases hlong : maxNameBytes < name.utf8ByteSize
      · simp [hup, hlong, Nat.not_le.mpr hlong]
      · simp [hup, hlong, Nat.le_of_not_lt hlong, eq_comm]
  · simp

/-- **Walks.** A walk gets to its end if every location on the road is a directory. -/
theorem foldlM_step_eq_ok_iff :
    names.foldlM fs.step start = .ok loc ↔
      (∀ l ∈ road start names, fs.node? l = some .directory) ∧ (∀ name ∈ names, Fits name) ∧
        loc = names.foldl Path.stepLexically start := by
  induction names generalizing start with
  | nil =>
    rw [List.foldlM_nil]
    simp [road, pure, Except.pure, eq_comm]
  | cons name rest ih =>
    rw [List.foldlM_cons]
    rcases hstep : fs.step start name with errno | next
    · have hno : ¬ (fs.node? start = some .directory ∧ Fits name) := by
        rintro ⟨hdir, hfits⟩
        rw [step_eq_ok_iff.mpr ⟨hdir, hfits, rfl⟩] at hstep
        cases hstep
      simp only [bind, Except.bind, reduceCtorEq, false_iff, road, List.forall_mem_cons]
      exact fun h => hno ⟨h.1.1, h.2.1.1⟩
    · obtain ⟨hdir, hfits, rfl⟩ := step_eq_ok_iff.mp hstep
      simp only [bind, Except.bind, road, List.forall_mem_cons, hdir, hfits, true_and,
        List.foldl_cons]
      exact ih

theorem walk_eq (fs : FileSystem) (p : Path) :
    fs.walk p =
      if maxPathBytes < p.text.utf8ByteSize then .error .nameTooLong
      else p.parts.foldlM fs.step (p.start fs.cwd) := rfl

/-- A location is found if nothing is wrong with the path and the walk gets to its end. -/
theorem locate_eq_ok_iff :
    fs.locate p = .ok loc ↔
      p.hasNull = false ∧ p.text.utf8ByteSize ≤ maxPathBytes ∧
        p.parts.foldlM fs.step (p.start fs.cwd) = .ok loc := by
  unfold locate
  rw [walk_eq]
  by_cases hnull : p.hasNull = true
  · simp [hnull]
  by_cases hlong : maxPathBytes < p.text.utf8ByteSize
  · simp [hnull, hlong, Nat.not_le.mpr hlong]
  rw [if_neg hnull, if_neg hlong]
  rcases p.parts.foldlM fs.step (p.start fs.cwd) with errno | found
  · simp
  · simp [hnull, Nat.le_of_not_lt hlong]

/-- What is behind a path that can be looked up. -/
theorem find?_of_locate (h : fs.locate p = .ok loc) : fs.find? p = .ok (fs.node? loc) := by
  rw [FileSystem.locate] at h
  rw [find?]
  by_cases hnull : p.hasNull = true
  · rw [if_pos hnull] at h
    cases h
  · rw [if_neg hnull] at h ⊢
    rcases hwalk : fs.walk p with errno | loc'
    all_goals
      rw [hwalk] at h
      cases h
    rfl

/-- A location that was found is the place of the path. -/
theorem eq_place_of_locate (h : fs.locate p = .ok loc) : loc = p.place fs.cwd :=
  (foldlM_step_eq_ok_iff.mp (locate_eq_ok_iff.mp h).2.2).2.2

/-! ## Directories that stay -/

/-- Whether two file systems have the same directories. -/
structure SameDirectories (fs gs : FileSystem) : Prop where
  /-- the current directory is the same -/
  cwd : gs.cwd = fs.cwd
  /-- so are all others -/
  directory : ∀ loc, gs.node? loc = some .directory ↔ fs.node? loc = some .directory

namespace SameDirectories

theorem refl (fs : FileSystem) : SameDirectories fs fs := ⟨rfl, fun _ => Iff.rfl⟩

theorem symm (h : SameDirectories fs gs) : SameDirectories gs fs :=
  ⟨h.cwd.symm, fun loc => (h.directory loc).symm⟩

theorem trans {hs : FileSystem} (h : SameDirectories fs gs) (h' : SameDirectories gs hs) :
    SameDirectories fs hs :=
  ⟨h'.cwd.trans h.cwd, fun loc => (h'.directory loc).trans (h.directory loc)⟩

theorem foldlM_step (h : SameDirectories fs gs) :
    names.foldlM gs.step start = .ok loc ↔ names.foldlM fs.step start = .ok loc := by
  simp only [foldlM_step_eq_ok_iff, h.directory]

end SameDirectories

/-! ## Entries of a directory -/

/-- Whether a walk over a path gets to a directory. -/
structure Reaches (fs : FileSystem) (dir : Path) (base : Location) : Prop where
  /-- it gets there -/
  walk : dir.parts.foldlM fs.step (dir.start fs.cwd) = .ok base
  /-- there is a directory -/
  directory : fs.node? base = some .directory

/-- Whether a path of a name in a directory can be looked up at all. -/
structure Admits (dir : Path) (name : String) : Prop where
  /-- it holds no null character -/
  null : (dir.entry name).hasNull = false
  /-- it is not too long -/
  short : (dir.entry name).text.utf8ByteSize ≤ maxPathBytes
  /-- nor is the name -/
  fits : name.utf8ByteSize ≤ maxNameBytes

theorem Reaches.eq_place (h : fs.Reaches dir base) : base = dir.place fs.cwd :=
  (foldlM_step_eq_ok_iff.mp h.walk).2.2

theorem Reaches.of_sameDirectories (h : fs.Reaches dir base) (hsame : SameDirectories fs gs) :
    gs.Reaches dir base where
  walk := by
    rw [hsame.cwd]
    exact hsame.foldlM_step.mpr h.walk
  directory := (hsame.directory base).mpr h.directory

theorem Reaches.foldlM_entry (h : fs.Reaches dir base) (hup : name ≠ "..") :
    (dir.entry name).parts.foldlM fs.step ((dir.entry name).start fs.cwd) =
      if maxNameBytes < name.utf8ByteSize then .error .nameTooLong else .ok (base ++ [name]) := by
  show (dir.parts ++ [name]).foldlM fs.step (dir.start fs.cwd) = _
  rw [List.foldlM_append, h.walk]
  show ([name] : List String).foldlM fs.step base = _
  rw [List.foldlM_cons]
  unfold step
  rw [h.directory]
  simp only [hup, if_false]
  split
  · rfl
  · rfl

/-- A name that is admitted is found in its directory, whether there is a node or not. -/
theorem Reaches.locate (h : fs.Reaches dir base) (hup : name ≠ "..") (hadmits : Admits dir name) :
    fs.locate (dir.entry name) = .ok (base ++ [name]) := by
  unfold FileSystem.locate
  rw [walk_eq, h.foldlM_entry hup, if_neg (Nat.not_lt.mpr hadmits.short),
    if_neg (Nat.not_lt.mpr hadmits.fits), hadmits.null]
  rfl

/-- Any other name is refused, and not because nothing is there. -/
theorem Reaches.locate_eq_error (h : fs.Reaches dir base) (hup : name ≠ "..")
    (hadmits : ¬ Admits dir name) :
    fs.locate (dir.entry name) = .error (.refused .nullCharacter) ∨
      fs.locate (dir.entry name) = .error (osError .nameTooLong (dir.entry name)) := by
  unfold FileSystem.locate
  rw [walk_eq, h.foldlM_entry hup]
  by_cases hnull : (dir.entry name).hasNull = true
  · left
    rw [if_pos hnull]
  · right
    rw [if_neg hnull]
    by_cases hshort : maxPathBytes < (dir.entry name).text.utf8ByteSize
    · rw [if_pos hshort]
    · rw [if_neg hshort]
      by_cases hfits : maxNameBytes < name.utf8ByteSize
      · rw [if_pos hfits]
      · exact absurd ⟨Bool.eq_false_iff.mpr hnull, Nat.le_of_not_lt hshort, Nat.le_of_not_lt hfits⟩
          hadmits

/-- What is found under a name was admitted, in a directory that was reached. -/
theorem reaches_of_locate (hup : name ≠ "..") (h : fs.locate (dir.entry name) = .ok loc) :
    ∃ base, fs.Reaches dir base ∧ Admits dir name ∧ loc = base ++ [name] := by
  obtain ⟨hnull, hshort, hwalk⟩ := locate_eq_ok_iff.mp h
  change (dir.parts ++ [name]).foldlM fs.step (dir.start fs.cwd) = _ at hwalk
  rw [List.foldlM_append] at hwalk
  rcases hdir : dir.parts.foldlM fs.step (dir.start fs.cwd) with _ | base
  · rw [hdir] at hwalk
    cases hwalk
  rw [hdir] at hwalk
  change ([name] : List String).foldlM fs.step base = _ at hwalk
  obtain ⟨hroad, hfits, rfl⟩ := foldlM_step_eq_ok_iff.mp hwalk
  have hdirectory : fs.node? base = some .directory := hroad base (by simp [road])
  refine ⟨base, ⟨hdir, hdirectory⟩, ⟨hnull, hshort, ?_⟩, ?_⟩
  · exact (hfits name (by simp)).resolve_left hup
  · simp [Path.stepLexically, hup]

/-- A path behind which a directory is found leads to it. -/
theorem exists_reaches_of_find? (h : fs.find? p = .ok (some .directory)) :
    ∃ base, fs.Reaches p base := by
  unfold find? at h
  rw [walk_eq] at h
  split at h
  · cases h
  by_cases hlong : maxPathBytes < p.text.utf8ByteSize
  · rw [if_pos hlong] at h
    cases h
  rw [if_neg hlong] at h
  rcases hwalk : p.parts.foldlM fs.step (p.start fs.cwd) with errno | base
  · rw [hwalk] at h
    cases errno <;> cases h
  · rw [hwalk] at h
    exact ⟨base, hwalk, Except.ok.inj h⟩

end FileSystem

end Shipyard
