import Shipyard.Proofs.FileSystem.Agreement
import Shipyard.Proofs.FileSystem.Missing

/-!
# What is above and below a path

A path that leads to a directory has only directories above it, and it goes on leading there as long
as these stay. A path of which something is missing leads on from a directory that is there; how it
does so is a matter of its names.
-/

namespace Shipyard

namespace FileSystem

variable {fs gs : FileSystem} {p q dir front : Path} {base l m start cwd : Location}
  {names : List String} {name : String} {fault : Fault} {errno : Errno} {seen : Location → Prop}

/-! ## Trees -/

/-- Whether everything lies in directories. -/
def IsTree (fs : FileSystem) : Prop :=
  ∀ l m : Location, l <+: m → l ≠ m → fs.node? m ≠ none → fs.node? l = some .directory

/-- Below nothing there is nothing. -/
theorem IsTree.node?_eq_none (h : fs.IsTree) (hl : fs.node? l = none) (hm : l <+: m) :
    fs.node? m = none := by
  by_contra hnode
  by_cases heq : l = m
  · exact hnode (heq ▸ hl)
  · rw [h l m hm heq hnode] at hl
    cases hl

theorem isTree_empty (cwd : Location) : (empty cwd).IsTree := by
  intro l m hlm hne hm
  have hroot : m = [] := by
    by_contra hroot
    simp [node?, empty, hroot] at hm
  rw [hroot, List.prefix_nil] at hlm
  exact absurd (hlm.trans hroot.symm) hne

/-- It stays so if something is put into a directory. -/
theorem IsTree.put (h : fs.IsTree) (hdir : fs.node? l = some .directory)
    (hnone : fs.node? (l ++ [name]) = none) (node : Node) : (fs.put (l ++ [name]) node).IsTree := by
  intro k m hkm hne hm
  rw [node?_put _ _ _ (by simp)] at hm ⊢
  have hk : fs.node? k = some .directory := by
    by_cases hmem : m = l ++ [name]
    · have hup : k <+: l := (List.prefix_concat_iff.mp (hmem ▸ hkm)).resolve_left (hmem ▸ hne)
      by_cases hsame : k = l
      · rw [hsame, hdir]
      · exact h k l hup hsame (by rw [hdir]; nofun)
    · rw [if_neg hmem] at hm
      exact h k m hkm hne hm
  rw [if_neg, hk]
  rintro rfl
  rw [hnone] at hk
  cases hk

/-! ## Above -/

/-- The locations that a walk comes by are the ones at which it takes its steps, and its end. -/
theorem foldl_take_mem_road (start : Location) (names : List String) (count : Nat) :
    (names.take count).foldl Path.stepLexically start ∈ road start names ∨
      (names.take count).foldl Path.stepLexically start =
        names.foldl Path.stepLexically start := by
  induction names generalizing start count with
  | nil => exact .inr (by rw [List.take_nil])
  | cons name rest ih =>
    cases count with
    | zero => exact .inl (List.mem_cons_self ..)
    | succ count =>
      rcases ih (Path.stepLexically start name) count with hmem | hend
      · exact .inl (List.mem_cons_of_mem _ hmem)
      · exact .inr hend

/-- Above a path that leads to a directory there are directories. -/
theorem Reaches.above (h : fs.Reaches p base) (hl : Above fs.cwd p l) :
    fs.node? l = some .directory := by
  obtain ⟨hroad, -, hbase⟩ := foldlM_step_eq_ok_iff.mp h.walk
  obtain ⟨count, rfl⟩ := hl
  rcases foldl_take_mem_road (p.start fs.cwd) p.parts count with hmem | hend
  · exact hroad _ hmem
  · have hplace : (⟨p.anchor, p.parts.take count⟩ : Path).place fs.cwd = base :=
      hend.trans hbase.symm
    rw [hplace]
    exact h.directory

/-- A path goes on leading to a directory if those above it stay. -/
theorem Reaches.of_directories (h : fs.Reaches p base) (hcwd : gs.cwd = fs.cwd)
    (hstay : ∀ l, Above fs.cwd p l → fs.node? l = some .directory →
      gs.node? l = some .directory) : gs.Reaches p base := by
  obtain ⟨hroad, hfits, hbase⟩ := foldlM_step_eq_ok_iff.mp h.walk
  refine ⟨foldlM_step_eq_ok_iff.mpr ?_, hstay base ?_ h.directory⟩
  · rw [hcwd]
    exact ⟨fun l hl => hstay l (above_of_mem_road hl) (hroad l hl), hfits, hbase⟩
  · rw [h.eq_place]
    exact above_place ..

/-- Whether no file is above a path. -/
def Unblocked (fs : FileSystem) (p : Path) : Prop :=
  ∀ l, Above fs.cwd p l → fs.node? l = none ∨ fs.node? l = some .directory

theorem Reaches.parent (h : fs.Reaches (dir.entry name) base) : ∃ base', fs.Reaches dir base' := by
  have hwalk := h.walk
  change (dir.parts ++ [name]).foldlM fs.step (dir.start fs.cwd) = _ at hwalk
  rw [List.foldlM_append] at hwalk
  rcases hdir : dir.parts.foldlM fs.step (dir.start fs.cwd) with _ | base'
  · rw [hdir] at hwalk
    cases hwalk
  · refine ⟨base', hdir, ?_⟩
    rw [(foldlM_step_eq_ok_iff.mp hdir).2.2]
    exact h.above (above_entry_iff.mpr (.inl (above_place ..)))

/-! ## Below -/

/-- Whether a location is that of a path or below it. -/
def Below (cwd : Location) (p : Path) (l : Location) : Prop := p.place cwd <+: l

/-- Where nothing is below a path, nothing is removed there. -/
theorem eraseBelow_eq_self (hplace : p.place fs.cwd ≠ [])
    (h : ∀ l, Below fs.cwd p l → fs.node? l = none) : fs.eraseBelow (p.place fs.cwd) = fs := by
  refine ext_node? rfl fun l => ?_
  rw [node?_eraseBelow _ _ hplace]
  split
  · next hl => exact (h l (List.isPrefixOf_iff_prefix.mp hl)).symm
  · rfl

/-- What differs only below a path is the same once that is removed. -/
theorem Agrees.eraseBelow_eq (h : Agrees (fun l => ¬ Below fs.cwd p l) fs gs)
    (hplace : p.place fs.cwd ≠ []) :
    gs.eraseBelow (p.place fs.cwd) = fs.eraseBelow (p.place fs.cwd) := by
  refine ext_node? h.cwd fun l => ?_
  rw [node?_eraseBelow _ _ hplace, node?_eraseBelow _ _ hplace]
  split
  · rfl
  · next hl => exact h.node l fun hbelow => hl (List.isPrefixOf_iff_prefix.mpr hbelow)

/-! ## Paths that lead on -/

/-- Whether a path leads on by plain names from a directory that is there, or is stopped by
something else than a missing directory. -/
def Extendable (fs : FileSystem) (p : Path) : Prop :=
  ∃ front base names, p = Path.under front names ∧ fs.Reaches front base ∧
    (Plain names ∨ ∃ errno, errno ≠ .noEntry ∧ names.foldlM fs.step base = .error errno)

theorem Plain.append {rest : List String} (h : Plain names) (h' : Plain rest) :
    Plain (names ++ rest) :=
  List.forall_mem_append.mpr ⟨h, h'⟩

theorem place_under (h : Plain names) :
    (front.under names).place cwd = front.place cwd ++ names := by
  rw [Path.place_eq]
  show (front.parts ++ names).foldl _ (front.start cwd) = _
  rw [List.foldl_append, ← Path.place_eq, foldl_stepLexically h]

/-- What is above a path that leads on is above its beginning or between that and its end. -/
theorem above_under (h : Plain names) (hl : Above cwd (front.under names) l) :
    Above cwd front l ∨ front.place cwd <+: l ∧ l <+: front.place cwd ++ names := by
  obtain ⟨count, rfl⟩ := hl
  by_cases hcount : count ≤ front.parts.length
  · refine .inl ⟨count, ?_⟩
    rw [Path.under, List.take_append_of_le_length hcount]
  · refine .inr ?_
    have htake : (⟨(front.under names).anchor, (front.under names).parts.take count⟩ : Path) =
        front.under (names.take (count - front.parts.length)) := by
      simp only [Path.under, List.take_append, List.take_of_length_le (Nat.le_of_not_le hcount)]
    rw [htake, place_under fun name hname => h name (List.mem_of_mem_take hname)]
    exact ⟨List.prefix_append .., (List.prefix_append_right_inj _).mpr (List.take_prefix ..)⟩

/-- What is between the beginning of a path and its end is above it. -/
theorem above_of_between (h : Plain names) (hl : front.place cwd <+: l)
    (hend : l <+: front.place cwd ++ names) : Above cwd (front.under names) l := by
  obtain ⟨rest, rfl⟩ := hl
  have hrest : rest = names.take rest.length :=
    List.prefix_iff_eq_take.mp ((List.prefix_append_right_inj _).mp hend)
  refine ⟨front.parts.length + rest.length, ?_⟩
  have htake : (⟨(front.under names).anchor,
      (front.under names).parts.take (front.parts.length + rest.length)⟩ : Path) =
        front.under rest := by
    simp only [Path.under, List.take_length_add_append, ← hrest]
  rw [htake, place_under fun name hname => h name ?_]
  rw [hrest] at hname
  exact List.mem_of_mem_take hname

/-- What a walk comes by behind the beginning of a path is above the path. -/
theorem above_of_mem_road_under (hl : l ∈ road (front.place cwd) names) :
    Above cwd (front.under names) l := by
  obtain ⟨count, rfl⟩ := exists_take_of_mem_road hl
  refine ⟨front.parts.length + count, ?_⟩
  have htake : (⟨(front.under names).anchor,
      (front.under names).parts.take (front.parts.length + count)⟩ : Path) =
        front.under (names.take count) := by
    simp only [Path.under, List.take_length_add_append]
  rw [htake, Path.place_eq, Path.place_eq]
  show _ = (front.parts ++ names.take count).foldl _ (front.start cwd)
  rw [List.foldl_append]

/-- Among directories, a walk over names that fit is stopped only because one is missing. -/
theorem eq_noEntry_of_foldlM_step
    (hnodes : ∀ l ∈ road start names, fs.node? l = none ∨ fs.node? l = some .directory)
    (hfits : ∀ name ∈ names, Fits name) (h : names.foldlM fs.step start = .error errno) :
    errno = .noEntry := by
  induction names generalizing start with
  | nil => cases h
  | cons name rest ih =>
    obtain ⟨hstart, hrest⟩ := List.forall_mem_cons.mp hnodes
    obtain ⟨hname, hfits⟩ := List.forall_mem_cons.mp hfits
    rw [List.foldlM_cons] at h
    rcases hstart with hnone | hdirectory
    · rw [step, hnone] at h
      cases h
      rfl
    · rw [step_eq_ok_iff.mpr ⟨hdirectory, hname, rfl⟩] at h
      exact ih hrest hfits h

/-! ## Looks that fail -/

/-- What is found behind a path that cannot be looked up. -/
theorem find?_of_lost (h : fs.locate p = .error fault) :
    fs.find? p = match fault with
      | .os e => if e.errno = .noEntry ∨ e.errno = .notDirectory then .ok none else .error fault
      | _ => .ok none := by
  rw [FileSystem.locate] at h
  rw [find?]
  by_cases hnull : p.hasNull = true
  · rw [if_pos hnull] at h ⊢
    cases h
    rfl
  · rw [if_neg hnull] at h ⊢
    rcases hwalk : fs.walk p with errno | loc
    all_goals
      rw [hwalk] at h
      cases h
    cases errno <;> simp [osError]

/-- A walk that is stopped by something else than a missing directory ends the look in that way. -/
theorem exists_locate_of_stopped (h : p.parts.foldlM fs.step (p.start fs.cwd) = .error errno)
    (herrno : errno ≠ .noEntry) :
    ∃ fault, fs.locate p = .error fault ∧ ∀ e, fault = .os e → e.errno ≠ .noEntry := by
  rw [FileSystem.locate, walk_eq, h]
  by_cases hnull : p.hasNull = true
  · refine ⟨_, if_pos hnull, ?_⟩
    rintro e ⟨⟩
  rw [if_neg hnull]
  by_cases hlong : maxPathBytes < p.text.utf8ByteSize
  · rw [if_pos hlong]
    refine ⟨_, rfl, ?_⟩
    rintro e ⟨⟩ ⟨⟩
  · rw [if_neg hlong]
    refine ⟨_, rfl, ?_⟩
    rintro e ⟨⟩
    exact herrno

/-- A path that leads to a directory and can be written down is found there. -/
theorem Reaches.locate_eq_ok (h : fs.Reaches p base) (hnull : p.hasNull = false)
    (hshort : p.text.utf8ByteSize ≤ maxPathBytes) : fs.locate p = .ok base :=
  locate_eq_ok_iff.mpr ⟨hnull, hshort, h.walk⟩

end FileSystem

namespace Disk

open FileSystem

variable {fs fs' : FileSystem} {p : Path} {base : Location} {fault : Fault}

/-- Where the directory is there, none is made. -/
theorem runOn_makeDirectories_of_reaches (h : fs.Reaches p base) (hnull : p.hasNull = false)
    (hshort : p.text.utf8ByteSize ≤ maxPathBytes) :
    runOn (makeDirectories p) fs = (.ok (), fs) := by
  refine runOn_ensureDirectories_of_ok ?_
  rw [runOn_ensureDirectory, h.locate_eq_ok hnull hshort]
  dsimp only
  rw [h.directory]

/-- Where a path is stopped by something else than a missing directory, none is made either. -/
theorem runOn_makeDirectories_of_lost (h : fs.locate p = .error fault)
    (hfault : ∀ e, fault = .os e → e.errno ≠ .noEntry) :
    runOn (makeDirectories p) fs = (.error fault, fs) := by
  refine runOn_ensureDirectories_of_error ?_ hfault
  rw [runOn_ensureDirectory, h]

end Disk

end Shipyard
