import Shipyard.Proofs.FileSystem.Directories

/-!
# Computations in a part of the files

Two file systems agree on a part of their locations. A computation is confined to such a part if it
sees nothing else and changes nothing else: on file systems that agree there it gives the same and
leaves them in agreement, and elsewhere it changes nothing. The part consists of what is below some
directory, where a computation may do what it likes, and of the locations above it, where it may
only make directories that are missing. The way to a directory can lead through what is below it and
back; the directories on it stay even there.
-/

namespace Shipyard

namespace FileSystem

variable {fs gs hs : FileSystem} {p dir : Path} {cwd l loc start : Location} {name : String}
  {names : List String} {seen above below : Location → Prop}

/-! ## Agreement -/

/-- Whether two file systems are the same at certain locations. -/
structure Agrees (seen : Location → Prop) (fs gs : FileSystem) : Prop where
  /-- the current directory is the same -/
  cwd : gs.cwd = fs.cwd
  /-- so are these nodes -/
  node : ∀ l, seen l → gs.node? l = fs.node? l

/-- Whether a path, and every path above it, leads to certain locations only. -/
def Within (seen : Location → Prop) (cwd : Location) (p : Path) : Prop :=
  ∀ l, Above cwd p l → seen l

theorem above_entry_iff : Above cwd (dir.entry name) l ↔
    Above cwd dir l ∨ l = (dir.entry name).place cwd := by
  constructor
  · rintro ⟨count, rfl⟩
    by_cases hcount : count ≤ dir.parts.length
    · refine .inl ⟨count, ?_⟩
      rw [Path.entry, List.take_append_of_le_length hcount]
    · refine .inr ?_
      rw [List.take_of_length_le]
      show (dir.parts ++ [name]).length ≤ count
      rw [List.length_append, List.length_singleton]
      omega
  · rintro (⟨count, rfl⟩ | rfl)
    · refine ⟨min count dir.parts.length, ?_⟩
      rw [Path.entry, List.take_append_of_le_length (Nat.min_le_right ..),
        List.take_eq_take_min]
    · exact above_place ..

theorem Within.entry (h : Within seen cwd dir) (hplace : seen ((dir.entry name).place cwd)) :
    Within seen cwd (dir.entry name) := by
  intro l hl
  rcases above_entry_iff.mp hl with habove | rfl
  · exact h l habove
  · exact hplace

theorem Within.parent (h : Within seen cwd p) : Within seen cwd p.parent := fun l hl =>
  h l (above_of_parent hl)

theorem exists_take_of_mem_road (h : l ∈ road start names) :
    ∃ count, l = (names.take count).foldl Path.stepLexically start := by
  induction names generalizing start with
  | nil => exact absurd h List.not_mem_nil
  | cons name rest ih =>
    rcases List.mem_cons.mp h with rfl | h
    · exact ⟨0, rfl⟩
    · obtain ⟨count, rfl⟩ := ih h
      exact ⟨count + 1, rfl⟩

theorem above_of_mem_road (h : l ∈ road (p.start cwd) p.parts) : Above cwd p l :=
  exists_take_of_mem_road h

namespace Agrees

/-- Walks go alike as long as they stay where the file systems agree. -/
theorem foldlM_step (h : Agrees seen fs gs) (hroad : ∀ l ∈ road start names, seen l) :
    names.foldlM gs.step start = names.foldlM fs.step start := by
  induction names generalizing start with
  | nil => rfl
  | cons name rest ih =>
    obtain ⟨hstart, hrest⟩ := List.forall_mem_cons.mp hroad
    have hstep : gs.step start name = fs.step start name := by
      rw [step, step, h.node start hstart]
    rw [List.foldlM_cons, List.foldlM_cons, hstep]
    rcases hnext : fs.step start name with errno | next
    · rfl
    · obtain ⟨-, -, rfl⟩ := step_eq_ok_iff.mp hnext
      exact ih hrest

theorem walk (h : Agrees seen fs gs) (hwithin : Within seen fs.cwd p) : gs.walk p = fs.walk p := by
  rw [walk_eq, walk_eq, h.cwd, h.foldlM_step fun l hl => hwithin l (above_of_mem_road hl)]

theorem locate (h : Agrees seen fs gs) (hwithin : Within seen fs.cwd p) :
    gs.locate p = fs.locate p := by
  rw [FileSystem.locate, FileSystem.locate, h.walk hwithin]

theorem find? (h : Agrees seen fs gs) (hwithin : Within seen fs.cwd p) :
    gs.find? p = fs.find? p := by
  rw [FileSystem.find?, FileSystem.find?, h.walk hwithin]
  rcases hwalk : fs.walk p with errno | loc
  · cases errno <;> rfl
  · rw [walk_eq] at hwalk
    split at hwalk
    · cases hwalk
    · obtain ⟨-, -, rfl⟩ := foldlM_step_eq_ok_iff.mp hwalk
      have hnode := h.node _ (hwithin _ (above_place ..))
      rw [Path.place_eq] at hnode
      dsimp only
      rw [hnode]

/-- A request gives the same and leaves the file systems in agreement. -/
theorem request {α : Type} (r : FileRequest α) (h : Agrees seen fs gs)
    (hwithin : Within seen fs.cwd r.path) :
    (r.run gs).1 = (r.run fs).1 ∧ Agrees seen (r.run fs).2 (r.run gs).2 := by
  have hsame := h.locate hwithin
  rcases hlocate : fs.locate r.path with fault | loc
  all_goals rw [hlocate] at hsame
  · rw [FileRequest.run_of_lost hlocate, FileRequest.run_of_lost hsame]
    exact ⟨rfl, h⟩
  · have hseen : seen loc := eq_place_of_locate hlocate ▸ hwithin _ (above_place ..)
    have hnode := h.node loc hseen
    refine ⟨?_, ?_, fun l hl => ?_⟩
    · rw [FileRequest.run_of_found hlocate, FileRequest.run_of_found hsame, hnode]
    · rw [FileRequest.cwd_run, FileRequest.cwd_run, h.cwd]
    · rw [FileRequest.node?_run hlocate, FileRequest.node?_run hsame, hnode, h.node l hl]

end Agrees

/-! ## Changes -/

/-- Whether file systems differ only below some directory, and above it by directories where there
was nothing. -/
structure Local (above below : Location → Prop) (fs gs : FileSystem) : Prop where
  /-- the current directory is the same -/
  cwd : gs.cwd = fs.cwd
  /-- what can have become of a node -/
  node : ∀ l, below l ∨ gs.node? l = fs.node? l ∨
    above l ∧ fs.node? l = none ∧ gs.node? l = some .directory
  /-- directories above stay -/
  kept : ∀ l, above l → fs.node? l = some .directory → gs.node? l = some .directory

namespace Local

theorem refl (above below : Location → Prop) (fs : FileSystem) : Local above below fs fs :=
  ⟨rfl, fun _ => .inr (.inl rfl), fun _ _ hdirectory => hdirectory⟩

theorem trans (h : Local above below fs gs) (h' : Local above below gs hs) :
    Local above below fs hs := by
  refine ⟨h'.cwd.trans h.cwd, fun l => ?_, fun l hl hdirectory => ?_⟩
  case refine_2 => exact h'.kept l hl (h.kept l hl hdirectory)
  rcases h.node l with hbelow | hsame | ⟨habove, hnone, hnew⟩
  · exact .inl hbelow
  · rw [← hsame]
    exact h'.node l
  · rcases h'.node l with hbelow | hsame' | ⟨-, hnone', -⟩
    · exact .inl hbelow
    · exact .inr (.inr ⟨habove, hnone, hsame'.trans hnew⟩)
    · rw [hnew] at hnone'
      cases hnone'

/-- A directory that is not below stays. -/
theorem directory (h : Local above below fs gs) (hbelow : ¬ below l)
    (hdirectory : fs.node? l = some .directory) : gs.node? l = some .directory := by
  rcases h.node l with hl | hsame | ⟨-, -, hnew⟩
  · exact absurd hl hbelow
  · rw [hsame, hdirectory]
  · exact hnew

/-- What is above one directory may be below another. -/
theorem mono {above' below' : Location → Prop} (h : Local above below fs gs)
    (habove : ∀ l, above l → above' l ∨ below' l) (hbelow : ∀ l, below l → below' l)
    (hkept : ∀ l, above' l → ¬ below l) : Local above' below' fs gs := by
  refine ⟨h.cwd, fun l => ?_, fun l hl hdirectory => h.directory (hkept l hl) hdirectory⟩
  rcases h.node l with hl | hsame | ⟨hl, hnew⟩
  · exact .inl (hbelow l hl)
  · exact .inr (.inl hsame)
  · rcases habove l hl with hl | hl
    · exact .inr (.inr ⟨hl, hnew⟩)
    · exact .inl hl

/-- A location that is neither above nor below is not touched. -/
theorem node_of_not (h : Local above below fs gs) (habove : ¬ above l) (hbelow : ¬ below l) :
    gs.node? l = fs.node? l :=
  ((h.node l).resolve_left hbelow).resolve_right fun hl => habove hl.1

end Local

theorem Grown.local (h : Grown seen fs gs) (hseen : ∀ l, seen l → above l ∨ below l) :
    Local above below fs gs := by
  refine ⟨h.cwd, fun l => ?_, fun l _ => h.directory⟩
  rcases h.node l with hsame | ⟨hnone, hnew, hl⟩
  · exact .inr (.inl hsame)
  · rcases hseen l hl with habove | hbelow
    · exact .inr (.inr ⟨habove, hnone, hnew⟩)
    · exact .inl hbelow

end FileSystem

/-! ## Confined computations -/

namespace Disk

open FileSystem

variable {α β : Type} {d : Disk α} {f : α → Disk β} {fs gs : FileSystem} {p : Path} {cwd : Location}
  {above below : Location → Prop}

/-- Whether a computation sees and changes only what is above and below some directory. -/
structure Confined (cwd : Location) (above below : Location → Prop) (d : Disk α) : Prop where
  /-- it sees nothing else -/
  same {fs gs : FileSystem} : fs.cwd = cwd → Agrees (fun l => above l ∨ below l) fs gs →
    (runOn d gs).1 = (runOn d fs).1 ∧
      Agrees (fun l => above l ∨ below l) (runOn d fs).2 (runOn d gs).2
  /-- it changes nothing else -/
  stays {fs : FileSystem} : fs.cwd = cwd → Local above below fs (runOn d fs).2

/-- Whether a path can be used by such a computation. -/
abbrev InReach (cwd : Location) (above below : Location → Prop) (p : Path) : Prop :=
  Within (fun l => above l ∨ below l) cwd p

theorem confined_pure (a : α) : Confined cwd above below (pure a : Disk α) :=
  ⟨fun _ h => ⟨rfl, h⟩, fun _ => .refl ..⟩

theorem confined_throw (fault : Fault) : Confined cwd above below (throw fault : Disk α) :=
  ⟨fun _ h => ⟨rfl, h⟩, fun _ => .refl ..⟩

theorem Confined.bind (hd : Confined cwd above below d)
    (hf : ∀ a, Confined cwd above below (f a)) : Confined cwd above below (d >>= f) := by
  constructor
  · intro fs gs hcwd h
    obtain ⟨hresult, hleft⟩ := hd.same hcwd h
    have hcwd' := (hd.stays hcwd).cwd.trans hcwd
    rw [runOn_bind, runOn_bind]
    rcases hrun : runOn d fs with ⟨r, fs'⟩
    rcases hrun' : runOn d gs with ⟨r', gs'⟩
    rw [hrun, hrun'] at hresult hleft
    rw [hrun] at hcwd'
    obtain rfl : r' = r := hresult
    cases r' with
    | error fault => exact ⟨rfl, hleft⟩
    | ok a => exact (hf a).same hcwd' hleft
  · intro fs hcwd
    have hstays := hd.stays hcwd
    rw [runOn_bind]
    rcases hrun : runOn d fs with ⟨_ | a, fs'⟩
    all_goals rw [hrun] at hstays
    · exact hstays
    · exact hstays.trans ((hf a).stays (hstays.cwd.trans hcwd))

theorem Confined.attempt (hd : Confined cwd above below d) :
    Confined cwd above below (Disk.attempt d) := by
  constructor
  · intro fs gs hcwd h
    obtain ⟨hresult, hleft⟩ := hd.same hcwd h
    rw [runOn_attempt, runOn_attempt]
    rcases hrun : runOn d fs with ⟨r, fs'⟩
    rcases hrun' : runOn d gs with ⟨r', gs'⟩
    rw [hrun, hrun'] at hresult hleft
    obtain rfl : r' = r := hresult
    rcases r' with fault | a
    · cases fault <;> exact ⟨rfl, hleft⟩
    · exact ⟨rfl, hleft⟩
  · intro fs hcwd
    have hstays := hd.stays hcwd
    rw [runOn_attempt]
    rcases hrun : runOn d fs with ⟨fault | a, fs'⟩
    all_goals rw [hrun] at hstays
    · cases fault <;> exact hstays
    · exact hstays

/-- A computation that reads is confined if it sees nothing else. -/
theorem confined_of_reads (hreads : Reads d)
    (hsame : ∀ fs gs : FileSystem, fs.cwd = cwd → Agrees (fun l => above l ∨ below l) fs gs →
      (runOn d gs).1 = (runOn d fs).1) : Confined cwd above below d := by
  refine ⟨fun hcwd h => ⟨hsame _ _ hcwd h, ?_⟩, fun _ => ?_⟩
  · rw [hreads, hreads]
    exact h
  · rw [hreads]
    exact .refl ..

/-- A request is confined if what it changes is below. -/
theorem confined_request {r : FileRequest α} (hrun : ∀ fs, runOn d fs = r.run fs)
    (hpath : InReach cwd above below r.path) (hplace : below (r.path.place cwd)) :
    Confined cwd above below d := by
  refine ⟨fun {fs gs} hcwd h => ?_, fun {fs} hcwd => ?_⟩
  · rw [hrun, hrun]
    exact h.request r (hcwd ▸ hpath)
  · rw [hrun]
    refine ⟨FileRequest.cwd_run .., fun l => ?_, fun l _ => FileRequest.directory_run⟩
    by_cases hl : l = r.path.place fs.cwd
    · rw [hl, hcwd]
      exact .inl hplace
    · exact .inr (.inl (FileRequest.node?_run_of_ne hl))

/-! ## Files -/

section Files

variable (hpath : InReach cwd above below p) (hplace : below (p.place cwd))

include hpath hplace

theorem confined_openFile : Confined cwd above below (openFile p) :=
  confined_request (r := FileRequest.openFile p) (runOn_openFile p) hpath hplace

theorem confined_writeBytes (content : Bytes) : Confined cwd above below (writeBytes p content) :=
  confined_request (r := FileRequest.writeBytes p content) (runOn_writeBytes p content) hpath hplace

theorem confined_setStatus (mode : Nat) (modified : Int) :
    Confined cwd above below (setStatus p mode modified) :=
  confined_request (r := FileRequest.setStatus p mode modified) (runOn_setStatus p mode modified)
    hpath hplace

theorem confined_removeIfPresent : Confined cwd above below (removeIfPresent p) :=
  confined_request (r := FileRequest.removeIfPresent p) (runOn_removeIfPresent p) hpath hplace

end Files

/-! ## Looks -/

theorem confined_find? (hpath : InReach cwd above below p) :
    Confined cwd above below (Disk.find? p) := by
  refine confined_of_reads reads_query fun fs gs hcwd h => ?_
  rw [Disk.find?, runOn_query, runOn_query]
  exact h.find? (hcwd ▸ hpath)

theorem confined_pathExists (hpath : InReach cwd above below p) :
    Confined cwd above below (pathExists p) :=
  (confined_find? hpath).bind fun _ => confined_pure _

theorem confined_isFile (hpath : InReach cwd above below p) :
    Confined cwd above below (isFile p) := by
  refine (confined_find? hpath).bind fun found => ?_
  split
  · exact confined_pure _
  · exact confined_pure _

theorem confined_isDirectory (hpath : InReach cwd above below p) :
    Confined cwd above below (isDirectory p) :=
  (confined_find? hpath).bind fun _ => confined_pure _

/-! ## Directories -/

theorem confined_makeDirectory (hpath : InReach cwd above below p) :
    Confined cwd above below (makeDirectory p) := by
  refine ⟨fun {fs gs} hcwd h => ?_, fun {fs} hcwd => ?_⟩
  · rw [runOn_makeDirectory, runOn_makeDirectory]
    exact h.request (FileRequest.makeDirectory p) (hcwd ▸ hpath)
  · rw [runOn_makeDirectory]
    have hgrown := grown_makeDirectory (p := p) (rfl : fs.cwd = fs.cwd)
    exact hgrown.local (hcwd ▸ hpath)

theorem confined_ensureDirectory (hpath : InReach cwd above below p) :
    Confined cwd above below (ensureDirectory p) := by
  refine (confined_makeDirectory hpath).attempt.bind fun made => ?_
  cases made with
  | ok u => exact confined_pure _
  | error e =>
    refine (confined_isDirectory hpath).bind fun found => ?_
    split
    · exact confined_pure _
    · exact confined_throw _

theorem confined_ensureDirectories (depth : Nat) (hpath : InReach cwd above below p) :
    Confined cwd above below (ensureDirectories depth p) := by
  induction depth generalizing p with
  | zero => exact confined_ensureDirectory hpath
  | succ depth ih =>
    refine (confined_ensureDirectory hpath).attempt.bind fun made => ?_
    cases made with
    | ok u => exact confined_pure _
    | error e =>
      dsimp only
      split
      · exact (ih hpath.parent).bind fun _ => confined_ensureDirectory hpath
      · exact confined_throw _

theorem confined_makeDirectories (hpath : InReach cwd above below p) :
    Confined cwd above below (makeDirectories p) :=
  confined_ensureDirectories _ hpath

theorem runOn_removeTree (p : Path) (fs : FileSystem) :
    runOn (removeTree p) fs =
      match fs.locate p with
      | .error fault => (.error fault, fs)
      | .ok loc =>
        match fs.node? loc with
        | none => (.error (osError .noEntry p), fs)
        | some (.file _) => (.error (.os ⟨.notDirectory, .object p.text⟩), fs)
        | some .directory => (.ok (), fs.eraseBelow loc) := by
  rw [removeTree, runOn_bind, Disk.locate, runOn_query]
  rcases fs.locate p with fault | loc
  · rfl
  · dsimp only
    rw [runOn_bind_ok (runOn_get fs)]
    rcases fs.node? loc with _ | _ | f <;> rfl

/-- A tree is removed where everything is below and the way does not lead through it. -/
theorem confined_removeTree (hpath : InReach cwd above below p) (hroot : p.place cwd ≠ [])
    (hplace : ∀ l, p.place cwd <+: l → below l) (hapart : ∀ l, above l → ¬ p.place cwd <+: l) :
    Confined cwd above below (removeTree p) := by
  refine ⟨fun {fs gs} hcwd h => ?_, fun {fs} hcwd => ?_⟩
  · rw [runOn_removeTree, runOn_removeTree, h.locate (hcwd ▸ hpath)]
    rcases hlocate : fs.locate p with fault | loc
    · exact ⟨rfl, h⟩
    obtain rfl : loc = p.place cwd := hcwd ▸ eq_place_of_locate hlocate
    have hnode := h.node _ (.inr (hplace _ (List.prefix_refl _)))
    dsimp only
    rw [hnode]
    rcases fs.node? (p.place cwd) with _ | _ | f
    · exact ⟨rfl, h⟩
    · refine ⟨rfl, h.cwd, fun l hl => ?_⟩
      rw [node?_eraseBelow _ _ hroot, node?_eraseBelow _ _ hroot, h.node l hl]
    · exact ⟨rfl, h⟩
  · rw [runOn_removeTree]
    rcases hlocate : fs.locate p with fault | loc
    · exact .refl ..
    obtain rfl : loc = p.place cwd := hcwd ▸ eq_place_of_locate hlocate
    dsimp only
    rcases fs.node? (p.place cwd) with _ | _ | f
    · exact .refl ..
    · have hother (l : Location) (hl : ¬ p.place cwd <+: l) :
          (fs.eraseBelow (p.place cwd)).node? l = fs.node? l := by
        rw [node?_eraseBelow _ _ hroot, if_neg fun h => hl (List.isPrefixOf_iff_prefix.mp h)]
      refine ⟨rfl, fun l => ?_, fun l hl hdirectory => ?_⟩
      · by_cases hl : p.place cwd <+: l
        · exact .inl (hplace l hl)
        · exact .inr (.inl (hother l hl))
      · exact (hother l (hapart l hl)).trans hdirectory
    · exact .refl ..

end Disk

end Shipyard
