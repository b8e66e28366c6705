import Mathlib.Logic.Function.Basic
import Shipyard.Proofs.Asset.Name
import Shipyard.Proofs.FileSystem.Directories
import Shipyard.Proofs.FileSystem.Disk
import Shipyard.Step.Packaging

/-!
# The three places of a packaging

A packaging works on three names in one directory, and every request that it makes is about one of
them. A `Layout` is such a directory with its names; `Slots` says what is behind the names, so that
the requests of a packaging become updates of three nodes. Whatever the file system does, an artifact
that a packaging gives is for the target of the program and lies where the archive of that target
belongs, and a failure is one of its platform.
-/

namespace Shipyard.Packaging

open FileSystem

/-! ## Layouts -/

/-- What a file of a packaging is for. -/
inductive Role where
  /-- the copy of the program -/
  | renamed
  /-- the archive -/
  | archive
  /-- the sidecar -/
  | sidecar
  deriving DecidableEq, Repr

/-- A directory with three names. -/
structure Layout where
  /-- the path of the directory -/
  dir : Path
  /-- its location -/
  base : Location
  /-- the names -/
  name : Role → String
  /-- no two are the same -/
  injective : Function.Injective name
  /-- none leads out of the directory -/
  ne_up : ∀ role, name role ≠ ".."
  /-- the name of the sidecar is the longest -/
  admits_archive : Admits dir (name .sidecar) → Admits dir (name .archive)
  /-- and that of the copy is the shortest -/
  admits_renamed : Admits dir (name .archive) → Admits dir (name .renamed)

namespace Layout

/-- The path of a file. -/
def path (x : Layout) (role : Role) : Path := x.dir.entry (x.name role)

/-- The location of a file. -/
def location (x : Layout) (role : Role) : Location := x.base ++ [x.name role]

theorem location_injective (x : Layout) : Function.Injective x.location := by
  intro role role' h
  exact x.injective (List.singleton_inj.mp (List.append_cancel_left h))

/-- Whether a file can be looked up. -/
def Open (x : Layout) (role : Role) : Prop := Admits x.dir (x.name role)

theorem open_of_sidecar {x : Layout} (h : x.Open .sidecar) : ∀ role, x.Open role
  | .renamed => x.admits_renamed (x.admits_archive h)
  | .archive => x.admits_archive h
  | .sidecar => h

end Layout

/-! ## Layouts of targets -/

/-- The end of the name of a file, from the architecture on. -/
def Role.tail (target : BuildTarget) : Role → String
  | .renamed => "_" ++ target.triple ++ target.exeSuffix
  | .archive => target.archiveTail
  | .sidecar => target.archiveTail ++ sidecarSuffix

theorem Role.tail_archive (target : BuildTarget) :
    tail target .archive = tail target .renamed ++ target.archiveFormat.suffix := rfl

theorem Role.tail_sidecar (target : BuildTarget) :
    tail target .sidecar = tail target .archive ++ sidecarSuffix := rfl

theorem Role.tail_plain :
    ∀ target ∈ BuildTarget.all, ∀ role, '/' ∉ (tail target role).toList ∧
      2 ≤ (tail target role).length := by
  intro target htarget role
  cases role with
  | renamed =>
    revert htarget
    revert target
    decide
  | archive => exact BuildTarget.assetTails_plain target htarget _ (List.mem_cons_self ..)
  | sidecar =>
    exact BuildTarget.assetTails_plain target htarget _
      (List.mem_cons_of_mem _ (List.mem_singleton_self _))

theorem Role.tail_injective (target : BuildTarget) : Function.Injective (tail target) := by
  have harchive : (tail target .renamed).length < (tail target .archive).length := by
    rw [tail_archive, String.length_append]
    have : 0 < target.archiveFormat.suffix.length := by cases target.archiveFormat <;> decide
    omega
  have hsidecar : (tail target .archive).length < (tail target .sidecar).length := by
    rw [tail_sidecar, String.length_append]
    have : 0 < sidecarSuffix.length := by decide
    omega
  intro role role' h
  have hlength := congrArg String.length h
  cases role <;> cases role' <;> first | rfl | omega

theorem admits_of_append {dir : Path} {name t : String} (h : Admits dir (name ++ t)) :
    Admits dir name where
  null := by
    have hnull := h.null
    simp only [Path.hasNull, Path.entry, List.any_append, List.any_cons, List.any_nil,
      String.toList_append, List.contains_eq_mem, List.mem_append, Bool.or_false,
      Bool.or_eq_false_iff, decide_eq_false_iff_not, not_or] at hnull ⊢
    exact ⟨hnull.1, hnull.2.1⟩
  short := by
    have hshort := h.short
    rw [Path.text_entry_append, String.utf8ByteSize_append] at hshort
    omega
  fits := by
    have hfits := h.fits
    rw [String.utf8ByteSize_append] at hfits
    omega

/-- The layout for a target in a directory; all names begin in the same way. -/
def Layout.of (target : BuildTarget) (dir : Path) (base : Location) (front : String) : Layout where
  dir := dir
  base := base
  name role := front ++ role.tail target
  injective role role' h := by
    refine Role.tail_injective target (String.toList_injective ?_)
    have hlist := congrArg String.toList h
    rw [String.toList_append, String.toList_append] at hlist
    exact List.append_cancel_left hlist
  ne_up role h := by
    have hmem : '_' ∈ (front ++ role.tail target).toList := by
      cases role <;> simp [Role.tail, BuildTarget.archiveTail]
    rw [h] at hmem
    exact absurd hmem (by decide)
  admits_archive h := by
    rw [Role.tail_sidecar, ← String.append_assoc] at h
    exact admits_of_append h
  admits_renamed h := by
    rw [Role.tail_archive, ← String.append_assoc] at h
    exact admits_of_append h

theorem Layout.sidecarName_of (target : BuildTarget) (dir : Path) (base : Location)
    (front : String) :
    sidecarName ((Layout.of target dir base front).name .archive) =
      (Layout.of target dir base front).name .sidecar := by
  simp only [sidecarName, of, Role.tail, String.append_assoc]

/-- The sidecar lies next to the archive. -/
theorem Layout.sidecarPath_of (target : BuildTarget) (dir : Path) (base : Location)
    (front : String) :
    sidecarPath ((Layout.of target dir base front).path .archive) =
      .ok ((Layout.of target dir base front).path .sidecar) := by
  rw [sidecarPath, path, Path.name_entry, sidecarName_of]
  simp [Path.withName?, Path.entry, path]

/-- The paths of a layout. -/
def Layout.outputs (x : Layout) : Outputs := ⟨x.path .renamed, x.path .archive, x.path .sidecar⟩

/-- **The outputs of a packaging have a layout.** Its directory is the one that was asked for, unless
the names lead elsewhere by a slash. -/
theorem exists_layout {target : BuildTarget} (htarget : target ∈ BuildTarget.all)
    (program version : String) (outDir : Path) :
    ∃ dir front, (('/' ∉ program.toList ∧ '/' ∉ version.toList) →
        dir = outDir ∧ front = program ++ "_" ++ version) ∧
      Path.IsName (front ++ Role.tail target .archive) ∧
      ∀ base, outputs target program version outDir =
        .ok (Layout.of target dir base front).outputs := by
  obtain ⟨q, front, hplain, hread⟩ := Path.exists_entry (program ++ "_" ++ version)
  -- a slash in the names leads to another directory, and it is the same for all three files
  have hchild : ∀ role, outDir.child (program ++ "_" ++ version ++ Role.tail target role) =
      (outDir / q).entry (front ++ Role.tail target role) := by
    intro role
    obtain ⟨hslash, hlong⟩ := Role.tail_plain target htarget role
    rw [Path.child, (hread _ hslash hlong).1, Path.join_entry]
  refine ⟨outDir / q, front, fun hnames => ?_, ?_, fun base => ?_⟩
  · obtain ⟨rfl, rfl⟩ := hplain (by simp [hnames.1, hnames.2])
    refine ⟨?_, rfl⟩
    show Path.mk outDir.anchor (outDir.parts ++ []) = outDir
    rw [List.append_nil]
  · obtain ⟨hslash, hlong⟩ := Role.tail_plain target htarget .archive
    exact (hread _ hslash hlong).2
  · have hrenamed : target.binaryName program version =
        program ++ "_" ++ version ++ Role.tail target .renamed := by
      simp only [BuildTarget.binaryName, Role.tail, String.append_assoc]
    have harchive : target.archiveName program version =
        program ++ "_" ++ version ++ Role.tail target .archive :=
      BuildTarget.archiveName_eq_append ..
    have hsidecar := Layout.sidecarPath_of target (outDir / q) [] front
    rw [Layout.path, Layout.path] at hsidecar
    dsimp only [Layout.of] at hsidecar
    unfold Packaging.outputs
    rw [hrenamed, harchive, hchild, hchild]
    dsimp only
    rw [hsidecar]
    rfl

/-! ## Slots -/

/-- The nodes behind three names. -/
def nodes (renamed archive sidecar : Option Node) : Role → Option Node
  | .renamed => renamed
  | .archive => archive
  | .sidecar => sidecar

section Update

variable {renamed archive sidecar node : Option Node}

@[simp] theorem update_renamed :
    Function.update (nodes renamed archive sidecar) .renamed node = nodes node archive sidecar := by
  funext role
  cases role <;> rfl

@[simp] theorem update_archive :
    Function.update (nodes renamed archive sidecar) .archive node = nodes renamed node sidecar := by
  funext role
  cases role <;> rfl

@[simp] theorem update_sidecar :
    Function.update (nodes renamed archive sidecar) .sidecar node = nodes renamed archive node := by
  funext role
  cases role <;> rfl

end Update

/-- Whether some files are those of a directory with certain nodes behind the three names. -/
structure Slots (x : Layout) (fs₀ : FileSystem) (at? : Role → Option Node) (fs : FileSystem) :
    Prop where
  /-- the path of the directory leads to it -/
  reaches : fs.Reaches x.dir x.base
  /-- the current directory is the same as before -/
  cwd : fs.cwd = fs₀.cwd
  /-- so are all other nodes -/
  others : ∀ l, (∀ role, l ≠ x.location role) → fs.node? l = fs₀.node? l
  /-- these nodes are behind the names -/
  slot : ∀ role, fs.node? (x.location role) = at? role

variable {α : Type} {x : Layout} {fs₀ fs : FileSystem} {at? : Role → Option Node} {role : Role}

/-- Any files are such files. -/
theorem Slots.init (hreaches : fs.Reaches x.dir x.base) :
    Slots x fs (fun role => fs.node? (x.location role)) fs :=
  ⟨hreaches, rfl, fun _ _ => rfl, fun _ => rfl⟩

theorem Slots.locate (h : Slots x fs₀ at? fs) (hopen : x.Open role) :
    fs.locate (x.path role) = .ok (x.location role) :=
  h.reaches.locate (x.ne_up role) hopen

/-- **Requests.** One that makes no directory is decided by the node behind its name, and changes
that node alone. -/
theorem Slots.run {r : FileRequest α} (h : Slots x fs₀ at? fs) (hr : r.MakesNone)
    (hpath : r.path = x.path role) (hopen : x.Open role) :
    (r.run fs).1 = (r.found (at? role)).1 ∧
      Slots x fs₀ (Function.update at? role (r.found (at? role)).2) (r.run fs).2 := by
  have hlocate : fs.locate r.path = .ok (x.location role) := hpath ▸ h.locate hopen
  have hnode := FileRequest.node?_run hlocate
  refine ⟨by rw [FileRequest.run_of_found hlocate, h.slot], ?_, ?_, fun l hl => ?_, fun role' => ?_⟩
  · exact h.reaches.of_sameDirectories (hr.sameDirectories fs)
  · rw [FileRequest.cwd_run, h.cwd]
  · rw [hnode, if_neg (hl role), h.others l hl]
  · rw [hnode, h.slot, h.slot]
    by_cases hrole : role' = role
    · rw [hrole, if_pos rfl, Function.update_self]
    · rw [if_neg (x.location_injective.ne hrole), Function.update_of_ne hrole]

/-- Of a name that cannot be looked up nothing is changed, and the fault is not that nothing is
there. -/
theorem Slots.run_of_not_open {r : FileRequest α} (h : Slots x fs₀ at? fs)
    (hpath : r.path = x.path role) (hopen : ¬ x.Open role) :
    r.run fs = (r.lost (.refused .nullCharacter), fs) ∨
      r.run fs = (r.lost (osError .nameTooLong (x.path role)), fs) := by
  rcases h.reaches.locate_eq_error (x.ne_up role) hopen with hlocate | hlocate
  · exact .inl (FileRequest.run_of_lost (hpath ▸ hlocate))
  · exact .inr (FileRequest.run_of_lost (by rw [hpath]; exact hlocate))

/-! ## The requests of a packaging -/

open Disk

/-- A removal takes the node away, or it changes nothing because the name cannot be looked up or
there is a directory. -/
theorem ensures_removeIfPresent (at? : Role → Option Node) (role : Role) :
    Ensures (Slots x fs₀ at?) (removeIfPresent (x.path role))
      (fun _ fs => x.Open role ∧ Slots x fs₀ (Function.update at? role none) fs)
      (fun _ fs => (¬ x.Open role ∨ at? role = some .directory) ∧ Slots x fs₀ at? fs) := by
  intro fs h
  rw [runOn_removeIfPresent]
  by_cases hopen : x.Open role
  · obtain ⟨hresult, hslots⟩ :=
      h.run (r := FileRequest.removeIfPresent (x.path role)) FileRequest.makesNone_removeIfPresent
        rfl hopen
    rcases hrun : (FileRequest.removeIfPresent (x.path role)).run fs with ⟨result, fs'⟩
    rw [hrun] at hresult hslots
    rcases hnode : at? role with _ | _ | f
    all_goals
      rw [hnode] at hresult hslots
      obtain rfl := hresult
    · exact ⟨hopen, hslots⟩
    · refine ⟨.inr rfl, ?_⟩
      have hself : Function.update at? role (some .directory) = at? := by
        rw [← hnode, Function.update_eq_self]
      exact hself ▸ hslots
    · exact ⟨hopen, hslots⟩
  · rcases h.run_of_not_open (r := FileRequest.removeIfPresent (x.path role)) rfl hopen with
      hrun | hrun
    · rw [hrun]
      exact ⟨.inl hopen, h⟩
    · rw [hrun]
      exact ⟨.inl hopen, h⟩

/-- Where there is nothing, a new file is written. -/
theorem ensures_writeBytes (content : Bytes) (hopen : x.Open role) (hnode : at? role = none) :
    Ensures (Slots x fs₀ at?) (writeBytes (x.path role) content)
      (fun _ fs => Slots x fs₀
        (Function.update at? role (some (.file ⟨content, newFileMode, 0⟩))) fs)
      (fun _ _ => False) := by
  intro fs h
  rw [runOn_writeBytes]
  obtain ⟨hresult, hslots⟩ := h.run (r := FileRequest.writeBytes (x.path role) content)
    FileRequest.makesNone_writeBytes rfl hopen
  rcases hrun : (FileRequest.writeBytes (x.path role) content).run fs with ⟨result, fs'⟩
  rw [hrun, hnode] at hresult hslots
  obtain rfl := hresult
  exact hslots

/-- A file gets its status. -/
theorem ensures_setStatus (mode : Nat) (modified : Int) {f : File} (hopen : x.Open role)
    (hnode : at? role = some (.file f)) :
    Ensures (Slots x fs₀ at?) (setStatus (x.path role) mode modified)
      (fun _ fs => Slots x fs₀
        (Function.update at? role (some (.file { f with mode, modified }))) fs)
      (fun _ _ => False) := by
  intro fs h
  rw [runOn_setStatus]
  obtain ⟨hresult, hslots⟩ := h.run (r := FileRequest.setStatus (x.path role) mode modified)
    FileRequest.makesNone_setStatus rfl hopen
  rcases hrun : (FileRequest.setStatus (x.path role) mode modified).run fs with ⟨result, fs'⟩
  rw [hrun, hnode] at hresult hslots
  obtain rfl := hresult
  exact hslots

/-- A file is opened, unless it may not be read. -/
theorem ensures_openFile {f : File} (hopen : x.Open role) (hnode : at? role = some (.file f)) :
    Ensures (Slots x fs₀ at?) (openFile (x.path role))
      (fun g fs => g = f ∧ f.mayBeRead = true ∧ Slots x fs₀ at? fs)
      (fun fault fs => f.mayBeRead = false ∧ (∃ e, fault = .os e) ∧ Slots x fs₀ at? fs) := by
  refine reads_openFile.ensures fun fs h => ?_
  obtain ⟨hresult, -⟩ := h.run (r := FileRequest.openFile (x.path role))
    FileRequest.makesNone_openFile rfl hopen
  rw [runOn_openFile, hresult, hnode]
  dsimp only [FileRequest.openFile]
  by_cases hread : f.mayBeRead = true
  · rw [if_pos hread]
    exact ⟨rfl, hread, h⟩
  · rw [if_neg hread]
    exact ⟨Bool.eq_false_iff.mpr hread, ⟨_, rfl⟩, h⟩

/-- Of a file from anywhere nothing is known. -/
theorem ensures_openFile_of_any (p : Path) :
    Ensures (Slots x fs₀ at?) (openFile p) (fun _ => Slots x fs₀ at?)
      (fun _ => Slots x fs₀ at?) := by
  refine reads_openFile.ensures fun fs h => ?_
  split
  · exact h
  · exact h

/-! ## Results -/

/-- The archive of a packaging is the one path for its target, program and version. -/
theorem archive_of_outputs {target : BuildTarget} {program version : String} {outDir : Path}
    {o : Outputs} (h : outputs target program version outDir = .ok o) :
    o.archive = outDir.child (target.archiveName program version) := by
  unfold outputs at h
  rcases hsidecar : sidecarPath (outDir.child (target.archiveName program version)) with _ | sidecar
  · simp only [hsidecar] at h
    cases h
  · simp only [hsidecar] at h
    cases h
    rfl

/-- What is known of the result of a packaging. -/
def Fits (target : BuildTarget) (program version : String) (outDir : Path) :
    Except PackagingFailure Artifact → Prop
  | .error failure => failure.platform = target.platform
  | .ok artifact => artifact.triple = target.triple ∧
    artifact.archive = outDir.child (target.archiveName program version)

/-- **A packaging works for its target.** -/
theorem gives_run (archiver : Archiver) (mishaps : Mishaps) (built : BuiltBinary)
    (program version : String) (outDir : Path) (policy : SidecarPolicy) :
    Disk.Gives (run archiver mishaps built program version outDir policy)
      (Fits built.target program version outDir) := by
  unfold run
  rcases houtputs : outputs built.target program version outDir with refusal | o
  · simp only [houtputs]
    exact Disk.Gives.bind (P := fun _ => False) Disk.gives_throw fun _ h => h.elim
  · simp only [houtputs]
    refine (Disk.gives_pure (P := (· = o)) rfl).bind ?_
    rintro _ rfl
    refine Disk.gives_bind fun staged => ?_
    cases staged with
    | error e => exact Disk.gives_pure rfl
    | ok u =>
      refine Disk.gives_bind fun packed => ?_
      cases packed with
      | error fault => exact Disk.gives_bind fun _ => Disk.gives_pure rfl
      | ok u =>
        refine Disk.gives_bind fun _ => Disk.gives_bind fun certified => ?_
        cases certified with
        | error e => exact Disk.gives_bind fun _ => Disk.gives_pure rfl
        | ok checksum => exact Disk.gives_pure ⟨rfl, archive_of_outputs houtputs⟩

end Shipyard.Packaging
