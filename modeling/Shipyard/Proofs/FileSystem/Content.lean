import Shipyard.Proofs.FileSystem.Look
import Shipyard.Proofs.Text.Utf8

/-!
# What files hold

A file that may be read holds some bytes. Any other path is denied: the way to it is broken off,
nothing or a directory is there, or the file may not be read. A path with a null character is
neither, as no file system is ever asked for it.
-/

namespace Shipyard

open FileSystem Disk

namespace FileSystem

variable {fs : FileSystem} {p : Path} {content : Bytes} {errno : Errno}

/-- Whether the file behind a path can be read and holds some bytes. -/
def Holds (fs : FileSystem) (p : Path) (content : Bytes) : Prop :=
  ∃ loc f, fs.locate p = .ok loc ∧ fs.node? loc = some (.file f) ∧ f.mayBeRead = true ∧
    f.content = content

/-- Whether a file holds a text, if it can be read at all. -/
def Legible (fs : FileSystem) (p : Path) : Prop :=
  ∀ content, fs.Holds p content → ∃ text, content = Utf8.encode text

/-- Why the operating system does not let a path be read. -/
inductive Denies (fs : FileSystem) (p : Path) : Errno → Prop where
  /-- the way to it is broken off -/
  | lost {errno : Errno} (hlocate : fs.locate p = .error (osError errno p)) : Denies fs p errno
  /-- nothing is there -/
  | absent {loc : Location} (hlocate : fs.locate p = .ok loc) (hnode : fs.node? loc = none) :
    Denies fs p .noEntry
  /-- a directory is there -/
  | directory {loc : Location} (hlocate : fs.locate p = .ok loc)
    (hnode : fs.node? loc = some .directory) : Denies fs p .isDirectory
  /-- a file is there that may not be read -/
  | unreadable {loc : Location} {f : File} (hlocate : fs.locate p = .ok loc)
    (hnode : fs.node? loc = some (.file f)) (hread : f.mayBeRead = false) :
    Denies fs p .accessDenied

theorem Holds.eq {content' : Bytes} (h : fs.Holds p content) (h' : fs.Holds p content') :
    content = content' := by
  obtain ⟨loc, f, hlocate, hnode, -, rfl⟩ := h
  obtain ⟨loc', f', hlocate', hnode', -, rfl⟩ := h'
  obtain rfl : loc = loc' := Except.ok.inj (hlocate.symm.trans hlocate')
  obtain rfl : f = f' := Node.file.inj (Option.some.inj (hnode.symm.trans hnode'))
  rfl

theorem locate_eq_error (hnull : p.hasNull = false) {fault : Fault}
    (h : fs.locate p = .error fault) : ∃ errno, fault = osError errno p := by
  rw [locate, if_neg (Bool.eq_false_iff.mp hnull)] at h
  split at h
  · cases h
  · cases h
    exact ⟨_, rfl⟩

/-- A path is refused or denied, or it can be read. -/
theorem reading_cases (fs : FileSystem) (p : Path) :
    p.hasNull = true ∨ (∃ errno, fs.Denies p errno) ∨ ∃ content, fs.Holds p content := by
  rcases hnull : p.hasNull
  case true => exact .inl rfl
  refine .inr ?_
  rcases hlocate : fs.locate p with fault | loc
  · obtain ⟨errno, rfl⟩ := locate_eq_error hnull hlocate
    exact .inl ⟨errno, .lost hlocate⟩
  rcases hnode : fs.node? loc with _ | _ | f
  · exact .inl ⟨_, .absent hlocate hnode⟩
  · exact .inl ⟨_, .directory hlocate hnode⟩
  rcases hread : f.mayBeRead
  · exact .inl ⟨_, .unreadable hlocate hnode hread⟩
  · exact .inr ⟨f.content, loc, f, hlocate, hnode, hread, rfl⟩

/-- The errors with which a path is denied. -/
theorem Denies.errno_cases (h : fs.Denies p errno) :
    errno = .noEntry ∨ errno = .accessDenied ∨ errno = .isDirectory ∨ errno = .notDirectory ∨
      errno = .nameTooLong := by
  cases h with
  | absent => exact .inl rfl
  | directory => exact .inr (.inr (.inl rfl))
  | unreadable => exact .inr (.inl rfl)
  | lost hlocate =>
    rw [locate] at hlocate
    split at hlocate
    · cases hlocate
    split at hlocate
    · cases hlocate
    next hwalk =>
    cases hlocate
    rw [walk] at hwalk
    split at hwalk
    · cases hwalk
      exact .inr (.inr (.inr (.inr rfl)))
    · rcases foldlM_step_eq_error hwalk with rfl | rfl | ⟨rfl, -⟩
      · exact .inl rfl
      · exact .inr (.inr (.inr (.inl rfl)))
      · exact .inr (.inr (.inr (.inr rfl)))

/-- What cannot be looked up cannot be located. -/
theorem locate_of_find?_eq_error {fault : Fault} (h : fs.find? p = .error fault) :
    fs.locate p = .error fault := by
  rw [find?] at h
  rw [locate]
  split at h
  · cases h
  next hnull =>
  rw [if_neg hnull]
  split at h
  · cases h
  · cases h
  · cases h
  · next hwalk =>
    cases h
    rw [hwalk]

end FileSystem

namespace Disk

variable {fs : FileSystem} {p : Path} {content : Bytes} {errno : Errno}

/-! ## Reading -/

theorem runOn_readBytes_of_hasNull (h : p.hasNull = true) :
    runOn (readBytes p) fs = (.error (.refused .nullCharacter), fs) := by
  have hlocate : fs.locate p = .error (.refused .nullCharacter) := by
    rw [FileSystem.locate, if_pos h]
  have hopen : runOn (openFile p) fs = (.error (.refused .nullCharacter), fs) := by
    rw [runOn_openFile, FileRequest.run_of_lost hlocate]
    rfl
  rw [readBytes, runOn_bind_error hopen]

theorem runOn_readBytes_of_denies (h : fs.Denies p errno) :
    runOn (readBytes p) fs = (.error (osError errno p), fs) := by
  have hopen : runOn (openFile p) fs = (.error (osError errno p), fs) := by
    rw [runOn_openFile]
    cases h with
    | lost hlocate => exact FileRequest.run_of_lost hlocate
    | absent hlocate hnode =>
      rw [FileRequest.run_of_found hlocate, hnode]
      exact Prod.ext rfl (hnode ▸ set_node? fs _)
    | directory hlocate hnode =>
      rw [FileRequest.run_of_found hlocate, hnode]
      exact Prod.ext rfl (hnode ▸ set_node? fs _)
    | unreadable hlocate hnode hread =>
      rw [FileRequest.run_of_found hlocate, hnode]
      refine Prod.ext ?_ (hnode ▸ set_node? fs _)
      dsimp only [FileRequest.openFile]
      rw [hread]
      rfl
  rw [readBytes, runOn_bind_error hopen]

theorem runOn_readBytes_of_holds (h : fs.Holds p content) :
    runOn (readBytes p) fs = (.ok content, fs) := by
  obtain ⟨loc, f, hlocate, hnode, hread, rfl⟩ := h
  rw [readBytes, runOn_bind_ok (runOn_openFile_of_locate hlocate hnode hread)]
  rfl

theorem runOn_readText_of_holds {s : String} (h : fs.Holds p (Utf8.encode s)) :
    runOn (readText p) fs = (.ok (Text.unixLines s), fs) := by
  rw [readText, runOn_bind_ok (runOn_readBytes_of_holds h)]
  simp only [Utf8.decode_encode]
  rfl

theorem runOn_readText_of_error {fault : Fault}
    (h : runOn (readBytes p) fs = (.error fault, fs)) :
    runOn (readText p) fs = (.error fault, fs) := by
  rw [readText, runOn_bind_error h]

/-- Bytes that are no text are not read as one. -/
theorem runOn_readText_of_undecodable {fault : Utf8.Fault} (h : fs.Holds p content)
    (hdecode : Utf8.decode content = .error fault) :
    runOn (readText p) fs = (.error (.undecodable fault), fs) := by
  rw [readText, runOn_bind_ok (runOn_readBytes_of_holds h), hdecode]
  rfl

end Disk

/-- What is denied cannot be read. -/
theorem FileSystem.Denies.not_holds {fs : FileSystem} {p : Path} {errno : Errno} {content : Bytes}
    (h : fs.Denies p errno) : ¬ fs.Holds p content := by
  intro hholds
  have hread := runOn_readBytes_of_denies h
  rw [runOn_readBytes_of_holds hholds] at hread
  cases hread

end Shipyard
