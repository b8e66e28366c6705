import Shipyard.Plan.Config
import Shipyard.Proofs.Data.Toml.Document
import Shipyard.Proofs.FileSystem.Content

/-!
# What a configuration file gives

A file that is missing or may not be read, bytes that are no text, a text that is no TOML and a
setting that is wrong are told as values (`Config.reading_exact`). What is not is told by `Escapes`:
every other path that is denied, and a text that is TOML but too large for its reader. The defaults
stand for a file exactly if a look finds nothing at its path (`Config.runOn_loadOrDefault`).
-/

namespace Shipyard.Config

open FileSystem Disk

variable {fs : FileSystem} {path : Path}

/-- The faults that end the reading of a configuration. -/
inductive Escapes (fs : FileSystem) (path : Path) : Fault → Prop where
  /-- the path holds a null character -/
  | null (hnull : path.hasNull = true) : Escapes fs path (.refused .nullCharacter)
  /-- a directory is there -/
  | directory (hdenies : fs.Denies path .isDirectory) :
    Escapes fs path (osError .isDirectory path)
  /-- a file is used as a directory on the way -/
  | throughFile (hdenies : fs.Denies path .notDirectory) :
    Escapes fs path (osError .notDirectory path)
  /-- the path or one of its names is too long -/
  | tooLong (hdenies : fs.Denies path .nameTooLong) : Escapes fs path (osError .nameTooLong path)
  /-- an integer of the text has too many digits -/
  | hugeInteger {s : String} {n : Nat} (hholds : fs.Holds path (Utf8.encode s))
    (hread : Toml.read s = .error (.hugeInteger n)) :
    Escapes fs path (.refused (.hugeInteger n))
  /-- the text is nested too deep -/
  | tooDeep {s : String} (hholds : fs.Holds path (Utf8.encode s))
    (hread : Toml.read s = .error .tooDeep) : Escapes fs path (.tooDeep "")

/-- What is said of a configuration file. -/
inductive Answers (fs : FileSystem) (path : Path) : Except ConfigError Config → Prop where
  /-- nothing is there -/
  | missing (hdenies : fs.Denies path .noEntry) : Answers fs path (.error ⟨.notFound, path⟩)
  /-- the file may not be read -/
  | unreadable (hdenies : fs.Denies path .accessDenied) : Answers fs path (.error ⟨.denied, path⟩)
  /-- the file holds bytes that are no text -/
  | undecodable {content : Bytes} {fault : Utf8.Fault} (hholds : fs.Holds path content)
    (hdecode : Utf8.decode content = .error fault) :
    Answers fs path (.error ⟨.undecodable fault, path⟩)
  /-- its text is no TOML -/
  | noToml {s : String} (hholds : fs.Holds path (Utf8.encode s))
    (hread : Toml.read s = .error .malformed) :
    Answers fs path (.error ⟨.syntaxError Table.noToml, path⟩)
  /-- a setting is wrong -/
  | refused {s : String} {t : Table} {refusal : Refusal} (hholds : fs.Holds path (Utf8.encode s))
    (hread : Toml.read s = .ok t) (hsettings : ofTable t = .error refusal) :
    Answers fs path (.error ⟨.refused refusal, path⟩)
  /-- the settings are there -/
  | settings {s : String} {t : Table} {config : Config} (hholds : fs.Holds path (Utf8.encode s))
    (hread : Toml.read s = .ok t) (hsettings : ofTable t = .ok config) :
    Answers fs path (.ok config)

/-! ## Each file -/

theorem escapes_or_answers_of_holds {s : String} (hholds : fs.Holds path (Utf8.encode s)) :
    (∃ fault, Escapes fs path fault) ∨ ∃ answer, Answers fs path answer := by
  rcases hread : Toml.read s with fault | t
  · cases fault with
    | malformed => exact .inr ⟨_, .noToml hholds hread⟩
    | hugeInteger => exact .inl ⟨_, .hugeInteger hholds hread⟩
    | tooDeep => exact .inl ⟨_, .tooDeep hholds hread⟩
  · rcases hsettings : ofTable t with refusal | config
    · exact .inr ⟨_, .refused hholds hread hsettings⟩
    · exact .inr ⟨_, .settings hholds hread hsettings⟩

theorem escapes_or_answers (fs : FileSystem) (path : Path) :
    (∃ fault, Escapes fs path fault) ∨ ∃ answer, Answers fs path answer := by
  rcases reading_cases fs path with hnull | ⟨errno, hdenies⟩ | ⟨content, hholds⟩
  · exact .inl ⟨_, .null hnull⟩
  · rcases hdenies.errno_cases with rfl | rfl | rfl | rfl | rfl
    · exact .inr ⟨_, .missing hdenies⟩
    · exact .inr ⟨_, .unreadable hdenies⟩
    · exact .inl ⟨_, .directory hdenies⟩
    · exact .inl ⟨_, .throughFile hdenies⟩
    · exact .inl ⟨_, .tooLong hdenies⟩
  · rcases hdecode : Utf8.decode content with fault | s
    · exact .inr ⟨_, .undecodable hholds hdecode⟩
    · obtain rfl := Utf8.decode_eq_ok_iff.mp hdecode
      exact escapes_or_answers_of_holds hholds

/-! ## Reading -/

theorem runOn_readTable_of_denies {errno : Errno} (h : fs.Denies path errno) :
    runOn (readTable path) fs =
      (match errno with
      | .noEntry => .ok (.error .notFound)
      | .accessDenied => .ok (.error .denied)
      | _ => .error (osError errno path), fs) := by
  have hread : runOn (attempt (readBytes path)) fs =
      (.ok (.error ⟨errno, .path path.text⟩), fs) := by
    rw [runOn_attempt, runOn_readBytes_of_denies h]
    rfl
  rw [readTable, runOn_bind_ok hread]
  cases errno <;> rfl

/-- A fault of the table is a fault of the settings. -/
theorem runOn_load_of_fault {fault : Fault}
    (h : runOn (readTable path) fs = (.error fault, fs)) :
    runOn (load path) fs = (.error fault, fs) := by
  rw [load, runOn_bind_error h]

theorem runOn_load_of_problem {problem : ConfigProblem}
    (h : runOn (readTable path) fs = (.ok (.error problem), fs)) :
    runOn (load path) fs = (.ok (.error ⟨problem, path⟩), fs) := by
  rw [load, runOn_bind_ok h]
  rfl

/-- Behind the bytes of a file everything depends on their text and its TOML. -/
theorem runOn_readTable_of_holds {s : String} (hholds : fs.Holds path (Utf8.encode s)) :
    runOn (readTable path) fs =
      (match Table.ofToml s with
      | .error fault => .error fault
      | .ok (.error detail) => .ok (.error (.syntaxError detail))
      | .ok (.ok t) => .ok (.ok t), fs) := by
  rw [readTable, runOn_bind_ok (runOn_attempt_eq_ok.mpr (runOn_readBytes_of_holds hholds))]
  dsimp only
  rw [Utf8.decode_encode]
  dsimp only
  rcases Table.ofToml s with fault | detail | t <;> rfl

theorem runOn_load_of_escapes {fault : Fault} (h : Escapes fs path fault) :
    runOn (load path) fs = (.error fault, fs) := by
  apply runOn_load_of_fault
  cases h with
  | null hnull =>
    rw [readTable, runOn_bind_error]
    rw [runOn_attempt, runOn_readBytes_of_hasNull hnull]
  | directory hdenies => exact runOn_readTable_of_denies hdenies
  | throughFile hdenies => exact runOn_readTable_of_denies hdenies
  | tooLong hdenies => exact runOn_readTable_of_denies hdenies
  | hugeInteger hholds hread => rw [runOn_readTable_of_holds hholds, Table.ofToml, hread]
  | tooDeep hholds hread => rw [runOn_readTable_of_holds hholds, Table.ofToml, hread]

theorem runOn_load_of_answers {answer : Except ConfigError Config} (h : Answers fs path answer) :
    runOn (load path) fs = (.ok answer, fs) := by
  have hsettings : ∀ {s t}, fs.Holds path (Utf8.encode s) → Toml.read s = .ok t →
      runOn (readTable path) fs = (.ok (.ok t), fs) := by
    intro s t hholds hread
    rw [runOn_readTable_of_holds hholds, Table.ofToml, hread]
  cases h with
  | missing hdenies => exact runOn_load_of_problem (runOn_readTable_of_denies hdenies)
  | unreadable hdenies => exact runOn_load_of_problem (runOn_readTable_of_denies hdenies)
  | undecodable hholds hdecode =>
    refine runOn_load_of_problem ?_
    rw [readTable, runOn_bind_ok (runOn_attempt_eq_ok.mpr (runOn_readBytes_of_holds hholds))]
    dsimp only
    rw [hdecode]
    rfl
  | noToml hholds hread =>
    refine runOn_load_of_problem ?_
    rw [runOn_readTable_of_holds hholds, Table.ofToml, hread]
  | refused hholds hread hrefused =>
    rw [load, runOn_bind_ok (hsettings hholds hread)]
    dsimp only
    rw [hrefused]
    rfl
  | settings hholds hread hconfig =>
    rw [load, runOn_bind_ok (hsettings hholds hread)]
    dsimp only
    rw [hconfig]
    rfl

/-- The defaults stand for a file exactly if a look finds nothing at its path. A path that is too
long to be looked at is read all the same, with the same error. -/
theorem runOn_loadOrDefault (fs : FileSystem) (path : Path) :
    (fs.find? path = .ok none → runOn (loadOrDefault path) fs = (.ok (.ok default), fs)) ∧
      (fs.find? path ≠ .ok none → runOn (loadOrDefault path) fs = runOn (load path) fs) := by
  have hexists : runOn (pathExists path) fs = (match fs.find? path with
      | .error fault => .error fault
      | .ok found => .ok found.isSome, fs) := by
    rw [pathExists, Disk.find?, runOn_bind, runOn_query]
    rcases fs.find? path with fault | found <;> rfl
  refine ⟨fun h => ?_, fun h => ?_⟩
  · rw [h] at hexists
    rw [loadOrDefault, runOn_bind_ok hexists]
    rfl
  · rcases hfind : fs.find? path with fault | _ | node
    · rw [hfind] at hexists
      have hlocate := locate_of_find?_eq_error hfind
      obtain ⟨rfl, -⟩ := find?_eq_error hfind
      rw [loadOrDefault, runOn_bind_error hexists,
        runOn_load_of_escapes (.tooLong (.lost hlocate))]
    · exact absurd hfind h
    · rw [hfind] at hexists
      rw [loadOrDefault, runOn_bind_ok hexists]
      rfl

/-- Nothing escapes if the path can be asked for and is at most missing or not to be read, and if a
text that can be read there keeps the limits of TOML. -/
theorem not_escapes {fault : Fault} (hnull : path.hasNull = false)
    (hdenied : ∀ errno, fs.Denies path errno → errno = .noEntry ∨ errno = .accessDenied)
    (hkept : ∀ s, fs.Holds path (Utf8.encode s) → Toml.limits.Kept s.toList) :
    ¬ Escapes fs path fault := by
  intro h
  cases h with
  | null h => cases hnull.symm.trans h
  | directory hdenies => exact (hdenied _ hdenies).elim nofun nofun
  | throughFile hdenies => exact (hdenied _ hdenies).elim nofun nofun
  | tooLong hdenies => exact (hdenied _ hdenies).elim nofun nofun
  | hugeInteger hholds hread =>
    cases (Toml.kept_dropReturns (hkept _ hholds)).excess (Toml.explains_of_readLines hread)
  | tooDeep hholds hread =>
    cases (Toml.kept_dropReturns (hkept _ hholds)).excess (Toml.explains_of_readLines hread)

/-- **What a configuration file gives.** Reading it changes no file. It ends with a fault exactly
for the reasons of `Escapes`, and in all other cases with the answer that the file deserves. So there
is an answer for every path without a null character that can be read, is missing or may not be read,
if the file holds no text with too many digits in a row or too much nested. Where a look finds
nothing at the path, the defaults are given in place of that, and nowhere else. -/
theorem reading_exact (fs : FileSystem) (path : Path) :
    ∃ result, runOn (load path) fs = (result, fs) ∧
      (∀ fault, result = .error fault ↔ Escapes fs path fault) ∧
      (∀ answer, result = .ok answer ↔ Answers fs path answer) ∧
      (path.hasNull = false →
        (∀ errno, fs.Denies path errno → errno = .noEntry ∨ errno = .accessDenied) →
        (∀ s, fs.Holds path (Utf8.encode s) → Toml.limits.Kept s.toList) →
        ∃ answer, result = .ok answer) ∧
      (fs.find? path = .ok none → runOn (loadOrDefault path) fs = (.ok (.ok default), fs)) ∧
      (fs.find? path ≠ .ok none → runOn (loadOrDefault path) fs = (result, fs)) := by
  obtain ⟨result, hrun, hfault, hanswer⟩ := exists_result (escapes_or_answers fs path)
    (fun _ => runOn_load_of_escapes) fun _ => runOn_load_of_answers
  obtain ⟨hdefault, hload⟩ := runOn_loadOrDefault fs path
  refine ⟨result, hrun, hfault, hanswer, fun hnull hdenied hkept => ?_, hdefault,
    fun hfound => (hload hfound).trans hrun⟩
  rcases result with fault | answer
  · exact absurd ((hfault fault).mp rfl) (not_escapes hnull hdenied hkept)
  · exact ⟨answer, rfl⟩

/-! ## A file without an answer -/

/-- A directory in the place of a configuration file. -/
def takenFiles : FileSystem := (FileSystem.empty []).put [configFileName] .directory

/-- **A directory.** Something is there, and neither reading gives an answer. -/
theorem taken_without_answer : takenFiles.node? [configFileName] = some .directory ∧
    ∀ answer, (runOn (load ⟨.root, [configFileName]⟩) takenFiles).1 ≠ .ok answer ∧
      (runOn (loadOrDefault ⟨.root, [configFileName]⟩) takenFiles).1 ≠ .ok answer := by
  have hnode : takenFiles.node? [configFileName] = some .directory := by
    rw [takenFiles, node?_put _ _ _ (by decide)]
    exact if_pos rfl
  have hlocate : takenFiles.locate ⟨.root, [configFileName]⟩ = .ok [configFileName] := rfl
  have hload := runOn_load_of_escapes (.directory (.directory hlocate hnode))
  have hfound : takenFiles.find? ⟨.root, [configFileName]⟩ ≠ .ok none := by
    rw [find?_eq_some_iff.mpr ⟨_, hlocate, hnode⟩]
    nofun
  refine ⟨hnode, fun answer => ⟨?_, ?_⟩⟩
  · rw [hload]
    nofun
  · rw [(runOn_loadOrDefault _ _).2 hfound, hload]
    nofun

end Shipyard.Config
