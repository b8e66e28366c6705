import Shipyard.Proofs.Asset.Sidecar
import Shipyard.Step.Verification

/-!
# What a sidecar file gives

A sidecar that is denied, or whose text is no checksum for its archive, is told as a value, and so
is everything that a verification finds wrong (`Verification.answering_exact`). What is not told so
is listed by `Checksum.Escapes` and `Verification.Escapes`: a sidecar with bytes that are no text
ends both of them with the fault of the decoder. A path that no file system is asked for only ends
the reader, since a verification looks for the archive first.
-/

namespace Shipyard

open FileSystem Disk

/-! ## Reading -/

namespace Checksum

variable {fs : FileSystem} {sidecar : Path}

/-- The faults that end the reading of a sidecar. -/
inductive Escapes (fs : FileSystem) (sidecar : Path) : Fault → Prop where
  /-- the path holds a null character -/
  | null (hnull : sidecar.hasNull = true) : Escapes fs sidecar (.refused .nullCharacter)
  /-- the sidecar holds bytes that are no text -/
  | undecodable {content : Bytes} {fault : Utf8.Fault} (hholds : fs.Holds sidecar content)
    (hdecode : Utf8.decode content = .error fault) : Escapes fs sidecar (.undecodable fault)

/-- What is found in a sidecar. -/
inductive Finds (fs : FileSystem) (sidecar : Path) : Option Checksum → Prop where
  /-- nothing, as it is denied -/
  | denied {errno : Errno} (hdenies : fs.Denies sidecar errno) : Finds fs sidecar none
  /-- what its text says -/
  | read {text : String} (hholds : fs.Holds sidecar (Utf8.encode text)) :
    Finds fs sidecar (ofSidecarText? (Text.dropEnd sidecar.name sidecarSuffix) text)

theorem escapes_or_finds (fs : FileSystem) (sidecar : Path) :
    (∃ fault, Escapes fs sidecar fault) ∨ ∃ found, Finds fs sidecar found := by
  rcases reading_cases fs sidecar with hnull | ⟨errno, hdenies⟩ | ⟨content, hholds⟩
  · exact .inl ⟨_, .null hnull⟩
  · exact .inr ⟨_, .denied hdenies⟩
  · rcases hdecode : Utf8.decode content with fault | text
    · exact .inl ⟨_, .undecodable hholds hdecode⟩
    · obtain rfl := Utf8.decode_eq_ok_iff.mp hdecode
      exact .inr ⟨_, .read hholds⟩

theorem runOn_readSidecar_of_escapes {fault : Fault} (h : Escapes fs sidecar fault) :
    runOn (readSidecar sidecar) fs = (.error fault, fs) := by
  have hread : runOn (readText sidecar) fs = (.error fault, fs) := by
    cases h with
    | null hnull => exact runOn_readText_of_error (runOn_readBytes_of_hasNull hnull)
    | undecodable hholds hdecode => exact runOn_readText_of_undecodable hholds hdecode
  rw [readSidecar, runOn_bind_error]
  -- neither of the two faults is an error of the operating system
  rw [runOn_attempt, hread]
  cases h with
  | null => rfl
  | undecodable => rfl

theorem runOn_readSidecar_of_finds {found : Option Checksum} (h : Finds fs sidecar found) :
    runOn (readSidecar sidecar) fs = (.ok found, fs) := by
  cases h with
  | @denied errno hdenies =>
    have hread : runOn (attempt (readText sidecar)) fs =
        (.ok (.error ⟨errno, .path sidecar.text⟩), fs) := by
      rw [runOn_attempt, runOn_readText_of_error (runOn_readBytes_of_denies hdenies)]
      rfl
    rw [readSidecar, runOn_bind_ok hread]
    rfl
  | read hholds =>
    rw [readSidecar, runOn_bind_ok (runOn_attempt_eq_ok.mpr (runOn_readText_of_holds hholds))]
    dsimp only
    rw [ofSidecarText?_unixLines]
    rfl

/-- Nothing escapes if the path can be asked for, and what can be read there is a text. -/
theorem not_escapes {fault : Fault} (hnull : sidecar.hasNull = false)
    (hlegible : fs.Legible sidecar) : ¬ Escapes fs sidecar fault := by
  intro h
  cases h with
  | null h => cases hnull.symm.trans h
  | undecodable hholds hdecode =>
    obtain ⟨text, rfl⟩ := hlegible _ hholds
    rw [Utf8.decode_encode] at hdecode
    cases hdecode

end Checksum

/-! ## Verification -/

namespace Verification

open Checksum

variable {mishap : Option OsError} {fs : FileSystem} {archive sidecar : Path}

/-- What hashing an archive gives that was found. -/
def hashed (mishap : Option OsError) (archive : Path) (f : File) : Except OsError String :=
  match mishap with
  | some e => .error e
  | none =>
    if f.mayBeRead then .ok (Sha256.digest f.content)
    else .error ⟨.accessDenied, .path archive.text⟩

/-- The faults that end a verification. -/
inductive Escapes (fs : FileSystem) (archive : Path) : Fault → Prop where
  /-- the archive has no name that a sidecar could be named for -/
  | nameless {refusal : Refusal} (hpath : sidecarPath archive = .error refusal) :
    Escapes fs archive (.refused refusal)
  /-- the path of the archive or one of its names is too long for a look -/
  | tooLong {sidecar : Path} (hpath : sidecarPath archive = .ok sidecar)
    (hfind : fs.find? archive = .error (osError .nameTooLong archive)) :
    Escapes fs archive (osError .nameTooLong archive)
  /-- the archive is there, and its sidecar holds bytes that are no text -/
  | undecodable {sidecar : Path} {f : File} {content : Bytes} {fault : Utf8.Fault}
    (hpath : sidecarPath archive = .ok sidecar) (hfile : fs.find? archive = .ok (some (.file f)))
    (hholds : fs.Holds sidecar content) (hdecode : Utf8.decode content = .error fault) :
    Escapes fs archive (.undecodable fault)

/-- What is said of an archive. -/
inductive Judges (mishap : Option OsError) (fs : FileSystem) (archive : Path) :
    Except PackagingFailure Checksum → Prop where
  /-- it is no file -/
  | absent {sidecar : Path} {found : Option Node} (hpath : sidecarPath archive = .ok sidecar)
    (hfind : fs.find? archive = .ok found) (hnone : ∀ f, found ≠ some (.file f)) :
    Judges mishap fs archive (.error ⟨platformFor archive.name, .checksumFailed,
      "archive not found: " ++ archive.text, none, some archive⟩)
  /-- there is no checksum for it -/
  | unrecorded {sidecar : Path} {f : File} (hpath : sidecarPath archive = .ok sidecar)
    (hfile : fs.find? archive = .ok (some (.file f))) (hfinds : Finds fs sidecar none) :
    Judges mishap fs archive (.error ⟨platformFor archive.name, .checksumFailed,
      "missing or malformed sidecar: " ++ sidecar.name, none, some sidecar⟩)
  /-- it cannot be hashed -/
  | unread {sidecar : Path} {f : File} {c : Checksum} {e : OsError}
    (hpath : sidecarPath archive = .ok sidecar) (hfile : fs.find? archive = .ok (some (.file f)))
    (hfinds : Finds fs sidecar (some c)) (hhashed : hashed mishap archive f = .error e) :
    Judges mishap fs archive (.error ⟨platformFor archive.name, .checksumFailed,
      "cannot read " ++ archive.name, some e.message, some archive⟩)
  /-- it has another digest -/
  | differs {sidecar : Path} {f : File} {c : Checksum} {digest : String}
    (hpath : sidecarPath archive = .ok sidecar) (hfile : fs.find? archive = .ok (some (.file f)))
    (hfinds : Finds fs sidecar (some c)) (hhashed : hashed mishap archive f = .ok digest)
    (hne : digest ≠ c.digest) :
    Judges mishap fs archive (.error ⟨platformFor archive.name, .checksumMismatch,
      "checksum mismatch: " ++ archive.name, some ("sidecar records " ++ c.digest), some archive⟩)
  /-- it has the digest of its sidecar -/
  | agrees {sidecar : Path} {f : File} {c : Checksum} (hpath : sidecarPath archive = .ok sidecar)
    (hfile : fs.find? archive = .ok (some (.file f))) (hfinds : Finds fs sidecar (some c))
    (hhashed : hashed mishap archive f = .ok c.digest) : Judges mishap fs archive (.ok c)

/-! ### Each archive -/

/-- The name of a sidecar, and what its path takes over from the archive. -/
theorem of_sidecarPath (h : sidecarPath archive = .ok sidecar) :
    sidecar.name = sidecarName archive.name ∧ sidecar.hasNull = archive.hasNull := by
  rw [sidecarPath, Path.withName?] at h
  by_cases hparts : archive.parts = []
  · rw [if_pos hparts] at h
    cases h
  · rw [if_neg hparts] at h
    cases h
    obtain ⟨front, last, hlast⟩ : ∃ front last, archive.parts = front ++ [last] :=
      ⟨_, _, (List.dropLast_append_getLast hparts).symm⟩
    have hname : archive.name = last := by simp [Path.name, hlast]
    have hsuffix : (sidecarName last).toList.contains '\x00' = last.toList.contains '\x00' := by
      simp [sidecarName, sidecarSuffix]
    constructor
    · simp [Path.name]
    · simp only [Path.hasNull, hname, hlast, List.dropLast_concat, List.any_append, List.any_cons,
        List.any_nil, hsuffix]

/-- The sidecar of an archive that was found can be asked for. -/
theorem hasNull_sidecar {f : File} (hpath : sidecarPath archive = .ok sidecar)
    (hfile : fs.find? archive = .ok (some (.file f))) : sidecar.hasNull = false := by
  obtain ⟨loc, hlocate, -⟩ := find?_eq_some_iff.mp hfile
  obtain ⟨hnull, -⟩ := locate_eq_ok_iff.mp hlocate
  exact (of_sidecarPath hpath).2.trans hnull

/-- An archive that was found is hashed if it can be read. -/
theorem hashed_eq_ok_iff {f : File} {digest : String}
    (hfile : fs.find? archive = .ok (some (.file f))) :
    hashed none archive f = .ok digest ↔
      ∃ content, fs.Holds archive content ∧ Sha256.digest content = digest := by
  rw [hashed]
  constructor
  · intro h
    split at h
    · next hmay =>
      cases h
      obtain ⟨loc, hlocate, hnode⟩ := find?_eq_some_iff.mp hfile
      exact ⟨f.content, ⟨loc, f, hlocate, hnode, hmay, rfl⟩, rfl⟩
    · cases h
  · rintro ⟨_, ⟨loc, g, hlocate, hnode, hmay, rfl⟩, rfl⟩
    obtain rfl : f = g := Node.file.inj (Option.some.inj
      (Except.ok.inj (hfile.symm.trans (find?_eq_some_iff.mpr ⟨loc, hlocate, hnode⟩))))
    exact if_pos hmay

/-- An archive that was found is judged by what its sidecar and its hash give. -/
theorem escapes_or_judges_of_file (mishap : Option OsError) {f : File}
    (hpath : sidecarPath archive = .ok sidecar) (hfile : fs.find? archive = .ok (some (.file f))) :
    (∃ fault, Escapes fs archive fault) ∨ ∃ verdict, Judges mishap fs archive verdict := by
  rcases escapes_or_finds fs sidecar with ⟨fault, hescapes⟩ | ⟨_ | c, hfinds⟩
  · cases hescapes with
    | null hnull => cases (hasNull_sidecar hpath hfile).symm.trans hnull
    | undecodable hholds hdecode => exact .inl ⟨_, .undecodable hpath hfile hholds hdecode⟩
  · exact .inr ⟨_, .unrecorded hpath hfile hfinds⟩
  · rcases hhashed : hashed mishap archive f with e | digest
    · exact .inr ⟨_, .unread hpath hfile hfinds hhashed⟩
    · by_cases hsame : digest = c.digest
      · exact .inr ⟨_, .agrees hpath hfile hfinds (hsame ▸ hhashed)⟩
      · exact .inr ⟨_, .differs hpath hfile hfinds hhashed hsame⟩

theorem escapes_or_judges (mishap : Option OsError) (fs : FileSystem) (archive : Path) :
    (∃ fault, Escapes fs archive fault) ∨ ∃ verdict, Judges mishap fs archive verdict := by
  rcases hpath : sidecarPath archive with refusal | sidecar
  · exact .inl ⟨_, .nameless hpath⟩
  rcases hfind : fs.find? archive with fault | found
  · obtain ⟨rfl, -⟩ := find?_eq_error hfind
    exact .inl ⟨_, .tooLong hpath hfind⟩
  by_cases hfile : ∃ f, found = some (.file f)
  · obtain ⟨f, rfl⟩ := hfile
    exact escapes_or_judges_of_file mishap hpath hfind
  · exact .inr ⟨_, .absent hpath hfind (not_exists.mp hfile)⟩

/-! ### Running -/

/-- The comparison gives whether the hash is the digest that was expected. -/
theorem runOn_compare {f : File} (hfile : fs.find? archive = .ok (some (.file f))) (c : Checksum) :
    runOn (attempt (compare mishap c archive)) fs =
      (.ok ((hashed mishap archive f).map fun digest => decide (digest = c.digest)), fs) := by
  cases mishap with
  | some e => rfl
  | none =>
    obtain ⟨loc, hlocate, hnode⟩ := find?_eq_some_iff.mp hfile
    rcases hmay : f.mayBeRead
    · have hread := runOn_readBytes_of_denies (.unreadable hlocate hnode hmay)
      rw [runOn_attempt, compare, matchesFile, digestOf,
        runOn_bind_error (runOn_bind_error hread), hashed, hmay]
      rfl
    · have hdigest := runOn_digestOf ⟨loc, f, hlocate, hnode, hmay, rfl⟩
      rw [runOn_attempt, compare, matchesFile, runOn_bind_ok hdigest, hashed, hmay]
      rfl

/-- If the look at the archive ends with an error, so does the verification. -/
theorem runOn_run_of_lost (hpath : sidecarPath archive = .ok sidecar) {fault : Fault}
    (h : fs.find? archive = .error fault) : runOn (run mishap archive) fs = (.error fault, fs) := by
  rw [run, hpath, runOn_bind_ok (runOn_pure sidecar fs),
    runOn_bind_error (runOn_isFile_of_error h)]

/-- An archive that is no file is not looked at any further. -/
theorem runOn_run_of_absent {found : Option Node} (hpath : sidecarPath archive = .ok sidecar)
    (hfind : fs.find? archive = .ok found) (hnone : ∀ f, found ≠ some (.file f)) :
    runOn (run mishap archive) fs = (.ok (.error ⟨platformFor archive.name, .checksumFailed,
      "archive not found: " ++ archive.text, none, some archive⟩), fs) := by
  rw [run, hpath, runOn_bind_ok (runOn_pure sidecar fs)]
  rcases runOn_isFile hfind with ⟨f, hf, -⟩ | ⟨-, hno⟩
  · exact absurd hf (hnone f)
  · rw [runOn_bind_ok hno]
    rfl

section Found

variable {f : File} (hpath : sidecarPath archive = .ok sidecar)
  (hfile : fs.find? archive = .ok (some (.file f)))

include hpath hfile

/-- A fault of the sidecar is a fault of the verification. -/
theorem runOn_run_of_fault {fault : Fault}
    (h : runOn (readSidecar sidecar) fs = (.error fault, fs)) :
    runOn (run mishap archive) fs = (.error fault, fs) := by
  rw [run, hpath, runOn_bind_ok (runOn_pure sidecar fs), runOn_bind_ok (runOn_isFile_of_file hfile)]
  simp only [Bool.not_true, Bool.false_eq_true, if_false]
  rw [runOn_bind_error h]

/-- Behind its sidecar an archive is compared with it. -/
theorem runOn_run_of_found {found : Option Checksum}
    (h : runOn (readSidecar sidecar) fs = (.ok found, fs)) :
    runOn (run mishap archive) fs =
      (.ok (match found with
      | none => .error ⟨platformFor archive.name, .checksumFailed,
          "missing or malformed sidecar: " ++ sidecar.name, none, some sidecar⟩
      | some c =>
        match hashed mishap archive f with
        | .error e => .error ⟨platformFor archive.name, .checksumFailed,
            "cannot read " ++ archive.name, some e.message, some archive⟩
        | .ok digest =>
          if digest = c.digest then .ok c
          else .error ⟨platformFor archive.name, .checksumMismatch,
            "checksum mismatch: " ++ archive.name, some ("sidecar records " ++ c.digest),
            some archive⟩), fs) := by
  rw [run, hpath, runOn_bind_ok (runOn_pure sidecar fs), runOn_bind_ok (runOn_isFile_of_file hfile)]
  simp only [Bool.not_true, Bool.false_eq_true, if_false]
  rw [runOn_bind_ok h]
  rcases found with _ | c
  · rfl
  dsimp only
  rw [runOn_bind_ok (runOn_compare hfile c)]
  rcases hashed mishap archive f with e | digest
  · rfl
  dsimp only [Except.map]
  by_cases hsame : digest = c.digest
  · rw [decide_eq_true hsame, if_pos hsame]
    rfl
  · rw [decide_eq_false hsame, if_neg hsame]
    rfl

end Found

theorem runOn_run_of_escapes {fault : Fault} (h : Escapes fs archive fault) :
    runOn (run mishap archive) fs = (.error fault, fs) := by
  cases h with
  | nameless hpath => rw [run, hpath, runOn_bind_error (runOn_throw _ fs)]
  | tooLong hpath hfind => exact runOn_run_of_lost hpath hfind
  | undecodable hpath hfile hholds hdecode =>
    exact runOn_run_of_fault hpath hfile
      (runOn_readSidecar_of_escapes (.undecodable hholds hdecode))

theorem runOn_run_of_judges {verdict : Except PackagingFailure Checksum}
    (h : Judges mishap fs archive verdict) : runOn (run mishap archive) fs = (.ok verdict, fs) := by
  cases h with
  | absent hpath hfind hnone => exact runOn_run_of_absent hpath hfind hnone
  | unrecorded hpath hfile hfinds =>
    rw [runOn_run_of_found hpath hfile (runOn_readSidecar_of_finds hfinds)]
  | unread hpath hfile hfinds hhashed =>
    rw [runOn_run_of_found hpath hfile (runOn_readSidecar_of_finds hfinds), hhashed]
  | differs hpath hfile hfinds hhashed hne =>
    rw [runOn_run_of_found hpath hfile (runOn_readSidecar_of_finds hfinds), hhashed]
    dsimp only
    rw [if_neg hne]
  | agrees hpath hfile hfinds hhashed =>
    rw [runOn_run_of_found hpath hfile (runOn_readSidecar_of_finds hfinds), hhashed]
    dsimp only
    rw [if_pos rfl]

/-- Nothing escapes but that the path is too long, if the archive has a sidecar and what can be read
of the sidecar is a text. -/
theorem Escapes.tooLong_of_legible {fault : Fault} (h : Escapes fs archive fault)
    (hpath : sidecarPath archive = .ok sidecar) (hlegible : fs.Legible sidecar) :
    TooLong archive ∧ fault = osError .nameTooLong archive := by
  cases h with
  | nameless hnone => cases hpath.symm.trans hnone
  | tooLong _ hfind => exact ⟨(find?_eq_error hfind).2, rfl⟩
  | undecodable hpath' hfile hholds hdecode =>
    obtain rfl := Except.ok.inj (hpath.symm.trans hpath')
    exact absurd (.undecodable hholds hdecode)
      (Checksum.not_escapes (hasNull_sidecar hpath hfile) hlegible)

/-- **What a sidecar file gives.** Reading a sidecar and verifying an archive change no file. Each
of the two ends with a fault exactly for the reasons of its `Escapes`, and in all other cases with
the answer that the files deserve. So a sidecar is always told as a value if its path has no null
character and it holds a text, if anything can be read there; and there is always a verdict on an
archive with a name whose path is not too long, if its sidecar is such a one. -/
theorem answering_exact (mishap : Option OsError) (fs : FileSystem) (sidecar archive : Path) :
    (∃ result, runOn (readSidecar sidecar) fs = (result, fs) ∧
      (∀ fault, result = .error fault ↔ Checksum.Escapes fs sidecar fault) ∧
      (∀ found, result = .ok found ↔ Finds fs sidecar found) ∧
      (sidecar.hasNull = false → fs.Legible sidecar → ∃ found, result = .ok found)) ∧
    ∃ result, runOn (run mishap archive) fs = (result, fs) ∧
      (∀ fault, result = .error fault ↔ Escapes fs archive fault) ∧
      (∀ verdict, result = .ok verdict ↔ Judges mishap fs archive verdict) ∧
      ∀ beside, sidecarPath archive = .ok beside → ¬ TooLong archive → fs.Legible beside →
        ∃ verdict, result = .ok verdict := by
  constructor
  · obtain ⟨result, hrun, hfault, hfound⟩ := exists_result (escapes_or_finds fs sidecar)
      (fun _ => runOn_readSidecar_of_escapes) fun _ => runOn_readSidecar_of_finds
    refine ⟨result, hrun, hfault, hfound, fun hnull hlegible => ?_⟩
    rcases result with fault | found
    · exact absurd ((hfault fault).mp rfl) (Checksum.not_escapes hnull hlegible)
    · exact ⟨found, rfl⟩
  · obtain ⟨result, hrun, hfault, hverdict⟩ := exists_result (escapes_or_judges mishap fs archive)
      (fun _ => runOn_run_of_escapes) fun _ => runOn_run_of_judges
    refine ⟨result, hrun, hfault, hverdict, fun beside hpath hshort hlegible => ?_⟩
    rcases result with fault | verdict
    · exact absurd (((hfault fault).mp rfl).tooLong_of_legible hpath hlegible).1 hshort
    · exact ⟨verdict, rfl⟩

/-! ## A sidecar without an answer -/

/-- An empty archive with a sidecar whose only byte starts no character. -/
def blurredSidecar : FileSystem :=
  ((FileSystem.empty []).put ["a.zip"] (.file ⟨[], newFileMode, 0⟩)).put ["a.zip.sha256sum"]
    (.file ⟨[0xFF], newFileMode, 0⟩)

/-- **Bytes that are no text.** Neither the reader nor the verification gives a value. -/
theorem blurred_sidecar_escapes :
    sidecarPath ⟨.root, ["a.zip"]⟩ = .ok ⟨.root, ["a.zip.sha256sum"]⟩ ∧
      (∀ found, (runOn (readSidecar ⟨.root, ["a.zip.sha256sum"]⟩) blurredSidecar).1 ≠ .ok found) ∧
      ∀ verdict, (runOn (run none ⟨.root, ["a.zip"]⟩) blurredSidecar).1 ≠ .ok verdict := by
  have hpath : sidecarPath ⟨.root, ["a.zip"]⟩ = .ok ⟨.root, ["a.zip.sha256sum"]⟩ := rfl
  have hfile : blurredSidecar.find? ⟨.root, ["a.zip"]⟩ =
      .ok (some (.file ⟨[], newFileMode, 0⟩)) := by
    refine find?_eq_some_iff.mpr ⟨["a.zip"], rfl, ?_⟩
    rw [blurredSidecar, node?_put _ _ _ (by decide), node?_put _ _ _ (by decide)]
    rfl
  have hholds : blurredSidecar.Holds ⟨.root, ["a.zip.sha256sum"]⟩ [0xFF] := by
    refine ⟨["a.zip.sha256sum"], ⟨[0xFF], newFileMode, 0⟩, rfl, ?_, rfl, rfl⟩
    rw [blurredSidecar, node?_put _ _ _ (by decide)]
    rfl
  refine ⟨hpath, fun found h => ?_, fun verdict h => ?_⟩
  · rw [runOn_readSidecar_of_escapes (.undecodable hholds rfl)] at h
    cases h
  · rw [runOn_run_of_escapes (.undecodable hpath hfile hholds rfl)] at h
    cases h

end Verification

end Shipyard
