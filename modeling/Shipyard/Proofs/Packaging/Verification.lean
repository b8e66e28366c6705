import Shipyard.Proofs.Packaging.SidecarFile

/-!
# What a verification accepts

An archive is accepted exactly if its sidecar records its digest (`verification_exact`), whatever
the two files hold. The one way out is a path that the operating system takes for too long: the
first look at the archive ends with its error, and there is no verdict.
-/

namespace Shipyard

open FileSystem Disk

namespace Verification

open Checksum

variable {fs : FileSystem} {archive sidecar : Path}

/-! ## Sidecars -/

/-- Whether a sidecar records some digits for an archive. -/
def Recorded (fs : FileSystem) (archive sidecar : Path) (digits : String) : Prop :=
  ∃ text, fs.Holds sidecar (Utf8.encode text) ∧ Records archive.name digits text

/-- What is found in the sidecar of an archive is what it records. -/
theorem finds_iff_recorded (hpath : sidecarPath archive = .ok sidecar) (hname : archive.name ≠ "")
    {found : Option Checksum} (h : Finds fs sidecar found) (c : Checksum) :
    found = some c ↔
      ∃ digits, Recorded fs archive sidecar digits ∧ c = ⟨Text.lower digits, archive.name⟩ := by
  cases h with
  | denied hdenies =>
    refine ⟨nofun, ?_⟩
    rintro ⟨digits, ⟨text, hholds, -⟩, -⟩
    exact absurd hholds hdenies.not_holds
  | @read text hholds =>
    rw [(of_sidecarPath hpath).1, sidecarName, Text.dropEnd_append, ofSidecarText?_eq_some_iff hname]
    constructor
    · rintro ⟨digits, hrecords, hc⟩
      exact ⟨digits, ⟨text, hholds, hrecords⟩, hc⟩
    · rintro ⟨digits, ⟨text', hholds', hrecords⟩, hc⟩
      obtain rfl : text = text' := Utf8.encode_injective (hholds.eq hholds')
      exact ⟨digits, hrecords, hc⟩

/-! ## Verdicts -/

/-- A verdict is exact if it says of an archive what the archive and its sidecar say. -/
structure Exact (fs : FileSystem) (archive sidecar : Path)
    (verdict : Except PackagingFailure Checksum) : Prop where
  /-- the archive is accepted exactly if the sidecar records its digest -/
  accepted : ∀ c, verdict = .ok c ↔ ∃ content digits, fs.Holds archive content ∧
    Recorded fs archive sidecar digits ∧ Text.lower digits = Sha256.digest content ∧
      c = ⟨Text.lower digits, archive.name⟩
  /-- the digests differ exactly if both can be read and are not the same -/
  mismatched : (∃ e, verdict = .error e ∧ e.kind = .checksumMismatch) ↔
    ∃ content digits, fs.Holds archive content ∧ Recorded fs archive sidecar digits ∧
      Text.lower digits ≠ Sha256.digest content
  /-- the verification fails exactly if one of them cannot be read -/
  failed : (∃ e, verdict = .error e ∧ e.kind = .checksumFailed) ↔
    ¬ ∃ content digits, fs.Holds archive content ∧ Recorded fs archive sidecar digits
  /-- a failure names the platform of the archive, and the archive or its sidecar -/
  named : ∀ e, verdict = .error e →
    e.platform = platformFor archive.name ∧ (e.path = some archive ∨ e.path = some sidecar)

/-- A failure is exact if one of the files cannot be read. -/
theorem Exact.of_failed {e : PackagingFailure} (hkind : e.kind = .checksumFailed)
    (hnamed : e.platform = platformFor archive.name ∧
      (e.path = some archive ∨ e.path = some sidecar))
    (hnone : ¬ ∃ content digits, fs.Holds archive content ∧ Recorded fs archive sidecar digits) :
    Exact fs archive sidecar (.error e) where
  accepted c := by
    refine ⟨nofun, ?_⟩
    rintro ⟨content, digits, hholds, hrecorded, -⟩
    exact absurd ⟨content, digits, hholds, hrecorded⟩ hnone
  mismatched := by
    constructor
    · rintro ⟨_, ⟨⟩, hmismatch⟩
      rw [hkind] at hmismatch
      cases hmismatch
    · rintro ⟨content, digits, hholds, hrecorded, -⟩
      exact absurd ⟨content, digits, hholds, hrecorded⟩ hnone
  failed := ⟨fun _ => hnone, fun _ => ⟨e, rfl, hkind⟩⟩
  named := by
    rintro _ ⟨⟩
    exact hnamed

section Compared

variable {content : Bytes} {digits : String} (hholds : fs.Holds archive content)
  (hrecorded : Recorded fs archive sidecar digits)
  (hunique : ∀ digits', Recorded fs archive sidecar digits' →
    Text.lower digits' = Text.lower digits)

include hholds hrecorded hunique

/-- An archive with the recorded digest is accepted. -/
theorem Exact.of_same (hsame : Text.lower digits = Sha256.digest content) :
    Exact fs archive sidecar (.ok ⟨Text.lower digits, archive.name⟩) where
  accepted c := by
    constructor
    · rintro ⟨⟩
      exact ⟨content, digits, hholds, hrecorded, hsame, rfl⟩
    · rintro ⟨_, digits', -, hrecorded', -, rfl⟩
      rw [hunique digits' hrecorded']
  mismatched := by
    constructor
    · rintro ⟨_, ⟨⟩, -⟩
    · rintro ⟨content', digits', hholds', hrecorded', hne⟩
      rw [hunique digits' hrecorded', hholds'.eq hholds] at hne
      exact absurd hsame hne
  failed := by
    constructor
    · rintro ⟨_, ⟨⟩, -⟩
    · exact fun hnone => absurd ⟨content, digits, hholds, hrecorded⟩ hnone
  named := nofun

/-- An archive with another digest is a mismatch. -/
theorem Exact.of_ne {e : PackagingFailure} (hkind : e.kind = .checksumMismatch)
    (hnamed : e.platform = platformFor archive.name ∧
      (e.path = some archive ∨ e.path = some sidecar))
    (hne : Text.lower digits ≠ Sha256.digest content) : Exact fs archive sidecar (.error e) where
  accepted c := by
    refine ⟨nofun, ?_⟩
    rintro ⟨content', digits', hholds', hrecorded', hsame, -⟩
    rw [hunique digits' hrecorded', hholds'.eq hholds] at hsame
    exact absurd hsame hne
  mismatched := ⟨fun _ => ⟨content, digits, hholds, hrecorded, hne⟩, fun _ => ⟨e, rfl, hkind⟩⟩
  failed := by
    constructor
    · rintro ⟨_, ⟨⟩, hfailed⟩
      rw [hkind] at hfailed
      cases hfailed
    · exact fun hnone => absurd ⟨content, digits, hholds, hrecorded⟩ hnone
  named := by
    rintro _ ⟨⟩
    exact hnamed

end Compared

/-- **What is said of an archive is exact.** -/
theorem exact_of_judges (hpath : sidecarPath archive = .ok sidecar) (hname : archive.name ≠ "")
    {verdict : Except PackagingFailure Checksum} (h : Judges none fs archive verdict) :
    Exact fs archive sidecar verdict := by
  -- every reading of the sidecar gives the same digits in lower case
  have hunique {digits digits' : String}
      (hfinds : Finds fs sidecar (some ⟨Text.lower digits, archive.name⟩))
      (hrecorded : Recorded fs archive sidecar digits') : Text.lower digits' = Text.lower digits := by
    have hsame := (finds_iff_recorded hpath hname hfinds _).mpr ⟨digits', hrecorded, rfl⟩
    exact (congrArg Checksum.digest (Option.some.inj hsame)).symm
  cases h with
  | absent _ hfind hnone =>
    refine .of_failed rfl ⟨rfl, .inl rfl⟩ ?_
    rintro ⟨content, -, ⟨loc, f, hlocate, hnode, -⟩, -⟩
    have hfile := find?_eq_some_iff.mpr ⟨loc, hlocate, hnode⟩
    exact hnone f (Except.ok.inj (hfind.symm.trans hfile))
  | unrecorded hpath' _ hfinds =>
    obtain rfl := Except.ok.inj (hpath.symm.trans hpath')
    refine .of_failed rfl ⟨rfl, .inr rfl⟩ ?_
    rintro ⟨-, digits, -, hrecorded⟩
    cases (finds_iff_recorded hpath hname hfinds _).mpr ⟨digits, hrecorded, rfl⟩
  | unread _ hfile _ hhashed =>
    refine .of_failed rfl ⟨rfl, .inl rfl⟩ ?_
    rintro ⟨content, -, hholds, -⟩
    rw [(hashed_eq_ok_iff hfile).mpr ⟨content, hholds, rfl⟩] at hhashed
    cases hhashed
  | differs hpath' hfile hfinds hhashed hne =>
    obtain rfl := Except.ok.inj (hpath.symm.trans hpath')
    obtain ⟨content, hholds, rfl⟩ := (hashed_eq_ok_iff hfile).mp hhashed
    obtain ⟨digits, hrecorded, rfl⟩ := (finds_iff_recorded hpath hname hfinds _).mp rfl
    exact .of_ne hholds hrecorded (fun _ => hunique hfinds) rfl ⟨rfl, .inl rfl⟩ (Ne.symm hne)
  | agrees hpath' hfile hfinds hhashed =>
    obtain rfl := Except.ok.inj (hpath.symm.trans hpath')
    obtain ⟨content, hholds, hsame⟩ := (hashed_eq_ok_iff hfile).mp hhashed
    obtain ⟨digits, hrecorded, rfl⟩ := (finds_iff_recorded hpath hname hfinds _).mp rfl
    exact .of_same hholds hrecorded (fun _ => hunique hfinds) hsame.symm

/-- So is what a verification gives. -/
theorem exact_of_runOn (hpath : sidecarPath archive = .ok sidecar) (hname : archive.name ≠ "")
    {verdict : Except PackagingFailure Checksum} {fs' : FileSystem}
    (h : runOn (run none archive) fs = (.ok verdict, fs')) : Exact fs archive sidecar verdict := by
  rcases escapes_or_judges none fs archive with ⟨fault, hescapes⟩ | ⟨verdict', hjudges⟩
  · cases (runOn_run_of_escapes hescapes).symm.trans h
  · cases (runOn_run_of_judges hjudges).symm.trans h
    exact exact_of_judges hpath hname hjudges

/-- One sidecar accepts archives of one digest only. -/
theorem digest_eq_of_accepted {fs' : FileSystem} {text : String} {content content' : Bytes}
    {c c' : Checksum}
    (hname : archive.name ≠ "")
    (hexact : Exact fs archive sidecar (.ok c)) (hexact' : Exact fs' archive sidecar (.ok c'))
    (hnote : fs.Holds sidecar (Utf8.encode text)) (hnote' : fs'.Holds sidecar (Utf8.encode text))
    (hholds : fs.Holds archive content) (hholds' : fs'.Holds archive content') :
    Sha256.digest content = Sha256.digest content' := by
  -- what either of them was compared with is what is read from the text of the sidecar
  have hread : ∀ {fs : FileSystem} {c : Checksum} {content : Bytes},
      Exact fs archive sidecar (.ok c) → fs.Holds sidecar (Utf8.encode text) →
      fs.Holds archive content →
      ofSidecarText? archive.name text = some ⟨Sha256.digest content, archive.name⟩ := by
    intro fs c content hexact hnote hholds
    obtain ⟨content', digits, hcontent, ⟨text', htext, hrecords⟩, hdigest, -⟩ :=
      (hexact.accepted c).mp rfl
    rw [Utf8.encode_injective (htext.eq hnote)] at hrecords
    rw [hcontent.eq hholds] at hdigest
    exact (ofSidecarText?_eq_some_iff hname).mpr ⟨digits, hrecords, by rw [hdigest]⟩
  have hsame := (hread hexact hnote hholds).symm.trans (hread hexact' hnote' hholds')
  exact congrArg Checksum.digest (Option.some.inj hsame)

/-! ## Exactness -/

/-- **What is accepted.** If the sidecar of an archive is missing, cannot be read or holds a text,
the verification gives an exact verdict and changes nothing; only if the path of the archive is too
long, it may end with the error of the first look instead. So a sidecar never accepts two archives
with different digests. -/
theorem verification_exact (archive : Path) (hname : archive.name ≠ "") :
    ∃ sidecar, sidecarPath archive = .ok sidecar ∧
      (∀ fs : FileSystem, fs.Legible sidecar →
        (∃ verdict, runOn (run none archive) fs = (.ok verdict, fs) ∧
          Exact fs archive sidecar verdict) ∨
        TooLong archive ∧
          runOn (run none archive) fs = (.error (osError .nameTooLong archive), fs)) ∧
      ∀ (fs fs' : FileSystem) text content content' c c',
        fs.Holds sidecar (Utf8.encode text) → fs'.Holds sidecar (Utf8.encode text) →
        fs.Holds archive content → fs'.Holds archive content' →
        runOn (run none archive) fs = (.ok (.ok c), fs) →
        runOn (run none archive) fs' = (.ok (.ok c'), fs') →
        Sha256.digest content = Sha256.digest content' := by
  have hparts : archive.parts ≠ [] := by
    intro hparts
    rw [Path.name, hparts] at hname
    exact hname rfl
  obtain ⟨sidecar, hpath⟩ : ∃ sidecar, sidecarPath archive = .ok sidecar := by
    rw [sidecarPath, Path.withName?, if_neg hparts]
    exact ⟨_, rfl⟩
  refine ⟨sidecar, hpath, fun fs hlegible => ?_, ?_⟩
  · rcases escapes_or_judges none fs archive with ⟨fault, hescapes⟩ | ⟨verdict, hjudges⟩
    · obtain ⟨hlong, rfl⟩ := hescapes.tooLong_of_legible hpath hlegible
      exact .inr ⟨hlong, runOn_run_of_escapes hescapes⟩
    · exact .inl ⟨verdict, runOn_run_of_judges hjudges, exact_of_judges hpath hname hjudges⟩
  · intro fs fs' text content content' c c' hnote hnote' hholds hholds' hrun hrun'
    exact digest_eq_of_accepted hname (exact_of_runOn hpath hname hrun)
      (exact_of_runOn hpath hname hrun') hnote hnote' hholds hholds'

/-- The digest of an empty archive, in capitals and between blanks, and the name of the archive. -/
def capitalSidecar : String :=
  "\t " ++ "E3B0C44298FC1C149AFBF4C8996FB92427AE41E4649B934CA495991B7852B855" ++ " \r\n " ++
    "a.zip" ++ "\n"

/-- An empty archive with such a sidecar. -/
def capitalFiles : FileSystem :=
  ((FileSystem.empty []).put ["a.zip"] (.file ⟨[], 0o644, 0⟩)).put ["a.zip.sha256sum"]
    (.file ⟨Utf8.encode capitalSidecar, 0o644, 0⟩)

theorem holds_capitalFiles :
    capitalFiles.Holds ⟨.root, ["a.zip"]⟩ [] ∧
      capitalFiles.Holds ⟨.root, ["a.zip.sha256sum"]⟩ (Utf8.encode capitalSidecar) := by
  constructor
  · refine ⟨["a.zip"], ⟨[], 0o644, 0⟩, by decide, ?_, by decide, rfl⟩
    rw [capitalFiles, node?_put _ _ _ (by decide), node?_put _ _ _ (by decide)]
    rfl
  · refine ⟨["a.zip.sha256sum"], ⟨Utf8.encode capitalSidecar, 0o644, 0⟩, by decide, ?_,
      by decide, rfl⟩
    rw [capitalFiles, node?_put _ _ _ (by decide)]
    rfl

theorem recorded_capitalFiles :
    Recorded capitalFiles ⟨.root, ["a.zip"]⟩ ⟨.root, ["a.zip.sha256sum"]⟩
      "E3B0C44298FC1C149AFBF4C8996FB92427AE41E4649B934CA495991B7852B855" := by
  have hdigits : "E3B0C44298FC1C149AFBF4C8996FB92427AE41E4649B934CA495991B7852B855".toList.all
      (fun c => decide (Text.IsHexDigit c)) = true := by decide
  simp only [List.all_eq_true, decide_eq_true_eq] at hdigits
  refine ⟨capitalSidecar, holds_capitalFiles.2, by decide, hdigits, ?_⟩
  have hblank : AllBlank "\t " ∧ AllBlank " \r\n " ∧ AllBlank "\n" := by decide
  exact .named hblank.1 hblank.2.1 (by decide) (by decide) hblank.2.2

/-- It is accepted, with the digits in lower case. -/
theorem verification_exact_capitals :
    runOn (run none ⟨.root, ["a.zip"]⟩) capitalFiles =
      (.ok (.ok ⟨"e3b0c44298fc1c149afbf4c8996fb92427ae41e4649b934ca495991b7852b855", "a.zip"⟩),
        capitalFiles) := by
  obtain ⟨sidecar, hpath, hexact, -⟩ :=
    verification_exact ⟨.root, ["a.zip"]⟩ (by decide)
  obtain rfl : ⟨.root, ["a.zip.sha256sum"]⟩ = sidecar := Except.ok.inj hpath
  have hlegible : capitalFiles.Legible ⟨.root, ["a.zip.sha256sum"]⟩ := fun _ h =>
    ⟨capitalSidecar, h.eq holds_capitalFiles.2⟩
  rcases hexact capitalFiles hlegible with ⟨verdict, hrun, hverdict⟩ | ⟨hlong, -⟩
  · have haccepted := (hverdict.accepted _).mpr
      ⟨[], _, holds_capitalFiles.1, recorded_capitalFiles, by decide +kernel, rfl⟩
    rw [hrun, haccepted]
    rfl
  · exact absurd hlong (by decide)

/-- An archive whose name is too long. -/
def longArchive : Path := ⟨.root, [String.ofList (List.replicate 256 'a')]⟩

/-- **A name that is too long.** There is no archive and no sidecar, and still no verdict. -/
theorem long_name_without_verdict :
    longArchive.name ≠ "" ∧ (∀ p, (FileSystem.empty []).Legible p) ∧
      ∀ verdict, (runOn (run none longArchive) (FileSystem.empty [])).1 ≠ .ok verdict := by
  refine ⟨by decide +kernel, ?_, fun verdict h => ?_⟩
  · rintro p content ⟨loc, f, -, hnode, -⟩
    rw [node?] at hnode
    split at hnode
    · cases hnode
    · simp [FileSystem.empty] at hnode
  · have hnull : longArchive.hasNull = false := by
      rw [Path.hasNull, longArchive, List.any_cons, String.toList_ofList]
      decide
    have hwalk : (FileSystem.empty []).walk longArchive = .error .nameTooLong := by decide +kernel
    have hlost : (FileSystem.empty []).find? longArchive =
        .error (osError .nameTooLong longArchive) := by
      rw [FileSystem.find?, if_neg (Bool.eq_false_iff.mp hnull), hwalk]
    rw [runOn_run_of_lost rfl hlost] at h
    cases h

end Verification

end Shipyard
