import Shipyard.Proofs.Digest.Sha256
import Shipyard.Proofs.Packaging.Layout

/-!
# The steps of a packaging

What each step of a packaging does to the three places. A step that succeeds leaves exactly what the
next one needs. If one fails, the places are settled again if they were before: the copy is gone, and
archive and sidecar are both there and fit each other, or none of them is.
-/

namespace Shipyard

open FileSystem

/-- Whether the mishaps of a packaging are those of its own steps: nothing happens while old files
are cleared, a copy fails before it is there, and packing fails with a fault that is expected. -/
structure Mishaps.Tame (m : Mishaps) : Prop where
  /-- nothing happens while old files are cleared -/
  clearing : m.clearing = .none
  /-- a copy that fails is not there -/
  copying : ∀ copied e, m.copying = some (copied, e) → copied = .none
  /-- packing fails with an error of the operating system or because of the archive -/
  packing : ∀ written fault, m.packing = some (written, fault) →
    (∃ e, fault = .os e) ∨ ∃ message, fault = .archive message

theorem Mishaps.tame_none : Mishaps.none.Tame := ⟨rfl, nofun, nofun⟩

namespace Packaging

open Disk

variable {x : Layout} {fs₀ fs : FileSystem} {renamed archive sidecar : Option Node}
  {mishaps : Mishaps}

/-! ## Settled places -/

/-- Whether there is no file. -/
def NoFile (node : Option Node) : Prop := ∀ f, node ≠ some (.file f)

theorem noFile_none : NoFile none := nofun

/-- The text of the sidecar of an archive. -/
def sidecarText (archiveName : String) (content : Bytes) (format : SidecarFormat) : String :=
  Checksum.render ⟨Sha256.digest content, archiveName⟩ format

/-- Whether a sidecar holds the digest of an archive, in one of its two forms. -/
def Certifies (archiveName : String) (archive sidecar : Option Node) : Prop :=
  ∃ f g format, archive = some (.file f) ∧ sidecar = some (.file g) ∧
    g.content = Utf8.encode (sidecarText archiveName f.content format)

/-- Whether three places are settled: there is no copy, and an archive is there with its sidecar, or
none of them is. -/
structure Layout.Settled (x : Layout) (at? : Role → Option Node) : Prop where
  /-- there is no copy -/
  renamed : NoFile (at? .renamed)
  /-- archive and sidecar belong together -/
  paired : NoFile (at? .archive) ∧ NoFile (at? .sidecar) ∨
    x.Open .sidecar ∧ Certifies (x.name .archive) (at? .archive) (at? .sidecar)

theorem Layout.settled_none (x : Layout) : x.Settled (nodes none none none) :=
  ⟨noFile_none, .inl ⟨noFile_none, noFile_none⟩⟩

/-- Whether nothing but the places has changed, and these are settled if some nodes are. -/
def Kept (x : Layout) (fs₀ : FileSystem) (start : Role → Option Node) (fs : FileSystem) : Prop :=
  ∃ at?, Slots x fs₀ at? fs ∧ (x.Settled start → x.Settled at?)

theorem kept_of_none (start : Role → Option Node) (h : Slots x fs₀ (nodes none none none) fs) :
    Kept x fs₀ start fs :=
  ⟨_, h, fun _ => x.settled_none⟩

/-! ## Clearing -/

theorem ensures_removeAll_cons {P Q R : FileSystem → Prop} {E : Fault → FileSystem → Prop}
    {p : Path} {ps : List Path} (h : Ensures P (removeIfPresent p) (fun _ => Q) E)
    (hrest : Ensures Q (removeAll ps) (fun _ => R) E) :
    Ensures P (removeAll (p :: ps)) (fun _ => R) E :=
  h.bind fun _ => hrest

theorem ensures_removeAll_nil {P : FileSystem → Prop} {E : Fault → FileSystem → Prop} :
    Ensures P (removeAll []) (fun _ => P) E :=
  ensures_pure fun _ h => h

/-- Clearing leaves nothing. If it stops, then before a file that could not be removed, and what
comes before that in the order of the removals does not break a pair. -/
theorem ensures_clear (htame : mishaps.Tame) :
    Ensures (Slots x fs₀ (nodes renamed archive sidecar)) (clear mishaps x.outputs)
      (fun _ fs => x.Open .sidecar ∧ Slots x fs₀ (nodes none none none) fs)
      (fun _ fs => Kept x fs₀ (nodes renamed archive sidecar) fs) := by
  unfold clear
  rw [htame.clearing]
  refine ensures_removeAll_cons (Q := Slots x fs₀ (nodes none archive sidecar)) ?_ <|
    ensures_removeAll_cons (Q := Slots x fs₀ (nodes none none sidecar)) ?_ <|
    ensures_removeAll_cons (Q := fun fs => x.Open .sidecar ∧
      Slots x fs₀ (nodes none none none) fs) ?_ ensures_removeAll_nil
  · refine (ensures_removeIfPresent _ .renamed).imp (fun _ _ h => ?_)
      fun _ fs h => ⟨_, h.2, fun hsettled => hsettled⟩
    simpa using h.2
  · refine (ensures_removeIfPresent _ .archive).imp (fun _ _ h => ?_)
      fun _ fs h => ⟨_, h.2, fun hsettled => ⟨noFile_none, hsettled.paired⟩⟩
    simpa using h.2
  · refine (ensures_removeIfPresent _ .sidecar).imp (fun _ _ h => ?_)
      fun _ fs h => ⟨_, h.2, fun hsettled => ⟨noFile_none, .inl ⟨noFile_none, ?_⟩⟩⟩
    · simpa using h
    -- the sidecar of a pair can be looked up and is a file, so its removal would not have failed
    · rcases hsettled.paired with ⟨-, hno⟩ | ⟨hopen, f, g, format, -, hfile, -⟩
      · exact hno
      · rcases h.1 with hclosed | hdirectory
        · exact absurd hopen hclosed
        · cases hfile.symm.trans hdirectory

/-- Clearing up behind a failure removes two files that can be looked up. -/
theorem ensures_removeAll_pair {at? : Role → Option Node} (first second : Role)
    (hopen : ∀ role, x.Open role) (hfirst : at? first ≠ some .directory)
    (hsecond : at? second ≠ some .directory) (hne : second ≠ first) :
    Ensures (Slots x fs₀ at?) (removeAll [x.path first, x.path second])
      (fun _ => Slots x fs₀ (Function.update (Function.update at? first none) second none))
      (fun _ _ => False) := by
  refine ensures_removeAll_cons (Q := Slots x fs₀ (Function.update at? first none)) ?_ <|
    ensures_removeAll_cons ?_ ensures_removeAll_nil
  · refine (ensures_removeIfPresent at? first).imp (fun _ _ h => h.2) fun _ _ h => ?_
    exact h.1.elim (fun hclosed => hclosed (hopen first)) hfirst
  · refine (ensures_removeIfPresent _ second).imp (fun _ _ h => h.2) fun _ _ h => ?_
    refine h.1.elim (fun hclosed => hclosed (hopen second)) fun hdirectory => hsecond ?_
    rwa [Function.update_of_ne hne] at hdirectory

/-! ## Copying -/

/-- The copy is there as a whole, or it is not there. -/
theorem ensures_copyFile (htame : mishaps.Tame) (hopen : x.Open .renamed) (source : Path) :
    Ensures (Slots x fs₀ (nodes none none none)) (copyFile mishaps source (x.path .renamed))
      (fun _ fs => ∃ f, Slots x fs₀ (nodes (some (.file f)) none none) fs)
      (fun _ => Slots x fs₀ (nodes none none none)) := by
  refine Ensures.bind (Q := fun _ => Slots x fs₀ (nodes none none none)) ?_ fun file => ?_
  · exact (ensures_openFile_of_any source).imp (fun _ _ h => h)
      fun _ _ h => h
  rcases hcopying : mishaps.copying with _ | ⟨copied, e⟩
  · have hwrite : Ensures (Slots x fs₀ (nodes none none none))
        (writeBytes (x.path .renamed) file.content) _ _ :=
      ensures_writeBytes file.content hopen rfl
    rw [update_renamed] at hwrite
    have hstatus : Ensures
        (Slots x fs₀ (nodes (some (.file ⟨file.content, newFileMode, 0⟩)) none none))
        (setStatus (x.path .renamed) file.mode file.modified) _ _ :=
      ensures_setStatus file.mode file.modified hopen rfl
    rw [update_renamed] at hstatus
    refine hwrite.bind_total fun _ => ?_
    exact hstatus.imp (fun _ _ h => ⟨_, h⟩) fun _ _ h => h.elim
  · obtain rfl := htame.copying copied e hcopying
    exact ensures_throw fun _ h => h

/-! ## Packing -/

/-- Whether a fault is expected while packing. -/
def Expected (fault : Fault) : Prop :=
  (∃ e, fault = .os e) ∨ ∃ message, fault = .archive message

theorem runOn_attemptPacking (d : Disk Unit) (fs : FileSystem) :
    runOn (attemptPacking d) fs =
      match runOn d fs with
      | (.ok u, fs') => (.ok (.ok u), fs')
      | (.error (.os e), fs') => (.ok (.error (.os e)), fs')
      | (.error (.archive message), fs') => (.ok (.error (.archive message)), fs')
      | (.error fault, fs') => (.error fault, fs') := by
  unfold attemptPacking tryCatch instMonadExceptOfMonadExceptOf
  simp only [tryCatchThe, MonadExceptOf.tryCatch, ExceptT.tryCatch, ExceptT.mk, runOn, ExceptT.run,
    bind, StateT.bind, StateT.run, ExceptT.bind, ExceptT.bindCont, pure, ExceptT.pure]
  rcases d fs with ⟨fault | u, fs'⟩
  · cases fault <;> rfl
  · rfl

theorem runOn_attemptPacking_eq_ok {d : Disk Unit} {fs fs' : FileSystem} :
    runOn (attemptPacking d) fs = (.ok (.ok ()), fs') ↔ runOn d fs = (.ok (), fs') := by
  rw [runOn_attemptPacking]
  rcases runOn d fs with ⟨fault | u, fs₁⟩
  · cases fault <;> simp
  · simp

/-- In an attempt to pack the faults that are expected are values. -/
theorem ensures_attemptPacking {P : FileSystem → Prop} {d : Disk Unit} {Q E : FileSystem → Prop}
    (h : Ensures P d (fun _ => Q) fun fault fs => Expected fault ∧ E fs) :
    Ensures P (attemptPacking d)
      (fun r fs => match r with
        | .ok _ => Q fs
        | .error _ => E fs) (fun _ _ => False) := by
  intro fs hP
  rw [runOn_attemptPacking]
  rcases hrun : runOn d fs with ⟨fault | u, fs'⟩
  · obtain ⟨⟨e, rfl⟩ | ⟨message, rfl⟩, hE⟩ := h.of_runOn_error hP hrun
    · exact hE
    · exact hE
  · exact h.of_runOn_ok hP hrun

/-- The archive is a new file. If packing fails, a part of it may be there. -/
theorem ensures_pack (htame : mishaps.Tame) (hopen : ∀ role, x.Open role) (archiver : Archiver)
    (format : ArchiveFormat) (f : File) :
    Ensures (Slots x fs₀ (nodes (some (.file f)) none none)) (pack archiver mishaps format x.outputs)
      (fun _ fs => ∃ content, Slots x fs₀
        (nodes (some (.file f)) (some (.file ⟨content, newFileMode, 0⟩)) none) fs)
      (fun fault fs => Expected fault ∧ ∃ part, part ≠ some .directory ∧
        Slots x fs₀ (nodes (some (.file f)) part none) fs) := by
  have hwrite : ∀ content, Ensures (Slots x fs₀ (nodes (some (.file f)) none none))
      (writeBytes (x.path .archive) content) _ _ := fun content =>
    ensures_writeBytes content (hopen _) rfl
  simp only [update_archive] at hwrite
  unfold pack
  rcases hpacking : mishaps.packing with _ | ⟨written, fault⟩
  · refine ((ensures_openFile (hopen .renamed) rfl).imp (fun _ _ h => h.2.2)
      fun fault fs h => ⟨.inl h.2.1, none, nofun, h.2.2⟩).bind fun file => ?_
    exact (hwrite _).imp (fun _ _ h => ⟨_, h⟩) fun _ _ h => h.elim
  · refine (hwrite written).bind_total fun _ => ?_
    exact ensures_throw fun fs h => ⟨htame.packing written fault hpacking,
      some (.file ⟨written, newFileMode, 0⟩), nofun, h⟩

/-- Behind that the copy is removed. -/
theorem ensures_removeAll_copy {f : File} {packed : Option Node} (hopen : ∀ role, x.Open role) :
    Ensures (Slots x fs₀ (nodes (some (.file f)) packed none)) (removeAll [x.path .renamed])
      (fun _ => Slots x fs₀ (nodes none packed none)) (fun _ _ => False) := by
  refine ensures_removeAll_cons ?_ ensures_removeAll_nil
  refine (ensures_removeIfPresent _ .renamed).imp (fun _ _ h => ?_) fun _ _ h => ?_
  · rw [← update_renamed]
    exact h.2
  · rcases h.1 with hclosed | hdirectory
    · exact hclosed (hopen .renamed)
    · cases hdirectory

/-! ## Certifying -/

theorem ensures_ofFile {at? : Role → Option Node} {f : File} (hopen : x.Open .archive)
    (hnode : at? .archive = some (.file f)) (hread : f.mayBeRead = true) :
    Ensures (Slots x fs₀ at?) (Checksum.ofFile (x.path .archive))
      (fun checksum fs => checksum = ⟨Sha256.digest f.content, x.name .archive⟩ ∧
        Slots x fs₀ at? fs)
      (fun _ _ => False) := by
  have hopened : Ensures (Slots x fs₀ at?) (openFile (x.path .archive))
      (fun g fs => g = f ∧ Slots x fs₀ at? fs) (fun _ _ => False) := by
    refine (ensures_openFile hopen hnode).imp (fun _ _ h => ⟨h.1, h.2.2⟩)
      fun _ _ h => ?_
    rw [hread] at h
    cases h.1
  refine Ensures.bind (Q := fun digest fs => digest = Sha256.digest f.content ∧
    Slots x fs₀ at? fs) ?_ fun digest => ensures_and fun hdigest => ?_
  · refine Ensures.bind (hopened.bind (R := fun bytes fs => bytes = f.content ∧
      Slots x fs₀ at? fs) fun g => ensures_and fun hg => ?_) fun bytes => ensures_and fun hbytes => ?_
    · exact ensures_pure fun fs h => ⟨by rw [hg], h⟩
    · exact ensures_pure fun fs h => ⟨by rw [hbytes, Sha256.digestInChunks_eq], h⟩
  · refine ensures_pure fun fs h => ⟨?_, h⟩
    rw [hdigest, Layout.path, Path.name_entry]

theorem mayBeRead_new (content : Bytes) : (⟨content, newFileMode, 0⟩ : File).mayBeRead = true := by
  show Nat.testBit 0o644 8 = true
  decide

/-- The sidecar is a new file with the digest of the archive. If it fails, a part of it may be
there. -/
theorem ensures_certify (hopen : ∀ role, x.Open role) (format : SidecarFormat) (content : Bytes) :
    Ensures (Slots x fs₀ (nodes none (some (.file ⟨content, newFileMode, 0⟩)) none))
      (certify mishaps format x.outputs)
      (fun checksum fs => checksum = ⟨Sha256.digest content, x.name .archive⟩ ∧
        Slots x fs₀ (nodes none (some (.file ⟨content, newFileMode, 0⟩)) (some (.file
          ⟨Utf8.encode (sidecarText (x.name .archive) content format), newFileMode, 0⟩))) fs)
      (fun fault fs => (∃ e, fault = .os e) ∧ ∃ part, part ≠ some .directory ∧
        Slots x fs₀ (nodes none (some (.file ⟨content, newFileMode, 0⟩)) part) fs) := by
  have hwrite : ∀ text, Ensures
      (Slots x fs₀ (nodes none (some (.file ⟨content, newFileMode, 0⟩)) none))
      (writeBytes (x.path .sidecar) text) _ _ := fun text =>
    ensures_writeBytes text (hopen _) rfl
  simp only [update_sidecar] at hwrite
  unfold certify
  rcases mishaps.hashing with _ | e
  · refine (ensures_ofFile (hopen _) rfl (mayBeRead_new content)).bind_total fun checksum =>
      ensures_and fun hchecksum => ?_
    subst hchecksum
    rcases mishaps.writing with _ | ⟨written, e⟩
    · refine (hwrite _).bind_total fun _ => ?_
      exact ensures_pure fun fs h => ⟨rfl, h⟩
    · refine (hwrite written).bind_total fun _ => ?_
      exact Ensures.bind (Q := fun _ _ => False) (ensures_throw fun fs h =>
        ⟨⟨e, rfl⟩, some (.file ⟨written, newFileMode, 0⟩), nofun, h⟩) fun _ _ h => h.elim
  · exact ensures_throw fun fs h => ⟨⟨e, rfl⟩, none, nofun, h⟩

/-! ## Whole packagings -/

theorem noFile_congr {node node' : Option Node}
    (h : ∀ f, node' = some (.file f) ↔ node = some (.file f)) : NoFile node' ↔ NoFile node :=
  forall_congr' fun f => not_congr (h f)

/-- Whether places are settled is a matter of the files there. -/
theorem Layout.Settled.congr {at? at?' : Role → Option Node} (hsettled : x.Settled at?)
    (h : ∀ role f, at?' role = some (.file f) ↔ at? role = some (.file f)) : x.Settled at?' := by
  refine ⟨(noFile_congr (h _)).mpr hsettled.renamed, hsettled.paired.imp (fun hno => ?_)
    fun hpair => ?_⟩
  · exact ⟨(noFile_congr (h _)).mpr hno.1, (noFile_congr (h _)).mpr hno.2⟩
  · obtain ⟨hopen, f, g, format, hf, hg, htext⟩ := hpair
    exact ⟨hopen, f, g, format, (h _ f).mpr hf, (h _ g).mpr hg, htext⟩

/-- What a packaging leaves of the files before it: it has touched no file but those of its layout,
and these are settled if they were. -/
structure Left (x : Layout) (fs₀ fs : FileSystem) : Prop where
  /-- the current directory is the same -/
  cwd : fs.cwd = fs₀.cwd
  /-- other files are the same -/
  others : ∀ l, (∀ role, l ≠ x.location role) → ∀ f,
    fs.node? l = some (.file f) ↔ fs₀.node? l = some (.file f)
  /-- the places are settled if they were -/
  settled : x.Settled (fun role => fs₀.node? (x.location role)) →
    x.Settled fun role => fs.node? (x.location role)

/-- What a packaging leaves that succeeds. -/
structure Packed (x : Layout) (format : SidecarFormat) (content : Bytes) (fs : FileSystem) :
    Prop where
  /-- the path of the directory leads to it -/
  reaches : fs.Reaches x.dir x.base
  /-- the names can be looked up -/
  opened : ∀ role, x.Open role
  /-- there is no copy -/
  renamed : fs.node? (x.location .renamed) = none
  /-- the archive is a new file -/
  archive : fs.node? (x.location .archive) = some (.file ⟨content, newFileMode, 0⟩)
  /-- so is the sidecar, with the digest of the archive -/
  sidecar : fs.node? (x.location .sidecar) = some (.file
    ⟨Utf8.encode (sidecarText (x.name .archive) content format), newFileMode, 0⟩)

theorem Kept.left {fs₁ : FileSystem} {dirs : Location → Prop} (hgrown : Grown dirs fs₀ fs₁)
    (h : Kept x fs₁ (fun role => fs₁.node? (x.location role)) fs) : Left x fs₀ fs := by
  obtain ⟨at?, hslots, hsettled⟩ := h
  refine ⟨hslots.cwd.trans hgrown.cwd, fun l hl f => ?_, fun hbefore => ?_⟩
  · rw [hslots.others l hl, hgrown.file_iff]
  · have hat : (fun role => fs.node? (x.location role)) = at? := funext hslots.slot
    rw [hat]
    exact hsettled (hbefore.congr fun role f => hgrown.file_iff)

theorem Slots.packed {format : SidecarFormat} {content : Bytes}
    (h : Slots x fs₀ (nodes none (some (.file ⟨content, newFileMode, 0⟩)) (some (.file
      ⟨Utf8.encode (sidecarText (x.name .archive) content format), newFileMode, 0⟩))) fs)
    (hopen : x.Open .sidecar) : Packed x format content fs where
  reaches := h.reaches
  opened := x.open_of_sidecar hopen
  renamed := h.slot .renamed
  archive := h.slot .archive
  sidecar := h.slot .sidecar

/-- Staging leaves the copy and nothing else in the places. -/
theorem ensures_stage {outDir : Path} (htame : mishaps.Tame) (source : Path)
    (hreaches : ∀ fs₁, runOn (makeDirectories outDir) fs₀ = (.ok (), fs₁) →
      fs₁.Reaches x.dir x.base) :
    Ensures (· = fs₀) (stage mishaps source outDir x.outputs)
      (fun _ fs => ∃ fs₁, GrownAbove outDir fs₀ fs₁ ∧ x.Open .sidecar ∧
        ∃ f, Slots x fs₁ (nodes (some (.file f)) none none) fs)
      (fun _ => Left x fs₀) := by
  intro fs hfs
  rw [hfs]
  have hmade := ensures_makeDirectories (p := outDir) fs₀ rfl
  unfold stage
  rcases hrun : runOn (makeDirectories outDir) fs₀ with ⟨fault | u, fs₁⟩
  all_goals
    rw [hrun] at hmade
  · rw [runOn_bind_error hrun]
    exact ⟨hmade.cwd, fun l _ f => hmade.file_iff, fun h => h.congr fun role f => hmade.file_iff⟩
  rw [runOn_bind_ok hrun]
  have hstart : (fun role => fs₁.node? (x.location role)) = nodes (fs₁.node? (x.location .renamed))
      (fs₁.node? (x.location .archive)) (fs₁.node? (x.location .sidecar)) := by
    funext role
    cases role <;> rfl
  have hinit := Slots.init (x := x) (hreaches fs₁ hrun)
  rw [hstart] at hinit
  refine ((ensures_clear htame).imp (fun _ _ h => h) fun _ fs h => ?_).bind
    (fun _ => ensures_and fun hopen => ?_) fs₁ hinit
  · rw [← hstart] at h
    exact h.left hmade.1
  · refine (ensures_copyFile htame (x.open_of_sidecar hopen _) source).imp
      (fun _ fs h => ⟨fs₁, hmade.1, hopen, h⟩) fun _ fs h => (kept_of_none _ h).left hmade.1

/-- **A packaging.** Started on any files, it leaves the files that it should, and if it succeeds, an
archive with its sidecar. -/
theorem ensures_run {target : BuildTarget} {program version : String} {outDir : Path}
    (htame : mishaps.Tame) (archiver : Archiver) (source : Path) (policy : SidecarPolicy)
    (houtputs : outputs target program version outDir = .ok x.outputs)
    (hreaches : ∀ fs₁, runOn (makeDirectories outDir) fs₀ = (.ok (), fs₁) →
      fs₁.Reaches x.dir x.base) :
    Ensures (· = fs₀) (run archiver mishaps ⟨target, source⟩ program version outDir policy)
      (fun r fs => Left x fs₀ fs ∧ ∀ artifact, r = .ok artifact →
        ∃ content, Packed x (policy.formatFor target) content fs ∧
          artifact = ⟨program, version, target.triple, x.path .archive,
            ⟨Sha256.digest content, x.name .archive⟩⟩)
      (fun _ => Left x fs₀) := by
  unfold run
  dsimp only
  rw [houtputs]
  refine Ensures.bind (Q := fun o fs => o = x.outputs ∧ fs = fs₀) (ensures_pure fun _ h => ⟨rfl, h⟩)
    fun o => ensures_and ?_
  rintro rfl
  refine (ensures_stage htame source hreaches).attempt.bind fun staged => ?_
  cases staged with
  | error e => exact ensures_pure fun fs h => ⟨h, nofun⟩
  | ok u =>
  refine ensures_exists fun fs₁ => ensures_and fun hgrown => ensures_and fun hopen =>
    ensures_exists fun f => ?_
  have hall := x.open_of_sidecar hopen
  have hleft : ∀ fs, Slots x fs₁ (nodes none none none) fs → Left x fs₀ fs := fun fs h =>
    (kept_of_none _ h).left hgrown
  refine (ensures_attemptPacking
    (ensures_pack htame hall archiver target.archiveFormat f)).bind_total fun packed => ?_
  cases packed with
  | error fault =>
    -- the copy goes, and with it what there is of an archive
    refine ensures_exists fun part => ensures_and fun hpart => ?_
    refine (ensures_removeAll_pair .renamed .archive hall (fun h => by cases h) hpart
      nofun).bind_total fun _ => ?_
    simp only [update_renamed, update_archive]
    exact ensures_pure fun fs h => ⟨hleft fs h, nofun⟩
  | ok u =>
  refine ensures_exists fun content => ?_
  refine (ensures_removeAll_copy hall).bind_total fun _ => ?_
  refine (ensures_certify hall (policy.formatFor target)
    content).attempt_of_os.bind_total fun certified => ?_
  cases certified with
  | error e =>
    -- an archive without a whole sidecar goes as well
    refine ensures_exists fun part => ensures_and fun hpart => ?_
    refine (ensures_removeAll_pair .archive .sidecar hall (fun h => by cases h) hpart
      nofun).bind_total fun _ => ?_
    simp only [update_archive, update_sidecar]
    exact ensures_pure fun fs h => ⟨hleft fs h, nofun⟩
  | ok checksum =>
    refine ensures_and fun hchecksum => ensures_pure fun fs h => ⟨?_, ?_⟩
    · refine Kept.left hgrown ⟨_, h, fun _ => ⟨noFile_none, .inr ⟨hopen, ?_⟩⟩⟩
      exact ⟨_, _, policy.formatFor target, rfl, rfl, rfl⟩
    · rintro artifact ⟨⟩
      exact ⟨content, h.packed hopen, by rw [hchecksum]; rfl⟩

end Packaging

end Shipyard
