import Shipyard.Proofs.FileSystem.Extent
import Shipyard.Proofs.Packaging.Failure

/-!
# What a packaging delivers

If nothing stands in the way of a packaging, it gives its artifact and leaves the archive with its
sidecar (`packaging_delivers`). The files behind it are `arranged`: they are those before it, with
the directory for the outputs, and with three nodes in the places of the outputs. Each request turns
such files into such files, so a packaging is run step by step, and what was in the three places
before is forgotten with the first of them.
-/

namespace Shipyard.Packaging

open FileSystem Disk

variable {archiver : Archiver} {target : BuildTarget} {source outDir p : Path}
  {program version : String} {policy : SidecarPolicy} {fs gs fs₁ : FileSystem} {o : Outputs}
  {f : File} {l : Location} {at? : Role → Option Node} {role : Role} {node : Option Node}
  {ps : List Path}

/-! ## Arranged files -/

/-- The path of an output. -/
def Outputs.path (o : Outputs) : Role → Path
  | .renamed => o.renamed
  | .archive => o.archive
  | .sidecar => o.sidecar

/-- The place of an output. -/
def Outputs.place (o : Outputs) (cwd : Location) (role : Role) : Location := (o.path role).place cwd

/-- The files with some nodes in the places of the outputs. -/
def arranged (o : Outputs) (fs : FileSystem) (at? : Role → Option Node) : FileSystem :=
  ((fs.set (o.place fs.cwd .renamed) (at? .renamed)).set
    (o.place fs.cwd .archive) (at? .archive)).set (o.place fs.cwd .sidecar) (at? .sidecar)

/-- Whether the outputs can be put into their places. -/
structure Outputs.Free (o : Outputs) (fs : FileSystem) : Prop where
  /-- their paths lead there -/
  locate : ∀ role, fs.locate (o.path role) = .ok (o.place fs.cwd role)
  /-- where no directory is -/
  node : ∀ role, fs.node? (o.place fs.cwd role) ≠ some .directory
  /-- and no two are the same -/
  injective : Function.Injective (o.place fs.cwd)

theorem place_injective (h : outputs target program version outDir = .ok o) (cwd : Location) :
    Function.Injective (o.place cwd) := by
  obtain ⟨hra, hrs, has⟩ := places_ne h cwd
  intro role role' heq
  cases role <;> cases role' <;> simp_all [Outputs.place, Outputs.path]

@[simp] theorem cwd_arranged (o : Outputs) (fs : FileSystem) (at? : Role → Option Node) :
    (arranged o fs at?).cwd = fs.cwd := by
  simp [arranged]

namespace Outputs.Free

variable (h : o.Free fs)

include h

theorem node?_arranged (at? : Role → Option Node) (role : Role) :
    (arranged o fs at?).node? (o.place fs.cwd role) = at? role := by
  have hroot : ∀ role, o.place fs.cwd role ≠ [] := fun role => ne_nil_of_node? (h.node role)
  have hne : ∀ role role', role ≠ role' → o.place fs.cwd role ≠ o.place fs.cwd role' :=
    fun _ _ hrole => h.injective.ne hrole
  unfold arranged
  cases role with
  | renamed =>
    rw [node?_set_of_ne _ _ (hne .renamed .sidecar nofun),
      node?_set_of_ne _ _ (hne .renamed .archive nofun), node?_set _ _ _ (hroot _), if_pos rfl]
  | archive =>
    rw [node?_set_of_ne _ _ (hne .archive .sidecar nofun), node?_set _ _ _ (hroot _), if_pos rfl]
  | sidecar => rw [node?_set _ _ _ (hroot _), if_pos rfl]

omit h in
theorem node?_arranged_of_ne (at? : Role → Option Node) (hl : ∀ role, o.place fs.cwd role ≠ l) :
    (arranged o fs at?).node? l = fs.node? l := by
  rw [arranged, node?_set_of_ne _ _ (hl _).symm, node?_set_of_ne _ _ (hl _).symm,
    node?_set_of_ne _ _ (hl _).symm]

/-- Files are arranged if they are the same in all other places. -/
theorem eq_arranged (hcwd : gs.cwd = fs.cwd)
    (hat : ∀ role, gs.node? (o.place fs.cwd role) = at? role)
    (hothers : ∀ l, (∀ role, o.place fs.cwd role ≠ l) → gs.node? l = fs.node? l) :
    gs = arranged o fs at? := by
  refine ext_node? (by rw [hcwd, cwd_arranged]) fun l => ?_
  by_cases hl : ∃ role, o.place fs.cwd role = l
  · obtain ⟨role, rfl⟩ := hl
    rw [hat, h.node?_arranged]
  · have hne : ∀ role, o.place fs.cwd role ≠ l := fun role heq => hl ⟨role, heq⟩
    rw [hothers l hne, node?_arranged_of_ne at? hne]

theorem set_arranged (at? : Role → Option Node) (role : Role) (node : Option Node) :
    (arranged o fs at?).set (o.place fs.cwd role) node =
      arranged o fs (Function.update at? role node) := by
  have hnode := h.node?_arranged at?
  refine h.eq_arranged (by simp) (fun role' => ?_) fun l hl => ?_
  · by_cases hrole : role' = role
    · subst hrole
      rw [node?_set _ _ _ (ne_nil_of_node? (h.node role')), if_pos rfl, Function.update_self]
    · rw [node?_set_of_ne _ _ (h.injective.ne hrole), hnode, Function.update_of_ne hrole]
  · rw [node?_set_of_ne _ _ (hl role).symm, node?_arranged_of_ne at? hl]

/-- Where no directory is put, the directories stay. -/
theorem sameDirectories (hat : ∀ role, at? role ≠ some .directory) :
    SameDirectories fs (arranged o fs at?) := by
  refine ⟨cwd_arranged .., fun l => ?_⟩
  by_cases hl : ∃ role, o.place fs.cwd role = l
  · obtain ⟨role, rfl⟩ := hl
    rw [h.node?_arranged]
    simp [hat role, h.node role]
  · rw [node?_arranged_of_ne at? fun role heq => hl ⟨role, heq⟩]

theorem locate_arranged (hat : ∀ role, at? role ≠ some .directory) (role : Role) :
    (arranged o fs at?).locate (o.path role) = .ok (o.place fs.cwd role) :=
  (h.sameDirectories hat).locate.mpr (h.locate role)

/-! ## Requests -/

theorem runOn_removeAll_cons (hat : ∀ role, at? role ≠ some .directory) (role : Role) :
    runOn (removeAll (o.path role :: ps)) (arranged o fs at?) =
      runOn (removeAll ps) (arranged o fs (Function.update at? role none)) := by
  have hremove : runOn (removeIfPresent (o.path role)) (arranged o fs at?) =
      (.ok (), arranged o fs (Function.update at? role none)) := by
    rw [runOn_removeIfPresent_of_locate (h.locate_arranged hat role)
      (by rw [h.node?_arranged]; exact hat role), h.set_arranged]
  exact runOn_bind_ok hremove

theorem runOn_writeBytes (hat : ∀ role, at? role ≠ some .directory) (role : Role)
    (hnode : at? role = none) (content : Bytes) :
    runOn (writeBytes (o.path role) content) (arranged o fs at?) =
      (.ok (), arranged o fs
        (Function.update at? role (some (.file ⟨content, newFileMode, 0⟩)))) := by
  rw [runOn_writeBytes_of_locate (h.locate_arranged hat role) (by rw [h.node?_arranged, hnode]),
    h.set_arranged]

theorem runOn_openFile (hat : ∀ role, at? role ≠ some .directory) (role : Role)
    (hnode : at? role = some (.file f)) (hread : f.mayBeRead = true) :
    runOn (openFile (o.path role)) (arranged o fs at?) = (.ok f, arranged o fs at?) :=
  runOn_openFile_of_locate (h.locate_arranged hat role) (by rw [h.node?_arranged, hnode]) hread

end Outputs.Free

/-! ## Steps -/

@[simp] theorem nodes_ne_directory {renamed archive sidecar : Option Node} :
    (∀ role, nodes renamed archive sidecar role ≠ some .directory) ↔
      renamed ≠ some .directory ∧ archive ≠ some .directory ∧ sidecar ≠ some .directory := by
  constructor
  · exact fun h => ⟨h .renamed, h .archive, h .sidecar⟩
  · rintro ⟨hrenamed, harchive, hsidecar⟩ (_ | _ | _)
    · exact hrenamed
    · exact harchive
    · exact hsidecar

theorem update_ne_directory (hat : ∀ role, at? role ≠ some .directory) (role role' : Role) :
    Function.update at? role none role' ≠ some .directory := by
  by_cases hrole : role' = role
  · subst hrole
    simp
  · rw [Function.update_of_ne hrole]
    exact hat role'

/-- The archive of a packaging. -/
def packed (archiver : Archiver) (target : BuildTarget) (o : Outputs) (f : File) : Bytes :=
  archiver.pack target.archiveFormat ⟨o.renamed.name, f.content, f.mode, f.modified⟩

/-- Whether nothing stands in the way of a packaging: the directory can be made, the outputs can be
looked up in it, and the program is a file that may be read and is not in the place of one. -/
structure Ready (source outDir : Path) (o : Outputs) (f : File) (fs fs₁ : FileSystem) : Prop where
  /-- the directory can be made -/
  made : runOn (makeDirectories outDir) fs = (.ok (), fs₁)
  /-- each output has a place, and there is no directory -/
  found : ∀ role, ∃ l, fs₁.locate (o.path role) = .ok l ∧ fs₁.node? l ≠ some .directory
  /-- the program is a file -/
  program : fs.find? source = .ok (some (.file f))
  /-- that may be read -/
  readable : f.mayBeRead = true
  /-- its place is that of no output -/
  apart : ∀ role, o.place fs.cwd role ≠ source.place fs.cwd

namespace Ready

variable (h : Ready source outDir o f fs fs₁)

include h

theorem grown : GrownAbove outDir fs fs₁ := (ensures_makeDirectories.of_runOn_ok rfl h.made).1

theorem node_ne_directory (role : Role) : fs₁.node? (o.place fs.cwd role) ≠ some .directory := by
  obtain ⟨l, hlocate, hnode⟩ := h.found role
  rwa [eq_place_of_locate hlocate, h.grown.cwd] at hnode

theorem free (houtputs : outputs target program version outDir = .ok o) : o.Free fs₁ where
  locate role := by
    obtain ⟨l, hlocate, -⟩ := h.found role
    rw [hlocate, eq_place_of_locate hlocate]
    rfl
  node role := by
    rw [h.grown.cwd]
    exact h.node_ne_directory role
  injective := place_injective houtputs fs₁.cwd

/-- Where the program is once the directory is made. -/
theorem exists_program : ∃ l, fs₁.locate source = .ok l ∧ fs₁.node? l = some (.file f) ∧
    ∀ role, o.place fs₁.cwd role ≠ l := by
  obtain ⟨l, hlocate, hnode⟩ := find?_eq_some_iff.mp h.program
  refine ⟨l, h.grown.locate hlocate, h.grown.file_iff.mpr hnode, fun role => ?_⟩
  rw [h.grown.cwd, eq_place_of_locate hlocate]
  exact h.apart role

omit h in
/-- Clearing forgets what was there. -/
theorem runOn_clear (hfree : o.Free fs₁) :
    runOn (clear .none o) fs₁ = (.ok (), arranged o fs₁ (nodes none none none)) := by
  obtain ⟨at?, hat⟩ : ∃ at? : Role → Option Node,
      ∀ role, fs₁.node? (o.place fs₁.cwd role) = at? role := ⟨_, fun _ => rfl⟩
  have hstart : fs₁ = arranged o fs₁ at? := hfree.eq_arranged rfl hat fun _ _ => rfl
  have hplain : ∀ role, at? role ≠ some .directory := fun role => hat role ▸ hfree.node role
  have hend : Function.update (Function.update (Function.update at? .renamed none) .archive none)
      .sidecar none = nodes none none none := by
    funext role
    cases role <;> rfl
  show runOn (removeAll [o.path .renamed, o.path .archive, o.path .sidecar]) fs₁ = _
  rw [← hend]
  conv_lhs => rw [hstart]
  rw [hfree.runOn_removeAll_cons hplain, hfree.runOn_removeAll_cons (update_ne_directory hplain _),
    hfree.runOn_removeAll_cons (update_ne_directory (update_ne_directory hplain _) _)]
  rfl

/-- The copy has all that the program has, also its permissions and its time. -/
theorem runOn_copyFile (hfree : o.Free fs₁) :
    runOn (copyFile .none source o.renamed) (arranged o fs₁ (nodes none none none)) =
      (.ok (), arranged o fs₁ (nodes (some (.file f)) none none)) := by
  obtain ⟨l, hlocate, hnode, hapart⟩ := h.exists_program
  have hsame : SameDirectories fs₁ (arranged o fs₁ (nodes none none none)) :=
    hfree.sameDirectories (by simp)
  have hopen : runOn (openFile source) (arranged o fs₁ (nodes none none none)) =
      (.ok f, arranged o fs₁ (nodes none none none)) := by
    refine runOn_openFile_of_locate (hsame.locate.mpr hlocate) ?_ h.readable
    rw [Outputs.Free.node?_arranged_of_ne _ hapart, hnode]
  have hwrite : runOn (writeBytes (o.path .renamed) f.content)
      (arranged o fs₁ (nodes none none none)) = _ :=
    hfree.runOn_writeBytes (by simp) .renamed rfl f.content
  rw [update_renamed] at hwrite
  rw [copyFile, runOn_bind_ok hopen]
  show runOn (writeBytes (o.path .renamed) f.content >>= fun _ =>
    setStatus (o.path .renamed) f.mode f.modified) _ = _
  rw [runOn_bind_ok hwrite, runOn_setStatus_of_locate (hfree.locate_arranged (by simp) .renamed)
    (hfree.node?_arranged _ _), hfree.set_arranged, update_renamed]

theorem runOn_pack (hfree : o.Free fs₁) (archiver : Archiver) (format : ArchiveFormat) :
    runOn (pack archiver .none format o) (arranged o fs₁ (nodes (some (.file f)) none none)) =
      (.ok (), arranged o fs₁ (nodes (some (.file f)) (some (.file
        ⟨archiver.pack format ⟨o.renamed.name, f.content, f.mode, f.modified⟩, newFileMode, 0⟩))
          none)) := by
  show runOn (openFile (o.path .renamed) >>= _) _ = _
  rw [runOn_bind_ok (hfree.runOn_openFile (by simp) .renamed rfl h.readable)]
  show runOn (writeBytes (o.path .archive) _) _ = _
  rw [hfree.runOn_writeBytes (by simp) .archive rfl, update_archive]

omit h in
theorem runOn_certify (hfree : o.Free fs₁) (format : SidecarFormat) (content : Bytes) :
    runOn (certify .none format o)
        (arranged o fs₁ (nodes none (some (.file ⟨content, newFileMode, 0⟩)) none)) =
      (.ok ⟨Sha256.digest content, o.archive.name⟩, arranged o fs₁
        (nodes none (some (.file ⟨content, newFileMode, 0⟩)) (some (.file
          ⟨Utf8.encode (sidecarText o.archive.name content format), newFileMode, 0⟩)))) := by
  have hopen : runOn (openFile (o.path .archive))
      (arranged o fs₁ (nodes none (some (.file ⟨content, newFileMode, 0⟩)) none)) = _ :=
    hfree.runOn_openFile (by simp) .archive rfl (mayBeRead_new content)
  have hdigest : runOn (Checksum.ofFile (o.path .archive))
      (arranged o fs₁ (nodes none (some (.file ⟨content, newFileMode, 0⟩)) none)) =
        (.ok ⟨Sha256.digest content, o.archive.name⟩,
          arranged o fs₁ (nodes none (some (.file ⟨content, newFileMode, 0⟩)) none)) := by
    rw [Checksum.ofFile, Checksum.digestOf, readBytes, bind_assoc, bind_assoc, runOn_bind_ok hopen,
      ← Sha256.digestInChunks_eq]
    rfl
  show runOn (Checksum.ofFile (o.path .archive) >>= fun checksum => do
    writeText (o.path .sidecar) (checksum.render format)
    return checksum) _ = _
  rw [runOn_bind_ok hdigest]
  show runOn (writeBytes (o.path .sidecar) _ >>= fun _ => pure _) _ = _
  rw [runOn_bind_ok (hfree.runOn_writeBytes (by simp) .sidecar rfl _), update_sidecar]
  rfl

/-- **All steps.** A packaging with nothing in its way leaves archive and sidecar, in the files with
the directory for them. -/
theorem runOn_run (houtputs : outputs target program version outDir = .ok o) (archiver : Archiver)
    (policy : SidecarPolicy) :
    runOn (run archiver .none ⟨target, source⟩ program version outDir policy) fs =
      (.ok (.ok ⟨program, version, target.triple, o.archive,
          ⟨Sha256.digest (packed archiver target o f), o.archive.name⟩⟩),
        arranged o fs₁ (nodes none (some (.file ⟨packed archiver target o f, newFileMode, 0⟩))
          (some (.file ⟨Utf8.encode (sidecarText o.archive.name (packed archiver target o f)
            (policy.formatFor target)), newFileMode, 0⟩)))) := by
  have hfree := h.free houtputs
  have hstage : runOn (stage .none source outDir o) fs =
      (.ok (), arranged o fs₁ (nodes (some (.file f)) none none)) := by
    rw [stage, runOn_bind_ok h.made, runOn_bind_ok (runOn_clear hfree), h.runOn_copyFile hfree]
  have hpack := h.runOn_pack hfree archiver target.archiveFormat
  rw [← packed] at hpack
  have hremove : runOn (removeAll [o.renamed]) (arranged o fs₁ (nodes (some (.file f))
      (some (.file ⟨packed archiver target o f, newFileMode, 0⟩)) none)) =
        (.ok (), arranged o fs₁
          (nodes none (some (.file ⟨packed archiver target o f, newFileMode, 0⟩)) none)) := by
    show runOn (removeAll [o.path .renamed]) _ = _
    rw [hfree.runOn_removeAll_cons (by simp), update_renamed]
    rfl
  have hcertify := runOn_certify hfree (policy.formatFor target) (packed archiver target o f)
  unfold run
  simp only [houtputs, pure_bind]
  rw [runOn_bind_ok (runOn_attempt_eq_ok.mpr hstage)]
  dsimp only
  rw [runOn_bind_ok (runOn_attemptPacking_eq_ok.mpr hpack)]
  dsimp only
  rw [runOn_bind_ok hremove, runOn_bind_ok (runOn_attempt_eq_ok.mpr hcertify)]
  rfl

end Ready

/-! ## Other files before -/

/-- Files that agree where they can have directories have the same ones. -/
theorem sameDirectories_of_agrees {seen : Location → Prop} (h : Agrees seen fs gs)
    (hfs : ∀ l, ¬ seen l → fs.node? l ≠ some .directory)
    (hgs : ∀ l, ¬ seen l → gs.node? l ≠ some .directory) : SameDirectories fs gs := by
  refine ⟨h.cwd, fun l => ?_⟩
  by_cases hl : seen l
  · rw [h.node l hl]
  · simp [hfs l hl, hgs l hl]

/-- Whether a location is that of no output. -/
def Outputs.Elsewhere (o : Outputs) (cwd l : Location) : Prop := ∀ role, o.place cwd role ≠ l

theorem Outputs.exists_place (hl : ¬ o.Elsewhere fs.cwd l) : ∃ role, o.place fs.cwd role = l := by
  simpa [Elsewhere] using hl

/-- **Old outputs do not matter.** Whatever files are in the places of the outputs, nothing stands
in the way of a packaging. -/
theorem Ready.of_agrees (h : Ready source outDir o f fs fs₁)
    (hagrees : Agrees (o.Elsewhere fs.cwd) fs gs)
    (hplace : ∀ role, gs.node? (o.place fs.cwd role) ≠ some .directory) :
    ∃ gs₁, Ready source outDir o f gs gs₁ ∧ Agrees (o.Elsewhere fs.cwd) fs₁ gs₁ := by
  have hold : ∀ l, ¬ o.Elsewhere fs.cwd l → fs₁.node? l ≠ some .directory := by
    intro l hl
    obtain ⟨role, rfl⟩ := Outputs.exists_place hl
    exact h.node_ne_directory role
  -- the directory for the outputs is made without a look at their places
  have hreach : ∀ l, Above fs.cwd outDir l → o.Elsewhere fs.cwd l := by
    obtain ⟨-, base, hreaches⟩ := ensures_makeDirectories.of_runOn_ok rfl h.made
    intro l hl
    by_contra hno
    exact hold l hno (hreaches.above (h.grown.cwd.symm ▸ hl))
  have hconfined : Confined fs.cwd (o.Elsewhere fs.cwd) (fun _ => False) (makeDirectories outDir) :=
    confined_makeDirectories fun l hl => .inl (hreach l hl)
  obtain ⟨hresult, hleft⟩ := hconfined.same rfl (by simpa using hagrees)
  rcases hmade : runOn (makeDirectories outDir) gs with ⟨r, gs₁⟩
  simp only [h.made, hmade, or_false] at hresult hleft
  obtain rfl : r = .ok () := hresult
  obtain ⟨hgrown, -⟩ := ensures_makeDirectories.of_runOn_ok rfl hmade
  have hnew : ∀ l, ¬ o.Elsewhere fs.cwd l → gs₁.node? l ≠ some .directory := by
    intro l hl
    obtain ⟨role, rfl⟩ := Outputs.exists_place hl
    have habove : ¬ Above gs.cwd outDir (o.place fs.cwd role) := by
      rw [hagrees.cwd]
      exact fun habove => hl (hreach _ habove)
    rw [hgrown.node_of_not habove]
    exact hplace role
  have hsame : SameDirectories fs₁ gs₁ := sameDirectories_of_agrees hleft hold hnew
  refine ⟨gs₁, ⟨hmade, fun role => ?_, ?_, h.readable, fun role => ?_⟩, hleft⟩
  · obtain ⟨l, hlocate, hnode⟩ := h.found role
    exact ⟨l, hsame.locate.mpr hlocate, fun hdirectory => hnode ((hsame.directory l).mp hdirectory)⟩
  · obtain ⟨l, hlocate, hnode⟩ := find?_eq_some_iff.mp h.program
    have hbefore : SameDirectories fs gs := by
      refine sameDirectories_of_agrees hagrees (fun l hl hdirectory => ?_) fun l hl => ?_
      · exact hold l hl (h.grown.directory hdirectory)
      · obtain ⟨role, rfl⟩ := Outputs.exists_place hl
        exact hplace role
    refine find?_eq_some_iff.mpr ⟨l, hbefore.locate.mpr hlocate, ?_⟩
    rw [hagrees.node l fun role => eq_place_of_locate hlocate ▸ h.apart role, hnode]
  · rw [hagrees.cwd]
    exact h.apart role

/-! ## Deliveries -/

/-- The line of a sidecar: the digest alone, or with the name of the archive behind it if the policy
or else the target demands it. -/
def sidecarLine (policy : SidecarPolicy) (target : BuildTarget) (digest name : String) : String :=
  if policy = .named ∨ policy = .perTarget ∧ target.sidecarFormat = .named then
    digest ++ " " ++ name ++ "\n"
  else digest ++ "\n"

theorem sidecarText_eq (policy : SidecarPolicy) (target : BuildTarget) (name : String)
    (content : Bytes) :
    sidecarText name content (policy.formatFor target) =
      sidecarLine policy target (Sha256.digest content) name := by
  unfold sidecarText sidecarLine SidecarPolicy.formatFor
  cases policy with
  | perTarget => cases target.sidecarFormat <;> simp [Checksum.render]
  | bare => simp [Checksum.render]
  | named => simp [Checksum.render]

/-- What a packaging delivers. -/
structure Delivers (archiver : Archiver) (target : BuildTarget) (program version : String)
    (outDir : Path) (policy : SidecarPolicy) (o : Outputs) (f : File) (fs : FileSystem)
    (artifact : Artifact) (fs' : FileSystem) : Prop where
  /-- the archive holds the program under the name of the copy, and the artifact tells its digest -/
  archive : ∃ g, fs'.find? o.archive = .ok (some (.file g)) ∧
    archiver.unpack target.archiveFormat g.content = some [(o.renamed.name, f.content)] ∧
    artifact = ⟨program, version, target.triple, o.archive,
      ⟨Sha256.digest g.content, o.archive.name⟩⟩
  /-- the sidecar holds the digest in the form that is demanded -/
  sidecar : ∃ g, fs'.find? o.sidecar = .ok (some (.file g)) ∧
    g.content = Utf8.encode
      (sidecarLine policy target artifact.checksum.digest artifact.checksum.archiveName)
  /-- it is next to the archive, with a longer name -/
  beside : o.sidecar.parent = o.archive.parent ∧ o.sidecar.name = o.archive.name ++ ".sha256sum"
  /-- there is no copy -/
  renamed : fs'.find? o.renamed = .ok none
  /-- everywhere else nothing is changed, and the missing directories above the outputs are made -/
  others : fs'.cwd = fs.cwd ∧ ∀ l, o.Elsewhere fs.cwd l → fs'.node? l = fs.node? l ∨
    fs.node? l = none ∧ fs'.node? l = some .directory ∧ Above fs.cwd outDir l

theorem beside_of_outputs (houtputs : outputs target program version outDir = .ok o) :
    o.sidecar.parent = o.archive.parent ∧ o.sidecar.name = o.archive.name ++ ".sha256sum" := by
  obtain ⟨o', dir, front, name, ho, -, -, -, harchive, hsidecar⟩ :=
    exists_outputs target program version outDir
  obtain rfl : o' = o := Except.ok.inj (ho.symm.trans houtputs)
  rw [harchive, hsidecar]
  simp [sidecarName, sidecarSuffix]

/-- Arranged files are the same whatever was in the places. -/
theorem Outputs.Free.arranged_congr (hfs : o.Free fs) (hgs : o.Free gs)
    (hagrees : Agrees (o.Elsewhere fs.cwd) fs gs) (at? : Role → Option Node) :
    arranged o gs at? = arranged o fs at? := by
  refine hfs.eq_arranged (by simp [hagrees.cwd]) (fun role => ?_) fun l hl => ?_
  · rw [← hagrees.cwd]
    exact hgs.node?_arranged at? role
  · rw [node?_arranged_of_ne at? (hagrees.cwd ▸ hl), hagrees.node l hl]

/-- **A packaging delivers.** If nothing stands in its way and the archiver stores the program, it
gives its artifact, with all that belongs to it, and the result and the files do not depend on the
files that were in the places of the outputs. -/
theorem packaging_delivers (policy : SidecarPolicy)
    (houtputs : outputs target program version outDir = .ok o)
    (hready : Ready source outDir o f fs fs₁)
    (hstores : archiver.unpack target.archiveFormat (packed archiver target o f) =
      some [(o.renamed.name, f.content)]) :
    ∃ artifact fs', runOn (run archiver .none ⟨target, source⟩ program version outDir policy) fs =
        (.ok (.ok artifact), fs') ∧
      Delivers archiver target program version outDir policy o f fs artifact fs' ∧
      ∀ gs, Agrees (o.Elsewhere fs.cwd) fs gs →
        (∀ role, gs.node? (o.place fs.cwd role) ≠ some .directory) →
          runOn (run archiver .none ⟨target, source⟩ program version outDir policy) gs =
            (.ok (.ok artifact), fs') := by
  have hfree := hready.free houtputs
  refine ⟨_, _, hready.runOn_run houtputs archiver policy, ?_, fun gs hagrees hplace => ?_⟩
  · have hfind : ∀ {archive sidecar : File} (role : Role),
        (arranged o fs₁ (nodes none (some (.file archive)) (some (.file sidecar)))).find?
          (o.path role) = .ok (nodes none (some (.file archive)) (some (.file sidecar)) role) := by
      intro archive sidecar role
      rw [find?_of_locate (hfree.locate_arranged (by simp) role), hfree.node?_arranged]
    refine ⟨⟨_, hfind .archive, hstores, rfl⟩, ⟨_, hfind .sidecar, ?_⟩, beside_of_outputs houtputs,
      hfind .renamed, ?_, fun l hl => ?_⟩
    · rw [sidecarText_eq]
    · rw [cwd_arranged, hready.grown.cwd]
    · rw [Outputs.Free.node?_arranged_of_ne _ (hready.grown.cwd.symm ▸ hl)]
      exact hready.grown.node l
  · obtain ⟨gs₁, hready', hagrees'⟩ := hready.of_agrees hagrees hplace
    rw [← hready.grown.cwd] at hagrees'
    rw [hready'.runOn_run houtputs archiver policy,
      hfree.arranged_congr (hready'.free houtputs) hagrees']

/-! ## Old outputs -/

/-- The program in the files with old outputs. -/
def agedProgram : File := ⟨Utf8.encode "p", 0o755, 0⟩

theorem ready_aged : Ready ⟨.root, ["p"]⟩ ⟨.root, ["dist"]⟩ agedOutputs agedProgram agedFiles
    (runOn (makeDirectories ⟨.root, ["dist"]⟩) agedFiles).2 where
  made := Prod.ext (by decide) rfl
  found role := by
    refine ⟨agedOutputs.place agedFiles.cwd role, ?_, ?_⟩
    all_goals
      revert role
      rintro (_ | _ | _) <;> decide
  program := rfl
  readable := by decide
  apart := by rintro (_ | _ | _) <;> decide

set_option maxRecDepth 100000 in
theorem stores_aged :
    Archive.storing.unpack .zip (packed Archive.storing .macos agedOutputs agedProgram) =
      some [("p_v1_x86_64-apple-darwin", Utf8.encode "p")] := by
  decide +kernel

/-- Where an earlier packaging has left its outputs, the next one delivers its own. -/
theorem packaging_delivers_aged :
    ∃ artifact fs', agedRun .none = (.ok (.ok artifact), fs') ∧
      Delivers Archive.storing .macos "p" "v1" ⟨.root, ["dist"]⟩ .perTarget agedOutputs agedProgram
        agedFiles artifact fs' := by
  have houtputs : outputs .macos "p" "v1" ⟨.root, ["dist"]⟩ = .ok agedOutputs := by decide
  obtain ⟨artifact, fs', hrun, hdelivers, -⟩ :=
    packaging_delivers .perTarget houtputs ready_aged stores_aged
  rw [← agedRun] at hrun
  exact ⟨artifact, fs', hrun, hdelivers⟩

end Shipyard.Packaging
