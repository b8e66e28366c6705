import Shipyard.Archive.Store
import Shipyard.Proofs.Packaging.Names
import Shipyard.Proofs.Packaging.Steps

/-!
# A directory of complete pairs

Packagings into one directory come in any order, replace each other and fail at any step. Whatever
happens, every file in the directory is an archive with its sidecar, or such a sidecar
(`Packaging.pairs_complete`). No name of one packaging serves another role in another one, so a
packaging either has the same layout as the one that made a pair, or leaves the pair alone.
-/

namespace Shipyard.Packaging

open FileSystem Disk

variable {outDir : Path} {dir : Location} {fs fs' : FileSystem} {archiver : Archiver}

/-! ## Names and their roles -/

/-- **Names tell layouts.** Two layouts in one directory that share a location are the same, and the
location has the same role in them. -/
theorem Layout.of_eq_of_location_eq {target target' : BuildTarget} {front front' : String}
    {role role' : Role} (ht : target ∈ BuildTarget.all) (ht' : target' ∈ BuildTarget.all)
    (h : (Layout.of target outDir dir front).location role =
      (Layout.of target' outDir dir front').location role') :
    target = target' ∧ front = front' ∧ role = role' :=
  Role.eq_of_append_eq ht ht' (List.singleton_inj.mp (List.append_cancel_left h))

/-! ## Tidy directories -/

/-- The layout of a packaging whose names lead nowhere else. -/
abbrev layout (outDir : Path) (dir : Location) (target : BuildTarget) (program version : String) :
    Layout :=
  Layout.of target outDir dir (program ++ "_" ++ version)

/-- Whether every file in a directory belongs to a complete pair, whose names can be looked up. -/
def Tidy (outDir : Path) (dir : Location) (fs : FileSystem) : Prop :=
  ∀ l f, dir <+: l → fs.node? l = some (.file f) →
    ∃ target ∈ BuildTarget.all, ∃ program version front role,
      front = program ++ "_" ++ version ∧ role ≠ Role.renamed ∧
      l = (Layout.of target outDir dir front).location role ∧
      (Layout.of target outDir dir front).Open .sidecar ∧
      Certifies ((Layout.of target outDir dir front).name .archive)
        (fs.node? ((Layout.of target outDir dir front).location .archive))
        (fs.node? ((Layout.of target outDir dir front).location .sidecar))

/-- In a tidy directory the places of every packaging are settled. -/
theorem Tidy.settled (h : Tidy outDir dir fs) {target : BuildTarget} (ht : target ∈ BuildTarget.all)
    (front : String) :
    (Layout.of target outDir dir front).Settled
      fun role => fs.node? ((Layout.of target outDir dir front).location role) := by
  -- a file in one of the places makes the pair there complete
  have hfile : ∀ role f, fs.node? ((Layout.of target outDir dir front).location role) =
      some (.file f) → role ≠ Role.renamed ∧ (Layout.of target outDir dir front).Open .sidecar ∧
        Certifies ((Layout.of target outDir dir front).name .archive)
          (fs.node? ((Layout.of target outDir dir front).location .archive))
          (fs.node? ((Layout.of target outDir dir front).location .sidecar)) := by
    intro role f hf
    obtain ⟨target', ht', -, -, front', role', -, hrole, hl, hopen, hpair⟩ :=
      h _ f (List.prefix_append ..) hf
    obtain ⟨rfl, rfl, rfl⟩ := Layout.of_eq_of_location_eq ht ht' hl
    exact ⟨hrole, hopen, hpair⟩
  refine ⟨fun f hf => (hfile .renamed f hf).1 rfl, ?_⟩
  by_cases harchive : NoFile (fs.node? ((Layout.of target outDir dir front).location .archive))
  · by_cases hsidecar : NoFile (fs.node? ((Layout.of target outDir dir front).location .sidecar))
    · exact .inl ⟨harchive, hsidecar⟩
    · obtain ⟨f, hf⟩ := not_forall_not.mp hsidecar
      exact .inr (hfile .sidecar f hf).2
  · obtain ⟨f, hf⟩ := not_forall_not.mp harchive
    exact .inr (hfile .archive f hf).2

/-- **One packaging keeps a directory tidy.** -/
theorem Tidy.left (h : Tidy outDir dir fs) {target : BuildTarget} (ht : target ∈ BuildTarget.all)
    {program version : String} (hleft : Left (layout outDir dir target program version) fs fs') :
    Tidy outDir dir fs' := by
  obtain ⟨front, hfront⟩ : ∃ front, front = program ++ "_" ++ version := ⟨_, rfl⟩
  rw [layout, ← hfront] at hleft
  have hsettled := hleft.settled (h.settled ht front)
  intro l f hl hf
  by_cases hplace : ∃ role, l = (Layout.of target outDir dir front).location role
  -- the file is in a place of the packaging, and there the pair is complete
  · obtain ⟨role, rfl⟩ := hplace
    have hrole : role ≠ .renamed := by
      rintro rfl
      exact hsettled.renamed f hf
    refine ⟨target, ht, program, version, front, role, hfront, hrole, rfl,
      hsettled.paired.resolve_left fun hno => ?_⟩
    cases role with
    | renamed => exact hrole rfl
    | archive => exact hno.1 f hf
    | sidecar => exact hno.2 f hf
  -- the file was there before, and so was all of its pair
  · have hother : ∀ role, l ≠ (Layout.of target outDir dir front).location role :=
      fun role heq => hplace ⟨role, heq⟩
    obtain ⟨target', ht', program', version', front', role', hfront', hrole, rfl, hopen, f', g,
      format, hf', hg, htext⟩ := h l f hl ((hleft.others l hother f).mp hf)
    have hsame : ∀ role'' f'', fs.node? ((Layout.of target' outDir dir front').location role'') =
        some (.file f'') → fs'.node? ((Layout.of target' outDir dir front').location role'') =
          some (.file f'') := by
      refine fun role'' f'' hf'' => (hleft.others _ (fun role heq => ?_) f'').mpr hf''
      obtain ⟨rfl, rfl, -⟩ := Layout.of_eq_of_location_eq ht' ht heq
      exact hother role' rfl
    exact ⟨target', ht', program', version', front', role', hfront', hrole, rfl, hopen, f', g,
      format, hsame _ _ hf', hsame _ _ hg, htext⟩

/-! ## Packagings one after the other -/

/-- A packaging into a directory. -/
structure Job where
  /-- what goes wrong by itself -/
  mishaps : Mishaps
  /-- the target -/
  target : BuildTarget
  /-- the program that is packaged -/
  source : Path
  /-- its name -/
  program : String
  /-- its version -/
  version : String
  /-- the form of the sidecars -/
  policy : SidecarPolicy

namespace Job

/-- Does a packaging. -/
def run (archiver : Archiver) (outDir : Path) (job : Job) :
    Disk (Except PackagingFailure Artifact) :=
  Packaging.run archiver job.mishaps ⟨job.target, job.source⟩ job.program job.version outDir
    job.policy

/-- Whether a packaging is one for a built-in target, under names that lead nowhere else. -/
structure Plain (job : Job) : Prop where
  /-- the target is a built-in one -/
  builtIn : job.target ∈ BuildTarget.all
  /-- the name of the program has no slash -/
  program : '/' ∉ job.program.toList
  /-- nor has the version -/
  version : '/' ∉ job.version.toList
  /-- only the steps of the packaging fail -/
  tame : job.mishaps.Tame

/-- The files that a packaging leaves. -/
theorem Plain.left {job : Job} (h : job.Plain) (archiver : Archiver) (outDir : Path)
    (fs : FileSystem) :
    Left (layout outDir (outDir.place fs.cwd) job.target job.program job.version) fs
      (runOn (job.run archiver outDir) fs).2 := by
  obtain ⟨dir, front, hplain, -, houtputs⟩ :=
    exists_layout h.builtIn job.program job.version outDir
  obtain ⟨rfl, rfl⟩ := hplain ⟨h.program, h.version⟩
  have hreaches : ∀ fs₁, runOn (makeDirectories dir) fs = (.ok (), fs₁) →
      fs₁.Reaches dir (dir.place fs.cwd) := by
    intro fs₁ hrun
    obtain ⟨hgrown, base, hbase⟩ := ensures_makeDirectories.of_runOn_ok rfl hrun
    rw [← hgrown.cwd, ← hbase.eq_place]
    exact hbase
  have hrun := ensures_run (x := layout dir (dir.place fs.cwd) job.target job.program job.version)
    h.tame archiver job.source job.policy (houtputs _) hreaches
  exact (hrun.imp (fun _ _ h => h.1) fun _ _ h => h).left rfl

end Job

/-- The files that packagings into a directory leave, whatever each of them gives. -/
def packageAll (archiver : Archiver) (outDir : Path) (jobs : List Job) (fs : FileSystem) :
    FileSystem :=
  jobs.foldl (fun fs job => (runOn (job.run archiver outDir) fs).2) fs

theorem tidy_packageAll {jobs : List Job} (hplain : ∀ job ∈ jobs, job.Plain)
    (h : Tidy outDir (outDir.place fs.cwd) fs) :
    Tidy outDir (outDir.place fs.cwd) (packageAll archiver outDir jobs fs) := by
  induction jobs generalizing fs with
  | nil => exact h
  | cons job rest ih =>
    obtain ⟨hjob, hrest⟩ := List.forall_mem_cons.mp hplain
    have hleft := hjob.left archiver outDir fs
    have htidy := h.left hjob.builtIn hleft
    rw [← hleft.cwd] at htidy ⊢
    exact ih hrest htidy

/-- Whether the archive of a program and its sidecar are both in a directory, and the sidecar holds
the digest of the archive. -/
def Complete (dir : Location) (fs : FileSystem) (archiveName : String) : Prop :=
  Certifies archiveName (fs.node? (dir ++ [archiveName]))
    (fs.node? (dir ++ [sidecarName archiveName]))

/-- **Only complete pairs.** After any packagings into a directory that held no file, every file in
it is the archive of a complete pair or the sidecar of one, and so no copy of a program is left. -/
theorem pairs_complete {jobs : List Job} (hplain : ∀ job ∈ jobs, job.Plain)
    (hempty : ∀ l, outDir.place fs.cwd <+: l → NoFile (fs.node? l)) :
    (∀ l f, outDir.place fs.cwd <+: l →
      (packageAll archiver outDir jobs fs).node? l = some (.file f) →
        ∃ target ∈ BuildTarget.all, ∃ program version,
          (l = outDir.place fs.cwd ++ [target.archiveName program version] ∨
            l = outDir.place fs.cwd ++ [sidecarName (target.archiveName program version)]) ∧
          Complete (outDir.place fs.cwd) (packageAll archiver outDir jobs fs)
            (target.archiveName program version)) ∧
      ∀ target ∈ BuildTarget.all, ∀ program version, NoFile
        ((packageAll archiver outDir jobs fs).node?
          (outDir.place fs.cwd ++ [target.binaryName program version])) := by
  have htidy : Tidy outDir (outDir.place fs.cwd) (packageAll archiver outDir jobs fs) :=
    tidy_packageAll hplain fun l f hl hf => absurd hf (hempty l hl f)
  refine ⟨fun l f hl hf => ?_, fun target ht program version => ?_⟩
  · obtain ⟨target, ht, program, version, front, role, rfl, hrole, rfl, -, hpair⟩ := htidy l f hl hf
    have hsidecar : sidecarName (target.archiveName program version) =
        program ++ "_" ++ version ++ Role.tail target .sidecar := by
      rw [sidecarName, BuildTarget.archiveName_eq_append, Role.tail_sidecar]
      exact String.append_assoc
    refine ⟨target, ht, program, version, ?_, ?_⟩
    · rw [hsidecar, BuildTarget.archiveName_eq_append]
      cases role with
      | renamed => exact absurd rfl hrole
      | archive => exact .inl rfl
      | sidecar => exact .inr rfl
    · rw [Complete, hsidecar, BuildTarget.archiveName_eq_append]
      exact hpair
  · have hname : target.binaryName program version =
        program ++ "_" ++ version ++ Role.tail target .renamed := by
      simp only [BuildTarget.binaryName, Role.tail, String.append_assoc]
    rw [hname]
    exact (htidy.settled ht (program ++ "_" ++ version)).renamed

/-- Three packagings: the second one takes the place of the first and then cannot hash its archive,
and the third one is for another target. -/
def rehearsedJobs : List Job :=
  [⟨.none, .linux, ⟨.root, ["p"]⟩, "p", "v1", .perTarget⟩,
    ⟨{ hashing := some ⟨.inputOutput, .none⟩ }, .linux, ⟨.root, ["p"]⟩, "p", "v1", .perTarget⟩,
    ⟨.none, .macos, ⟨.root, ["p"]⟩, "p", "v1", .perTarget⟩]

/-- A program, and nothing else. -/
def rehearsedFiles : FileSystem :=
  (FileSystem.empty []).put ["p"] (.file ⟨Utf8.encode "p", 0o755, 0⟩)

theorem plain_rehearsedJobs : ∀ job ∈ rehearsedJobs, job.Plain := by
  have hnone : ({ hashing := some ⟨.inputOutput, .none⟩ } : Mishaps).Tame := ⟨rfl, nofun, nofun⟩
  refine List.forall_mem_cons.mpr ⟨⟨?_, ?_, ?_, Mishaps.tame_none⟩, List.forall_mem_cons.mpr
    ⟨⟨?_, ?_, ?_, hnone⟩, List.forall_mem_singleton.mpr ⟨?_, ?_, ?_, Mishaps.tame_none⟩⟩⟩
  all_goals decide

theorem noFile_rehearsedFiles :
    ∀ l, (⟨.root, ["dist"]⟩ : Path).place rehearsedFiles.cwd <+: l →
      NoFile (rehearsedFiles.node? l) := by
  intro l hl f hf
  rw [rehearsedFiles, node?_put _ _ _ (List.cons_ne_nil _ _)] at hf
  split at hf
  · next heq =>
    rw [heq] at hl
    exact absurd hl (by decide)
  · rw [FileSystem.empty, node?] at hf
    split at hf
    · cases hf
    · simp at hf

/-- The files that they leave. -/
def rehearsedOutcome : FileSystem :=
  packageAll Archive.storing ⟨.root, ["dist"]⟩ rehearsedJobs rehearsedFiles

set_option maxRecDepth 100000 in
theorem below_rehearsedOutcome : (rehearsedOutcome.below ["dist"]).map (·.1) =
    [["dist", "p_v1_x86_64-apple-darwin.zip"],
      ["dist", "p_v1_x86_64-apple-darwin.zip.sha256sum"]] := by
  decide +kernel

/-- Of the three one pair is left, and it is complete. -/
theorem pairs_complete_rehearsedJobs :
    (rehearsedOutcome.below ["dist"]).map (·.1) =
        [["dist", "p_v1_x86_64-apple-darwin.zip"],
          ["dist", "p_v1_x86_64-apple-darwin.zip.sha256sum"]] ∧
      ∀ l f, ["dist"] <+: l → rehearsedOutcome.node? l = some (.file f) →
        ∃ target ∈ BuildTarget.all, ∃ program version,
          (l = ["dist"] ++ [target.archiveName program version] ∨
            l = ["dist"] ++ [sidecarName (target.archiveName program version)]) ∧
          Complete ["dist"] rehearsedOutcome (target.archiveName program version) :=
  ⟨below_rehearsedOutcome, (pairs_complete plain_rehearsedJobs noFile_rehearsedFiles).1⟩

end Shipyard.Packaging
