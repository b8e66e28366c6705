import Shipyard.Proofs.Packaging.Fresh
import Shipyard.Proofs.Rehearsal
import Shipyard.Proofs.Run.Film
import Shipyard.Proofs.Run.Outcomes
import Shipyard.Proofs.Run.Requests

/-!
# The order of a branch

A branch issues the commands of its checkout, those of its compilation, an upload and a look at the
release, in this order and each only if everything before it went well. Behind an upload that
failed, or that the look does not confirm, comes the way back, and nothing comes behind any other
failure. What is uploaded is a complete pair of an archive and its sidecar, and the error of a
branch that failed is the one of the step that failed first (`Branch.run_orderly`).
-/

namespace Shipyard

open Shipyard.Action Exchange

variable {σ : Type} {host : Host σ} {c : RunContext} {target : BuildTarget} {fs fs' : FileSystem}

/-! ## Assets -/

/-- The files that a branch uploads: its archive and the sidecar next to it. -/
def RunContext.assetFiles (c : RunContext) (target : BuildTarget) : List Path :=
  match sidecarPath (c.archivePath target) with
  | .ok sidecar => [c.archivePath target, sidecar]
  | .error _ => []

theorem RunContext.eq_assetFiles {artifact : Artifact} {files : List Path}
    (hfiles : artifact.assets = .ok files) (harchive : artifact.archive = c.archivePath target) :
    files = c.assetFiles target := by
  unfold Artifact.assets Artifact.sidecar at hfiles
  rw [harchive] at hfiles
  unfold RunContext.assetFiles
  rcases hsidecar : sidecarPath (c.archivePath target) with refusal | sidecar
  · rw [hsidecar] at hfiles
    cases hfiles
  · rw [hsidecar] at hfiles
    cases hfiles
    rfl

/-- The artifact of a branch is uploaded as these files, under the names of its assets. -/
theorem RunContext.assets_of_archive {artifact : Artifact} {files : List Path}
    (hfiles : artifact.assets = .ok files) (harchive : artifact.archive = c.archivePath target) :
    files = c.assetFiles target ∧ files.map (·.name) = c.assetNames target := by
  refine ⟨RunContext.eq_assetFiles hfiles harchive, ?_⟩
  rw [Artifact.names_of_assets_eq_ok hfiles]
  exact Branch.names_of_archive harchive

theorem RunContext.nodup_assetNames (c : RunContext) (target : BuildTarget) :
    (c.assetNames target).Nodup := by
  have hne : (c.archivePath target).name ≠ sidecarName (c.archivePath target).name := by
    intro h
    have hlength := congrArg String.length h
    have hsuffix : 0 < sidecarSuffix.length := by decide
    rw [sidecarName, String.length_append] at hlength
    omega
  simpa [RunContext.assetNames] using hne

/-- Whether the files that a branch uploads are a complete pair: the archive is there, and the
sidecar holds its digest. -/
def RunContext.PairComplete (c : RunContext) (target : BuildTarget) (fs : FileSystem) : Prop :=
  ∃ sidecar content, c.assetFiles target = [c.archivePath target, sidecar] ∧
    ((Disk.readBytes (c.archivePath target)).runOn fs).1 = .ok content ∧
    ((Disk.readBytes sidecar).runOn fs).1 = .ok (Utf8.encode
      (Checksum.render ⟨Sha256.digest content, (c.archivePath target).name⟩
        (c.config.sidecarPolicy.formatFor target)))

namespace Branch

/-- What is packaged fits the branch. -/
theorem packaged_of_packaging {artifact : Artifact}
    (h : (packaging host c target).runOn fs = (.ok (.ok artifact), fs')) :
    Packaged c target (.ok artifact) :=
  Packaging.gives_run host.archiver .none ⟨target, Build.output c target⟩
    c.config.project.binaryName c.event.version (c.stagingDir target) c.config.sidecarPolicy fs
    (.ok artifact) (congrArg Prod.fst h)

/-- **Packaging leaves a complete pair.** -/
theorem pairComplete_of_packaging {artifact : Artifact} (hbuiltIn : target ∈ BuildTarget.all)
    (h : (packaging host c target).runOn fs = (.ok (.ok artifact), fs')) :
    c.PairComplete target fs' := by
  obtain ⟨dir, base, front, content, hpacked, hartifact⟩ := Packaging.packed_of_run hbuiltIn h
  have hfits := packaged_of_packaging h
  have hsidecar := Packaging.Layout.sidecarPath_of target dir base front
  generalize Packaging.Layout.of target dir base front = x at hpacked hartifact hsidecar
  have harchive : c.archivePath target = x.path .archive := by
    rw [← show artifact.archive = c.archivePath target from hfits.2, hartifact]
  have hread : ∀ role content, fs'.node? (x.location role) =
      some (.file ⟨content, Disk.newFileMode, 0⟩) →
      ((Disk.readBytes (x.path role)).runOn fs').1 = .ok content := by
    intro role content hnode
    have hlocate := hpacked.reaches.locate (x.ne_up role) (hpacked.opened role)
    exact congrArg Prod.fst
      (Disk.runOn_readBytes_of_holds ⟨_, _, hlocate, hnode, Packaging.mayBeRead_new content, rfl⟩)
  refine ⟨x.path .sidecar, content, ?_, ?_, ?_⟩
  · rw [RunContext.assetFiles, harchive, hsidecar]
  · rw [harchive]
    exact hread .archive content hpacked.archive
  · have hname : (x.path .archive).name = x.name .archive := Path.name_entry _ _
    rw [harchive, hname]
    exact hread .sidecar _ hpacked.sidecar

/-! ## Failures -/

/-- All commands of a branch; without a token there are only those of its build. -/
def plan (c : RunContext) (target : BuildTarget) : List Command :=
  Build.plan c target ++
    match c.publishToken? with
    | none => []
    | some token =>
      [Publication.uploadCommand c token (c.assetFiles target), Publication.viewCommand c token]

/-- Whether a command uploads what was packaged behind a build, and it finds the files that the
packaging left. -/
structure Uploads (host : Host σ) (c : RunContext) (target : BuildTarget) (fs : FileSystem)
    (token : String) (es : List (Exchange (Filmed σ))) (up : Exchange (Filmed σ)) : Prop where
  /-- the program was made -/
  made : Build.Made host c target fs es
  /-- it was packaged -/
  packaged : ∃ artifact,
    (packaging host c target).runOn (keptBy fs es) = (.ok (.ok artifact), up.found)
  /-- there is a token -/
  authorized : c.publishToken? = some token
  /-- the command -/
  command : up.command = Publication.uploadCommand c token (c.assetFiles target)

/-- Which step of a branch was the first to fail, and the error that it gives. -/
inductive Fails (host : Host σ) (c : RunContext) (target : BuildTarget) (fs : FileSystem) :
    List (Exchange (Filmed σ)) → BranchError → Prop
  /-- the build -/
  | build {es : List (Exchange (Filmed σ))} {failure : BuildFailure} :
      Build.Fails host c target fs es failure → Fails host c target fs es (.build failure)
  /-- the packaging -/
  | packaging {es : List (Exchange (Filmed σ))} {failure : PackagingFailure} :
      Build.Made host c target fs es →
      ((packaging host c target).runOn (keptBy fs es)).1 = .ok (.error failure) →
      Fails host c target fs es (.packaging failure)
  /-- there is no token -/
  | token {es : List (Exchange (Filmed σ))} {artifact : Artifact} :
      Build.Made host c target fs es →
      ((packaging host c target).runOn (keptBy fs es)).1 = .ok (.ok artifact) →
      c.publishToken? = none →
      Fails host c target fs es (.publish (Publication.authMissing c target.platform))
  /-- the upload -/
  | upload {token : String} {es : List (Exchange (Filmed σ))} {up : Exchange (Filmed σ)}
      {failure : CommandFailure} : Uploads host c target fs token es up →
      up.answer = .ok (.error failure) →
      Fails host c target fs (es ++ [up])
        (.publish (Publication.uploadFailed c target.platform failure))
  /-- its confirmation -/
  | confirmation {token : String} {es : List (Exchange (Filmed σ))} {up look : Exchange (Filmed σ)}
      {failure : PublishFailure} : Uploads host c target fs token es up → up.succeeded = true →
      look.command = Publication.viewCommand c token →
      Publication.confirmation target.platform (c.assetNames target)
        (Publication.reading c target.platform look.answer) = .ok (.error failure) →
      Fails host c target fs (es ++ [up, look]) (.publish failure)

/-! ## Order -/

/-- The way back: a look at the release, and at most one deletion for each asset of the branch. -/
def WayBack (c : RunContext) (target : BuildTarget) (token : String) (es : List (Exchange σ)) :
    Prop :=
  ∃ names : List String, names.Sublist (c.assetNames target) ∧ names.Nodup ∧
    es.map (·.command) <+:
      Publication.viewCommand c token :: names.map (Publication.deleteCommand c token)

/-- **An orderly branch.** Its exchanges are its own ones, and a way back behind them. -/
structure Orderly (host : Host σ) (c : RunContext) (target : BuildTarget) (fs : FileSystem)
    (own back : List (Exchange (Filmed σ))) (ended : Except Fault BranchOutcome) : Prop where
  /-- the plan is followed from its beginning, up to the first command that does not go well -/
  starts : Starts (plan c target) own
  /-- the way back is gone only behind an upload that failed or was not confirmed -/
  wayBack : back ≠ [] → ∃ token failure, c.publishToken? = some token ∧
    Fails host c target fs own (.publish failure) ∧ WayBack c target token back
  /-- nothing is said to the host of the release before the upload of what was packaged -/
  release : ∀ e ∈ own ++ back, e.command.argv.head? = some "gh" →
    ∃ es up rest token, own = es ++ up :: rest ∧ Uploads host c target fs token es up
  /-- whatever is uploaded is a complete pair -/
  pair : ∀ e ∈ own ++ back, e.command.argv.take 3 = ["gh", "release", "upload"] →
    ∃ token, e.command = Publication.uploadCommand c token (c.assetFiles target) ∧
      c.PairComplete target e.found
  /-- the error of a branch that failed is the one of the step that failed -/
  error : ∀ outcome, ended = .ok outcome → outcome.state = .failed →
    ∃ error, outcome.error = some error ∧ Fails host c target fs own error

section

variable {es own back : List (Exchange (Filmed σ))} {ended : Except Fault BranchOutcome}

theorem head?_ne_of_starts (h : Starts (Build.plan c target) es) :
    ∀ e ∈ es, e.command.argv.head? ≠ some "gh" := by
  intro e he hhead
  have hmem : e.command ∈ Build.plan c target :=
    h.commands.subset (List.mem_map_of_mem he)
  obtain ⟨program, hprogram, hprogram'⟩ := Build.exists_program_of_mem hmem
  rw [hhead] at hprogram'
  obtain rfl := Option.some.inj hprogram'
  exact absurd hprogram (by decide)

theorem head?_of_take {argv : List String} (h : argv.take 3 = ["gh", "release", "upload"]) :
    argv.head? = some "gh" := by
  cases argv with
  | nil => cases h
  | cons word rest => exact congrArg some (List.cons.inj h).1

/-- A branch that ends before its upload is orderly. -/
theorem orderly_of_starts (hstarts : Starts (Build.plan c target) es)
    (herror : ∀ outcome, ended = .ok outcome → outcome.state = .failed →
      ∃ error, outcome.error = some error ∧ Fails host c target fs es error) :
    Orderly host c target fs es [] ended where
  starts := hstarts.append_right _
  wayBack h := absurd rfl h
  release e he hhead := by
    rw [List.append_nil] at he
    exact absurd hhead (head?_ne_of_starts hstarts e he)
  pair e he htake := by
    rw [List.append_nil] at he
    exact absurd (head?_of_take htake) (head?_ne_of_starts hstarts e he)
  error := herror

/-! ## Publications -/

theorem prefix_of_deletions {token : String} {names : List String} {es : List (Exchange σ)}
    {r : Except Fault Unit} (h : Publication.Deletions c token names es r) :
    es.map (·.command) <+: names.map (Publication.deleteCommand c token) := by
  induction h with
  | done => exact List.nil_prefix
  | answered hcommand _ _ ih =>
    rw [List.map_cons, List.map_cons, hcommand]
    exact (List.prefix_cons_inj _).mpr ih
  | faulted hcommand _ =>
    rw [List.map_singleton, List.map_cons, hcommand]
    exact (List.prefix_cons_inj _).mpr List.nil_prefix

theorem wayBack_of_detachment {platform token : String} {back : List (Exchange σ)}
    {r : Except Fault Unit}
    (h : Publication.Detachment c platform token (c.assetNames target) back r) :
    WayBack c target token back := by
  cases h with
  | faulted hlook _ | unread hlook _ =>
    refine ⟨[], List.nil_sublist _, List.nodup_nil, ?_⟩
    rw [List.map_singleton, hlook]
    exact List.prefix_rfl
  | @read _ release _ _ hlook _ hdeletions =>
    refine ⟨(c.assetNames target).filter release.assets.contains, List.filter_sublist,
      (c.nodup_assetNames target).filter _, ?_⟩
    rw [List.map_cons, hlook]
    exact (List.prefix_cons_inj _).mpr (prefix_of_deletions hdeletions)

theorem WayBack.take_ne {token : String} (h : WayBack c target token back) :
    ∀ e ∈ back, e.command.argv.take 3 ≠ ["gh", "release", "upload"] := by
  obtain ⟨names, -, -, hbegins⟩ := h
  intro e he htake
  rcases List.mem_cons.mp (hbegins.subset (List.mem_map_of_mem he)) with hview | hdelete
  · rw [hview] at htake
    simp [Publication.viewCommand, Publication.releaseCommand] at htake
  · obtain ⟨name, -, hname⟩ := List.mem_map.mp hdelete
    rw [← hname] at htake
    simp [Publication.deleteCommand, Publication.releaseCommand] at htake

/-- An upload is one command, with at most a look at the release behind it. -/
theorem exists_cons_of_attachment {platform token : String} {files : List Path}
    {r : Except Fault (Except PublishFailure PublishedRelease)}
    (h : Publication.Attachment c platform token files es r) :
    ∃ up rest, es = up :: rest ∧ up.command = Publication.uploadCommand c token files ∧
      (∀ e ∈ rest, e.command = Publication.viewCommand c token) ∧
      Starts [Publication.uploadCommand c token files, Publication.viewCommand c token] es := by
  cases h with
  | faulted hup _ | failed hup _ =>
    refine ⟨_, [], rfl, hup, List.forall_mem_nil _, ?_, List.forall_mem_nil _⟩
    rw [List.map_singleton, hup]
    exact List.prefix_append [_] [_]
  | @viewed up look _ _ hup hanswer hlook _ =>
    refine ⟨up, [look], rfl, hup, List.forall_mem_singleton.mpr hlook, ?_, ?_⟩
    · rw [List.map_cons, List.map_singleton, hup, hlook]
    · exact List.forall_mem_singleton.mpr (succeeded_iff.mpr ⟨_, hanswer⟩)

/-- A failure of an upload, or of its confirmation, is the first one of the branch. -/
theorem fails_of_attachment {token : String} {up : Exchange (Filmed σ)}
    {rest : List (Exchange (Filmed σ))} {failure : PublishFailure}
    (huploads : Uploads host c target fs token es up)
    (hnames : (c.assetFiles target).map (·.name) = c.assetNames target)
    (h : Publication.Attachment c target.platform token (c.assetFiles target) (up :: rest)
      (.ok (.error failure))) :
    Fails host c target fs (es ++ up :: rest) (.publish failure) := by
  cases h with
  | failed _ hanswer => exact .upload huploads hanswer
  | viewed _ hanswer hlook hr =>
    rw [hnames] at hr
    exact .confirmation huploads (succeeded_iff.mpr ⟨_, hanswer⟩) hlook hr.symm

/-- **A branch that comes to its upload is orderly.** -/
theorem orderly_of_attachment {artifact : Artifact} {token : String} {files : List Path}
    {fs'' : FileSystem} {es' : List (Exchange (Filmed σ))}
    {r : Except Fault (Except PublishFailure PublishedRelease)}
    (hbuiltIn : target ∈ BuildTarget.all) (hmade : Build.Made host c target fs es)
    (hpackaged : (packaging host c target).runOn (keptBy fs es) = (.ok (.ok artifact), fs'))
    (htoken : c.publishToken? = some token) (hassets : artifact.assets = .ok files)
    (h : Publication.Attachment c artifact.platform token files es' r)
    (huncut : Exchange.Uncut fs' (es' ++ back) fs'')
    (hback : back ≠ [] → WayBack c target token back ∧ ∃ failure, r = .ok (.error failure))
    (herror : ∀ outcome, ended = .ok outcome → outcome.state = .failed →
      ∃ failure, r = .ok (.error failure) ∧ outcome.error = some (.publish failure)) :
    Orderly host c target fs (es ++ es') back ended := by
  have hfits := packaged_of_packaging hpackaged
  obtain ⟨rfl, hnames⟩ := RunContext.assets_of_archive hassets hfits.2
  rw [Artifact.platform_of_triple hbuiltIn hfits.1] at h
  obtain ⟨up, rest, rfl, hup, hrest, hstarts⟩ := exists_cons_of_attachment h
  have hfound : up.found = fs' := huncut.1
  have huploads : Uploads host c target fs token es up :=
    ⟨hmade, ⟨artifact, by rw [hfound]; exact hpackaged⟩, htoken, hup⟩
  have hfails : ∀ failure, r = .ok (.error failure) →
      Fails host c target fs (es ++ up :: rest) (.publish failure) := by
    rintro failure rfl
    exact fails_of_attachment huploads hnames h
  have hnot : ∀ e ∈ back, e.command.argv.take 3 ≠ ["gh", "release", "upload"] := by
    intro e he
    exact (hback (List.ne_nil_of_mem he)).1.take_ne e he
  refine ⟨?_, fun hne => ?_, fun e _ _ => ⟨es, up, rest, token, rfl, huploads⟩, ?_, ?_⟩
  · unfold plan
    rw [htoken]
    exact hmade.completes.append_starts hstarts
  · obtain ⟨hwayBack, failure, hr⟩ := hback hne
    exact ⟨token, failure, htoken, hfails failure hr, hwayBack⟩
  · intro e he htake
    -- what comes before the upload, and what comes behind it, is no upload
    have hup' : e = up := by
      simp only [List.mem_append, List.mem_cons] at he
      rcases he with (he | rfl | he) | he
      · exact absurd (head?_of_take htake) (head?_ne_of_starts hmade.completes.starts e he)
      · rfl
      · rw [hrest e he] at htake
        simp [Publication.viewCommand, Publication.releaseCommand] at htake
      · exact absurd htake (hnot e he)
    subst hup'
    refine ⟨token, hup, ?_⟩
    rw [hfound]
    exact pairComplete_of_packaging hbuiltIn hpackaged
  · intro outcome hended hfailed
    obtain ⟨failure, hr, herror'⟩ := herror outcome hended hfailed
    exact ⟨.publish failure, herror', hfails failure hr⟩

/-- **A branch that packaged its program is orderly**, however its publication goes. -/
theorem orderly_of_publication {artifact : Artifact} {fs'' : FileSystem}
    {es' : List (Exchange (Filmed σ))} {r : Except Fault (Except PublishFailure PublishedRelease)}
    (hbuiltIn : target ∈ BuildTarget.all) (hmade : Build.Made host c target fs es)
    (hpackaged : (packaging host c target).runOn (keptBy fs es) = (.ok (.ok artifact), fs'))
    (h : Publication.Transcript c artifact es' r) (huncut : Exchange.Uncut fs' es' fs'') :
    ∃ own back, es ++ es' = own ++ back ∧
      Orderly host c target fs own back (endOf target artifact r) := by
  have hfits := packaged_of_packaging hpackaged
  cases h with
  | noToken htoken =>
    refine ⟨es, [], rfl, orderly_of_starts hmade.completes.starts ?_⟩
    rintro _ ⟨⟩ -
    rw [Artifact.platform_of_triple hbuiltIn hfits.1]
    exact ⟨_, rfl, .token hmade (congrArg Prod.fst hpackaged) htoken⟩
  | refused =>
    refine ⟨es, [], rfl, orderly_of_starts hmade.completes.starts ?_⟩
    rintro _ ⟨⟩
  | faulted htoken hassets hattachment =>
    rw [← List.append_nil es'] at huncut
    refine ⟨es ++ es', [], (List.append_nil _).symm, orderly_of_attachment hbuiltIn hmade hpackaged
      htoken hassets hattachment huncut (absurd rfl) ?_⟩
    rintro _ ⟨⟩
  | attached htoken hassets hattachment =>
    rw [← List.append_nil es'] at huncut
    refine ⟨es ++ es', [], (List.append_nil _).symm, orderly_of_attachment hbuiltIn hmade hpackaged
      htoken hassets hattachment huncut (absurd rfl) ?_⟩
    rintro _ ⟨⟩ hdone
    cases hdone
  | @undone _ _ es' back failure htoken hassets hattachment hdetachment =>
    rw [(RunContext.assets_of_archive hassets hfits.2).2] at hdetachment
    refine ⟨es ++ es', back, (List.append_assoc ..).symm, orderly_of_attachment hbuiltIn hmade
      hpackaged htoken hassets hattachment huncut
      (fun _ => ⟨wayBack_of_detachment hdetachment, failure, rfl⟩) ?_⟩
    rintro _ ⟨⟩ -
    exact ⟨failure, rfl, rfl⟩
  | @lost _ _ es' back failure _ htoken hassets hattachment hdetachment =>
    rw [(RunContext.assets_of_archive hassets hfits.2).2] at hdetachment
    refine ⟨es ++ es', back, (List.append_assoc ..).symm, orderly_of_attachment hbuiltIn hmade
      hpackaged htoken hassets hattachment huncut
      (fun _ => ⟨wayBack_of_detachment hdetachment, failure, rfl⟩) ?_⟩
    rintro _ ⟨⟩

end

/-! ## Branches -/

/-- The film of a branch is orderly. -/
theorem Film.orderly {es : List (Exchange (Filmed σ))} {ended : Except Fault BranchOutcome}
    (h : Film host c target fs es ended fs') (hbuiltIn : target ∈ BuildTarget.all) :
    ∃ own back, es = own ++ back ∧ Orderly host c target fs own back ended := by
  cases h with
  | buildFaulted hstarts =>
    refine ⟨es, [], (List.append_nil es).symm, orderly_of_starts hstarts ?_⟩
    rintro _ ⟨⟩
  | buildFailed hfails =>
    refine ⟨es, [], (List.append_nil es).symm, orderly_of_starts hfails.starts ?_⟩
    rintro _ ⟨⟩ -
    exact ⟨_, rfl, .build hfails⟩
  | packagingFaulted hmade =>
    refine ⟨es, [], (List.append_nil es).symm, orderly_of_starts hmade.completes.starts ?_⟩
    rintro _ ⟨⟩
  | packagingFailed hmade hpackaged =>
    refine ⟨es, [], (List.append_nil es).symm, orderly_of_starts hmade.completes.starts ?_⟩
    rintro _ ⟨⟩ -
    exact ⟨_, rfl, .packaging hmade (congrArg Prod.fst hpackaged)⟩
  | published hmade hpackaged hpublication huncut =>
    exact orderly_of_publication hbuiltIn hmade hpackaged hpublication huncut

/-- The film of a branch. -/
def film (host : Host σ) (c : RunContext) (target : BuildTarget) (console : Console)
    (w : World σ) : List (Exchange (Filmed σ)) :=
  Action.film (run host.filmed.logged c target console) w

/-- **Every branch is orderly.** Its film shows the commands that it issues: the plan up to the
first step that fails, and the way back behind a failure of the publication. -/
theorem run_orderly (hbuiltIn : target ∈ BuildTarget.all) (host : Host σ) (c : RunContext)
    (console : Console) (w : World σ) :
    (runOn (run host c target console) w).2.issued =
        w.issued ++ (film host c target console w).map (·.command) ∧
      ∃ own back, film host c target console w = own ++ back ∧
        Orderly host c target w.files own back (runOn (run host c target console) w).1 := by
  have halike := alike_run (coupled_filmed host w.issued) c.interchangeable_self target console
  refine ⟨halike.issued_eq, ?_⟩
  exact (halike.films (films_run host c target console)).orderly hbuiltIn

/-- The world of a rehearsal in which the upload fails with one of its files attached. -/
def torn : World Stage :=
  Rehearsal.world [⟨["gh", "release", "upload"], none, 1, 1, .exit 1 "" "eof"⟩]

/-- Its branch for Linux is orderly. -/
theorem run_orderly_torn :
    ∃ own back,
      film (Rehearsal.host Rehearsal.script) Rehearsal.context BuildTarget.linux Console.plain
        torn = own ++ back ∧
      Orderly (Rehearsal.host Rehearsal.script) Rehearsal.context BuildTarget.linux torn.files own
        back (runOn (run (Rehearsal.host Rehearsal.script) Rehearsal.context BuildTarget.linux
          Console.plain) torn).1 :=
  (run_orderly (by decide) _ _ _ _).2

end Branch

end Shipyard
