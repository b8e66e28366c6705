import Mathlib.Data.Set.Basic
import Shipyard.Proofs.Asset.Name
import Shipyard.Proofs.Data.Table
import Shipyard.Proofs.Publication.Protocol

/-!
# Publications on a served release

A release is a set of names that a host serves: `Serves` says what its answers tell of the set and
do to it, and leaves open how each request turns out. From the transcript of a publication follows
what it does to the release. It touches no other names; behind a success both names of the artifact
are attached; and behind a failure, if everything went well on the way back, none of them is, except
for names that the release cannot be asked for (`Serves.mem_of_not_attached`).
-/

namespace Shipyard

variable {σ : Type} {c : RunContext}

/-! ## Requests -/

/-- What can be asked of a release. -/
inductive ReleaseRequest where
  /-- its number and the names of its assets -/
  | view
  /-- attach two files -/
  | upload (first second : String)
  /-- take an asset off -/
  | delete (name : String)

namespace ReleaseRequest

/-- The command line of a request to the release of a run. -/
def argv (c : RunContext) : ReleaseRequest → List String
  | view =>
    ["gh", "release", "view", c.event.tag, "--repo", c.config.project.repo, "--json",
      "databaseId,assets"]
  | upload first second =>
    ["gh", "release", "upload", c.event.tag, first, second, "--repo", c.config.project.repo,
      "--clobber"]
  | delete name =>
    ["gh", "release", "delete-asset", c.event.tag, name, "--repo", c.config.project.repo, "--yes"]

/-- The request of a command line. -/
def ofArgv? : List String → Option ReleaseRequest
  | ["gh", "release", "view", _, _, _, _, _] => some .view
  | ["gh", "release", "upload", _, first, second, _, _, _] => some (.upload first second)
  | ["gh", "release", "delete-asset", _, name, _, _, _] => some (.delete name)
  | _ => none

theorem ofArgv?_argv (c : RunContext) (request : ReleaseRequest) :
    ofArgv? (request.argv c) = some request := by
  cases request <;> rfl

/-- Requests are made with one program. -/
theorem take_of_ofArgv? {argv : List String} {request : ReleaseRequest}
    (h : ofArgv? argv = some request) : argv.take 2 = ["gh", "release"] := by
  unfold ofArgv? at h
  split at h
  · rfl
  · rfl
  · rfl
  · cases h

/-- The names that a request can attach or take off. A file is attached under its last name. -/
def touched : ReleaseRequest → List String
  | view => []
  | upload first second => [(Path.ofText first).name, (Path.ofText second).name]
  | delete name => [name]

end ReleaseRequest

/-- Whether the command of an exchange is a request to the release of a run. -/
def Exchange.Asks (e : Exchange σ) (c : RunContext) (request : ReleaseRequest) : Prop :=
  e.command.argv = request.argv c

/-- The request in an exchange, if there is one. -/
def Exchange.request? (e : Exchange σ) : Option ReleaseRequest :=
  ReleaseRequest.ofArgv? e.command.argv

theorem Exchange.Asks.request?_eq {e : Exchange σ} {request : ReleaseRequest}
    (h : e.Asks c request) : e.request? = some request := by
  rw [request?, h, ReleaseRequest.ofArgv?_argv]

/-! ## Answers -/

/-- Whether the answer to a look at a release gives a number and exactly these names. -/
def Describes (v : Value) (names : Set String) : Prop :=
  ∃ t id entries, v.asTable? = some t ∧ t.int? "databaseId" = some id ∧
    t.list? "assets" = some entries ∧
    ∀ name, name ∈ names ↔ ∃ entry ∈ entries, ∃ fields, entry.asTable? = some fields ∧
      fields.find? "name" = some (.text name)

/-- **A served release.** Whatever a request ends with, it changes at most the names that it is
about. A deletion that went well takes its name off. A look that went well writes a description of
the release, or a text that its reader refuses with a fault. -/
structure Serves (host : Host σ) (c : RunContext) (assets : σ → Set String) : Prop where
  /-- other names are kept -/
  keeps {s : σ} {e : Exchange σ} {request : ReleaseRequest} {name : String} :
    host.Gives s e → e.Asks c request → name ∉ request.touched →
      (name ∈ assets e.left ↔ name ∈ assets s)
  /-- what was deleted is off the release -/
  deletes {s : σ} {e : Exchange σ} {name : String} :
    host.Gives s e → e.Asks c (.delete name) → e.succeeded = true → name ∉ assets e.left
  /-- what is shown is the release -/
  shows {s : σ} {e : Exchange σ} {output : String} :
    host.Gives s e → e.Asks c .view → e.answer = .ok (.ok output) →
      (∃ fault, Value.ofJson output = .error fault) ∨
        ∃ v, Value.ofJson output = .ok (.ok v) ∧ Describes v (assets s)

/-- Whether no request meets a fault, and no answer is refused with one. -/
structure NeverFaults (host : Host σ) (c : RunContext) : Prop where
  /-- every request is answered -/
  answers {s : σ} {e : Exchange σ} {request : ReleaseRequest} :
    host.Gives s e → e.Asks c request → ∃ reply, e.answer = .ok reply
  /-- every answer to a look can be read -/
  readable {s : σ} {e : Exchange σ} {output : String} :
    host.Gives s e → e.Asks c .view → e.answer = .ok (.ok output) →
      ∃ read, Value.ofJson output = .ok read

namespace Publication

/-- The name of an asset as it is read: without blanks around it. An asset without a name is left
out. -/
theorem assetName?_eq_some_iff {entry : Value} {name : String} :
    assetName? entry = some name ↔ name ≠ "" ∧ ∃ fields raw, entry.asTable? = some fields ∧
      fields.find? "name" = some (.text raw) ∧ Text.strip raw = name := by
  constructor
  · intro h
    obtain ⟨fields, hfields, hname⟩ := Option.bind_eq_some_iff.mp h
    obtain ⟨raw, hraw, hstrip, hne⟩ := Table.text?_eq_some_iff.mp hname
    exact ⟨hne, fields, raw, hfields, hraw, hstrip⟩
  · rintro ⟨hne, fields, raw, hfields, hraw, hstrip⟩
    refine Option.bind_eq_some_iff.mpr ⟨fields, hfields, ?_⟩
    exact Table.text?_eq_some_iff.mpr ⟨raw, hraw, hstrip, hne⟩

end Publication

/-- A description is read as the stripped names of the release. -/
theorem Describes.exists_releaseOf? {v : Value} {names : Set String} (h : Describes v names) :
    ∃ release, Publication.releaseOf? v = some release ∧
      ∀ name, name ∈ release.assets ↔ name ≠ "" ∧ ∃ raw ∈ names, Text.strip raw = name := by
  obtain ⟨t, id, entries, ht, hid, hentries, hnames⟩ := h
  refine ⟨PublishedRelease.attach ⟨id, []⟩ (entries.filterMap Publication.assetName?), ?_, ?_⟩
  · simp [Publication.releaseOf?, ht, hid, hentries]
  · intro name
    rw [PublishedRelease.mem_attach, List.mem_filterMap]
    constructor
    · rintro (⟨entry, hentry, hread⟩ | hnil)
      · obtain ⟨hne, fields, raw, hfields, hraw, hstrip⟩ :=
          Publication.assetName?_eq_some_iff.mp hread
        exact ⟨hne, raw, (hnames raw).mpr ⟨entry, hentry, fields, hfields, hraw⟩, hstrip⟩
      · cases hnil
    · rintro ⟨hne, raw, hmem, hstrip⟩
      obtain ⟨entry, hentry, fields, hfields, hraw⟩ := (hnames raw).mp hmem
      exact .inl ⟨entry, hentry,
        Publication.assetName?_eq_some_iff.mpr ⟨hne, fields, raw, hfields, hraw, hstrip⟩⟩

namespace Publication

variable {host : Host σ} {assets : σ → Set String} {s s' : σ} {e : Exchange σ}
  {es : List (Exchange σ)} {platform token name : String} {names : List String}
  {files : List Path} {artifact : Artifact}

/-! ## Looks -/

theorem asks_view (h : e.command = viewCommand c token) : e.Asks c .view := by
  rw [Exchange.Asks, h]
  rfl

theorem asks_delete (h : e.command = deleteCommand c token name) : e.Asks c (.delete name) := by
  rw [Exchange.Asks, h]
  rfl

theorem asks_upload {archive sidecar : Path}
    (h : e.command = uploadCommand c token [archive, sidecar]) :
    e.Asks c (.upload archive.text sidecar.text) := by
  rw [Exchange.Asks, h]
  rfl

/-- A look changes nothing. -/
theorem mem_left_of_view (hserves : Serves host c assets) (hg : host.Gives s e)
    (hview : e.Asks c .view) : name ∈ assets e.left ↔ name ∈ assets s :=
  hserves.keeps hg hview List.not_mem_nil

/-- What a look gives are the stripped names of the release. -/
theorem mem_assets_of_reading {release : PublishedRelease} (hserves : Serves host c assets)
    (hg : host.Gives s e) (hview : e.Asks c .view)
    (hread : reading c platform e.answer = .ok (.ok release)) :
    name ∈ release.assets ↔ name ≠ "" ∧ ∃ raw ∈ assets s, Text.strip raw = name := by
  obtain ⟨output, v, hanswer, hjson, hrelease⟩ := reading_eq_ok_ok hread
  rcases hserves.shows hg hview hanswer with ⟨fault, hfault⟩ | ⟨v', hjson', hdescribes⟩
  · rw [hjson] at hfault
    cases hfault
  · rw [hjson] at hjson'
    cases hjson'
    obtain ⟨release', hrelease', hmem⟩ := hdescribes.exists_releaseOf?
    rw [hrelease] at hrelease'
    cases hrelease'
    exact hmem name

/-- A look that went well is read, or met a fault. -/
theorem not_succeeded_of_unread {failure : PublishFailure} (hserves : Serves host c assets)
    (hg : host.Gives s e) (hview : e.Asks c .view)
    (hread : reading c platform e.answer = .ok (.error failure)) : e.succeeded = false := by
  rw [Bool.eq_false_iff]
  intro hsucceeded
  obtain ⟨output, hanswer⟩ := Exchange.succeeded_iff.mp hsucceeded
  rw [hanswer] at hread
  rcases hserves.shows hg hview hanswer with ⟨fault, hfault⟩ | ⟨v, hjson, hdescribes⟩
  · simp [reading, hfault] at hread
  · obtain ⟨release, hrelease, -⟩ := hdescribes.exists_releaseOf?
    simp [reading, hjson, hrelease] at hread

/-! ## Deletions -/

/-- Deletions touch nothing but what is to be deleted. -/
theorem Deletions.keeps {r : Except Fault Unit} (h : Deletions c token names es r)
    (hserves : Serves host c assets) (hc : host.Conducts s es s') (hname : name ∉ names) :
    name ∈ assets s' ↔ name ∈ assets s := by
  induction h generalizing s with
  | done =>
    obtain rfl : s' = s := hc
    rfl
  | answered hcommand _ _ ih =>
    obtain ⟨hne, hrest⟩ := not_or.mp (List.mem_cons.not.mp hname)
    rw [ih hc.2 hrest]
    exact hserves.keeps hc.1 (asks_delete hcommand) (by simpa [ReleaseRequest.touched] using hne)
  | faulted hcommand _ =>
    obtain ⟨hne, -⟩ := not_or.mp (List.mem_cons.not.mp hname)
    obtain ⟨hg, rfl⟩ := hc
    exact hserves.keeps hg (asks_delete hcommand) (by simpa [ReleaseRequest.touched] using hne)

/-- Deletions that all went well leave nothing of what was to be deleted. -/
theorem Deletions.not_mem {r : Except Fault Unit} (h : Deletions c token names es r)
    (hserves : Serves host c assets) (hc : host.Conducts s es s')
    (hall : ∀ e ∈ es, e.succeeded = true) (hname : name ∈ names) : name ∉ assets s' := by
  induction h generalizing s with
  | done => cases hname
  | @answered head rest e reply es r hcommand hanswer hrest ih =>
    have hothers : ∀ e ∈ es, e.succeeded = true := fun e he => hall e (List.mem_cons_of_mem _ he)
    -- a name may stand in the list twice, and then its last deletion counts
    by_cases hmem : name ∈ rest
    · exact ih hc.2 hothers hmem
    · obtain rfl : name = head := (List.mem_cons.mp hname).resolve_right hmem
      rw [hrest.keeps hserves hc.2 hmem]
      exact hserves.deletes hc.1 (asks_delete hcommand) (hall e (List.mem_cons_self ..))
  | @faulted head rest e fault hcommand hanswer =>
    obtain ⟨output, houtput⟩ := Exchange.succeeded_iff.mp (hall e (List.mem_cons_self ..))
    rw [hanswer] at houtput
    cases houtput

/-- Deletions end with a fault only if one of them did not go well. -/
theorem Deletions.eq_ok {r : Except Fault Unit} (h : Deletions c token names es r)
    (hall : ∀ e ∈ es, e.succeeded = true) : r = .ok () := by
  induction h with
  | done => rfl
  | answered _ _ _ ih => exact ih fun e he => hall e (List.mem_cons_of_mem _ he)
  | faulted _ hanswer =>
    obtain ⟨output, houtput⟩ := Exchange.succeeded_iff.mp (hall _ (List.mem_cons_self ..))
    rw [hanswer] at houtput
    cases houtput

/-! ## The way back -/

/-- **The way back leaves nothing that can be asked for.** If it went well, of the names those are
left that have blanks around them, as far as they were there; unless the look met a fault, and then
nothing was done. -/
theorem Detachment.mem_iff {r : Except Fault Unit} (h : Detachment c platform token names es r)
    (hserves : Serves host c assets) (hc : host.Conducts s es s')
    (hall : ∀ e ∈ es, e.succeeded = true) (hname : name ∈ names) (hne : name ≠ "") :
    name ∈ assets s' ↔
      name ∈ assets s ∧ ((∃ fault, r = .error fault) ∨ Text.strip name ≠ name) := by
  cases h with
  | @faulted e fault hcommand hread =>
    obtain ⟨hg, rfl⟩ := hc
    rw [mem_left_of_view hserves hg (asks_view hcommand)]
    exact ⟨fun hmem => ⟨hmem, .inl ⟨fault, rfl⟩⟩, fun ⟨hmem, _⟩ => hmem⟩
  | @unread e failure hcommand hread =>
    have hsucceeded := hall e (List.mem_cons_self ..)
    rw [not_succeeded_of_unread hserves hc.1 (asks_view hcommand) hread] at hsucceeded
    cases hsucceeded
  | @read e release es r hcommand hread hdeletions =>
    have hothers : ∀ e ∈ es, e.succeeded = true := fun e he => hall e (List.mem_cons_of_mem _ he)
    have hshown : name ∈ release.assets ↔ name ≠ "" ∧ ∃ raw ∈ assets s, Text.strip raw = name :=
      mem_assets_of_reading hserves hc.1 (asks_view hcommand) hread
    have hlook : name ∈ assets e.left ↔ name ∈ assets s :=
      mem_left_of_view hserves hc.1 (asks_view hcommand)
    have hdeleted : name ∈ names.filter release.assets.contains ↔ name ∈ release.assets := by
      simp [hname]
    have hok : ¬ ∃ fault, r = .error fault := by
      rw [hdeletions.eq_ok hothers]
      rintro ⟨fault, hfault⟩
      cases hfault
    by_cases hgone : name ∈ names.filter release.assets.contains
    · -- only stripped names are shown, so the name is one
      obtain ⟨-, raw, -, hraw⟩ := hshown.mp (hdeleted.mp hgone)
      have hstrip : Text.strip name = name := by rw [← hraw, Text.strip_strip]
      have hoff := hdeletions.not_mem hserves hc.2 hothers hgone
      exact ⟨fun hmem => absurd hmem hoff, fun ⟨_, hor⟩ => (hor.elim hok (· hstrip)).elim⟩
    · rw [hdeletions.keeps hserves hc.2 hgone, hlook]
      refine ⟨fun hmem => ⟨hmem, .inr fun hstrip => ?_⟩, fun ⟨hmem, _⟩ => hmem⟩
      exact hgone (hdeleted.mpr (hshown.mpr ⟨hne, name, hmem, hstrip⟩))

/-- The way back touches no other names. -/
theorem Detachment.keeps {r : Except Fault Unit} (h : Detachment c platform token names es r)
    (hserves : Serves host c assets) (hc : host.Conducts s es s') (hname : name ∉ names) :
    name ∈ assets s' ↔ name ∈ assets s := by
  cases h with
  | faulted hcommand _ =>
    obtain ⟨hg, rfl⟩ := hc
    exact mem_left_of_view hserves hg (asks_view hcommand)
  | unread hcommand _ =>
    obtain ⟨hg, rfl⟩ := hc
    exact mem_left_of_view hserves hg (asks_view hcommand)
  | read hcommand _ hdeletions =>
    rw [hdeletions.keeps hserves hc.2 fun hmem => hname (List.mem_filter.mp hmem).1]
    exact mem_left_of_view hserves hc.1 (asks_view hcommand)

/-! ## The upload -/

/-- The first exchange of an upload with its confirmation is the upload, and after it the release
stays as it is. -/
theorem Attachment.exists_upload {archive sidecar : Path}
    {r : Except Fault (Except PublishFailure PublishedRelease)}
    (h : Attachment c platform token [archive, sidecar] es r) (hserves : Serves host c assets)
    (hc : host.Conducts s es s') :
    ∃ e rest, es = e :: rest ∧ host.Gives s e ∧ e.Asks c (.upload archive.text sidecar.text) ∧
      ∀ name, name ∈ assets s' ↔ name ∈ assets e.left := by
  cases h with
  | faulted hcommand _ =>
    obtain ⟨hg, rfl⟩ := hc
    exact ⟨_, [], rfl, hg, asks_upload hcommand, fun _ => Iff.rfl⟩
  | failed hcommand _ =>
    obtain ⟨hg, rfl⟩ := hc
    exact ⟨_, [], rfl, hg, asks_upload hcommand, fun _ => Iff.rfl⟩
  | viewed hcommand _ hlooked _ =>
    obtain ⟨hg, hg', rfl⟩ := hc
    exact ⟨_, _, rfl, hg, asks_upload hcommand,
      fun _ => mem_left_of_view hserves hg' (asks_view hlooked)⟩

/-- **A confirmed upload is attached.** -/
theorem Attachment.mem_of_ok {release : PublishedRelease}
    (h : Attachment c platform token files es (.ok (.ok release)))
    (hname : name ∈ files.map (·.name)) (hserves : Serves host c assets)
    (hc : host.Conducts s es s') :
    name ∈ release.assets ∧ ∃ raw ∈ assets s', Text.strip raw = name := by
  cases h with
  | viewed _ _ hlooked hr =>
    obtain ⟨hread, hconfirmed⟩ := confirmation_eq_ok_ok hr.symm
    obtain ⟨-, hg', rfl⟩ := hc
    have hmem := hconfirmed name hname
    obtain ⟨-, raw, hraw, hstrip⟩ :=
      (mem_assets_of_reading hserves hg' (asks_view hlooked) hread).mp hmem
    exact ⟨hmem, raw, (mem_left_of_view hserves hg' (asks_view hlooked)).mpr hraw, hstrip⟩

/-! ## Whole publications -/

/-- The exchanges of the way back: what comes behind the upload and, if the upload went well, behind
the look that confirms it. -/
def wayBack : List (Exchange σ) → List (Exchange σ)
  | [] => []
  | e :: rest => if e.succeeded then rest.drop 1 else rest

theorem Attachment.wayBack_append {r : Except Fault (Except PublishFailure PublishedRelease)}
    (h : Attachment c platform token files es r) (back : List (Exchange σ)) :
    wayBack (es ++ back) = back := by
  cases h with
  | @faulted e fault _ hanswer =>
    have hfailed : e.succeeded = false := by rw [Exchange.succeeded, hanswer]
    simp [wayBack, hfailed]
  | @failed e failure _ hanswer =>
    have hfailed : e.succeeded = false := by rw [Exchange.succeeded, hanswer]
    simp [wayBack, hfailed]
  | @viewed e looked output r _ hanswer _ _ =>
    have hsucceeded : e.succeeded = true := Exchange.succeeded_iff.mpr ⟨output, hanswer⟩
    simp [wayBack, hsucceeded]

/-- The files of a publication are attached under the names of the artifact. -/
theorem touched_upload (hartifact : Path.IsName artifact.archiveName)
    (hfiles : artifact.assets = .ok files) :
    ∃ sidecar, files = [artifact.archive, sidecar] ∧
      (ReleaseRequest.upload artifact.archive.text sidecar.text).touched = artifact.names := by
  obtain ⟨sidecar, rfl, hsidecar⟩ := Artifact.eq_pair_of_assets_eq_ok hfiles
  have hname : Path.IsName sidecar.name := by
    rw [hsidecar]
    exact hartifact.sidecarName
  refine ⟨sidecar, rfl, ?_⟩
  rw [ReleaseRequest.touched, Path.name_ofText_text hname, Path.name_ofText_text hartifact,
    hsidecar]
  rfl

/-- An upload with its confirmation touches no names but those of the artifact. -/
theorem Attachment.keeps {r : Except Fault (Except PublishFailure PublishedRelease)}
    (h : Attachment c platform token files es r) (hartifact : Path.IsName artifact.archiveName)
    (hfiles : artifact.assets = .ok files) (hserves : Serves host c assets)
    (hc : host.Conducts s es s') (hname : name ∉ artifact.names) :
    name ∈ assets s' ↔ name ∈ assets s := by
  obtain ⟨sidecar, rfl, htouched⟩ := touched_upload hartifact hfiles
  obtain ⟨e, rest, rfl, hg, hasks, hrest⟩ := h.exists_upload hserves hc
  rw [hrest]
  exact hserves.keeps hg hasks (by rw [htouched]; exact hname)

/-- **A publication touches no names but its own.** -/
theorem Transcript.keeps {r : Except Fault (Except PublishFailure PublishedRelease)}
    (h : Transcript c artifact es r) (hartifact : Path.IsName artifact.archiveName)
    (hserves : Serves host c assets) (hc : host.Conducts s es s') (hname : name ∉ artifact.names) :
    name ∈ assets s' ↔ name ∈ assets s := by
  cases h with
  | noToken _ =>
    obtain rfl : s' = s := hc
    rfl
  | refused _ =>
    obtain rfl : s' = s := hc
    rfl
  | faulted _ hfiles hattachment => exact hattachment.keeps hartifact hfiles hserves hc hname
  | attached _ hfiles hattachment => exact hattachment.keeps hartifact hfiles hserves hc hname
  | undone _ hfiles hattachment hback | lost _ hfiles hattachment hback =>
    obtain ⟨s₁, hc₁, hc₂⟩ := hc.split
    rw [← Artifact.names_of_assets_eq_ok hfiles] at hname
    rw [hback.keeps hserves hc₂ hname]
    rw [Artifact.names_of_assets_eq_ok hfiles] at hname
    exact hattachment.keeps hartifact hfiles hserves hc₁ hname

/-- **A publication that succeeds has attached its names**, as far as the release can be asked. -/
theorem Transcript.mem_of_ok {release : PublishedRelease}
    (h : Transcript c artifact es (.ok (.ok release))) (hserves : Serves host c assets)
    (hc : host.Conducts s es s') (hname : name ∈ artifact.names) :
    name ∈ release.assets ∧ ∃ raw ∈ assets s', Text.strip raw = name := by
  cases h with
  | attached _ hfiles hattachment =>
    refine hattachment.mem_of_ok ?_ hserves hc
    rw [Artifact.names_of_assets_eq_ok hfiles]
    exact hname

/-- **What a publication leaves that does not succeed.** If everything went well on the way back,
then of its names those are left that the upload has attached and that have blanks around them; and
everything that the upload has attached, if the publication met a fault. -/
theorem Transcript.mem_iff_of_not_attached
    {r : Except Fault (Except PublishFailure PublishedRelease)}
    (h : Transcript c artifact es r) (hartifact : Path.IsName artifact.archiveName)
    (hserves : Serves host c assets) (hc : host.Conducts s es s')
    (hback : ∀ e ∈ wayBack es, e.succeeded = true) (hr : ∀ release, r ≠ .ok (.ok release))
    (hname : name ∈ artifact.names) :
    name ∈ assets s' ↔
      match es with
      | [] => name ∈ assets s
      | e :: _ =>
        name ∈ assets e.left ∧ ((∃ fault, r = .error fault) ∨ Text.strip name ≠ name) := by
  have hne : name ≠ "" := by
    rcases Artifact.mem_names.mp hname with rfl | rfl
    · exact hartifact.ne_empty
    · exact hartifact.sidecarName.ne_empty
  cases h with
  | noToken _ =>
    obtain rfl : s' = s := hc
    rfl
  | refused _ =>
    obtain rfl : s' = s := hc
    rfl
  | faulted _ hfiles hattachment =>
    obtain ⟨sidecar, rfl, -⟩ := touched_upload hartifact hfiles
    obtain ⟨e, rest, rfl, -, -, hrest⟩ := hattachment.exists_upload hserves hc
    rw [hrest]
    exact ⟨fun hmem => ⟨hmem, .inl ⟨_, rfl⟩⟩, fun ⟨hmem, _⟩ => hmem⟩
  | attached => exact absurd rfl (hr _)
  | undone _ hfiles hattachment hdetach | lost _ hfiles hattachment hdetach =>
    -- what the way back finds is what the upload has left: the look between them changes nothing
    rw [hattachment.wayBack_append] at hback
    obtain ⟨s₁, hc₁, hc₂⟩ := hc.split
    have hmem := (Artifact.names_of_assets_eq_ok hfiles).symm ▸ hname
    rw [hdetach.mem_iff hserves hc₂ hback hmem hne]
    obtain ⟨sidecar, rfl, -⟩ := touched_upload hartifact hfiles
    obtain ⟨e, rest, rfl, -, -, hrest⟩ := hattachment.exists_upload hserves hc₁
    rw [hrest]
    simp

end Publication

end Shipyard
