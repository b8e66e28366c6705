import Shipyard.Proofs.Publication.Calls

/-!
# The verdict of a publication

The upload and the look behind it decide how a publication ends (`decisive`); there are five ways,
and each is told exactly by what these two exchanges show (`Judged`). Behind a failure comes the way
back: one more look and, if the release can be read, one deletion for each own name that it lists.
Whatever these end with, the failure stays the same (`verdict_exact`).
-/

namespace Shipyard

variable {σ : Type} {host : Host σ} {c : RunContext} {artifact : Artifact}
  {es back : List (Exchange σ)} {platform token : String} {files : List Path}
  {result : Except PublishFailure PublishedRelease}

/-- Whether the token for the release is set and not empty. -/
def RunContext.HasToken (c : RunContext) : Prop :=
  ∃ token, c.environ.find? c.config.secrets.publishTokenEnv = some token ∧ token ≠ ""

theorem RunContext.hasToken_iff : c.HasToken ↔ ∃ token, c.publishToken? = some token := by
  simp only [HasToken, publishToken?, Environment.nonempty?, Option.filter_eq_some_iff,
    decide_eq_true_eq]

namespace Publication

/-! ## What decides -/

/-- The exchanges that decide: the upload and, if it went well, the look behind it. -/
def decisive : List (Exchange σ) → List (Exchange σ)
  | [] => []
  | e :: rest => if e.succeeded then e :: rest.take 1 else [e]

theorem decisive_append_wayBack (es : List (Exchange σ)) : decisive es ++ wayBack es = es := by
  rcases es with _ | ⟨e, rest⟩
  · rfl
  · by_cases he : e.succeeded = true
    · rw [decisive, wayBack, if_pos he, if_pos he, List.cons_append, List.take_append_drop]
    · rw [decisive, wayBack, if_neg he, if_neg he, List.singleton_append]

/-- Whether the files were uploaded. -/
def Uploaded (es : List (Exchange σ)) : Prop := ∃ e rest, es = e :: rest ∧ e.succeeded = true

/-- Whether the look behind the upload shows a release with this number and these names. -/
def Viewed (es : List (Exchange σ)) (id : Int) (names : Set String) : Prop :=
  ∃ e looked rest, es = e :: looked :: rest ∧ e.succeeded = true ∧ looked.Shows id names

/-- What the decisive answers give. -/
def verdict (c : RunContext) (artifact : Artifact) :
    List Answer → Except Fault (Except PublishFailure PublishedRelease)
  | [.error fault] => .error fault
  | [.ok (.error failure)] => .ok (.error (uploadFailed c artifact.platform failure))
  | [.ok (.ok _), looked] =>
    confirmation artifact.platform artifact.names (reading c artifact.platform looked)
  | _ => .ok (.error (authMissing c artifact.platform))

/-- Whether a publication failed in this way. -/
def Fails (result : Except PublishFailure PublishedRelease) (kind : PublishFailure.Kind) : Prop :=
  ∃ failure, result = .error failure ∧ failure.kind = kind

open Classical in
/-- Whether these are the exchanges of a way back: a look, and behind it a deletion of each name
that it shows, in their order; none if it shows nothing. -/
def Retraces (c : RunContext) (token : String) (names : List String)
    (back : List (Exchange σ)) : Prop :=
  ∃ looked deletions, back = looked :: deletions ∧ looked.command = viewCommand c token ∧
    ((¬ ∃ id shown, looked.Shows id shown) ∧ deletions = [] ∨
      ∃ id shown, looked.Shows id shown ∧
        deletions.map (·.command) = (names.filter (· ∈ shown)).map (deleteCommand c token))

/-- **How a publication is judged**, by its exchanges. -/
structure Judged (c : RunContext) (artifact : Artifact) (es : List (Exchange σ))
    (result : Except PublishFailure PublishedRelease) : Prop where
  /-- there is no token -/
  authMissing : Fails result .authMissing ↔ ¬ c.HasToken
  /-- there is one, and the upload failed -/
  uploadFailed : Fails result .uploadFailed ↔ c.HasToken ∧ ¬ Uploaded es
  /-- the upload went well, and the look behind it shows nothing -/
  lookupFailed : Fails result .releaseLookupFailed ↔
    c.HasToken ∧ Uploaded es ∧ ¬ ∃ id names, Viewed es id names
  /-- it shows a release without one of the two names -/
  assetMissing : Fails result .assetMissing ↔
    c.HasToken ∧ ∃ id names, Viewed es id names ∧ ∃ name ∈ artifact.names, name ∉ names
  /-- it shows a release with both, and the release that is given is the one shown -/
  attached (id : Int) (names : Set String) :
    (∃ release, result = .ok release ∧ release.id = id ∧ {name | name ∈ release.assets} = names) ↔
      c.HasToken ∧ Viewed es id names ∧ ∀ name ∈ artifact.names, name ∈ names
  /-- without a token nothing is asked -/
  silent : ¬ c.HasToken → es = []
  /-- with one the two files are uploaded, and only behind an upload that went well comes a look -/
  asked : ∀ token files, c.publishToken? = some token → artifact.assets = .ok files →
    (¬ Uploaded es ∧ (decisive es).map (·.command) = [uploadCommand c token files]) ∨
      Uploaded es ∧
        (decisive es).map (·.command) = [uploadCommand c token files, viewCommand c token]
  /-- behind a failure the way is gone back -/
  retraced : ∀ token failure, c.publishToken? = some token → result = .error failure →
    Retraces c token artifact.names (wayBack es)
  /-- behind a success nothing is asked any more -/
  kept : ∀ release, result = .ok release → wayBack es = []

variable {e looked : Exchange σ} {rest : List (Exchange σ)} {id : Int} {names : Set String}

theorem uploaded_cons : Uploaded (e :: rest) ↔ e.succeeded = true := by
  simp [Uploaded]

theorem viewed_cons_cons :
    Viewed (e :: looked :: rest) id names ↔ e.succeeded = true ∧ looked.Shows id names := by
  simp [Viewed]

theorem not_viewed_cons (h : e.succeeded = false) : ¬ Viewed (e :: rest) id names := by
  rintro ⟨_, _, _, ⟨⟩, hsucceeded, -⟩
  rw [h] at hsucceeded
  cases hsucceeded

theorem fails_error {failure : PublishFailure} {kind : PublishFailure.Kind} :
    Fails (.error failure) kind ↔ failure.kind = kind := by
  simp [Fails]

theorem not_fails_ok {release : PublishedRelease} {kind : PublishFailure.Kind} :
    ¬ Fails (.ok release) kind := by
  simp [Fails]

/-- Without a token. -/
theorem judged_of_noToken (h : c.publishToken? = none) :
    Judged c artifact ([] : List (Exchange σ)) (.error (authMissing c artifact.platform)) := by
  have hno : ¬ c.HasToken := by
    rw [RunContext.hasToken_iff, h]
    nofun
  constructor <;> simp [fails_error, hno, authMissing, h]

section Uploads

variable (htoken : c.publishToken? = some token) (hfiles : artifact.assets = .ok files)
  (hcommand : e.command = uploadCommand c token files)

include htoken hfiles hcommand

/-- Behind an upload that failed. -/
theorem judged_of_failed {failure : CommandFailure} (hanswer : e.answer = .ok (.error failure))
    (hback : Retraces c token artifact.names back) :
    Judged c artifact (e :: back) (.error (uploadFailed c artifact.platform failure)) := by
  have hhas : c.HasToken := RunContext.hasToken_iff.mpr ⟨token, htoken⟩
  have hfailed : e.succeeded = false := by rw [Exchange.succeeded, hanswer]
  have hunseen : ∀ id names, ¬ Viewed (e :: back) id names := fun _ _ => not_viewed_cons hfailed
  constructor <;> simp [fails_error, uploadFailed, hhas, htoken, hfiles, hcommand, uploaded_cons,
    hfailed, hunseen, decisive, wayBack, hback]

variable {output : String} (hanswer : e.answer = .ok (.ok output))
  (hlooked : looked.command = viewCommand c token)

include hanswer hlooked

/-- Behind a look at a release that cannot be read. -/
theorem judged_of_unread {failure : PublishFailure}
    (hread : reading c artifact.platform looked.answer = .ok (.error failure))
    (hback : Retraces c token artifact.names back) :
    Judged c artifact (e :: looked :: back) (.error failure) := by
  have hhas : c.HasToken := RunContext.hasToken_iff.mpr ⟨token, htoken⟩
  have hsucceeded : e.succeeded = true := Exchange.succeeded_iff.mpr ⟨output, hanswer⟩
  have hkind := (reading_eq_ok_error hread).2
  have hunseen : ∀ id names, ¬ looked.Shows id names := fun id names h =>
    not_shows_of_reading hread ⟨id, names, h⟩
  constructor <;> simp [fails_error, hkind, hhas, htoken, hfiles, hcommand, hlooked, uploaded_cons,
    viewed_cons_cons, hsucceeded, hunseen, decisive, wayBack, hback]

/-- Behind a look at a release that lacks a name. -/
theorem judged_of_missing {release : PublishedRelease} {missing : List String}
    (hread : reading c artifact.platform looked.answer = .ok (.ok release))
    (hlacks : ∃ name ∈ artifact.names, name ∉ release.assets)
    (hback : Retraces c token artifact.names back) :
    Judged c artifact (e :: looked :: back) (.error (assetMissing artifact.platform missing)) := by
  have hhas : c.HasToken := RunContext.hasToken_iff.mpr ⟨token, htoken⟩
  have hsucceeded : e.succeeded = true := Exchange.succeeded_iff.mpr ⟨output, hanswer⟩
  have hseen := (shows_of_reading hread).iff
  constructor <;> simp [fails_error, assetMissing, hhas, htoken, hfiles, hcommand, hlooked,
    uploaded_cons, viewed_cons_cons, hsucceeded, hseen, hlacks, decisive, wayBack, hback]

/-- Behind a look at a release with both names. -/
theorem judged_of_attached {release : PublishedRelease}
    (hread : reading c artifact.platform looked.answer = .ok (.ok release))
    (hnames : ∀ name ∈ artifact.names, name ∈ release.assets) :
    Judged c artifact [e, looked] (.ok release) := by
  have hhas : c.HasToken := RunContext.hasToken_iff.mpr ⟨token, htoken⟩
  have hsucceeded : e.succeeded = true := Exchange.succeeded_iff.mpr ⟨output, hanswer⟩
  have hseen := (shows_of_reading hread).iff
  constructor <;> simp [not_fails_ok, hhas, htoken, hfiles, hcommand, hlooked,
    uploaded_cons, viewed_cons_cons, hsucceeded, hseen, decisive, wayBack]
  case assetMissing => exact hnames
  case attached =>
    rintro id names
    constructor
    · rintro ⟨rfl, rfl⟩
      exact ⟨⟨rfl, rfl⟩, hnames⟩
    · rintro ⟨⟨rfl, rfl⟩, -⟩
      exact ⟨rfl, rfl⟩

end Uploads

/-! ## The way back -/

/-- Deletions that come to an end are one for each name. -/
theorem Deletions.commands_eq {own : List String} (h : Deletions c token own es (.ok ())) :
    es.map (·.command) = own.map (deleteCommand c token) := by
  generalize hr : (.ok () : Except Fault Unit) = r at h
  induction h with
  | done => rfl
  | answered hcommand _ _ ih => rw [List.map_cons, List.map_cons, hcommand, ih hr]
  | faulted => cases hr

theorem Detachment.retraces {own : List String} (h : Detachment c platform token own es (.ok ())) :
    Retraces c token own es := by
  cases h with
  | unread hcommand hread =>
    exact ⟨_, [], rfl, hcommand, .inl ⟨not_shows_of_reading hread, rfl⟩⟩
  | read hcommand hread hdeletions =>
    refine ⟨_, _, rfl, hcommand, .inr ⟨_, _, shows_of_reading hread, ?_⟩⟩
    rw [hdeletions.commands_eq]
    congr 1
    apply List.filter_congr
    intro name _
    simp

/-! ## Verdicts -/

/-- What the decisive exchanges give, their answers decide. -/
theorem Attachment.verdict_eq {r : Except Fault (Except PublishFailure PublishedRelease)}
    (h : Attachment c artifact.platform token files es r) (hfiles : artifact.assets = .ok files) :
    decisive (es ++ back) = es ∧ verdict c artifact (es.map (·.answer)) = r := by
  have hwayBack := h.wayBack_append back
  have hdecisive : decisive (es ++ back) = es := by
    have happend := decisive_append_wayBack (es ++ back)
    rw [hwayBack] at happend
    exact List.append_cancel_right happend
  refine ⟨hdecisive, ?_⟩
  cases h with
  | faulted _ hanswer => simp [verdict, hanswer]
  | failed _ hanswer => simp [verdict, hanswer]
  | viewed _ hanswer _ hr =>
    simp [verdict, hanswer, hr, Artifact.names_of_assets_eq_ok hfiles]

/-- The failure behind an upload and its look is judged with any way back. -/
theorem Attachment.judged {failure : PublishFailure}
    (h : Attachment c artifact.platform token files es (.ok (.error failure)))
    (htoken : c.publishToken? = some token) (hfiles : artifact.assets = .ok files)
    (hback : Retraces c token artifact.names back) :
    Judged c artifact (es ++ back) (.error failure) := by
  cases h with
  | failed hcommand hanswer => exact judged_of_failed htoken hfiles hcommand hanswer hback
  | @viewed e looked output _ hcommand hanswer hlooked hr =>
    rw [Artifact.names_of_assets_eq_ok hfiles] at hr
    rcases hread : reading c artifact.platform looked.answer with fault | failure' | release
    · rw [hread] at hr
      cases hr
    · rw [hread] at hr
      cases hr
      exact judged_of_unread htoken hfiles hcommand hanswer hlooked hread hback
    · rw [hread] at hr
      simp only [confirmation] at hr
      split at hr
      · cases hr
      · next hmissing =>
        cases hr
        refine judged_of_missing htoken hfiles hcommand hanswer hlooked hread ?_ hback
        simpa using hmissing

theorem Transcript.judged (h : Transcript c artifact es (.ok result)) :
    Judged c artifact es result ∧
      verdict c artifact ((decisive es).map (·.answer)) = .ok result := by
  cases h with
  | noToken htoken => exact ⟨judged_of_noToken htoken, rfl⟩
  | attached htoken hfiles hattachment =>
    obtain ⟨hdecisive, hverdict⟩ : decisive (es ++ []) = es ∧ _ := hattachment.verdict_eq hfiles
    rw [List.append_nil] at hdecisive
    refine ⟨?_, by rw [hdecisive, hverdict]⟩
    cases hattachment with
    | viewed hcommand hanswer hlooked hr =>
      rw [Artifact.names_of_assets_eq_ok hfiles] at hr
      obtain ⟨hread, hnames⟩ := confirmation_eq_ok_ok hr.symm
      exact judged_of_attached htoken hfiles hcommand hanswer hlooked hread hnames
  | undone htoken hfiles hattachment hback =>
    obtain ⟨hdecisive, hverdict⟩ := hattachment.verdict_eq hfiles
    have hretraces := hback.retraces
    rw [Artifact.names_of_assets_eq_ok hfiles] at hretraces
    exact ⟨hattachment.judged htoken hfiles hretraces, by rw [hdecisive, hverdict]⟩

/-- An artifact whose archive has no name has no files to upload, and a publication of it ends
before anything is asked. -/
theorem runOn_run_of_nameless (host : Host σ) (out : Console) (w : World σ) (htoken : c.HasToken)
    (hnamed : artifact.archive.parts = []) :
    Action.runOn (run host c artifact out) w =
      (.error (.refused (.emptyName artifact.archive.text)), w) := by
  obtain ⟨token, htoken⟩ := RunContext.hasToken_iff.mp htoken
  have hassets : artifact.assets = .error (.emptyName artifact.archive.text) := by
    simp only [Artifact.assets, Artifact.sidecar, sidecarPath, Path.withName?, if_pos hnamed]
    rfl
  rw [run, htoken, hassets]
  rfl

/-- **The verdict of a publication.** If every command returns, a publication of an artifact that
has names gives a result, which is judged by the upload and the look behind it alone; what comes
behind these is silence or the way back. -/
theorem verdict_exact (host : Host σ) (c : RunContext) (artifact : Artifact) (out : Console)
    (w : World σ) (hnamed : c.HasToken → artifact.archive.parts ≠ [])
    (hreturns : ∀ e ∈ exchanges host c artifact out w, e.Returns c) :
    ∃ result, (Action.runOn (run host c artifact out) w).1 = .ok result ∧
      Judged c artifact (exchanges host c artifact out w) result ∧
      verdict c artifact ((decisive (exchanges host c artifact out w)).map (·.answer)) =
        .ok result := by
  have htranscript : Transcript c artifact (exchanges host c artifact out w)
      (Action.runOn (run host c artifact out) w).1 :=
    (mirrors_run host c artifact out).holds (follows_run host c artifact out) w
  obtain ⟨result, hresult⟩ :
      ∃ result, (Action.runOn (run host c artifact out) w).1 = .ok result := by
    by_cases htoken : c.HasToken
    · exact htranscript.exists_eq_ok_of_returns (hnamed htoken) hreturns
    · rw [RunContext.hasToken_iff, ← Option.isSome_iff_exists, Option.not_isSome_iff_eq_none]
        at htoken
      rw [run, htoken]
      exact ⟨_, rfl⟩
  rw [hresult] at htranscript
  exact ⟨result, hresult, htranscript.judged⟩

/-! ## A reluctant release -/

/-- The answer of a release that holds both names of `zipped`: uploads fail, and so do deletions. -/
def reluctantAnswer : ReleaseRequest → Answer
  | .view => .ok (.ok (Rehearsal.describe (.int 1) zipped.names))
  | _ => .ok (.error ⟨["gh"], 1, "", ""⟩)

/-- The host of that release. -/
def reluctantHost : Host Unit where
  answer command files outside :=
    match ReleaseRequest.ofArgv? command.argv with
    | some request => (reluctantAnswer request, files, outside)
    | none => (.ok (.ok ""), files, outside)
  installed _ := true
  archiver := Archive.storing

/-- The exchanges of a publication of `zipped` on it. -/
def reluctantExchanges : List (Exchange Unit) :=
  exchanges reluctantHost Rehearsal.context zipped Console.plain ⟨FileSystem.empty [], [], [], ()⟩

theorem reluctantHost_gives {s : Unit} {e : Exchange Unit} {request : ReleaseRequest}
    (hg : reluctantHost.Gives s e) (hasks : e.Asks c request) :
    e.answer = reluctantAnswer request := by
  obtain ⟨files, files', hg⟩ := hg
  rw [Exchange.Asks] at hasks
  simp only [reluctantHost, hasks, ReleaseRequest.ofArgv?_argv, Prod.mk.injEq] at hg
  exact hg.1.symm

set_option maxRecDepth 100000 in
theorem exists_ofJson_describe_zipped :
    ∃ v, Value.ofJson (Rehearsal.describe (.int 1) zipped.names) = .ok (.ok v) := ⟨_, rfl⟩

theorem neverFaults_reluctantHost (c : RunContext) : NeverFaults reluctantHost c where
  answers := by
    intro s e request hg hasks
    rw [reluctantHost_gives hg hasks]
    cases request <;> exact ⟨_, rfl⟩
  readable := by
    intro s e output hg hasks hanswer
    rw [reluctantHost_gives hg hasks] at hanswer
    cases hanswer
    obtain ⟨v, hv⟩ := exists_ofJson_describe_zipped
    exact ⟨_, hv⟩

/-- The upload fails, the look behind it shows both names, and the second deletion is tried although
the first one failed. -/
theorem requests_reluctantExchanges :
    reluctantExchanges.map (fun e => (e.command.argv.drop 2 |>.take 3, e.succeeded)) =
      [(["upload", "v1", "/r/a.zip"], false),
        (["view", "v1", "--repo"], true),
        (["delete-asset", "v1", "a.zip"], false),
        (["delete-asset", "v1", "a.zip.sha256sum"], false)] := by
  decide +kernel

/-- A publication on that release ends with the failure of its upload, and with one deletion for
each name on the way back. -/
theorem verdict_exact_reluctant :
    (∃ failure, (Action.runOn (run reluctantHost Rehearsal.context zipped Console.plain)
        ⟨FileSystem.empty [], [], [], ()⟩).1 = .ok (.error failure) ∧
      failure.kind = .uploadFailed) ∧
    Retraces Rehearsal.context "t" zipped.names (wayBack reluctantExchanges) := by
  have hnamed : Rehearsal.context.HasToken → zipped.archive.parts ≠ [] := fun _ => by decide
  have htoken : Rehearsal.context.publishToken? = some "t" := by decide
  have htranscript := (mirrors_run reluctantHost Rehearsal.context zipped Console.plain).holds
    (follows_run _ _ _ _) ⟨FileSystem.empty [], [], [], ()⟩
  have hreturns : ∀ e ∈ reluctantExchanges, e.Returns Rehearsal.context :=
    ((mirrors_run reluctantHost Rehearsal.context zipped Console.plain).conducts
      (follows_run _ _ _ _) ⟨FileSystem.empty [], [], [], ()⟩).returns
      (neverFaults_reluctantHost _) htranscript.asks
  have hfailed : ¬ Uploaded reluctantExchanges := by
    rintro ⟨e, rest, hes, hsucceeded⟩
    have hrequests := requests_reluctantExchanges
    rw [hes, List.map_cons, hsucceeded] at hrequests
    cases congrArg Prod.snd (List.cons.inj hrequests).1
  obtain ⟨result, hresult, hjudged, -⟩ :=
    verdict_exact reluctantHost Rehearsal.context zipped Console.plain _ hnamed hreturns
  obtain ⟨failure, rfl, hkind⟩ :=
    hjudged.uploadFailed.mpr ⟨RunContext.hasToken_iff.mpr ⟨_, htoken⟩, hfailed⟩
  exact ⟨⟨failure, hresult, hkind⟩, hjudged.retraced _ _ htoken rfl⟩

/-- An artifact whose archive is the root. -/
def nameless : Artifact := ⟨"replibyte", "v1", "x86_64-apple-darwin", ⟨.root, []⟩, ⟨"", ""⟩⟩

/-- **An archive without a name.** There is a token, nothing is asked that could fail to return, and
still no verdict. -/
theorem nameless_without_verdict :
    Rehearsal.context.HasToken ∧
      (∀ e ∈ exchanges reluctantHost Rehearsal.context nameless Console.plain
          ⟨FileSystem.empty [], [], [], ()⟩, e.Returns Rehearsal.context) ∧
      ∀ result, (Action.runOn (run reluctantHost Rehearsal.context nameless Console.plain)
        ⟨FileSystem.empty [], [], [], ()⟩).1 ≠ .ok result := by
  have htoken : Rehearsal.context.HasToken := ⟨"t", by decide, by decide⟩
  refine ⟨htoken, ?_, fun result h => ?_⟩
  · rw [exchanges, Action.exchanges, runOn_run_of_nameless _ _ _ htoken rfl]
    exact List.forall_mem_nil _
  · rw [runOn_run_of_nameless _ _ _ htoken rfl] at h
    cases h

end Publication

end Shipyard
