import Shipyard.Proofs.Command.Exchange
import Shipyard.Step.Publication

/-!
# What a publication says to its host

One protocol for each step of a publication, in the order in which the steps are built from each
other: a look at the release, deletions, the way back after an upload that failed (`Detachment`),
the upload with its confirmation (`Attachment`), and the whole (`Transcript`). A failure of the
publication never depends on what the way back does, except that a fault on the way back hides it.
-/

namespace Shipyard.Publication

variable {σ : Type} {c : RunContext}

/-! ## Looking at the release -/

/-- A look at the release that failed. -/
def lookupFailed (platform message : String) (hint : Option String) : PublishFailure :=
  ⟨platform, .releaseLookupFailed, message, hint⟩

/-- What is made of the answer to a look at the release. -/
def reading (c : RunContext) (platform : String) :
    Answer → Except Fault (Except PublishFailure PublishedRelease)
  | .error fault => .error fault
  | .ok (.error failure) =>
    .ok (.error (lookupFailed platform ("cannot read release " ++ c.event.tag) failure.hint))
  | .ok (.ok output) =>
    match Value.ofJson output with
    | .error fault => .error fault
    | .ok (.error what) =>
      .ok (.error (lookupFailed platform ("invalid JSON from gh release view: " ++ what) none))
    | .ok (.ok answer) =>
      match releaseOf? answer with
      | none => .ok (.error (lookupFailed platform "unexpected payload from gh release view" none))
      | some release => .ok (.ok release)

/-- A look at the release is one exchange. -/
theorem follows_view (host : Host σ) (c : RunContext) (platform token : String) :
    Action.Follows host (view host.logged c platform token) fun es r =>
      ∃ e, es = [e] ∧ e.command = viewCommand c token ∧ r = reading c platform e.answer := by
  refine .issue_bind (fun reply => ?_) ?_
  · cases reply with
    | error failure =>
      refine Action.follows_pure fun e hc ha => ⟨e, rfl, hc, ?_⟩
      rw [ha]
      rfl
    | ok output =>
      refine .orFault_bind (fun read hread => ?_) ?_
      · rcases read with what | answer
        · refine Action.follows_pure fun e hc ha => ⟨e, rfl, hc, ?_⟩
          simp only [ha, reading, hread]
          rfl
        · rcases hrelease : releaseOf? answer with _ | release
          · simp only [hrelease]
            refine Action.follows_pure fun e hc ha => ⟨e, rfl, hc, ?_⟩
            simp only [ha, reading, hread, hrelease]
            rfl
          · simp only [hrelease]
            refine Action.follows_pure fun e hc ha => ⟨e, rfl, hc, ?_⟩
            simp only [ha, reading, hread, hrelease]
      · intro fault hread e hc ha
        refine ⟨e, rfl, hc, ?_⟩
        simp only [ha, reading, hread]
  · intro e fault hc ha
    refine ⟨e, rfl, hc, ?_⟩
    rw [ha]
    rfl

theorem reading_eq_ok_ok {platform : String} {answer : Answer} {release : PublishedRelease}
    (h : reading c platform answer = .ok (.ok release)) :
    ∃ output v, answer = .ok (.ok output) ∧ Value.ofJson output = .ok (.ok v) ∧
      releaseOf? v = some release := by
  rcases answer with fault | failure | output
  · cases h
  · cases h
  · simp only [reading] at h
    rcases hread : Value.ofJson output with fault | what | v
    · simp [hread] at h
    · simp [hread] at h
    · rcases hrelease : releaseOf? v with _ | r
      · simp [hread, hrelease] at h
      · simp only [hread, hrelease, Except.ok.injEq] at h
        exact ⟨output, v, rfl, hread, by rw [hrelease, h]⟩

/-- What is made of an answer is a failure only as a lookup that failed, on the same platform. -/
theorem reading_eq_ok_error {platform : String} {answer : Answer} {failure : PublishFailure}
    (h : reading c platform answer = .ok (.error failure)) :
    failure.platform = platform ∧ failure.kind = .releaseLookupFailed := by
  rcases answer with fault | told | output
  · cases h
  · cases h
    exact ⟨rfl, rfl⟩
  · simp only [reading] at h
    split at h
    · cases h
    · cases h
      exact ⟨rfl, rfl⟩
    · split at h
      · cases h
        exact ⟨rfl, rfl⟩
      · cases h

/-! ## Deletions -/

/-- Assets are deleted one after the other. A deletion that fails does not keep the next one from
being tried, a fault does. -/
inductive Deletions (c : RunContext) (token : String) : List String → Protocol σ Unit
  /-- nothing is left to delete -/
  | done : Deletions c token [] [] (.ok ())
  /-- a deletion was answered -/
  | answered {name : String} {rest : List String} {e : Exchange σ}
      {reply : Except CommandFailure String} {es : List (Exchange σ)} {r : Except Fault Unit} :
      e.command = deleteCommand c token name → e.answer = .ok reply →
      Deletions c token rest es r → Deletions c token (name :: rest) (e :: es) r
  /-- a deletion met a fault -/
  | faulted {name : String} {rest : List String} {e : Exchange σ} {fault : Fault} :
      e.command = deleteCommand c token name → e.answer = .error fault →
      Deletions c token (name :: rest) [e] (.error fault)

/-- Of the given names those are deleted that are attached. -/
theorem follows_deleteAttached (host : Host σ) (c : RunContext) (token : String)
    (attached : List String) (out : Console) (names : List String) :
    Action.Follows host (deleteAttached host.logged c token attached out names)
      (Deletions c token (names.filter attached.contains)) := by
  induction names with
  | nil => exact Action.follows_pure .done
  | cons name rest ih =>
    unfold deleteAttached
    by_cases hname : attached.contains name = true
    · simp only [hname, if_true, List.filter_cons]
      refine .echo_bind (.issue_bind (fun reply => ?_) fun e fault hc ha => .faulted hc ha)
      cases reply with
      | error failure => exact .tell_bind (ih.mono fun es r h e hc ha => .answered hc ha h)
      | ok output => exact ih.mono fun es r h e hc ha => .answered hc ha h
    · simp only [hname, List.filter_cons]
      exact ih

/-! ## The way back -/

/-- After an upload that failed, the release is looked at, and what is attached to it of the given
names is deleted. If the release cannot be read, nothing is. -/
inductive Detachment (c : RunContext) (platform token : String) (names : List String) :
    Protocol σ Unit
  /-- the look met a fault -/
  | faulted {e : Exchange σ} {fault : Fault} :
      e.command = viewCommand c token → reading c platform e.answer = .error fault →
      Detachment c platform token names [e] (.error fault)
  /-- the release could not be read -/
  | unread {e : Exchange σ} {failure : PublishFailure} :
      e.command = viewCommand c token → reading c platform e.answer = .ok (.error failure) →
      Detachment c platform token names [e] (.ok ())
  /-- the release was read -/
  | read {e : Exchange σ} {release : PublishedRelease} {es : List (Exchange σ)}
      {r : Except Fault Unit} :
      e.command = viewCommand c token → reading c platform e.answer = .ok (.ok release) →
      Deletions c token (names.filter release.assets.contains) es r →
      Detachment c platform token names (e :: es) r

theorem follows_detach (host : Host σ) (c : RunContext) (platform token : String)
    (names : List String) (out : Console) :
    Action.Follows host (detach host.logged c platform token names out)
      (Detachment c platform token names) := by
  refine (follows_view host c platform token).bind (fun looked => ?_) ?_
  · cases looked with
    | error failure =>
      refine .silent fun w => ⟨rfl, ?_⟩
      rintro _ ⟨e, rfl, hc, hread⟩
      exact .unread hc hread.symm
    | ok release =>
      refine (follows_deleteAttached host c token release.assets out names).mono ?_
      rintro es r h _ ⟨e, rfl, hc, hread⟩
      exact .read hc hread.symm h
  · rintro _ fault ⟨e, rfl, hc, hread⟩
    exact .faulted hc hread.symm

/-! ## Upload and confirmation -/

/-- The upload failed. -/
def uploadFailed (c : RunContext) (platform : String) (failure : CommandFailure) : PublishFailure :=
  ⟨platform, .uploadFailed, "upload to release " ++ c.event.tag ++ " failed", failure.hint⟩

/-- The upload went well, but the release lacks some of the names. -/
def assetMissing (platform : String) (missing : List String) : PublishFailure :=
  ⟨platform, .assetMissing,
    "assets not attached after upload: " ++ String.intercalate ", " missing, none⟩

/-- What a look at the release confirms of an upload. -/
def confirmation (platform : String) (names : List String) :
    Except Fault (Except PublishFailure PublishedRelease) →
      Except Fault (Except PublishFailure PublishedRelease)
  | .ok (.ok release) =>
    if names.filter (fun name => !release.assets.contains name) = [] then .ok (.ok release)
    else
      .ok (.error (assetMissing platform
        (names.filter fun name => !release.assets.contains name)))
  | other => other

theorem confirmation_eq_ok_ok {platform : String} {names : List String}
    {read : Except Fault (Except PublishFailure PublishedRelease)}
    {release : PublishedRelease} (h : confirmation platform names read = .ok (.ok release)) :
    read = .ok (.ok release) ∧ ∀ name ∈ names, name ∈ release.assets := by
  rcases read with fault | failure | shown
  · cases h
  · cases h
  · simp only [confirmation] at h
    split at h
    · next hmissing =>
      cases h
      refine ⟨rfl, fun name hmem => ?_⟩
      simpa using List.filter_eq_nil_iff.mp hmissing name hmem
    · cases h

/-- The files are uploaded, and if the upload went well, one look at the release confirms it. -/
inductive Attachment (c : RunContext) (platform token : String) (files : List Path) :
    Protocol σ (Except PublishFailure PublishedRelease)
  /-- the upload met a fault -/
  | faulted {e : Exchange σ} {fault : Fault} :
      e.command = uploadCommand c token files → e.answer = .error fault →
      Attachment c platform token files [e] (.error fault)
  /-- the upload failed -/
  | failed {e : Exchange σ} {failure : CommandFailure} :
      e.command = uploadCommand c token files → e.answer = .ok (.error failure) →
      Attachment c platform token files [e] (.ok (.error (uploadFailed c platform failure)))
  /-- the upload went well -/
  | viewed {e looked : Exchange σ} {output : String}
      {r : Except Fault (Except PublishFailure PublishedRelease)} :
      e.command = uploadCommand c token files → e.answer = .ok (.ok output) →
      looked.command = viewCommand c token →
      r = confirmation platform (files.map (·.name)) (reading c platform looked.answer) →
      Attachment c platform token files [e, looked] r

theorem follows_attachAndConfirm (host : Host σ) (c : RunContext) (platform token : String)
    (files : List Path) (out : Console) :
    Action.Follows host (attachAndConfirm host.logged c platform token files out)
      (Attachment c platform token files) := by
  refine .echo_bind (.issue_bind (fun reply => ?_) fun e fault hc ha => .faulted hc ha)
  cases reply with
  | error failure => exact Action.follows_pure fun e hc ha => .failed hc ha
  | ok output =>
    refine (follows_view host c platform token).bind (fun looked => ?_) ?_
    · cases looked with
      | error failure =>
        refine Action.follows_pure ?_
        rintro _ ⟨e', rfl, hc', hread⟩ e hc ha
        exact .viewed hc ha hc' (by rw [← hread]; rfl)
      | ok release =>
        by_cases hmissing :
          (files.map (·.name)).filter (fun name => !release.assets.contains name) = []
        · simp only [hmissing, if_true]
          refine Action.follows_pure ?_
          rintro _ ⟨e', rfl, hc', hread⟩ e hc ha
          refine .viewed hc ha hc' ?_
          rw [← hread]
          simp only [confirmation, hmissing, if_true]
        · simp only [hmissing, if_false]
          refine Action.follows_pure ?_
          rintro _ ⟨e', rfl, hc', hread⟩ e hc ha
          refine .viewed hc ha hc' ?_
          rw [← hread]
          simp only [confirmation, hmissing, if_false]
          rfl
    · rintro _ fault ⟨e', rfl, hc', hread⟩ e hc ha
      exact .viewed hc ha hc' (by rw [← hread]; rfl)

/-! ## The whole -/

/-- There is no token for the release. -/
def authMissing (c : RunContext) (platform : String) : PublishFailure :=
  ⟨platform, .authMissing, c.config.secrets.publishTokenEnv ++ " is not set",
    some "a token allowed to upload release assets is required"⟩

/-- **A whole publication.** Without a token nothing is said to the host. What the upload and its
confirmation give is kept; if it is a failure, the way back comes behind it. -/
inductive Transcript (c : RunContext) (artifact : Artifact) :
    Protocol σ (Except PublishFailure PublishedRelease)
  /-- there is no token -/
  | noToken : c.publishToken? = none →
      Transcript c artifact [] (.ok (.error (authMissing c artifact.platform)))
  /-- the archive has no name -/
  | refused {refusal : Refusal} : artifact.assets = .error refusal →
      Transcript c artifact [] (.error (.refused refusal))
  /-- a fault before the way back -/
  | faulted {token : String} {files : List Path} {es : List (Exchange σ)} {fault : Fault} :
      c.publishToken? = some token → artifact.assets = .ok files →
      Attachment c artifact.platform token files es (.error fault) →
      Transcript c artifact es (.error fault)
  /-- all is attached -/
  | attached {token : String} {files : List Path} {es : List (Exchange σ)}
      {release : PublishedRelease} :
      c.publishToken? = some token → artifact.assets = .ok files →
      Attachment c artifact.platform token files es (.ok (.ok release)) →
      Transcript c artifact es (.ok (.ok release))
  /-- a failure, and the way back -/
  | undone {token : String} {files : List Path} {es back : List (Exchange σ)}
      {failure : PublishFailure} :
      c.publishToken? = some token → artifact.assets = .ok files →
      Attachment c artifact.platform token files es (.ok (.error failure)) →
      Detachment c artifact.platform token (files.map (·.name)) back (.ok ()) →
      Transcript c artifact (es ++ back) (.ok (.error failure))
  /-- a failure, and a fault on the way back -/
  | lost {token : String} {files : List Path} {es back : List (Exchange σ)}
      {failure : PublishFailure} {fault : Fault} :
      c.publishToken? = some token → artifact.assets = .ok files →
      Attachment c artifact.platform token files es (.ok (.error failure)) →
      Detachment c artifact.platform token (files.map (·.name)) back (.error fault) →
      Transcript c artifact (es ++ back) (.error fault)

/-- Every publication has a transcript. -/
theorem follows_run (host : Host σ) (c : RunContext) (artifact : Artifact) (out : Console) :
    Action.Follows host (run host.logged c artifact out) (Transcript c artifact) := by
  unfold run
  rcases htoken : c.publishToken? with _ | token
  · exact Action.follows_pure (.noToken htoken)
  · refine .orRefused_bind (fun files hfiles => ?_) fun refusal hrefusal => .refused hrefusal
    refine (follows_attachAndConfirm host c artifact.platform token files out).bind (fun end? => ?_)
      fun es fault h => .faulted htoken hfiles h
    cases end? with
    | ok release =>
      exact Action.follows_pure_after fun es h => .attached htoken hfiles h
    | error failure =>
      have hdetach := follows_detach host c artifact.platform token (files.map (·.name)) out
      refine hdetach.bind (fun _ => ?_) ?_
      · refine Action.follows_pure fun back hback es h => ?_
        rw [List.append_nil]
        exact .undone htoken hfiles h hback
      · intro back fault hback es h
        exact .lost htoken hfiles h hback

end Shipyard.Publication
