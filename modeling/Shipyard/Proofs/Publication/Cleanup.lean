import Shipyard.Proofs.Publication.Served

/-!
# Cleanups in a log

Which exchanges of a log belong to the way back of a publication: behind the upload of its files
come looks and deletions until something else begins. A publication has at most one upload, at its
beginning, so what comes before it and behind it in a log does not blur its way back.
-/

namespace Shipyard

variable {σ : Type} {c : RunContext}

namespace Exchange

/-- Whether files of these names are uploaded. -/
def uploads (e : Exchange σ) (names : List String) : Bool :=
  match e.request? with
  | some (.upload first second) => (ReleaseRequest.upload first second).touched = names
  | _ => false

/-- Whether the release is looked at, or something is taken off it. -/
def tidies (e : Exchange σ) : Bool :=
  match e.request? with
  | some .view => true
  | some (.delete _) => true
  | _ => false

variable {e : Exchange σ} {names names' : List String}

theorem uploads_of_asks {first second : String} (h : e.Asks c (.upload first second)) :
    e.uploads (ReleaseRequest.upload first second).touched = true := by
  simp [uploads, h.request?_eq]

theorem tidies_of_asks_view (h : e.Asks c .view) : e.tidies = true := by
  simp [tidies, h.request?_eq]

theorem tidies_of_asks_delete {name : String} (h : e.Asks c (.delete name)) : e.tidies = true := by
  simp [tidies, h.request?_eq]

theorem not_tidies_of_uploads (h : e.uploads names = true) : e.tidies = false := by
  unfold uploads at h
  unfold tidies
  rcases hrequest : e.request? with _ | (_ | ⟨first, second⟩ | name)
  all_goals simp [hrequest] at h ⊢

theorem not_uploads_of_tidies (h : e.tidies = true) : e.uploads names = false := by
  rw [Bool.eq_false_iff]
  intro huploads
  rw [not_tidies_of_uploads huploads] at h
  cases h

/-- The names of an upload are told by its command. -/
theorem eq_of_uploads (h : e.uploads names = true) (h' : e.uploads names' = true) :
    names = names' := by
  unfold uploads at h h'
  rcases hrequest : e.request? with _ | (_ | ⟨first, second⟩ | name)
  all_goals simp only [hrequest, Bool.false_eq_true, decide_eq_true_eq] at h h'
  rw [← h, ← h']

theorem not_uploads_of_request?_eq_none (h : e.request? = none) : e.uploads names = false := by
  simp [uploads, h]

theorem not_tidies_of_request?_eq_none (h : e.request? = none) : e.tidies = false := by
  simp [tidies, h]

theorem exists_request_of_uploads (h : e.uploads names = true) :
    ∃ request, e.request? = some request := by
  refine Option.ne_none_iff_exists'.mp fun hnone => ?_
  rw [not_uploads_of_request?_eq_none hnone] at h
  cases h

theorem exists_request_of_tidies (h : e.tidies = true) : ∃ request, e.request? = some request := by
  refine Option.ne_none_iff_exists'.mp fun hnone => ?_
  rw [not_tidies_of_request?_eq_none hnone] at h
  cases h

end Exchange

/-- The exchanges of the way back behind the upload of files of these names. -/
def cleanupOf (names : List String) (log : List (Exchange σ)) : List (Exchange σ) :=
  match log.dropWhile (fun e => !e.uploads names) with
  | [] => []
  | e :: rest => Publication.wayBack (e :: rest.takeWhile Exchange.tidies)

/-- Whether a log begins with something else than a look or a deletion. -/
def BeginsAfresh (log : List (Exchange σ)) : Prop := ∀ e, log.head? = some e → e.tidies = false

theorem BeginsAfresh.append {log log' : List (Exchange σ)} (h : BeginsAfresh log)
    (h' : BeginsAfresh log') : BeginsAfresh (log ++ log') := by
  cases log with
  | nil => exact h'
  | cons e log => exact h

section Logs

variable {names : List String} {before log after : List (Exchange σ)}

theorem cleanupOf_cons {e : Exchange σ} (h : e.uploads names = true) :
    cleanupOf names (e :: log) = Publication.wayBack (e :: log.takeWhile Exchange.tidies) := by
  simp [cleanupOf, h]

theorem cleanupOf_append_left (h : ∀ e ∈ before, e.uploads names = false) :
    cleanupOf names (before ++ log) = cleanupOf names log := by
  rw [cleanupOf, cleanupOf, List.dropWhile_append_of_pos]
  intro e he
  rw [h e he]
  rfl

theorem takeWhile_tidies_append (h : BeginsAfresh after) :
    (log ++ after).takeWhile Exchange.tidies = log.takeWhile Exchange.tidies := by
  induction log with
  | nil =>
    cases after with
    | nil => rfl
    | cons e after =>
      have he : e.tidies = false := h e rfl
      simp [he]
  | cons e log ih => simp only [List.cons_append, List.takeWhile_cons, ih]

theorem cleanupOf_append_right (hafresh : BeginsAfresh after)
    (h : ∀ e ∈ after, e.uploads names = false) :
    cleanupOf names (log ++ after) = cleanupOf names log := by
  induction log with
  | nil =>
    -- without an upload there is no way back
    have hdrop : after.dropWhile (fun e => !e.uploads names) = [] := by
      rw [List.dropWhile_eq_nil_iff]
      intro e he
      rw [h e he]
      rfl
    rw [List.nil_append, cleanupOf, hdrop]
    rfl
  | cons e log ih =>
    by_cases huploads : e.uploads names = true
    · rw [List.cons_append, cleanupOf_cons huploads, cleanupOf_cons huploads,
        takeWhile_tidies_append hafresh]
    · rw [Bool.not_eq_true] at huploads
      have hone : ∀ e' ∈ [e], e'.uploads names = false := by simpa using huploads
      rw [← List.singleton_append, List.append_assoc, cleanupOf_append_left hone,
        cleanupOf_append_left hone, ih]

/-- What comes before a publication and behind it does not blur its way back. -/
theorem cleanupOf_middle (hbefore : ∀ e ∈ before, e.uploads names = false)
    (hafresh : BeginsAfresh after) (hafter : ∀ e ∈ after, e.uploads names = false) :
    cleanupOf names (before ++ (log ++ after)) = cleanupOf names log := by
  rw [cleanupOf_append_left hbefore, cleanupOf_append_right hafresh hafter]

/-- Nor does it add uploads. -/
theorem exists_uploads_middle {P : Exchange σ → Prop}
    (hbefore : ∀ e ∈ before, e.uploads names = false)
    (hafter : ∀ e ∈ after, e.uploads names = false) :
    (∃ e ∈ before ++ (log ++ after), e.uploads names = true ∧ P e) ↔
      ∃ e ∈ log, e.uploads names = true ∧ P e := by
  constructor
  · rintro ⟨e, he, huploads, hP⟩
    rcases List.mem_append.mp he with he | he
    · rw [hbefore e he] at huploads
      cases huploads
    rcases List.mem_append.mp he with he | he
    · exact ⟨e, he, huploads, hP⟩
    · rw [hafter e he] at huploads
      cases huploads
  · rintro ⟨e, he, huploads, hP⟩
    exact ⟨e, List.mem_append_right _ (List.mem_append_left _ he), huploads, hP⟩

end Logs

/-! ## Publications -/

namespace Publication

variable {es : List (Exchange σ)} {platform token : String} {names : List String}
  {artifact : Artifact}

theorem Deletions.tidies {r : Except Fault Unit} (h : Deletions c token names es r) :
    ∀ e ∈ es, e.tidies = true := by
  induction h with
  | done => exact fun e he => absurd he List.not_mem_nil
  | answered hcommand _ _ ih =>
    exact List.forall_mem_cons.mpr ⟨Exchange.tidies_of_asks_delete (asks_delete hcommand), ih⟩
  | faulted hcommand _ =>
    rw [List.forall_mem_singleton]
    exact Exchange.tidies_of_asks_delete (asks_delete hcommand)

theorem Detachment.tidies {r : Except Fault Unit} (h : Detachment c platform token names es r) :
    ∀ e ∈ es, e.tidies = true := by
  cases h with
  | faulted hcommand _ | unread hcommand _ =>
    rw [List.forall_mem_singleton]
    exact Exchange.tidies_of_asks_view (asks_view hcommand)
  | read hcommand _ hdeletions =>
    exact List.forall_mem_cons.mpr
      ⟨Exchange.tidies_of_asks_view (asks_view hcommand), hdeletions.tidies⟩

/-- Whether a log is empty, or an upload of files of these names with looks and deletions. -/
def OneUpload (names : List String) (log : List (Exchange σ)) : Prop :=
  log = [] ∨ ∃ e rest, log = e :: rest ∧ e.uploads names = true ∧ ∀ e' ∈ rest, e'.tidies = true

theorem OneUpload.append {log log' : List (Exchange σ)} (h : OneUpload names log)
    (hne : log ≠ []) (h' : ∀ e ∈ log', e.tidies = true) : OneUpload names (log ++ log') := by
  rcases h with hnil | ⟨e, rest, rfl, huploads, hrest⟩
  · exact absurd hnil hne
  · exact .inr ⟨e, rest ++ log', rfl, huploads, List.forall_mem_append.mpr ⟨hrest, h'⟩⟩

theorem OneUpload.beginsAfresh {log : List (Exchange σ)} (h : OneUpload names log) :
    BeginsAfresh log := by
  rcases h with rfl | ⟨e, rest, rfl, huploads, -⟩
  · exact fun e he => by cases he
  · rintro _ ⟨⟩
    exact Exchange.not_tidies_of_uploads huploads

/-- There are no uploads of other files. -/
theorem OneUpload.not_uploads {log : List (Exchange σ)} {names' : List String}
    (h : OneUpload names log) (hne : names' ≠ names) : ∀ e ∈ log, e.uploads names' = false := by
  rcases h with rfl | ⟨e, rest, rfl, huploads, hrest⟩
  · exact fun e he => absurd he List.not_mem_nil
  · refine List.forall_mem_cons.mpr ⟨?_, fun e' he' => ?_⟩
    · rw [Bool.eq_false_iff]
      exact fun huploads' => hne (Exchange.eq_of_uploads huploads' huploads)
    · exact Exchange.not_uploads_of_tidies (hrest e' he')

theorem OneUpload.cleanupOf_eq {log : List (Exchange σ)} (h : OneUpload names log) :
    cleanupOf names log = wayBack log := by
  rcases h with rfl | ⟨e, rest, rfl, huploads, hrest⟩
  · rfl
  · rw [cleanupOf_cons huploads, List.takeWhile_eq_self_iff.mpr hrest]

theorem Attachment.oneUpload {files : List Path}
    {r : Except Fault (Except PublishFailure PublishedRelease)}
    (h : Attachment c platform token files es r) (hartifact : Path.IsName artifact.archiveName)
    (hfiles : artifact.assets = .ok files) : es ≠ [] ∧ OneUpload artifact.names es := by
  obtain ⟨sidecar, rfl, htouched⟩ := touched_upload hartifact hfiles
  have huploads : ∀ {e : Exchange σ},
      e.command = uploadCommand c token [artifact.archive, sidecar] →
        e.uploads artifact.names = true := by
    intro e hcommand
    rw [← htouched]
    exact Exchange.uploads_of_asks (asks_upload hcommand)
  cases h with
  | faulted hcommand _ | failed hcommand _ =>
    refine ⟨List.cons_ne_nil _ _, .inr ⟨_, _, rfl, huploads hcommand, fun e he => ?_⟩⟩
    cases he
  | viewed hcommand _ hlooked _ =>
    refine ⟨List.cons_ne_nil _ _, .inr ⟨_, _, rfl, huploads hcommand, ?_⟩⟩
    rw [List.forall_mem_singleton]
    exact Exchange.tidies_of_asks_view (asks_view hlooked)

/-- **A publication has at most one upload**, and it comes first. -/
theorem Transcript.oneUpload {r : Except Fault (Except PublishFailure PublishedRelease)}
    (h : Transcript c artifact es r) (hartifact : Path.IsName artifact.archiveName) :
    OneUpload artifact.names es := by
  cases h with
  | noToken | refused => exact .inl rfl
  | faulted _ hfiles hattachment | attached _ hfiles hattachment =>
    exact (hattachment.oneUpload hartifact hfiles).2
  | undone _ hfiles hattachment hback | lost _ hfiles hattachment hback =>
    obtain ⟨hne, hupload⟩ := hattachment.oneUpload hartifact hfiles
    exact hupload.append hne hback.tidies

end Publication

end Shipyard
