import Shipyard.Proofs.Publication.Served

/-!
# What answers show

A look at a release shows its number and the names of its assets if its output is JSON for a table
with an integer for the number (`Exchange.Shows`); every other output is a release that cannot be
read. If each command of a publication returns, and the output of every look can be read or is no
JSON, the publication gives a result.
-/

namespace Shipyard

variable {σ : Type} {c : RunContext}

/-- The names of assets that the fields of an answer list: those of its entries that are tables with
a text for a name, stripped and not empty. Without a list there are none. -/
def Table.listed (fields : Table) : Set String :=
  {name | name ≠ "" ∧ ∃ items, fields.find? "assets" = some (.list items) ∧
    ∃ entry : Table, .table entry ∈ items ∧ ∃ raw, entry.find? "name" = some (.text raw) ∧
      Text.strip raw = name}

namespace Exchange

/-- Whether the command wrote a description of a release with this number and these names. -/
def Shows (e : Exchange σ) (id : Int) (names : Set String) : Prop :=
  ∃ output, ∃ fields : Table, e.answer = .ok (.ok output) ∧
    Value.ofJson output = .ok (.ok (.table fields)) ∧
    fields.find? "databaseId" = some (.int id) ∧ names = fields.listed

/-- Whether the command returned and, if it looked at the release, its output can be read or is no
JSON. -/
def Returns (e : Exchange σ) (c : RunContext) : Prop :=
  ∃ reply, e.answer = .ok reply ∧
    ∀ output, reply = .ok output → e.Asks c .view → ∃ read, Value.ofJson output = .ok read

/-- An answer shows one release. -/
theorem Shows.eq {e : Exchange σ} {id id' : Int} {names names' : Set String}
    (h : e.Shows id names) (h' : e.Shows id' names') : id = id' ∧ names = names' := by
  obtain ⟨output, fields, hanswer, hread, hid, rfl⟩ := h
  obtain ⟨output', fields', hanswer', hread', hid', rfl⟩ := h'
  rw [hanswer] at hanswer'
  cases hanswer'
  rw [hread] at hread'
  cases hread'
  rw [hid] at hid'
  cases hid'
  exact ⟨rfl, rfl⟩

theorem Shows.iff {e : Exchange σ} {id : Int} {names : Set String} (h : e.Shows id names)
    (id' : Int) (names' : Set String) : e.Shows id' names' ↔ id' = id ∧ names' = names := by
  refine ⟨fun h' => h'.eq h, ?_⟩
  rintro ⟨rfl, rfl⟩
  exact h

end Exchange

namespace Publication

variable {e : Exchange σ} {es : List (Exchange σ)} {platform token : String}
  {names : List String} {files : List Path} {artifact : Artifact}

/-! ## Looks -/

theorem releaseOf?_eq_some_iff {v : Value} {release : PublishedRelease} :
    releaseOf? v = some release ↔ ∃ (fields : Table) (id : Int), v = .table fields ∧
      fields.find? "databaseId" = some (.int id) ∧
      release = PublishedRelease.attach ⟨id, []⟩
        (((fields.list? "assets").getD []).filterMap assetName?) := by
  constructor
  · intro h
    obtain ⟨fields, hfields, hrest⟩ := Option.bind_eq_some_iff.mp h
    obtain ⟨id, hid, hrelease⟩ := Option.bind_eq_some_iff.mp hrest
    cases v <;> cases hfields
    exact ⟨fields, id, rfl, Table.int?_eq_some_iff.mp hid, (Option.some.inj hrelease).symm⟩
  · rintro ⟨fields, id, rfl, hid, rfl⟩
    simp [releaseOf?, Value.asTable?, Table.int?_eq_some_iff.mpr hid]

/-- A release is read with the names that the answer lists. -/
theorem mem_attach_listed {fields : Table} {id : Int} {name : String} :
    name ∈ (PublishedRelease.attach ⟨id, []⟩
      (((fields.list? "assets").getD []).filterMap assetName?)).assets ↔ name ∈ fields.listed := by
  rw [PublishedRelease.mem_attach, List.mem_filterMap]
  simp only [assetName?_eq_some_iff, List.not_mem_nil, or_false]
  constructor
  · rintro ⟨entry, hentry, hne, inner, raw, hinner, hraw, hstrip⟩
    rcases hlist : fields.list? "assets" with _ | items
    · rw [hlist] at hentry
      cases hentry
    · rw [hlist] at hentry
      cases entry <;> cases hinner
      exact ⟨hne, items, Table.list?_eq_some_iff.mp hlist, inner, hentry, raw, hraw, hstrip⟩
  · rintro ⟨hne, items, hitems, entry, hentry, raw, hraw, hstrip⟩
    refine ⟨.table entry, ?_, hne, entry, raw, rfl, hraw, hstrip⟩
    rw [Table.list?_eq_some_iff.mpr hitems]
    exact hentry

/-- What is read from an answer is what the answer shows. -/
theorem shows_of_reading {release : PublishedRelease}
    (h : reading c platform e.answer = .ok (.ok release)) :
    e.Shows release.id {name | name ∈ release.assets} := by
  obtain ⟨output, v, hanswer, hread, hrelease⟩ := reading_eq_ok_ok h
  obtain ⟨fields, id, rfl, hid, rfl⟩ := releaseOf?_eq_some_iff.mp hrelease
  exact ⟨output, fields, hanswer, hread, hid, Set.ext fun _ => mem_attach_listed⟩

/-- An answer that cannot be read shows nothing. -/
theorem not_shows_of_reading {failure : PublishFailure}
    (h : reading c platform e.answer = .ok (.error failure)) : ¬ ∃ id names, e.Shows id names := by
  rintro ⟨id, _, output, fields, hanswer, hread, hid, rfl⟩
  have hrelease := releaseOf?_eq_some_iff.mpr ⟨fields, id, rfl, hid, rfl⟩
  simp only [hanswer, reading, hread, hrelease] at h
  cases h

/-- A look that returns is read as a release or as a failure. -/
theorem exists_reading_eq_ok (h : e.Returns c) (hview : e.Asks c .view) :
    ∃ read, reading c platform e.answer = .ok read := by
  obtain ⟨reply, hanswer, hreadable⟩ := h
  rcases reply with failure | output
  · exact ⟨_, by rw [hanswer]; rfl⟩
  · obtain ⟨read, hread⟩ := hreadable output rfl hview
    rw [hanswer]
    simp only [reading, hread]
    split
    · contradiction
    · exact ⟨_, rfl⟩
    · split
      · exact ⟨_, rfl⟩
      · exact ⟨_, rfl⟩

/-! ## Steps whose commands return -/

theorem Deletions.not_error {fault : Fault} (h : Deletions c token names es (.error fault))
    (hreturns : ∀ e ∈ es, e.Returns c) : False := by
  generalize hr : (.error fault : Except Fault Unit) = r at h
  induction h with
  | done => cases hr
  | answered _ _ _ ih => exact ih (fun e he => hreturns e (List.mem_cons_of_mem _ he)) hr
  | faulted _ hanswer =>
    obtain ⟨reply, hreply, -⟩ := hreturns _ (List.mem_cons_self ..)
    rw [hanswer] at hreply
    cases hreply

theorem Detachment.not_error {fault : Fault}
    (h : Detachment c platform token names es (.error fault))
    (hreturns : ∀ e ∈ es, e.Returns c) : False := by
  cases h with
  | faulted hcommand hread =>
    obtain ⟨read, hok⟩ := exists_reading_eq_ok (hreturns _ (List.mem_cons_self ..))
      (asks_view hcommand)
    rw [hread] at hok
    cases hok
  | read _ _ hdeletions =>
    exact hdeletions.not_error fun e he => hreturns e (List.mem_cons_of_mem _ he)

theorem Attachment.not_error {fault : Fault}
    (h : Attachment c platform token files es (.error fault))
    (hreturns : ∀ e ∈ es, e.Returns c) : False := by
  cases h with
  | faulted _ hanswer =>
    obtain ⟨reply, hreply, -⟩ := hreturns _ (List.mem_cons_self ..)
    rw [hanswer] at hreply
    cases hreply
  | viewed _ _ hlooked hr =>
    obtain ⟨read, hok⟩ := exists_reading_eq_ok
      (hreturns _ (List.mem_cons_of_mem _ (List.mem_singleton_self _))) (asks_view hlooked)
    rw [hok] at hr
    rcases read with failure | release
    · cases hr
    · simp only [confirmation] at hr
      split at hr <;> cases hr

/-- **A publication of which every command returns gives a result**, unless its archive has no
name. -/
theorem Transcript.exists_eq_ok_of_returns
    {r : Except Fault (Except PublishFailure PublishedRelease)}
    (h : Transcript c artifact es r) (hnamed : artifact.archive.parts ≠ [])
    (hreturns : ∀ e ∈ es, e.Returns c) : ∃ result, r = .ok result := by
  cases h with
  | noToken => exact ⟨_, rfl⟩
  | refused hrefused =>
    simp only [Artifact.assets, Artifact.sidecar, sidecarPath, Path.withName?, if_neg hnamed]
      at hrefused
    cases hrefused
  | faulted _ _ hattachment => exact (hattachment.not_error hreturns).elim
  | attached => exact ⟨_, rfl⟩
  | undone => exact ⟨_, rfl⟩
  | lost _ _ _ hback =>
    exact (hback.not_error fun e he => hreturns e (List.mem_append_right _ he)).elim

/-! ## Everything is a request -/

theorem Deletions.asks {r : Except Fault Unit} (h : Deletions c token names es r) :
    ∀ e ∈ es, ∃ request, e.Asks c request := by
  induction h with
  | done => exact List.forall_mem_nil _
  | answered hcommand _ _ ih => exact List.forall_mem_cons.mpr ⟨⟨_, asks_delete hcommand⟩, ih⟩
  | faulted hcommand _ => exact (List.forall_mem_singleton).mpr ⟨_, asks_delete hcommand⟩

theorem Detachment.asks {r : Except Fault Unit} (h : Detachment c platform token names es r) :
    ∀ e ∈ es, ∃ request, e.Asks c request := by
  cases h with
  | faulted hcommand _ | unread hcommand _ =>
    exact (List.forall_mem_singleton).mpr ⟨_, asks_view hcommand⟩
  | read hcommand _ hdeletions =>
    exact List.forall_mem_cons.mpr ⟨⟨_, asks_view hcommand⟩, hdeletions.asks⟩

theorem Attachment.asks {archive sidecar : Path}
    {r : Except Fault (Except PublishFailure PublishedRelease)}
    (h : Attachment c platform token [archive, sidecar] es r) :
    ∀ e ∈ es, ∃ request, e.Asks c request := by
  cases h with
  | faulted hcommand _ | failed hcommand _ =>
    exact (List.forall_mem_singleton).mpr ⟨_, asks_upload hcommand⟩
  | viewed hcommand _ hlooked _ =>
    refine List.forall_mem_cons.mpr ⟨⟨_, asks_upload hcommand⟩, ?_⟩
    exact (List.forall_mem_singleton).mpr ⟨_, asks_view hlooked⟩

/-- Each exchange of a publication is a request to the release. -/
theorem Transcript.asks {r : Except Fault (Except PublishFailure PublishedRelease)}
    (h : Transcript c artifact es r) : ∀ e ∈ es, ∃ request, e.Asks c request := by
  cases h with
  | noToken | refused => exact List.forall_mem_nil _
  | faulted _ hfiles hattachment | attached _ hfiles hattachment =>
    obtain ⟨sidecar, rfl, -⟩ := Artifact.eq_pair_of_assets_eq_ok hfiles
    exact hattachment.asks
  | undone _ hfiles hattachment hback | lost _ hfiles hattachment hback =>
    obtain ⟨sidecar, rfl, -⟩ := Artifact.eq_pair_of_assets_eq_ok hfiles
    exact List.forall_mem_append.mpr ⟨hattachment.asks, hback.asks⟩

end Publication

/-- On a host that never faults, requests return. -/
theorem Host.Conducts.returns {host : Host σ} {s s' : σ} {es : List (Exchange σ)}
    (h : host.Conducts s es s') (hnever : NeverFaults host c)
    (hasks : ∀ e ∈ es, ∃ request, e.Asks c request) : ∀ e ∈ es, e.Returns c := by
  induction es generalizing s with
  | nil => exact List.forall_mem_nil _
  | cons e es ih =>
    obtain ⟨⟨request, hrequest⟩, hrest⟩ := List.forall_mem_cons.mp hasks
    refine List.forall_mem_cons.mpr ⟨?_, ih h.2 hrest⟩
    obtain ⟨reply, hanswer⟩ := hnever.answers h.1 hrequest
    refine ⟨reply, hanswer, ?_⟩
    rintro output rfl hview
    exact hnever.readable h.1 hview hanswer

end Shipyard
