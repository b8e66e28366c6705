import Shipyard.Plan.Event
import Shipyard.Proofs.Data.Table
import Shipyard.Proofs.FileSystem.Disk

/-!
# Accepted events

An event is accepted exactly if its payload announces a release: it was published or created, it has
a tag without separators of paths, and there is a commit. What the event carries is stripped and not
empty, and nothing else of the payload matters (`ReleaseEvent.ofPayload_exact`).

The tag of an event that is accepted stands in the name of every asset. It holds no separator, so
such a name leads into no other directory.
-/

namespace Shipyard.ReleaseEvent

variable {event : ReleaseEvent} {name revision : Option String} {payload release : Table}
  {tag commit : String}

/-! ## What a payload says -/

theorem isTag_iff : isTag tag = true ↔ '/' ∉ tag.toList ∧ '\\' ∉ tag.toList := by
  rw [isTag, Bool.not_eq_true', Bool.eq_false_iff, ne_eq, List.any_eq_true]
  simp only [Bool.or_eq_true, decide_eq_true_eq]
  constructor
  · exact fun h => ⟨fun hmem => h ⟨_, hmem, .inl rfl⟩, fun hmem => h ⟨_, hmem, .inr rfl⟩⟩
  · rintro ⟨hslash, hback⟩ ⟨c, hmem, rfl | rfl⟩
    · exact hslash hmem
    · exact hback hmem

/-- Whether a payload says that its release was published or created. -/
def Acted (payload : Table) : Prop :=
  ∃ raw, payload.find? "action" = some (.text raw) ∧
    (Text.strip raw = "published" ∨ Text.strip raw = "created")

theorem acted_iff : (∃ action ∈ actions, some action = payload.text? "action") ↔ Acted payload := by
  constructor
  · rintro ⟨action, hmem, haction⟩
    obtain ⟨raw, hraw, rfl, -⟩ := Table.text?_eq_some_iff.mp haction.symm
    have hor : Text.strip raw = "created" ∨ Text.strip raw = "published" := by
      simpa [actions] using hmem
    exact ⟨raw, hraw, hor.symm⟩
  · rintro ⟨raw, hraw, hor⟩
    refine ⟨Text.strip raw, by simpa [actions] using hor.symm, Eq.symm ?_⟩
    refine Table.text?_eq_some_iff.mpr ⟨raw, hraw, rfl, ?_⟩
    rcases hor with h | h <;> simp [h]

/-- Whether a release has a tag, in which no path is separated. -/
def Tagged (release : Table) (tag : String) : Prop :=
  ∃ raw, release.find? "tag_name" = some (.text raw) ∧ '/' ∉ raw.toList ∧ '\\' ∉ raw.toList ∧
    Text.strip raw = tag ∧ tag ≠ ""

/-- The blanks around a tag hide no separator. -/
theorem tagged_iff :
    (release.text? "tag_name" = some tag ∧ isTag tag = true) ↔ Tagged release tag := by
  rw [Table.text?_eq_some_iff, isTag_iff]
  constructor
  · rintro ⟨⟨raw, hraw, rfl, hne⟩, hslash, hback⟩
    rw [Text.mem_strip_iff (by decide)] at hslash hback
    exact ⟨raw, hraw, hslash, hback, rfl, hne⟩
  · rintro ⟨raw, hraw, hslash, hback, rfl, hne⟩
    refine ⟨⟨raw, hraw, rfl, hne⟩, ?_⟩
    rw [Text.mem_strip_iff (by decide), Text.mem_strip_iff (by decide)]
    exact ⟨hslash, hback⟩

/-- Whether a commit is the revision that is given or, if none is or a blank one, the target of the
release. -/
def Committed (revision : Option String) (release : Table) (commit : String) : Prop :=
  commit ≠ "" ∧
    ((∃ raw, revision = some raw ∧ Text.strip raw = commit) ∨
      (∀ raw, revision = some raw → Text.strip raw = "") ∧
        ∃ raw, release.find? "target_commitish" = some (.text raw) ∧ Text.strip raw = commit)

/-- Without a revision the target of the release is taken. -/
theorem commit?_of_blank (h : ∀ raw, revision = some raw → Text.strip raw = "") :
    commit? revision release = release.text? "target_commitish" := by
  have hblank : Text.strip (revision.getD "") = "" := by
    rcases revision with _ | raw
    · decide
    · exact h raw rfl
  rw [commit?, hblank]
  rfl

theorem commit?_of_given {raw : String} (h : Text.strip raw ≠ "") :
    commit? (some raw) release = some (Text.strip raw) := by
  rw [commit?, Option.getD_some, if_pos h]

theorem committed_iff :
    commit? revision release = some commit ↔ Committed revision release commit := by
  by_cases hblank : ∀ raw, revision = some raw → Text.strip raw = ""
  · rw [commit?_of_blank hblank, Table.text?_eq_some_iff]
    constructor
    · rintro ⟨raw, hraw, hstrip, hne⟩
      exact ⟨hne, .inr ⟨hblank, raw, hraw, hstrip⟩⟩
    · rintro ⟨hne, ⟨raw, hgiven, hstrip⟩ | ⟨-, raw, hraw, hstrip⟩⟩
      · exact absurd (hstrip.symm.trans (hblank raw hgiven)) hne
      · exact ⟨raw, hraw, hstrip, hne⟩
  · obtain ⟨raw, hraw⟩ := not_forall.mp hblank
    obtain ⟨rfl, hne⟩ := Classical.not_imp.mp hraw
    rw [commit?_of_given hne, Option.some.injEq]
    constructor
    · rintro rfl
      exact ⟨hne, .inl ⟨raw, rfl, rfl⟩⟩
    · rintro ⟨-, ⟨_, ⟨⟩, hstrip⟩ | ⟨hall, -⟩⟩
      · exact hstrip
      · exact absurd (hall raw rfl) hne

/-! ## Acceptance -/

/-- Whether a payload announces the release of an event, under the name that the event may have and
with the revision that may be given. -/
structure Announces (payload : Table) (name revision : Option String) (event : ReleaseEvent) :
    Prop where
  /-- a name is that of the events of releases -/
  named : name = none ∨ name = some "release"
  /-- the release was published or created -/
  acted : Acted payload
  /-- there is a release, with the tag and the commit of the event -/
  released : ∃ release : Table, payload.find? "release" = some (.table release) ∧
    Tagged release event.tag ∧ Committed revision release event.revision

/-- A name of the right kind does not matter. -/
theorem ofPayload_eventName :
    ofPayload payload (some eventName) revision = ofPayload payload none revision := by
  simp [ofPayload]

/-- Any other name is rejected. -/
theorem ofPayload_of_ne {other : String} (h : other ≠ eventName) :
    ofPayload payload (some other) revision =
      .error ⟨"not a release event: " ++ other,
        some "this pipeline only runs on release published/created"⟩ := by
  simp only [ofPayload, if_pos h]
  rfl

/-- An event without a name is given behind all checks of the payload. -/
theorem ofPayload_none_eq_ok_iff :
    ofPayload payload none revision = .ok event ↔
      (∃ action ∈ actions, some action = payload.text? "action") ∧
        ∃ release, payload.table? "release" = some release ∧
          (release.text? "tag_name" = some event.tag ∧ isTag event.tag = true) ∧
          commit? revision release = some event.revision := by
  have hactions : (∃ action ∈ actions, some action = payload.text? "action") ↔
      actions.any (some · = payload.text? "action") = true := by
    simp only [List.any_eq_true, decide_eq_true_eq]
  simp only [hactions, ofPayload, bind, Except.bind, pure, Except.pure, throw, throwThe,
    MonadExceptOf.throw]
  constructor
  · intro h
    split at h
    · cases h
    next haction =>
    split at h
    case h_2 => cases h
    next release hrelease =>
    split at h
    case h_2 => cases h
    next tag htag =>
    split at h
    · cases h
    next hisTag =>
    split at h
    case h_2 => cases h
    next commit hcommit =>
    cases h
    exact ⟨by simpa using haction, release, hrelease, ⟨htag, by simpa using hisTag⟩, hcommit⟩
  · rintro ⟨haction, release, hrelease, ⟨htag, hisTag⟩, hcommit⟩
    simp only [haction, hrelease, htag, hisTag, hcommit]
    simp

theorem ofPayload_eq_ok_iff :
    ofPayload payload name revision = .ok event ↔ Announces payload name revision event := by
  have hpayload : ofPayload payload none revision = .ok event ↔ Acted payload ∧
      ∃ release : Table, payload.find? "release" = some (.table release) ∧
        Tagged release event.tag ∧ Committed revision release event.revision := by
    simp only [ofPayload_none_eq_ok_iff, acted_iff, Table.table?_eq_some_iff, tagged_iff,
      committed_iff]
  by_cases hname : name = none ∨ name = some "release"
  · have hsame : ofPayload payload name revision = ofPayload payload none revision := by
      rcases hname with rfl | rfl
      · rfl
      · exact ofPayload_eventName
    rw [hsame, hpayload]
    exact ⟨fun ⟨hacted, hreleased⟩ => ⟨hname, hacted, hreleased⟩,
      fun h => ⟨h.acted, h.released⟩⟩
  · rcases name with _ | other
    · exact absurd (.inl rfl) hname
    rw [ofPayload_of_ne fun h => hname (.inr (congrArg some h))]
    exact ⟨nofun, fun h => absurd h.named hname⟩

/-- Whether two payloads say the same of what is read: of the action, the tag and the target. -/
structure SameSubject (payload payload' : Table) : Prop where
  /-- the actions are the same -/
  action : payload'.text? "action" = payload.text? "action"
  /-- both have a release or none, and the releases have the same tag and the same target -/
  release :
    (payload'.table? "release").map (fun r => (r.text? "tag_name", r.text? "target_commitish")) =
      (payload.table? "release").map fun r => (r.text? "tag_name", r.text? "target_commitish")

/-- Nothing else of a payload matters, not even for the reason of a rejection. -/
theorem SameSubject.ofPayload_eq {payload' : Table} (h : SameSubject payload payload') :
    ofPayload payload' name revision = ofPayload payload name revision := by
  unfold ofPayload
  rw [h.action]
  rcases hrelease : payload.table? "release" with _ | release
  · have hnone := h.release
    rw [hrelease, Option.map_none, Option.map_eq_none_iff] at hnone
    rw [hnone]
  · have hsome := h.release
    rw [hrelease, Option.map_some, Option.map_eq_some_iff] at hsome
    obtain ⟨release', hrelease', hsame⟩ := hsome
    obtain ⟨htag, htarget⟩ := Prod.mk.inj hsame
    have hcommit : commit? revision release' = commit? revision release := by
      rw [commit?, commit?, htarget]
    simp only [hrelease', htag, hcommit]

/-- **Which payloads are accepted.** Exactly those that announce a release, with what they announce;
both texts of the event are stripped and not empty; nothing else of the payload matters; and every
other payload is rejected. -/
theorem ofPayload_exact (payload : Table) (name revision : Option String) :
    (∀ event, ofPayload payload name revision = .ok event ↔
        Announces payload name revision event) ∧
      (∀ event, Announces payload name revision event →
        (event.tag ≠ "" ∧ Text.strip event.tag = event.tag) ∧
          event.revision ≠ "" ∧ Text.strip event.revision = event.revision) ∧
      (∀ payload', SameSubject payload payload' →
        ofPayload payload' name revision = ofPayload payload name revision) ∧
      ((¬ ∃ event, Announces payload name revision event) →
        ∃ rejection, ofPayload payload name revision = .error rejection) := by
  refine ⟨fun event => ofPayload_eq_ok_iff, ?_, fun payload' h => h.ofPayload_eq, fun h => ?_⟩
  · rintro event ⟨-, -, release, -, ⟨raw, -, -, -, htag, htag_ne⟩, hcommit_ne, hcommit⟩
    refine ⟨⟨htag_ne, by rw [← htag, Text.strip_strip]⟩, hcommit_ne, ?_⟩
    rcases hcommit with ⟨given, -, hgiven⟩ | ⟨-, target, -, htarget⟩
    · rw [← hgiven, Text.strip_strip]
    · rw [← htarget, Text.strip_strip]
  · rcases hresult : ofPayload payload name revision with rejection | event
    · exact ⟨rejection, rfl⟩
    · exact absurd ⟨event, ofPayload_eq_ok_iff.mp hresult⟩ h

/-! ## Tags in names -/

theorem slash_notMem_of_isTag (h : isTag tag = true) : '/' ∉ tag.toList :=
  (isTag_iff.mp h).1

/-- The tag of an event is checked whatever else the payload holds. -/
theorem isTag_of_ofPayload (h : ofPayload payload name revision = .ok event) :
    isTag event.tag = true := by
  obtain ⟨-, -, release, -, htagged, -⟩ := ofPayload_eq_ok_iff.mp h
  exact (tagged_iff.mpr htagged).2

/-- An event that is read from a file has a tag. -/
theorem isTag_of_load {path : Path} {fs : FileSystem}
    (h : ((load path name revision).runOn fs).1 = .ok (.ok event)) : isTag event.tag = true := by
  have hgives : Disk.Gives (load path name revision) fun r =>
      ∀ event, r = .ok event → isTag event.tag = true := by
    refine Disk.gives_bind fun text => ?_
    rcases text with e | text
    · exact Disk.gives_pure nofun
    dsimp only
    split
    · exact Disk.gives_throw
    · exact Disk.gives_pure nofun
    · split
      · exact Disk.gives_pure nofun
      · exact Disk.gives_pure fun event h => isTag_of_ofPayload h
  exact hgives fs _ h event rfl

end Shipyard.ReleaseEvent
