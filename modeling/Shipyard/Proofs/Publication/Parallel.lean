import Mathlib.Data.List.Sort
import Mathlib.Data.String.Basic
import Shipyard.Proofs.Run.Steady

/-!
# Publications side by side

Two runs of a publication on releases that hold the same of its names, whatever else they hold. All
that a publication asks of a release is whether these names are attached, so both end in the same
way and leave the same of their names.
-/

namespace Shipyard

variable {σ : Type} {host : Host σ} {c : RunContext} {assets : σ → Set String}
  {F : FileSystem → FileSystem → Prop} {names : List String} {s₁ s₂ s t : σ} {fs gs : FileSystem}
  {name platform token : String} {artifact : Artifact}

/-! ## Restricted releases -/

theorem pairwise_insertName (h : names.Pairwise (· < ·)) :
    (insertName name names).Pairwise (· < ·) := by
  induction names with
  | nil => exact List.pairwise_singleton ..
  | cons other rest ih =>
    obtain ⟨hother, hrest⟩ := List.pairwise_cons.mp h
    unfold insertName
    split
    · exact h
    split
    · next hlt =>
      refine List.pairwise_cons.mpr ⟨List.forall_mem_cons.mpr ⟨hlt, ?_⟩, h⟩
      exact fun x hx => hlt.trans (hother x hx)
    · next hne hnlt =>
      refine List.pairwise_cons.mpr ⟨fun x hx => ?_, ih hrest⟩
      rcases mem_insertName.mp hx with rfl | hx
      · exact lt_of_le_of_ne (not_lt.mp hnlt) (Ne.symm hne)
      · exact hother x hx

namespace PublishedRelease

variable {r r' : PublishedRelease}

theorem pairwise_attach (h : r.assets.Pairwise (· < ·)) :
    (r.attach names).assets.Pairwise (· < ·) := by
  show (names.foldr insertName r.assets).Pairwise (· < ·)
  induction names with
  | nil => exact h
  | cons name rest ih => exact pairwise_insertName ih

theorem mem_restrict : name ∈ (r.restrict names).assets ↔ name ∈ r.assets ∧ name ∈ names := by
  simp [restrict]

theorem mem_assets_iff (h : r.restrict names = r'.restrict names) (hname : name ∈ names) :
    name ∈ r.assets ↔ name ∈ r'.assets := by
  have hmem := congrArg (fun r : PublishedRelease => name ∈ r.assets) h
  simp only [mem_restrict, hname, and_true, eq_iff_iff] at hmem
  exact hmem

/-- Of two releases with one number the same is left if they hold the same of the names. -/
theorem restrict_eq_restrict (hid : r.id = r'.id) (hr : r.assets.Pairwise (· < ·))
    (hr' : r'.assets.Pairwise (· < ·)) (h : ∀ name ∈ names, (name ∈ r.assets ↔ name ∈ r'.assets)) :
    r.restrict names = r'.restrict names := by
  have hassets : (r.restrict names).assets = (r'.restrict names).assets := by
    refine List.Pairwise.eq_of_mem_iff (hr.filter _) (hr'.filter _) fun name => ?_
    rw [mem_restrict, mem_restrict]
    exact and_congr_left (h name)
  obtain ⟨id, assets⟩ := r
  obtain ⟨id', assets'⟩ := r'
  obtain rfl : id = id' := hid
  exact congrArg (PublishedRelease.mk id) hassets

end PublishedRelease

/-! ## Looks -/

namespace Publication

open Shipyard.Action

/-- What is made of two looks: the same failure, or releases of which the same is left. -/
inductive Matching (names : List String) :
    Except PublishFailure PublishedRelease → Except PublishFailure PublishedRelease → Prop
  /-- both looks failed -/
  | failed {failure : PublishFailure} : Matching names (.error failure) (.error failure)
  /-- both have shown a release -/
  | shown {r r' : PublishedRelease} : r.restrict names = r'.restrict names →
      Matching names (.ok r) (.ok r')

/-- A look is the reading of an answer. -/
theorem runOn_view (host : Host σ) (c : RunContext) (platform token : String) (w : World σ) :
    runOn (view host c platform token) w =
      (reading c platform (host.answer (viewCommand c token) w.files w.outside).1,
        (runOn (issue host (viewCommand c token)) w).2) := by
  have hissue := runOn_issue host (viewCommand c token) w
  rcases hanswer : (host.answer (viewCommand c token) w.files w.outside).1 with
    fault | failure | output
  all_goals rw [hanswer] at hissue
  · rw [hissue]
    exact runOn_bind_error hissue
  · rw [hissue]
    exact runOn_bind_ok hissue
  · rw [hissue]
    refine (runOn_bind_ok hissue).trans ?_
    rcases hread : Value.ofJson output with fault | what | answer
    · simp only [reading, hread]
      rfl
    · simp only [reading, hread]
      rfl
    · simp only [reading, hread]
      refine (runOn_bind_ok (runOn_orFault (Except.ok (Except.ok answer)) _)).trans ?_
      rcases hrelease : releaseOf? answer with _ | release
      · simp only [hrelease]
        rfl
      · simp only [hrelease]
        rfl

theorem not_builds_of_gh {command : Command} (h : command.argv.head? = some "gh") :
    ¬ command.Builds := by
  rintro ⟨program, hprogram, hhead⟩
  obtain rfl : "gh" = program := Option.some.inj (h.symm.trans hhead)
  revert hprogram
  decide

/-- A release that was read has the number of the answer, and its names are increasing. -/
theorem of_releaseOf? {v : Value} {r : PublishedRelease} (h : releaseOf? v = some r) :
    v.asTable?.bind (·.int? "databaseId") = some r.id ∧ r.assets.Pairwise (· < ·) := by
  obtain ⟨t, ht, h⟩ := Option.bind_eq_some_iff.mp h
  obtain ⟨id, hid, h⟩ := Option.bind_eq_some_iff.mp h
  obtain rfl := Option.some.inj h
  refine ⟨?_, PublishedRelease.pairwise_attach List.Pairwise.nil⟩
  rw [ht]
  exact hid

/-- Two descriptions with one number are read as releases of which the same is left. -/
theorem restrict_eq_of_describes {v v' : Value} {shown shown' : Set String} {id : Int}
    (h : Describes v shown) (h' : Describes v' shown')
    (hid : v.asTable?.bind (·.int? "databaseId") = some id)
    (hid' : v'.asTable?.bind (·.int? "databaseId") = some id)
    (hsame : ∀ raw, Text.strip raw ∈ names → (raw ∈ shown' ↔ raw ∈ shown)) :
    ∃ r r', releaseOf? v = some r ∧ releaseOf? v' = some r' ∧
      r.restrict names = r'.restrict names := by
  obtain ⟨r, hr, hmem⟩ := h.exists_releaseOf?
  obtain ⟨r', hr', hmem'⟩ := h'.exists_releaseOf?
  obtain ⟨hnumber, hincreasing⟩ := of_releaseOf? hr
  obtain ⟨hnumber', hincreasing'⟩ := of_releaseOf? hr'
  refine ⟨r, r', hr, hr', PublishedRelease.restrict_eq_restrict ?_ hincreasing hincreasing' ?_⟩
  · exact Option.some.inj ((hnumber.symm.trans hid).trans (hid'.symm.trans hnumber'))
  · intro name hname
    rw [hmem, hmem']
    refine and_congr_right fun _ => exists_congr fun raw => and_congr_left fun hraw => ?_
    exact (hsame raw (hraw ▸ hname)).symm

/-- Looks at releases that hold the same of some names match. -/
theorem reading_matching (hsteady : Steady host c assets) (hassets : Sharing assets names s₁ s₂ s t)
    {command : Command} (hlooks : command.argv = ReleaseRequest.view.argv c) (fs gs : FileSystem)
    (platform : String) :
    (∃ x y, reading c platform (host.answer command fs s).1 = .ok x ∧
        reading c platform (host.answer command gs t).1 = .ok y ∧ Matching names x y) ∨
      ∃ fault, reading c platform (host.answer command fs s).1 = .error fault ∧
        reading c platform (host.answer command gs t).1 = .error fault := by
  rcases hsteady.looks hlooks with ⟨answer, hanswer⟩ | ⟨id, hshows⟩
  · rw [hanswer, hanswer]
    rcases reading c platform answer with fault | failure | r
    · exact .inr ⟨fault, rfl, rfl⟩
    · exact .inl ⟨_, _, rfl, rfl, .failed⟩
    · exact .inl ⟨_, _, rfl, rfl, .shown rfl⟩
  · obtain ⟨output, v, hanswer, hread, hdescribes, hid⟩ := hshows fs s
    obtain ⟨output', v', hanswer', hread', hdescribes', hid'⟩ := hshows gs t
    obtain ⟨r, r', hr, hr', hsame⟩ := restrict_eq_of_describes hdescribes hdescribes' hid hid'
      fun raw hraw => hassets.same raw (.inr hraw)
    refine .inl ⟨.ok r, .ok r', ?_, ?_, .shown hsame⟩
    · simp only [hanswer, reading, hread, hr]
    · simp only [hanswer', reading, hread', hr']

/-! ## Steps -/

variable (hsteady : Steady host c assets)

include hsteady

/-- Looks go alike. -/
theorem pairs_view (platform token : String) :
    Pairs (Joined F (Sharing assets names s₁ s₂)) (view host c platform token)
      (view host c platform token)
      (Keeping (Joined F (Sharing assets names s₁ s₂)) (Matching names))
      (Joined F (Sharing assets names s₁ s₂)) := by
  intro w w' hw
  have hbuilds : ¬ (viewCommand c token).Builds := not_builds_of_gh rfl
  have hleft : Joined F (Sharing assets names s₁ s₂)
      (runOn (issue host (viewCommand c token)) w).2.scene
      (runOn (issue host (viewCommand c token)) w').2.scene := by
    rw [runOn_issue, runOn_issue]
    refine ⟨?_, hw.2.answer hsteady (fun _ h => absurd h List.not_mem_nil) w.files w'.files⟩
    show F (host.answer _ w.files w.outside).2.1 (host.answer _ w'.files w'.outside).2.1
    rw [hsteady.writesNothing _ _ hbuilds, hsteady.writesNothing _ _ hbuilds]
    exact hw.1
  rw [runOn_view, runOn_view]
  rcases reading_matching hsteady hw.2 (show (viewCommand c token).argv = _ from rfl) w.files
    w'.files platform with
    ⟨x, y, hx, hy, hmatching⟩ | ⟨fault, hx, hy⟩
  · exact .inl ⟨x, y, _, _, by rw [← hx]; rfl, by rw [← hy]; rfl, hmatching, hleft⟩
  · exact .inr ⟨fault, _, _, by rw [← hx]; rfl, by rw [← hy]; rfl, hleft⟩

/-- Deletions go alike. -/
theorem pairs_deleteAttached (token : String) {r r' : PublishedRelease}
    (hsame : r.restrict names = r'.restrict names) (out : Console) {rest : List String}
    (hrest : ∀ name ∈ rest, name ∈ names) :
    Pairs (Joined F (Sharing assets names s₁ s₂)) (deleteAttached host c token r.assets out rest)
      (deleteAttached host c token r'.assets out rest)
      (Keeping (Joined F (Sharing assets names s₁ s₂)) Eq)
      (Joined F (Sharing assets names s₁ s₂)) := by
  induction rest with
  | nil => exact pairs_pure fun p q h => ⟨rfl, h⟩
  | cons name rest ih =>
    obtain ⟨hname, hrest⟩ := List.forall_mem_cons.mp hrest
    -- the two releases differ in names of other branches only
    have hcontains : r.assets.contains name = r'.assets.contains name := by
      rw [Bool.eq_iff_iff, List.contains_iff_mem, List.contains_iff_mem]
      exact PublishedRelease.mem_assets_iff hsame hname
    unfold deleteAttached
    rw [hcontains]
    by_cases hattached : r'.assets.contains name = true
    · simp only [hattached, if_true]
      have hlooks : ¬ (deleteCommand c token name).Looks := by
        show ¬ some (ReleaseRequest.delete name) = some .view
        nofun
      refine .echo_bind ((hsteady.pairs_issue_of_not_builds hlooks
        (List.forall_mem_singleton.mpr hname) (not_builds_of_gh rfl)).bind_keeping ?_)
      rintro reply _ rfl
      cases reply with
      | error failure => exact .tell_bind (ih hrest)
      | ok output => exact ih hrest
    · simp only [hattached]
      exact ih hrest

/-- So does the way back. -/
theorem pairs_detach (platform token : String) (out : Console) :
    Pairs (Joined F (Sharing assets names s₁ s₂)) (detach host c platform token names out)
      (detach host c platform token names out)
      (Keeping (Joined F (Sharing assets names s₁ s₂)) Eq)
      (Joined F (Sharing assets names s₁ s₂)) := by
  refine (pairs_view hsteady platform token).bind_keeping fun x y hmatching => ?_
  cases hmatching with
  | failed => exact pairs_tell fun p q h => ⟨rfl, h⟩
  | shown hsame => exact pairs_deleteAttached hsteady token hsame out fun name hname => hname

/-- Uploads are confirmed alike. -/
theorem pairs_attachAndConfirm (platform token : String) {archive sidecar : Path}
    (htouched : (ReleaseRequest.upload archive.text sidecar.text).touched =
      [archive, sidecar].map (·.name)) (out : Console) :
    Pairs (Joined F (Sharing assets ([archive, sidecar].map (·.name)) s₁ s₂))
      (attachAndConfirm host c platform token [archive, sidecar] out)
      (attachAndConfirm host c platform token [archive, sidecar] out)
      (Keeping (Joined F (Sharing assets ([archive, sidecar].map (·.name)) s₁ s₂))
        (Matching ([archive, sidecar].map (·.name))))
      (Joined F (Sharing assets ([archive, sidecar].map (·.name)) s₁ s₂)) := by
  have hnames : ∀ name ∈ (uploadCommand c token [archive, sidecar]).touched,
      name ∈ [archive, sidecar].map (·.name) := fun name hname => htouched ▸ hname
  have hlooks : ¬ (uploadCommand c token [archive, sidecar]).Looks := by
    show ¬ some (ReleaseRequest.upload archive.text sidecar.text) = some .view
    nofun
  unfold attachAndConfirm
  refine .echo_bind ((hsteady.pairs_issue_of_not_builds hlooks hnames
    (not_builds_of_gh rfl)).bind_keeping ?_)
  rintro reply _ rfl
  cases reply with
  | error failure => exact pairs_pure fun p q h => ⟨.failed, h⟩
  | ok output =>
    refine (pairs_view hsteady platform token).bind_keeping fun x y hmatching => ?_
    cases hmatching with
    | failed => exact pairs_pure fun p q h => ⟨.failed, h⟩
    | @shown r r' hsame =>
      have hmissing : ([archive, sidecar].map (·.name)).filter
            (fun name => !r.assets.contains name) =
          ([archive, sidecar].map (·.name)).filter fun name => !r'.assets.contains name := by
        refine List.filter_congr fun name hname => congrArg (! ·) ?_
        rw [Bool.eq_iff_iff, List.contains_iff_mem, List.contains_iff_mem]
        exact PublishedRelease.mem_assets_iff hsame hname
      dsimp only
      rw [hmissing]
      split
      · exact pairs_pure fun p q h => ⟨.shown hsame, h⟩
      · exact pairs_pure fun p q h => ⟨.failed, h⟩

/-- **Publications go alike.** -/
theorem pairs_run (hartifact : Path.IsName artifact.archiveName) (out : Console) :
    Pairs (Joined F (Sharing assets artifact.names s₁ s₂)) (run host c artifact out)
      (run host c artifact out)
      (Keeping (Joined F (Sharing assets artifact.names s₁ s₂)) (Matching artifact.names))
      (Joined F (Sharing assets artifact.names s₁ s₂)) := by
  unfold run
  rcases c.publishToken? with _ | token
  · exact pairs_pure fun p q h => ⟨.failed, h⟩
  refine .orRefused_bind (fun files hfiles => ?_) fun p q h => h
  have hnames := Artifact.names_of_assets_eq_ok hfiles
  obtain ⟨sidecar, rfl, htouched⟩ := touched_upload hartifact hfiles
  rw [← hnames] at htouched ⊢
  refine (pairs_attachAndConfirm hsteady artifact.platform token htouched out).bind_keeping
    fun x y hmatching => ?_
  cases hmatching with
  | shown hsame => exact pairs_pure fun p q h => ⟨.shown hsame, h⟩
  | failed =>
    refine (pairs_detach hsteady artifact.platform token out).bind_keeping fun _ _ _ => ?_
    exact pairs_pure fun p q h => ⟨.failed, h⟩

end Publication

end Shipyard
