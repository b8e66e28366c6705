import Shipyard.Proofs.Run.Outcomes
import Shipyard.Proofs.Run.Requests

/-!
# What a failed branch leaves

A branch that fails takes its assets off the release again, but only where the publication returns
its failure. A fault goes past the way back: it may come from the upload itself, and from a look
behind it whose output cannot be read, and then what was uploaded stays. The same holds of a name
with blanks around it, which the way back never finds. These are the only leftovers
(`Release.mem_assets_of_failed`).
-/

namespace Shipyard

variable {σ : Type} {host : Host σ} {c : RunContext} {assets : σ → Set String} {s s' : σ}
  {es : List (Exchange σ)} {target : BuildTarget} {name : String}

/-! ## Exchanges without requests -/

/-- Whether nothing but requests changes a release. -/
def ChangedByRequests (host : Host σ) (c : RunContext) (assets : σ → Set String) : Prop :=
  ∀ s e, host.Gives s e → (∀ request, ¬ e.Asks c request) → assets e.left = assets s

theorem ChangedByRequests.assets_eq (hothers : ChangedByRequests host c assets)
    (hc : host.Conducts s es s') (h : ∀ e ∈ es, e.request? = none) : assets s' = assets s := by
  induction es generalizing s with
  | nil =>
    obtain rfl : s' = s := hc
    rfl
  | cons e es ih =>
    have hall := List.forall_mem_cons.mp h
    rw [ih hc.2 hall.2]
    refine hothers s e hc.1 fun request hasks => ?_
    rw [hasks.request?_eq] at hall
    cases hall.1

/-! ## Branches -/

namespace Branch

/-- **A branch touches no assets but its own.** -/
theorem Transcript.keeps {ended : Except Fault BranchOutcome} (h : Transcript c target es ended)
    (hbuiltIn : target ∈ BuildTarget.all) (hserves : Serves host c assets)
    (hothers : ChangedByRequests host c assets) (hc : host.Conducts s es s')
    (hname : name ∉ c.assetNames target) : name ∈ assets s' ↔ name ∈ assets s := by
  rcases h.exists_publication with
    hbuilds | ⟨before, publication, artifact, r, rfl, hbuilds, harchive, hpublication, -⟩
  · rw [hothers.assets_eq hc fun e he => (hbuilds e he).request?_eq_none]
  · obtain ⟨s₁, hc₁, hc₂⟩ := hc.split
    rw [← names_of_archive harchive] at hname
    have hartifact := isName_of_archive hbuiltIn harchive
    rw [hpublication.keeps hartifact hserves hc₂ hname,
      hothers.assets_eq hc₁ fun e he => (hbuilds e he).request?_eq_none]

theorem Transcript.beginsAfresh {ended : Except Fault BranchOutcome}
    (h : Transcript c target es ended) (hbuiltIn : target ∈ BuildTarget.all) :
    BeginsAfresh es ∧
      ∀ names, names ≠ c.assetNames target → ∀ e ∈ es, e.uploads names = false := by
  have hsilent : ∀ {es : List (Exchange σ)}, (∀ e ∈ es, e.Builds) →
      BeginsAfresh es ∧ ∀ names, ∀ e ∈ es, e.uploads names = false := by
    intro es hbuilds
    refine ⟨fun e he => ?_, fun names e he => ?_⟩
    · have hnone := (hbuilds e (List.mem_of_head? he)).request?_eq_none
      exact Exchange.not_tidies_of_request?_eq_none hnone
    · exact Exchange.not_uploads_of_request?_eq_none (hbuilds e he).request?_eq_none
  rcases h.exists_publication with
    hbuilds | ⟨before, publication, artifact, r, rfl, hbuilds, harchive, hpublication, -⟩
  · exact ⟨(hsilent hbuilds).1, fun names _ => (hsilent hbuilds).2 names⟩
  · have hartifact : Path.IsName artifact.archiveName := isName_of_archive hbuiltIn harchive
    have hupload := hpublication.oneUpload hartifact
    refine ⟨(hsilent hbuilds).1.append hupload.beginsAfresh, fun names hne => ?_⟩
    rw [← names_of_archive harchive] at hne
    exact List.forall_mem_append.mpr ⟨(hsilent hbuilds).2 names, hupload.not_uploads hne⟩

theorem exists_crash_endOf_iff {artifact : Artifact}
    {r : Except Fault (Except PublishFailure PublishedRelease)} :
    (∃ crash, (Release.settled target (endOf target artifact r)).error = some (.crashed crash)) ↔
      ∃ fault, r = .error fault := by
  rcases r with fault | failure | release
  · exact ⟨fun _ => ⟨fault, rfl⟩, fun _ => ⟨_, rfl⟩⟩
  · refine ⟨fun h => ?_, fun h => ?_⟩
    · obtain ⟨crash, ⟨⟩⟩ := h
    · obtain ⟨fault, ⟨⟩⟩ := h
  · refine ⟨fun h => ?_, fun h => ?_⟩
    · obtain ⟨crash, ⟨⟩⟩ := h
    · obtain ⟨fault, ⟨⟩⟩ := h

/-- **What a failed branch leaves.** If everything went well on its way back, those of its names are
left that its upload attached, if it met a fault or if there are blanks around the name. -/
theorem Transcript.mem_iff_of_failed {ended : Except Fault BranchOutcome}
    (h : Transcript c target es ended) (hbuiltIn : target ∈ BuildTarget.all)
    (hserves : Serves host c assets) (hothers : ChangedByRequests host c assets)
    (hc : host.Conducts s es s') (hfailed : (Release.settled target ended).state = .failed)
    (hfresh : name ∉ assets s) (hname : name ∈ c.assetNames target)
    (hback : ∀ e ∈ cleanupOf (c.assetNames target) es, e.succeeded = true) :
    name ∈ assets s' ↔
      (∃ e ∈ es, e.uploads (c.assetNames target) = true ∧ name ∈ assets e.left) ∧
        ((∃ crash, (Release.settled target ended).error = some (.crashed crash)) ∨
          Text.strip name ≠ name) := by
  rcases h.exists_publication with
    hbuilds | ⟨before, publication, artifact, r, rfl, hbuilds, harchive, hpublication, rfl⟩
  · -- no publication, so nothing was uploaded and nothing is left
    rw [hothers.assets_eq hc fun e he => (hbuilds e he).request?_eq_none]
    refine ⟨fun hmem => absurd hmem hfresh, ?_⟩
    rintro ⟨⟨e, he, huploads, -⟩, -⟩
    rw [Exchange.not_uploads_of_request?_eq_none (hbuilds e he).request?_eq_none] at huploads
    cases huploads
  · obtain ⟨s₁, hc₁, hc₂⟩ := hc.split
    have hartifact : Path.IsName artifact.archiveName := isName_of_archive hbuiltIn harchive
    have hnotUploads : ∀ e ∈ before, e.uploads (c.assetNames target) = false := fun e he =>
      Exchange.not_uploads_of_request?_eq_none (hbuilds e he).request?_eq_none
    have hupload := hpublication.oneUpload hartifact
    have hr : ∀ release, r ≠ .ok (.ok release) := by
      rintro release rfl
      cases hfailed
    rw [names_of_archive harchive] at hupload
    rw [cleanupOf_append_left hnotUploads, hupload.cleanupOf_eq] at hback
    rw [exists_crash_endOf_iff, hpublication.mem_iff_of_not_attached hartifact hserves hc₂ hback hr
      ((names_of_archive harchive).symm ▸ hname)]
    -- the publication is empty if it had no token; else its first exchange is the upload
    rcases hupload with rfl | ⟨e, rest, rfl, huploads, hrest⟩
    · rw [hothers.assets_eq hc₁ fun e he => (hbuilds e he).request?_eq_none]
      refine ⟨fun hmem => absurd hmem hfresh, ?_⟩
      rintro ⟨⟨e, he, huploads, -⟩, -⟩
      rw [List.append_nil] at he
      rw [hnotUploads e he] at huploads
      cases huploads
    · refine and_congr_left fun _ => ⟨fun hmem => ⟨e, by simp, huploads, hmem⟩, ?_⟩
      rintro ⟨e', he', huploads', hmem⟩
      rcases List.mem_append.mp he' with he' | he'
      · rw [hnotUploads e' he'] at huploads'
        cases huploads'
      rcases List.mem_cons.mp he' with rfl | he'
      · exact hmem
      · rw [Exchange.not_uploads_of_tidies (hrest e' he')] at huploads'
        cases huploads'

end Branch

/-! ## Runs -/

namespace Release

variable {targets : List BuildTarget} {outcomes : List BranchOutcome}

theorem assetNames_ne {target' : BuildTarget} (h : target ∈ BuildTarget.all)
    (h' : target' ∈ BuildTarget.all) (hne : target ≠ target') :
    c.assetNames target ≠ c.assetNames target' := by
  intro heq
  have hmem : (c.archivePath target).name ∈ c.assetNames target := List.mem_cons_self ..
  exact hne (RunContext.eq_of_mem_assetNames h h' hmem (heq ▸ hmem))

/-- Exchanges of other parts of a run: they leave the assets of a target alone. -/
structure Apart (host : Host σ) (c : RunContext) (assets : σ → Set String) (target : BuildTarget)
    (es : List (Exchange σ)) : Prop where
  /-- the assets are kept -/
  keeps {s s' : σ} {name : String} : host.Conducts s es s' → name ∈ c.assetNames target →
    (name ∈ assets s' ↔ name ∈ assets s)
  /-- they are not uploaded -/
  not_uploads : ∀ e ∈ es, e.uploads (c.assetNames target) = false
  /-- no way back is continued -/
  afresh : BeginsAfresh es

theorem Apart.append {es' : List (Exchange σ)} (h : Apart host c assets target es)
    (h' : Apart host c assets target es') : Apart host c assets target (es ++ es') where
  keeps hc hname := by
    obtain ⟨s₁, hc₁, hc₂⟩ := hc.split
    rw [h'.keeps hc₂ hname, h.keeps hc₁ hname]
  not_uploads := List.forall_mem_append.mpr ⟨h.not_uploads, h'.not_uploads⟩
  afresh := h.afresh.append h'.afresh

theorem apart_of_silent (hothers : ChangedByRequests host c assets)
    (h : ∀ e ∈ es, e.request? = none) : Apart host c assets target es where
  keeps hc _ := by rw [hothers.assets_eq hc h]
  not_uploads e he := Exchange.not_uploads_of_request?_eq_none (h e he)
  afresh e he := Exchange.not_tidies_of_request?_eq_none (h e (List.mem_of_head? he))

/-- The branches of other targets are apart. -/
theorem Branches.apart (h : Branches c targets es outcomes)
    (hbuiltIn : ∀ target ∈ targets, target ∈ BuildTarget.all) (hserves : Serves host c assets)
    (hothers : ChangedByRequests host c assets) (htarget : target ∈ BuildTarget.all)
    (hnot : target ∉ targets) : Apart host c assets target es := by
  induction h with
  | nil => exact apart_of_silent hothers fun e he => absurd he List.not_mem_nil
  | cons hbranch _ ih =>
    have htargets := List.forall_mem_cons.mp hbuiltIn
    obtain ⟨hne, hrest⟩ := not_or.mp (List.mem_cons.not.mp hnot)
    obtain ⟨hafresh, huploads⟩ := hbranch.beginsAfresh htargets.1
    refine Apart.append ⟨fun hc hname => ?_, ?_, hafresh⟩ (ih htargets.2 hrest)
    · refine hbranch.keeps htargets.1 hserves hothers hc fun hname' => hne ?_
      exact RunContext.eq_of_mem_assetNames htarget htargets.1 hname hname'
    · exact huploads _ (assetNames_ne htarget htargets.1 hne)

/-- A run is one branch with what is apart from it on both sides. -/
theorem Transcript.exists_branch {report : RunReport} {outcome : BranchOutcome}
    (h : Transcript c targets es (.ok report)) (hnodup : targets.Nodup)
    (hbuiltIn : ∀ target ∈ targets, target ∈ BuildTarget.all) (hserves : Serves host c assets)
    (hothers : ChangedByRequests host c assets) (houtcome : outcome ∈ report.outcomes) :
    outcome.target ∈ BuildTarget.all ∧ ∃ before own after ended, es = before ++ (own ++ after) ∧
      Apart host c assets outcome.target before ∧ Apart host c assets outcome.target after ∧
      Branch.Transcript c outcome.target own ended ∧ outcome = settled outcome.target ended := by
  obtain ⟨es, es', outcomes, formula, rfl, hbranches, hgated, rfl⟩ := h.exists_of_ok hnodup
  obtain ⟨targets₁, targets₂, es₁, own, es₂, outcomes₁, outcomes₂, ended, rfl, rfl, h₁, hown, h₂,
    heq⟩ := hbranches.split houtcome
  obtain ⟨-, hnodup₂, hdisjoint⟩ := List.nodup_append.mp hnodup
  obtain ⟨hbuiltIn₁, hbuiltIn₂⟩ := List.forall_mem_append.mp hbuiltIn
  have hbuiltIn₂ := List.forall_mem_cons.mp hbuiltIn₂
  have hnot₁ : outcome.target ∉ targets₁ := fun hmem =>
    hdisjoint _ hmem _ (List.mem_cons_self ..) rfl
  have hnot₂ : outcome.target ∉ targets₂ := (List.nodup_cons.mp hnodup₂).1
  -- apart are the branches before it, and those behind it with the bump
  refine ⟨hbuiltIn₂.1, es₁, own, es₂ ++ es', ended, by simp, ?_, ?_, hown, heq⟩
  · exact h₁.apart hbuiltIn₁ hserves hothers hbuiltIn₂.1 hnot₁
  · exact (h₂.apart hbuiltIn₂.2 hserves hothers hbuiltIn₂.1 hnot₂).append
      (apart_of_silent hothers fun e he =>
        Exchange.request?_eq_none_of_ofBump (hgated.ofBump e he))

/-- **The leftovers of a run.** A target failed whose assets were not on the release, and everything
went well that was done to take them off again. Then an asset of the target is left exactly if the
upload attached it, and the branch crashed or the name has blanks around it. -/
theorem mem_assets_of_failed {console : Console} {w w' : World σ} {report : RunReport}
    {outcome : BranchOutcome} (hserves : Serves host c assets)
    (hothers : ChangedByRequests host c assets) (hnodup : targets.Nodup)
    (hbuiltIn : ∀ target ∈ targets, target ∈ BuildTarget.all)
    (hrun : Action.runOn (run host c targets console) w = (.ok report, w'))
    (houtcome : outcome ∈ report.outcomes) (hfailed : outcome.state = .failed)
    (hfresh : ∀ name ∈ c.assetNames outcome.target, name ∉ assets w.outside)
    (hback : ∀ e ∈ cleanupOf (c.assetNames outcome.target) (exchanges host c targets console w),
      e.succeeded = true) :
    ∀ name ∈ c.assetNames outcome.target,
      (name ∈ assets w'.outside ↔
        (∃ e ∈ exchanges host c targets console w,
            e.uploads (c.assetNames outcome.target) = true ∧ name ∈ assets e.left) ∧
          ((∃ crash, outcome.error = some (.crashed crash)) ∨ Text.strip name ≠ name)) := by
  intro name hname
  have hc := conducts_exchanges host c targets console w
  have htranscript := transcript_exchanges host c targets console w
  rw [hrun] at hc htranscript
  obtain ⟨htarget, before, own, after, ended, hes, hbefore, hafter, hown, heq⟩ :=
    htranscript.exists_branch hnodup hbuiltIn hserves hothers houtcome
  rw [hes] at hback ⊢
  rw [hes] at hc
  rw [cleanupOf_middle hbefore.not_uploads hafter.afresh hafter.not_uploads] at hback
  rw [exists_uploads_middle hbefore.not_uploads hafter.not_uploads]
  obtain ⟨s₁, hc₁, hc₂⟩ := hc.split
  obtain ⟨s₂, hc₂, hc₃⟩ := hc₂.split
  have hfresh₁ : name ∉ assets s₁ := (hbefore.keeps hc₁ hname).not.mpr (hfresh name hname)
  rw [heq] at hfailed
  rw [hafter.keeps hc₃ hname,
    hown.mem_iff_of_failed htarget hserves hothers hc₂ hfailed hfresh₁ hname hback, ← heq]

/-! ## A branch that crashes -/

/-- A release of which uploads and deletions go well and every look meets a fault. -/
def blindAnswer (attached : List String) : ReleaseRequest → Answer × List String
  | .view => (.error (.failed "no output"), attached)
  | .upload first second =>
    (.ok (.ok ""), Rehearsal.attach (ReleaseRequest.upload first second).touched attached)
  | .delete name => (.ok (.ok ""), attached.filter (· ≠ name))

/-- The host of that release; other commands do what they are for. -/
def blindHost (c : RunContext) : Host (List String) where
  answer command files attached :=
    match ReleaseRequest.ofArgv? command.argv with
    | some request =>
      if command.argv = request.argv c then
        ((blindAnswer attached request).1, files, (blindAnswer attached request).2)
      else (.ok (.ok ""), files, attached)
    | none =>
      match (Rehearsal.perform Rehearsal.script command).runOn files with
      | (.error fault, files) => (.error fault, files, attached)
      | (.ok (), files) => (.ok (.ok ""), files, attached)
  installed _ := true
  archiver := Archive.storing

/-- The names of a release that is a list of names. -/
def listed (attached : List String) : Set String := {name | name ∈ attached}

@[simp] theorem mem_listed {attached : List String} : name ∈ listed attached ↔ name ∈ attached :=
  Iff.rfl

theorem blindHost_gives {s : List String} {e : Exchange (List String)} {request : ReleaseRequest}
    (hg : (blindHost c).Gives s e) (hasks : e.Asks c request) :
    e.answer = (blindAnswer s request).1 ∧ e.left = (blindAnswer s request).2 := by
  obtain ⟨files, files', hg⟩ := hg
  rw [Exchange.Asks] at hasks
  simp only [blindHost, hasks, ReleaseRequest.ofArgv?_argv, if_true, Prod.mk.injEq] at hg
  exact ⟨hg.1.symm, hg.2.2.symm⟩

theorem mem_attach_iff {names attached : List String} :
    name ∈ Rehearsal.attach names attached ↔ name ∈ names ∨ name ∈ attached := by
  induction names with
  | nil => simp [Rehearsal.attach]
  | cons other rest ih =>
    show name ∈ insertName other (Rehearsal.attach rest attached) ↔ _
    rw [mem_insertName, ih, List.mem_cons, or_assoc]

theorem serves_blindHost (c : RunContext) : Serves (blindHost c) c listed where
  keeps := by
    intro s e request name hg hasks hname
    show name ∈ e.left ↔ name ∈ s
    rw [(blindHost_gives hg hasks).2]
    cases request with
    | view => rfl
    | upload first second => simp [blindAnswer, mem_attach_iff, hname]
    | delete other =>
      have hother : name ≠ other := fun h => hname (by simp [ReleaseRequest.touched, h])
      simp [blindAnswer, hother]
  deletes := by
    intro s e name hg hasks _
    show name ∉ e.left
    rw [(blindHost_gives hg hasks).2]
    simp [blindAnswer]
  shows := by
    intro s e output hg hasks hanswer
    rw [(blindHost_gives hg hasks).1] at hanswer
    cases hanswer

theorem changedByRequests_blindHost (c : RunContext) :
    ChangedByRequests (blindHost c) c listed := by
  rintro s ⟨command, answer, left⟩ ⟨files, files', hg⟩ hnone
  simp only [blindHost] at hg
  split at hg
  · next request _ =>
    have hother : command.argv ≠ request.argv c := hnone request
    rw [if_neg hother] at hg
    cases hg
    rfl
  · split at hg
    all_goals
      cases hg
      rfl

/-- The world before a run on that release. -/
def emptyWorld : World (List String) := ⟨FileSystem.empty [], [], [], []⟩

/-- A run whose branch crashes behind its upload. -/
def crashingRun : Except Fault RunReport × World (List String) :=
  Action.runOn (run (blindHost Rehearsal.context) Rehearsal.context [BuildTarget.linux]
    Console.plain) emptyWorld

/-- The exchanges of that run. -/
def crashingLog : List (Exchange (List String)) :=
  exchanges (blindHost Rehearsal.context) Rehearsal.context [BuildTarget.linux] Console.plain
    emptyWorld

/-- The names that the run should take off the release. -/
def linuxNames : List String := Rehearsal.context.assetNames BuildTarget.linux

/-- How that run ends: the branch has failed, everything is left that it should take off the
release, and nothing went wrong on its way back. -/
def EndsBadly : Prop :=
  (crashingRun.1.map fun report => report.outcomes.map fun o => (o.target, o.state)).toOption =
      some [(BuildTarget.linux, BranchState.failed)] ∧
    (∀ name ∈ linuxNames, name ∈ crashingRun.2.outside) ∧
    ∀ e ∈ cleanupOf linuxNames crashingLog, e.succeeded = true

instance : Decidable EndsBadly := inferInstanceAs (Decidable (_ ∧ _ ∧ _))

set_option maxRecDepth 100000 in
theorem endsBadly : EndsBadly := by
  decide +kernel

theorem crashingRun_outcome :
    ∃ report outcome, crashingRun.1 = .ok report ∧ outcome ∈ report.outcomes ∧
      outcome.target = BuildTarget.linux ∧ outcome.state = .failed := by
  obtain ⟨hends, -, -⟩ := endsBadly
  rcases hrun : crashingRun.1 with fault | report
  · rw [hrun] at hends
    cases hends
  · rw [hrun] at hends
    have houtcomes : report.outcomes.map (fun o => (o.target, o.state)) =
        [(BuildTarget.linux, BranchState.failed)] := Option.some.inj hends
    have hmem : (BuildTarget.linux, BranchState.failed) ∈
        report.outcomes.map fun o => (o.target, o.state) := by
      rw [houtcomes]
      exact List.mem_singleton_self _
    obtain ⟨outcome, houtcome, heq⟩ := List.mem_map.mp hmem
    exact ⟨report, outcome, rfl, houtcome, congrArg Prod.fst heq, congrArg Prod.snd heq⟩

/-- **A branch that crashes leaves its assets.** They were not on the release before, and nothing
was done to take them off that did not go well. -/
theorem crash_leaves_assets :
    ∃ report outcome, crashingRun.1 = .ok report ∧ outcome ∈ report.outcomes ∧
      outcome.state = .failed ∧
      (∀ name ∈ Rehearsal.context.assetNames outcome.target, name ∉ listed emptyWorld.outside) ∧
      (∀ e ∈ cleanupOf (Rehearsal.context.assetNames outcome.target) crashingLog,
        e.succeeded = true) ∧
      ∀ name ∈ Rehearsal.context.assetNames outcome.target,
        name ∈ listed crashingRun.2.outside := by
  obtain ⟨report, outcome, hreport, houtcome, htarget, hfailed⟩ := crashingRun_outcome
  obtain ⟨-, hleft, hback⟩ := endsBadly
  refine ⟨report, outcome, hreport, houtcome, hfailed, fun _ _ => List.not_mem_nil, ?_, ?_⟩
  · rw [htarget]
    exact hback
  · rw [htarget]
    exact fun name hname => mem_listed.mpr (hleft name hname)

/-- So the crash is what is left of it. -/
theorem mem_assets_of_failed_crashingRun :
    ∃ report outcome, crashingRun.1 = .ok report ∧ outcome ∈ report.outcomes ∧
      ∀ name ∈ Rehearsal.context.assetNames outcome.target,
        (name ∈ listed crashingRun.2.outside ↔
          (∃ e ∈ crashingLog, e.uploads (Rehearsal.context.assetNames outcome.target) = true ∧
              name ∈ listed e.left) ∧
            ((∃ crash, outcome.error = some (.crashed crash)) ∨ Text.strip name ≠ name)) := by
  obtain ⟨report, outcome, hreport, houtcome, htarget, hfailed⟩ := crashingRun_outcome
  obtain ⟨-, -, hback⟩ := endsBadly
  have hrun : crashingRun = (.ok report, crashingRun.2) := by
    rw [← hreport]
  rw [linuxNames, ← htarget] at hback
  refine ⟨report, outcome, hreport, houtcome, ?_⟩
  exact mem_assets_of_failed (serves_blindHost Rehearsal.context)
    (changedByRequests_blindHost Rehearsal.context) (List.nodup_singleton _)
    (by decide) hrun houtcome hfailed (fun _ _ => List.not_mem_nil) hback

end Release

end Shipyard
