import Shipyard.Proofs.Publication.Answers
import Shipyard.Proofs.Rehearsal
import Shipyard.Proofs.Run.Coupling

/-!
# No partial publish

Artifacts are published one after the other, the same one perhaps more than once, on one release. In
the end the release holds both names of an artifact if its last publication succeeded, and none of
them if that failed and could be undone; names that belong to no artifact are as they were. What
carries this is that a publication touches no names but its own, so only the last one counts.
-/

namespace Shipyard.Publication

variable {σ : Type} {host : Host σ} {c : RunContext} {assets : σ → Set String}

/-! ## Single calls without faults -/

/-- A publication of which no request meets a fault gives a result. -/
theorem Transcript.exists_eq_ok {s s' : σ} {es : List (Exchange σ)} {artifact : Artifact}
    {r : Except Fault (Except PublishFailure PublishedRelease)} (h : Transcript c artifact es r)
    (hartifact : Path.IsName artifact.archiveName) (hnever : NeverFaults host c)
    (hc : host.Conducts s es s') : ∃ result, r = .ok result := by
  refine h.exists_eq_ok_of_returns (fun hnil => hartifact.ne_empty ?_) (hc.returns hnever h.asks)
  rw [Artifact.archiveName, Path.name, hnil]
  rfl

/-- A failure for any other reason than a missing token comes behind an upload. -/
theorem Transcript.exists_cons_of_error {es : List (Exchange σ)} {artifact : Artifact}
    {failure : PublishFailure} (h : Transcript c artifact es (.ok (.error failure)))
    (hkind : failure.kind ≠ .authMissing) : ∃ e rest, es = e :: rest := by
  cases h with
  | noToken => exact absurd rfl hkind
  | undone _ _ hattachment _ =>
    cases hattachment with
    | failed => exact ⟨_, _, rfl⟩
    | viewed => exact ⟨_, _, rfl⟩

/-! ## Sequences of calls -/

/-- A publication that was made: what was published, what it gave, and its exchanges. -/
structure Call (σ : Type) where
  /-- what was published -/
  artifact : Artifact
  /-- what it gave -/
  outcome : Except Fault (Except PublishFailure PublishedRelease)
  /-- what was said to the host, and its answers -/
  exchanges : List (Exchange σ)

/-- The exchanges of a publication. -/
def exchanges (host : Host σ) (c : RunContext) (artifact : Artifact) (out : Console)
    (w : World σ) : List (Exchange σ) :=
  Action.exchanges (run host.logged c artifact out) w.logged

/-- Publishes artifacts one after the other, whatever becomes of each. -/
def runAll (host : Host σ) (c : RunContext) :
    List (Artifact × Console) → World σ → List (Call σ) × World σ
  | [], w => ([], w)
  | (artifact, out) :: rest, w =>
    let (outcome, w₁) := Action.runOn (run host c artifact out) w
    let (calls, w₂) := runAll host c rest w₁
    (⟨artifact, outcome, exchanges host c artifact out w⟩ :: calls, w₂)

/-- Calls that a host can have, from one state of the outside to another. -/
def History (host : Host σ) (c : RunContext) : σ → List (Call σ) → σ → Prop
  | s, [], s' => s' = s
  | s, call :: rest, s' =>
    ∃ s₁, host.Conducts s call.exchanges s₁ ∧
      Transcript c call.artifact call.exchanges call.outcome ∧ History host c s₁ rest s'

theorem history_runAll (host : Host σ) (c : RunContext) (publications : List (Artifact × Console))
    (w : World σ) :
    History host c w.outside (runAll host c publications w).1
        (runAll host c publications w).2.outside ∧
      (runAll host c publications w).1.map (·.artifact) = publications.map (·.1) := by
  induction publications generalizing w with
  | nil => exact ⟨rfl, rfl⟩
  | cons p rest ih =>
    obtain ⟨artifact, out⟩ := p
    have hmirrors := mirrors_run host c artifact out
    have hfollows := follows_run host c artifact out
    obtain ⟨hrest, hartifacts⟩ := ih (Action.runOn (run host c artifact out) w).2
    refine ⟨⟨_, hmirrors.conducts hfollows w, hmirrors.holds hfollows w, hrest⟩, ?_⟩
    exact congrArg (artifact :: ·) hartifacts

namespace History

variable {s s' : σ} {calls before after : List (Call σ)} {call : Call σ} {name : String}

theorem split (h : History host c s (before ++ after) s') :
    ∃ s₁, History host c s before s₁ ∧ History host c s₁ after s' := by
  induction before generalizing s with
  | nil => exact ⟨s, rfl, h⟩
  | cons call before ih =>
    obtain ⟨s₁, hc, htranscript, hrest⟩ := h
    obtain ⟨s₂, h₁, h₂⟩ := ih hrest
    exact ⟨s₂, ⟨s₁, hc, htranscript, h₁⟩, h₂⟩

/-- **Calls touch no names but those of their artifacts.** -/
theorem keeps (h : History host c s calls s') (hserves : Serves host c assets)
    (hnamed : ∀ call ∈ calls, Path.IsName call.artifact.archiveName)
    (hname : ∀ call ∈ calls, name ∉ call.artifact.names) :
    name ∈ assets s' ↔ name ∈ assets s := by
  induction calls generalizing s with
  | nil =>
    obtain rfl : s' = s := h
    rfl
  | cons call calls ih =>
    obtain ⟨s₁, hc, htranscript, hrest⟩ := h
    rw [ih hrest (fun call hmem => hnamed call (List.mem_cons_of_mem _ hmem))
      fun call hmem => hname call (List.mem_cons_of_mem _ hmem)]
    exact htranscript.keeps (hnamed call (List.mem_cons_self ..)) hserves hc
      (hname call (List.mem_cons_self ..))

/-- A release without blanks around its names keeps none that has. -/
theorem unpadded (h : History host c s calls s') (hserves : Serves host c assets)
    (hnamed : ∀ call ∈ calls, Path.IsName call.artifact.archiveName ∧
      ∀ name ∈ call.artifact.names, Text.strip name = name)
    (hinitial : ∀ name ∈ assets s, Text.strip name = name) :
    ∀ name ∈ assets s', Text.strip name = name := by
  intro name hmem
  by_cases hname : ∃ call ∈ calls, name ∈ call.artifact.names
  · obtain ⟨call, hcall, hmem⟩ := hname
    exact (hnamed call hcall).2 name hmem
  · refine hinitial name ((h.keeps hserves (fun call hcall => (hnamed call hcall).1) ?_).mp hmem)
    exact fun call hcall hmem => hname ⟨call, hcall, hmem⟩

end History

/-! ## The last call counts -/

/-- What the release holds of an artifact after its last publication. -/
def LastCallHolds (assets : σ → Set String) (s' : σ) (call : Call σ) : Prop :=
  (∀ release, call.outcome = .ok (.ok release) → ∀ name ∈ call.artifact.names, name ∈ assets s') ∧
    ∀ failure, call.outcome = .ok (.error failure) → failure.kind ≠ .authMissing →
      (∀ e ∈ wayBack call.exchanges, e.succeeded = true) →
        ∀ name ∈ call.artifact.names, name ∉ assets s'

/-- What a single publication leaves on a release without blanks around its names. -/
theorem lastCallHolds_of_transcript {s s' : σ} {call : Call σ}
    (h : Transcript c call.artifact call.exchanges call.outcome) (hserves : Serves host c assets)
    (hc : host.Conducts s call.exchanges s') (hartifact : Path.IsName call.artifact.archiveName)
    (hstrip : ∀ name ∈ call.artifact.names, Text.strip name = name)
    (hunpadded : ∀ name ∈ assets s', Text.strip name = name) : LastCallHolds assets s' call := by
  obtain ⟨artifact, outcome, exchanges⟩ := call
  constructor
  · rintro release rfl name hname
    obtain ⟨-, raw, hraw, hread⟩ := h.mem_of_ok hserves hc hname
    rw [hunpadded raw hraw] at hread
    exact hread ▸ hraw
  · rintro failure rfl hkind hback name hname hmem
    obtain ⟨e, rest, rfl⟩ := h.exists_cons_of_error hkind
    have hleft := (h.mem_iff_of_not_attached hartifact hserves hc hback nofun hname).mp hmem
    rcases hleft with ⟨-, ⟨fault, hfault⟩ | hpadded⟩
    · cases hfault
    · exact hpadded (hstrip name hname)

/-- Later calls on other names leave what a call has left. -/
theorem History.lastCallHolds {s s' : σ} {before after : List (Call σ)} {call : Call σ}
    (h : History host c s (before ++ call :: after) s') (hserves : Serves host c assets)
    (hnamed : ∀ call' ∈ before ++ call :: after, Path.IsName call'.artifact.archiveName ∧
      ∀ name ∈ call'.artifact.names, Text.strip name = name)
    (hinitial : ∀ name ∈ assets s, Text.strip name = name)
    (hothers : ∀ later ∈ after, ∀ name ∈ call.artifact.names, name ∉ later.artifact.names) :
    LastCallHolds assets s' call := by
  obtain ⟨s₁, hbefore, s₂, hc, htranscript, hafter⟩ := h.split
  obtain ⟨hnamed₁, hnamed₂⟩ := List.forall_mem_append.mp hnamed
  obtain ⟨hcall, hnamed₃⟩ := List.forall_mem_cons.mp hnamed₂
  -- blanks around a name would have to come from one of the calls so far
  have hunpadded : ∀ name ∈ assets s₂, Text.strip name = name := by
    have hlast : History host c s₁ [call] s₂ := ⟨s₂, hc, htranscript, rfl⟩
    refine hlast.unpadded hserves ?_ (hbefore.unpadded hserves hnamed₁ hinitial)
    exact fun call' hmem => List.mem_singleton.mp hmem ▸ hcall
  have hkeeps : ∀ name ∈ call.artifact.names, (name ∈ assets s' ↔ name ∈ assets s₂) :=
    fun name hname => hafter.keeps hserves (fun later hmem => (hnamed₃ later hmem).1)
      fun later hmem => hothers later hmem name hname
  obtain ⟨hok, herror⟩ :=
    lastCallHolds_of_transcript htranscript hserves hc hcall.1 hcall.2 hunpadded
  constructor
  · intro release hrelease name hname
    exact (hkeeps name hname).mpr (hok release hrelease name hname)
  · intro failure hfailure hkind hback name hname
    exact (hkeeps name hname).not.mpr (herror failure hfailure hkind hback name hname)

/-- **No partial publish.** On a release that is served without faults, every publication gives a
result; names of no artifact stay as they were; and what the release holds of an artifact is decided
by its last publication. -/
theorem no_partial_publish (hserves : Serves host c assets) (hnever : NeverFaults host c)
    (publications : List (Artifact × Console)) (w : World σ)
    (hinitial : ∀ name ∈ assets w.outside, Text.strip name = name)
    (hnamed : ∀ p ∈ publications, Path.IsName p.1.archiveName ∧
      ∀ name ∈ p.1.names, Text.strip name = name)
    (hpairs : ∀ p ∈ publications, ∀ q ∈ publications,
      p.1.names = q.1.names ∨ ∀ name ∈ p.1.names, name ∉ q.1.names)
    {calls : List (Call σ)} {final : World σ}
    (hrun : runAll host c publications w = (calls, final)) :
    (∀ call ∈ calls, ∃ result, call.outcome = .ok result) ∧
      (∀ name, (∀ p ∈ publications, name ∉ p.1.names) →
        (name ∈ assets final.outside ↔ name ∈ assets w.outside)) ∧
      ∀ before call after, calls = before ++ call :: after →
        (∀ later ∈ after, later.artifact.names ≠ call.artifact.names) →
          LastCallHolds assets final.outside call := by
  obtain ⟨hhistory, hartifacts⟩ := history_runAll host c publications w
  rw [hrun] at hhistory hartifacts
  have hwhence : ∀ call ∈ calls, ∃ p ∈ publications, p.1 = call.artifact := by
    intro call hcall
    exact List.mem_map.mp (hartifacts ▸ List.mem_map_of_mem hcall)
  have hcalled : ∀ call ∈ calls, Path.IsName call.artifact.archiveName ∧
      ∀ name ∈ call.artifact.names, Text.strip name = name := by
    intro call hcall
    obtain ⟨p, hp, heq⟩ := hwhence call hcall
    exact heq ▸ hnamed p hp
  refine ⟨?_, ?_, ?_⟩
  · intro call hcall
    obtain ⟨before, after, rfl⟩ := List.append_of_mem hcall
    obtain ⟨s₁, -, s₂, hc, htranscript, -⟩ := hhistory.split
    exact htranscript.exists_eq_ok (hcalled call hcall).1 hnever hc
  · intro name hname
    refine hhistory.keeps hserves (fun call hcall => (hcalled call hcall).1) fun call hcall => ?_
    obtain ⟨p, hp, heq⟩ := hwhence call hcall
    exact heq ▸ hname p hp
  · -- later calls are about other names, for names are the same or disjoint
    rintro before call after rfl hlast
    refine hhistory.lastCallHolds hserves hcalled hinitial fun later hlater name hname => ?_
    obtain ⟨p, hp, hcall⟩ := hwhence call (List.mem_append_right _ (List.mem_cons_self ..))
    obtain ⟨q, hq, heq⟩ :=
      hwhence later (List.mem_append_right _ (List.mem_cons_of_mem _ hlater))
    rcases hpairs p hp q hq with hsame | hdisjoint
    · rw [hcall, heq] at hsame
      exact absurd hsame.symm (hlast later hlater)
    · rw [hcall, heq] at hdisjoint
      exact hdisjoint name hname

/-! ## Uploads that break off -/

/-- The answer of a release that may hold the one file `a.zip`, and whether it holds it afterwards.
An upload fails, but if it is about the file, the file is there. -/
def breakOff (attached : Bool) : ReleaseRequest → Answer × Bool
  | .view =>
    (.ok (.ok (Rehearsal.describe (.int 1) (if attached then ["a.zip"] else []))), attached)
  | .upload first second =>
    (.ok (.error ⟨["gh"], 1, "", ""⟩),
      attached || (ReleaseRequest.upload first second).touched.contains "a.zip")
  | .delete name => (.ok (.ok ""), attached && name ≠ "a.zip")

/-- The host of that release. -/
def breakingHost : Host Bool where
  answer command files attached :=
    match ReleaseRequest.ofArgv? command.argv with
    | some request => ((breakOff attached request).1, files, (breakOff attached request).2)
    | none => (.ok (.ok ""), files, attached)
  installed _ := true
  archiver := Archive.storing

/-- The names of that release. -/
def brokenAssets (attached : Bool) : Set String := {name | attached = true ∧ name = "a.zip"}

theorem breakingHost_gives {s : Bool} {e : Exchange Bool} {request : ReleaseRequest}
    (hg : breakingHost.Gives s e) (hasks : e.Asks c request) :
    e.answer = (breakOff s request).1 ∧ e.left = (breakOff s request).2 := by
  obtain ⟨files, files', hg⟩ := hg
  rw [Exchange.Asks] at hasks
  simp only [breakingHost, hasks, ReleaseRequest.ofArgv?_argv, Prod.mk.injEq] at hg
  exact ⟨hg.1.symm, hg.2.2.symm⟩

set_option maxRecDepth 100000 in
theorem describes_brokenAssets (attached : Bool) :
    ∃ v, Value.ofJson (Rehearsal.describe (.int 1) (if attached then ["a.zip"] else [])) =
        .ok (.ok v) ∧ Describes v (brokenAssets attached) := by
  cases attached
  · refine ⟨_, rfl, _, _, _, rfl, rfl, rfl, fun name => ?_⟩
    simp [brokenAssets]
  · refine ⟨_, rfl, _, _, _, rfl, rfl, rfl, fun name => ?_⟩
    constructor
    · rintro ⟨-, rfl⟩
      exact ⟨_, List.mem_cons_self .., _, rfl, rfl⟩
    · rintro ⟨entry, hentry, fields, hfields, hname⟩
      obtain rfl := List.mem_singleton.mp hentry
      cases hfields
      cases hname
      exact ⟨rfl, rfl⟩

theorem serves_breakingHost (c : RunContext) : Serves breakingHost c brokenAssets where
  keeps := by
    intro s e request name hg hasks hname
    rw [brokenAssets, brokenAssets, (breakingHost_gives hg hasks).2]
    by_cases hzip : name = "a.zip"
    · subst hzip
      cases request with
      | view => rfl
      | upload first second => simp [breakOff, hname]
      | delete other =>
        have hother : other ≠ "a.zip" := fun h => hname (by simp [ReleaseRequest.touched, h])
        simp [breakOff, hother]
    · simp [hzip]
  deletes := by
    intro s e name hg hasks _
    rw [brokenAssets, (breakingHost_gives hg hasks).2]
    simp +contextual [breakOff]
  shows := by
    intro s e output hg hasks hanswer
    rw [(breakingHost_gives hg hasks).1] at hanswer
    cases hanswer
    exact .inr (describes_brokenAssets s)

theorem neverFaults_breakingHost (c : RunContext) : NeverFaults breakingHost c where
  answers := by
    intro s e request hg hasks
    rw [(breakingHost_gives hg hasks).1]
    cases request <;> exact ⟨_, rfl⟩
  readable := by
    intro s e output hg hasks hanswer
    rw [(breakingHost_gives hg hasks).1] at hanswer
    cases hanswer
    obtain ⟨v, hv, -⟩ := describes_brokenAssets s
    exact ⟨_, hv⟩

/-- An artifact with the archive `a.zip`. -/
def zipped : Artifact :=
  ⟨"replibyte", "v1", "x86_64-apple-darwin", ⟨.root, ["r", "a.zip"]⟩, ⟨"", "a.zip"⟩⟩

set_option maxRecDepth 100000 in
/-- Two publications that break off leave nothing of the artifact. -/
theorem no_partial_publish_zipped :
    ∃ calls final,
      runAll breakingHost Rehearsal.context [(zipped, Console.plain), (zipped, Console.plain)]
        ⟨FileSystem.empty [], [], [], false⟩ = (calls, final) ∧
      calls.length = 2 ∧ ∀ name ∈ zipped.names, name ∉ brokenAssets final.outside := by
  have hnamed : Path.IsName zipped.archiveName ∧
      ∀ name ∈ zipped.names, Text.strip name = name := by
    exact ⟨⟨by decide, by decide, by decide⟩, by decide⟩
  refine ⟨_, _, rfl, rfl, ?_⟩
  obtain ⟨-, -, hlast⟩ := no_partial_publish (serves_breakingHost Rehearsal.context)
    (neverFaults_breakingHost _) [(zipped, Console.plain), (zipped, Console.plain)]
    ⟨FileSystem.empty [], [], [], false⟩ (by simp [brokenAssets])
    (by simpa using hnamed) (by simp) rfl
  exact (hlast [_] _ [] rfl (List.forall_mem_nil _)).2 _ rfl (by decide) (by decide)

end Shipyard.Publication
