import Shipyard.Proofs.Publication.Cleanup
import Shipyard.Proofs.Run.Coupling
import Shipyard.Proofs.Run.Protocol

/-!
# Who asks for what

The exchanges of a run come from builds, from publications and from the bump, and their command
lines tell them apart: a build runs programs of its own, requests to the release come from
publications alone, and nothing but the bump asks for pull requests or makes one.
-/

namespace Shipyard

variable {σ : Type} {c : RunContext} {es : List (Exchange σ)} {target : BuildTarget}

/-! ## Command lines -/

namespace Exchange

variable {e : Exchange σ}

/-- Whether a program of a build is run. -/
def Builds (e : Exchange σ) : Prop :=
  ∃ program ∈ Build.programs, e.command.argv.head? = some program

/-- Whether the open pull requests on a tap are asked for. -/
def lists (e : Exchange σ) : Bool := e.command.argv.take 3 = ["gh", "pr", "list"]

/-- Whether a bump is requested. -/
def bumps (e : Exchange σ) : Bool := e.command.argv.take 2 = ["brew", "bump-formula-pr"]

/-- Whether an exchange is one of a bump. -/
def ofBump (e : Exchange σ) : Bool := e.lists || e.bumps

theorem take_of_lists (h : e.lists = true) : e.command.argv.take 2 = ["gh", "pr"] := by
  have htake : e.command.argv.take 3 = ["gh", "pr", "list"] := of_decide_eq_true h
  calc e.command.argv.take 2
      = (e.command.argv.take 3).take 2 := by rw [List.take_take]; rfl
    _ = ["gh", "pr"] := by rw [htake]; rfl

theorem take_of_bumps (h : e.bumps = true) :
    e.command.argv.take 2 = ["brew", "bump-formula-pr"] :=
  of_decide_eq_true h

theorem take_of_request? {request : ReleaseRequest} (h : e.request? = some request) :
    e.command.argv.take 2 = ["gh", "release"] :=
  ReleaseRequest.take_of_ofArgv? h

/-- The programs of a build serve nothing else. -/
theorem Builds.take_ne {first second : String} (h : e.Builds) (hfirst : first ∉ Build.programs) :
    e.command.argv.take 2 ≠ [first, second] := by
  obtain ⟨program, hprogram, hhead⟩ := h
  intro htake
  rcases hargv : e.command.argv with _ | ⟨word, rest⟩
  · rw [hargv] at hhead
    cases hhead
  · rw [hargv] at hhead htake
    obtain rfl : word = program := Option.some.inj hhead
    obtain rfl : word = first := (List.cons.inj htake).1
    exact hfirst hprogram

theorem Builds.request?_eq_none (h : e.Builds) : e.request? = none := by
  rcases hrequest : e.request? with _ | request
  · rfl
  · exact absurd (take_of_request? hrequest) (h.take_ne (by decide))

theorem Builds.not_ofBump (h : e.Builds) : e.ofBump = false := by
  have hlists : e.lists = false :=
    Bool.eq_false_iff.mpr fun hlists => h.take_ne (by decide) (take_of_lists hlists)
  have hbumps : e.bumps = false :=
    Bool.eq_false_iff.mpr fun hbumps => h.take_ne (by decide) (take_of_bumps hbumps)
  rw [ofBump, hlists, hbumps]
  rfl

theorem ofBump_of_lists (h : e.lists = true) : e.ofBump = true := by
  rw [ofBump, h, Bool.true_or]

theorem ofBump_of_bumps (h : e.bumps = true) : e.ofBump = true := by
  rw [ofBump, h, Bool.or_true]

/-- Nothing is asked of the release for a bump. -/
theorem request?_eq_none_of_ofBump (h : e.ofBump = true) : e.request? = none := by
  rcases hrequest : e.request? with _ | request
  · rfl
  have htake := take_of_request? hrequest
  rcases Bool.or_eq_true_iff.mp h with hlists | hbumps
  · rw [take_of_lists hlists] at htake
    exact absurd htake (by decide)
  · rw [take_of_bumps hbumps] at htake
    exact absurd htake (by decide)

theorem not_ofBump_of_request? {request : ReleaseRequest} (h : e.request? = some request) :
    e.ofBump = false := by
  rw [Bool.eq_false_iff]
  intro hof
  rw [request?_eq_none_of_ofBump hof] at h
  cases h

end Exchange

/-! ## Bumps -/

namespace Formula

variable {request : FormulaRequest} {token : String} {e : Exchange σ}

theorem lists_of_list (h : e.command = listCommand c request token) : e.lists = true := by
  rw [Exchange.lists, h]
  rfl

theorem not_bumps_of_list (h : e.command = listCommand c request token) : e.bumps = false := by
  rw [Exchange.bumps, h]
  rfl

theorem bumps_of_bump (h : e.command = bumpCommand c request token) : e.bumps = true := by
  rw [Exchange.bumps, h]
  rfl

theorem not_lists_of_bump (h : e.command = bumpCommand c request token) : e.lists = false := by
  rw [Exchange.lists, h]
  rfl

theorem Transcript.ofBump {r : Except Fault (Except FormulaFailure FormulaBump)}
    (h : Transcript c request es r) : ∀ e ∈ es, e.ofBump = true := by
  cases h with
  | noToken => exact fun e he => absurd he List.not_mem_nil
  | forced _ _ hbump =>
    rw [List.forall_mem_singleton]
    exact Exchange.ofBump_of_bumps (bumps_of_bump hbump)
  | faulted _ _ hlist _ | failed _ _ hlist _ | skipped _ _ hlist _ =>
    rw [List.forall_mem_singleton]
    exact Exchange.ofBump_of_lists (lists_of_list hlist)
  | unforced _ _ hlist _ hbump =>
    refine List.forall_mem_cons.mpr ⟨Exchange.ofBump_of_lists (lists_of_list hlist), ?_⟩
    rw [List.forall_mem_singleton]
    exact Exchange.ofBump_of_bumps (bumps_of_bump hbump)

end Formula

theorem Release.Gated.ofBump {outcomes : List BranchOutcome}
    {r : Except Fault (Option FormulaResult)} (h : Release.Gated c outcomes es r) :
    ∀ e ∈ es, e.ofBump = true := by
  cases h with
  | closed => exact fun e he => absurd he List.not_mem_nil
  | faulted _ h | bumped _ h => exact h.ofBump

/-! ## Branches -/

/-- Everything that a publication says is a request to the release. -/
theorem Publication.OneUpload.exists_request {names : List String} (h : OneUpload names es) :
    ∀ e ∈ es, ∃ request, e.request? = some request := by
  rcases h with rfl | ⟨e, rest, rfl, huploads, hrest⟩
  · exact fun e he => absurd he List.not_mem_nil
  · exact List.forall_mem_cons.mpr ⟨Exchange.exists_request_of_uploads huploads,
      fun e' he' => Exchange.exists_request_of_tidies (hrest e' he')⟩

namespace Branch

/-- A branch says nothing of the release, or its publication comes last. -/
theorem Transcript.exists_publication {ended : Except Fault BranchOutcome}
    (h : Transcript c target es ended) :
    (∀ e ∈ es, e.Builds) ∨
      ∃ before publication artifact r, es = before ++ publication ∧
        (∀ e ∈ before, e.Builds) ∧ artifact.archive = c.archivePath target ∧
        Publication.Transcript c artifact publication r ∧ ended = endOf target artifact r := by
  cases h with
  | buildFaulted h | buildFailed h | packagingFaulted h | packagingFailed h _ =>
    exact .inl fun e he => h.head?_mem he
  | published h hpackaged hpublication =>
    exact .inr ⟨_, _, _, _, rfl, fun e he => h.head?_mem he, hpackaged.2, hpublication, rfl⟩

theorem names_of_archive {artifact : Artifact} (h : artifact.archive = c.archivePath target) :
    artifact.names = c.assetNames target := by
  rw [Artifact.names, Artifact.archiveName, h]
  rfl

theorem isName_of_archive {artifact : Artifact} (hbuiltIn : target ∈ BuildTarget.all)
    (h : artifact.archive = c.archivePath target) : Path.IsName artifact.archiveName := by
  obtain ⟨front, -, hname⟩ := RunContext.archivePath_name (c := c) hbuiltIn
  rw [Artifact.archiveName, h]
  exact hname

/-- **A branch leaves the bump alone.** -/
theorem Transcript.not_ofBump {ended : Except Fault BranchOutcome}
    (h : Transcript c target es ended) (hbuiltIn : target ∈ BuildTarget.all) :
    ∀ e ∈ es, e.ofBump = false := by
  rcases h.exists_publication with
    hbuilds | ⟨before, publication, artifact, r, rfl, hbuilds, harchive, hpublication, -⟩
  · exact fun e he => (hbuilds e he).not_ofBump
  · refine List.forall_mem_append.mpr ⟨fun e he => (hbuilds e he).not_ofBump, fun e he => ?_⟩
    have hupload := hpublication.oneUpload (isName_of_archive hbuiltIn harchive)
    obtain ⟨request, hrequest⟩ := hupload.exists_request e he
    exact Exchange.not_ofBump_of_request? hrequest

end Branch

/-! ## Runs -/

namespace Release

theorem Branches.not_ofBump {targets : List BuildTarget} {outcomes : List BranchOutcome}
    (h : Branches c targets es outcomes)
    (hbuiltIn : ∀ target ∈ targets, target ∈ BuildTarget.all) : ∀ e ∈ es, e.ofBump = false := by
  induction h with
  | nil => exact fun e he => absurd he List.not_mem_nil
  | cons hbranch _ ih =>
    have htargets := List.forall_mem_cons.mp hbuiltIn
    exact List.forall_mem_append.mpr ⟨hbranch.not_ofBump htargets.1, ih htargets.2⟩

/-- The exchanges of a run. -/
def exchanges (host : Host σ) (c : RunContext) (targets : List BuildTarget) (console : Console)
    (w : World σ) : List (Exchange σ) :=
  Action.exchanges (run host.logged c targets console) w.logged

theorem conducts_exchanges (host : Host σ) (c : RunContext) (targets : List BuildTarget)
    (console : Console) (w : World σ) :
    host.Conducts w.outside (exchanges host c targets console w)
      (Action.runOn (run host c targets console) w).2.outside :=
  (mirrors_run host c targets console).conducts (follows_run host c targets console) w

theorem transcript_exchanges (host : Host σ) (c : RunContext) (targets : List BuildTarget)
    (console : Console) (w : World σ) :
    Transcript c targets (exchanges host c targets console w)
      (Action.runOn (run host c targets console) w).1 :=
  (mirrors_run host c targets console).holds (follows_run host c targets console) w

end Release

end Shipyard
