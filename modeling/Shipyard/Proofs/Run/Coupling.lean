import Mathlib.Data.List.Forall2
import Shipyard.Proofs.Command.Coupling
import Shipyard.Proofs.Command.Exchange
import Shipyard.Run.Release

/-!
# Runs on coupled hosts

Every step of a run goes alike on coupled hosts, also if one run has other variables than the other.
It is enough that the variables of the run and those of its commands are related, and that either
both runs have a token or none has: what a token is never decides what a step does.

A step that speaks to the logged host does what the same step does that speaks to the host itself:
it ends in the same way and leaves the same world, log aside. Two such steps mirror each other. The
two hosts are coupled, so steps that go alike on coupled hosts do. Every step of a run is one of
these, so what is proved about the results of runs with a log holds of all runs.
-/

namespace Shipyard

section Coupled

open Shipyard.Action

variable {σ τ : Type} {E : Environment → Environment → Prop} {host : Host σ} {host' : Host τ}
  {R : World σ → World τ → Prop} {c : RunContext} {environ : Environment}

/-- The same inputs with other variables. -/
abbrev RunContext.under (c : RunContext) (environ : Environment) : RunContext :=
  { c with environ := environ }

/-- Whether other variables can take the place of those of a run: whatever is issued, its variables
are related. -/
structure RunContext.Interchangeable (E : Environment → Environment → Prop) (c : RunContext)
    (environ : Environment) : Prop where
  /-- the variables of a build -/
  build : ∀ more, E (c.childEnv more) ((c.under environ).childEnv more)
  /-- those of the commands that speak to the host of the release -/
  publish : Option.Rel
    (fun token token' => E (c.releaseEnv token) ((c.under environ).releaseEnv token'))
    c.publishToken? (c.under environ).publishToken?
  /-- those of a bump -/
  formula : Option.Rel
    (fun token token' => E (c.releaseEnv token) ((c.under environ).releaseEnv token') ∧
      ∀ request, (Formula.bumpCommand c request token).Like E
        (Formula.bumpCommand (c.under environ) request token'))
    c.formulaToken? (c.under environ).formulaToken?

/-! ## Publications -/

namespace Publication

variable {token token' : String}

theorem like_releaseCommand (htoken : E (c.releaseEnv token) ((c.under environ).releaseEnv token'))
    (timeout : Nat) (argv : List String) :
    (releaseCommand c token timeout argv).Like E
      (releaseCommand (c.under environ) token' timeout argv) :=
  ⟨rfl, rfl, rfl, .some htoken⟩

theorem alike_view (hhosts : Coupled E host host' R)
    (htoken : E (c.releaseEnv token) ((c.under environ).releaseEnv token')) (platform : String) :
    Alike R (view host c platform token) (view host' (c.under environ) platform token') := by
  refine (hhosts.issue (like_releaseCommand htoken _ _)).bind fun reply => ?_
  cases reply with
  | error failure => exact alike_pure _
  | ok output =>
    refine (alike_orFault _).bind fun read => ?_
    rcases read with what | answer
    · exact alike_pure _
    · dsimp only
      split
      · exact alike_pure _
      · exact alike_pure _

theorem alike_deleteAttached (hhosts : Coupled E host host' R)
    (htoken : E (c.releaseEnv token) ((c.under environ).releaseEnv token'))
    (attached : List String) (out : Console) (names : List String) :
    Alike R (deleteAttached host c token attached out names)
      (deleteAttached host' (c.under environ) token' attached out names) := by
  induction names with
  | nil => exact alike_pure _
  | cons name rest ih =>
    unfold deleteAttached
    by_cases hname : attached.contains name = true
    · simp only [hname, if_true]
      refine (hhosts.echo _ _).bind fun _ => ?_
      refine (hhosts.issue (like_releaseCommand htoken _ _)).bind fun reply => ?_
      cases reply with
      | error failure => exact (hhosts.tell _ _).bind fun _ => ih
      | ok output => exact ih
    · simp only [hname]
      exact ih

theorem alike_detach (hhosts : Coupled E host host' R)
    (htoken : E (c.releaseEnv token) ((c.under environ).releaseEnv token')) (platform : String)
    (names : List String) (out : Console) :
    Alike R (detach host c platform token names out)
      (detach host' (c.under environ) platform token' names out) := by
  refine (alike_view hhosts htoken platform).bind fun looked => ?_
  cases looked with
  | error failure => exact hhosts.tell _ _
  | ok release => exact alike_deleteAttached hhosts htoken _ out names

theorem alike_attachAndConfirm (hhosts : Coupled E host host' R)
    (htoken : E (c.releaseEnv token) ((c.under environ).releaseEnv token')) (platform : String)
    (files : List Path) (out : Console) :
    Alike R (attachAndConfirm host c platform token files out)
      (attachAndConfirm host' (c.under environ) platform token' files out) := by
  refine (hhosts.echo _ _).bind fun _ => ?_
  refine (hhosts.issue (like_releaseCommand htoken _ _)).bind fun reply => ?_
  cases reply with
  | error failure => exact alike_pure _
  | ok output =>
    refine (alike_view hhosts htoken platform).bind fun looked => ?_
    cases looked with
    | error failure => exact alike_pure _
    | ok release =>
      dsimp only
      split
      · exact alike_pure _
      · exact alike_pure _

theorem alike_run (hhosts : Coupled E host host' R) (hvars : c.Interchangeable E environ)
    (artifact : Artifact) (out : Console) :
    Alike R (run host c artifact out) (run host' (c.under environ) artifact out) := by
  have htokens := hvars.publish
  unfold run
  generalize c.publishToken? = token? at htokens ⊢
  generalize (c.under environ).publishToken? = token?' at htokens ⊢
  cases htokens with
  | none => exact alike_pure _
  | some htoken =>
    refine (alike_orRefused _).bind fun files => ?_
    refine (alike_attachAndConfirm hhosts htoken _ files out).bind fun confirmed => ?_
    cases confirmed with
    | ok release => exact alike_pure _
    | error failure =>
      exact (alike_detach hhosts htoken _ _ out).bind fun _ => alike_pure _

end Publication

/-! ## Builds -/

namespace Build

theorem alike_issueInOrder (hhosts : Coupled E host host' R) (out : Console)
    {commands commands' : List Command} (hlike : List.Forall₂ (Command.Like E) commands commands') :
    Alike R (issueInOrder host out commands) (issueInOrder host' out commands') := by
  induction hlike with
  | nil => exact alike_pure _
  | @cons command command' _ _ hcommand _ ih =>
    unfold issueInOrder
    rw [hcommand.argv]
    refine (hhosts.echo _ _).bind fun _ => (hhosts.issue hcommand).bind fun reply => ?_
    cases reply with
    | error failure => exact alike_pure _
    | ok output => exact ih

theorem like_checkoutCommands (c : RunContext) (environ : Environment) (checkout : Path) :
    List.Forall₂ (Command.Like E) (checkoutCommands c checkout)
      (checkoutCommands (c.under environ) checkout) :=
  .cons ⟨rfl, rfl, rfl, .none⟩ (.cons ⟨rfl, rfl, rfl, .none⟩ .nil)

theorem like_compileCommands (hvars : c.Interchangeable E environ) (target : BuildTarget)
    (checkout : Path) :
    List.Forall₂ (Command.Like E) (compileCommands c target checkout)
      (compileCommands (c.under environ) target checkout) := by
  unfold compileCommands
  rw [List.forall₂_map_left_iff, List.forall₂_map_right_iff]
  exact List.forall₂_same.mpr fun command _ => ⟨rfl, rfl, rfl, .some (hvars.build _)⟩

theorem alike_prepareCheckout (hhosts : Coupled E host host' R) (environ : Environment)
    (target : BuildTarget) (out : Console) :
    Alike R (prepareCheckout host c target out)
      (prepareCheckout host' (c.under environ) target out) := by
  refine (hhosts.onFiles _).bind fun cleared => ?_
  cases cleared with
  | error e => exact alike_pure _
  | ok u =>
    refine (alike_issueInOrder hhosts out (like_checkoutCommands c environ _)).bind fun reply => ?_
    cases reply with
    | error failure => exact alike_pure _
    | ok u => exact alike_pure _

theorem alike_compile (hhosts : Coupled E host host' R) (hvars : c.Interchangeable E environ)
    (target : BuildTarget) (checkout : Path) (out : Console) :
    Alike R (compile host c target checkout out)
      (compile host' (c.under environ) target checkout out) := by
  refine (alike_issueInOrder hhosts out (like_compileCommands hvars _ _)).bind fun reply => ?_
  cases reply with
  | error failure => exact alike_pure _
  | ok u =>
    refine (hhosts.onFiles _).bind fun found => ?_
    cases found with
    | false => exact alike_pure _
    | true => exact alike_pure _

theorem alike_run (hhosts : Coupled E host host' R) (hvars : c.Interchangeable E environ)
    (target : BuildTarget) (out : Console) :
    Alike R (run host c target out) (run host' (c.under environ) target out) := by
  unfold run
  have hlinker : lacksLinker host target = lacksLinker host' target := by
    rw [lacksLinker, lacksLinker, hhosts.installed]
  rw [hlinker]
  split
  · exact alike_pure _
  · refine (alike_prepareCheckout hhosts environ target out).bind fun prepared => ?_
    cases prepared with
    | error failure => exact alike_pure _
    | ok checkout => exact alike_compile hhosts hvars target checkout out

end Build

/-! ## Branches -/

namespace Branch

theorem alike_publish (hhosts : Coupled E host host' R) (hvars : c.Interchangeable E environ)
    (target : BuildTarget) (artifact : Artifact) (out : Console) :
    Alike R (publish host c target artifact out)
      (publish host' (c.under environ) target artifact out) := by
  refine (hhosts.tell _ _).bind fun _ => ?_
  refine (Publication.alike_run hhosts hvars artifact out).bind fun published => ?_
  cases published with
  | error failure => exact (hhosts.tell _ _).bind fun _ => alike_pure _
  | ok release =>
    exact (hhosts.tell _ _).bind fun _ => (alike_orRefused _).bind fun _ => alike_pure _

theorem alike_package (hhosts : Coupled E host host' R) (hvars : c.Interchangeable E environ)
    (target : BuildTarget) (built : BuiltBinary) (out : Console) :
    Alike R (package host c target built out)
      (package host' (c.under environ) target built out) := by
  unfold package
  rw [hhosts.archiver]
  refine (hhosts.onFiles _).bind fun packaged => ?_
  cases packaged with
  | error failure => exact (hhosts.tell _ _).bind fun _ => alike_pure _
  | ok artifact => exact alike_publish hhosts hvars target artifact out

theorem alike_run (hhosts : Coupled E host host' R) (hvars : c.Interchangeable E environ)
    (target : BuildTarget) (console : Console) :
    Alike R (run host c target console) (run host' (c.under environ) target console) := by
  refine (hhosts.tell _ _).bind fun _ => ?_
  refine (Build.alike_run hhosts hvars target _).bind fun built => ?_
  cases built with
  | error failure => exact (hhosts.tell _ _).bind fun _ => alike_pure _
  | ok built => exact alike_package hhosts hvars target built _

end Branch

/-! ## Bumps -/

namespace Formula

variable {token token' : String}

theorem alike_findOpen (hhosts : Coupled E host host' R)
    (htoken : E (c.releaseEnv token) ((c.under environ).releaseEnv token'))
    (request : FormulaRequest) :
    Alike R (findOpen host c request token) (findOpen host' (c.under environ) request token') := by
  have hlike : (listCommand c request token).Like E
      (listCommand (c.under environ) request token') := ⟨rfl, rfl, rfl, .some htoken⟩
  refine (hhosts.issue hlike).bind fun reply => ?_
  cases reply with
  | error failure => exact alike_pure _
  | ok output =>
    refine (alike_orFault _).bind fun read => ?_
    cases read with
    | error what => exact alike_pure _
    | ok answer => exact alike_pure _

theorem alike_submit (hhosts : Coupled E host host' R) {request : FormulaRequest}
    (hlike : (bumpCommand c request token).Like E
      (bumpCommand (c.under environ) request token')) (out : Console) :
    Alike R (submit host c request token out)
      (submit host' (c.under environ) request token' out) := by
  refine (hhosts.echo _ _).bind fun _ => (hhosts.issue hlike).bind fun reply => ?_
  cases reply with
  | error failure => exact alike_pure _
  | ok output => exact alike_pure _

theorem alike_bump (hhosts : Coupled E host host' R) (hvars : c.Interchangeable E environ)
    (request : FormulaRequest) (out : Console) :
    Alike R (bump host c request out) (bump host' (c.under environ) request out) := by
  have htokens := hvars.formula
  unfold bump
  generalize c.formulaToken? = token? at htokens ⊢
  generalize (c.under environ).formulaToken? = token?' at htokens ⊢
  cases htokens with
  | none => exact alike_pure _
  | some htoken =>
    dsimp only
    split
    · exact alike_submit hhosts (htoken.2 request) out
    · refine (alike_findOpen hhosts htoken.1 request).bind fun looked => ?_
      rcases looked with failure | _ | url
      · exact alike_pure _
      · exact alike_submit hhosts (htoken.2 request) out
      · exact alike_pure _

end Formula

/-! ## Runs -/

namespace Release

theorem alike_runBranch (hhosts : Coupled E host host' R) (hvars : c.Interchangeable E environ)
    (console : Console) (target : BuildTarget) :
    Alike R (runBranch host c console target)
      (runBranch host' (c.under environ) console target) := by
  refine (Branch.alike_run hhosts hvars target console).caught.bind fun ended => ?_
  cases ended with
  | ok outcome => exact alike_pure _
  | error fault => exact alike_pure _

theorem alike_runBranches (hhosts : Coupled E host host' R) (hvars : c.Interchangeable E environ)
    (console : Console) (targets : List BuildTarget) :
    Alike R (runBranches host c console targets)
      (runBranches host' (c.under environ) console targets) := by
  induction targets with
  | nil => exact alike_pure _
  | cons target rest ih =>
    refine (alike_runBranch hhosts hvars console target).bind fun outcome => ?_
    exact ih.bind fun outcomes => alike_pure _

theorem alike_runFormula (hhosts : Coupled E host host' R) (hvars : c.Interchangeable E environ)
    (console : Console) (gate : Option BranchOutcome) :
    Alike R (runFormula host c console gate)
      (runFormula host' (c.under environ) console gate) := by
  unfold runFormula
  rcases gate with _ | outcome
  · exact alike_pure _
  dsimp only
  split
  · refine (hhosts.tell _ _).bind fun _ => ?_
    exact (Formula.alike_bump hhosts hvars _ _).bind fun result => alike_pure _
  · exact (hhosts.tell _ _).bind fun _ => alike_pure _

/-- **A run goes alike on coupled hosts.** -/
theorem alike_run (hhosts : Coupled E host host' R) (hvars : c.Interchangeable E environ)
    (targets : List BuildTarget) (console : Console) :
    Alike R (run host c targets console) (run host' (c.under environ) targets console) := by
  unfold run
  by_cases htargets : targets = []
  · simp only [htargets, if_true]
    exact alike_throw _
  simp only [htargets, if_false]
  refine (alike_runBranches hhosts hvars console targets).bind fun outcomes => ?_
  exact (alike_runFormula hhosts hvars console _).bind fun formula => alike_pure _

end Release

end Coupled

/-! ## A log changes nothing -/

section Logged

variable {σ α β : Type}

/-- The world without its log. -/
def World.unlogged (w : World (Logged σ)) : World σ :=
  ⟨w.files, w.transcript, w.issued, w.outside.outside⟩

@[simp] theorem World.unlogged_logged (w : World σ) : w.logged.unlogged = w := rfl

namespace Action

/-- Whether a step with a log and one without it do the same. -/
def Mirrors (a : Action (Logged σ) α) (b : Action σ α) : Prop :=
  ∀ w, runOn b w.unlogged = ((runOn a w).1, (runOn a w).2.unlogged)

variable {a : Action (Logged σ) α} {b : Action σ α}

/-- What the exchanges of a step with a log do to the outside, the step without one does. -/
theorem Mirrors.conducts {host : Host σ} {P : Protocol σ α} (h : Mirrors a b)
    (hfollows : Follows host a P) (w : World σ) :
    host.Conducts w.outside (exchanges a w.logged) (runOn b w).2.outside := by
  have hrun := h w.logged
  rw [World.unlogged_logged] at hrun
  rw [hrun]
  exact hfollows.conducts w.logged

/-- As a step with a log ends, so does the step without one. -/
theorem Mirrors.holds {host : Host σ} {P : Protocol σ α} (h : Mirrors a b)
    (hfollows : Follows host a P) (w : World σ) : P (exchanges a w.logged) (runOn b w).1 := by
  have hrun := h w.logged
  rw [World.unlogged_logged] at hrun
  rw [hrun]
  exact hfollows.holds w.logged

/-- Whether the second of two worlds is the first one without its log. -/
def LogAside (w : World (Logged σ)) (v : World σ) : Prop := v = w.unlogged

/-- **A log changes nothing.** -/
theorem coupled_logged (host : Host σ) : Coupled Eq host.logged host LogAside where
  installed := rfl
  archiver := rfl
  files := by
    rintro w _ rfl
    rfl
  tells := by
    rintro w _ rfl n
    rfl
  works := by
    rintro w _ rfl fs
    rfl
  issues := by
    rintro w _ rfl c c' hlike
    obtain rfl := hlike.eq
    rw [runOn_issue, runOn_issue]
    exact ⟨rfl, rfl⟩

theorem Alike.mirrors (h : Alike LogAside a b) : Mirrors a b := by
  intro w
  obtain ⟨hsame, hleft⟩ := h w w.unlogged rfl
  exact Prod.ext hsame.symm hleft

end Action

open Shipyard.Action

/-- The variables of a run can take their own place. -/
theorem RunContext.interchangeable_self (c : RunContext) : c.Interchangeable Eq c.environ where
  build _ := rfl
  publish := by
    show Option.Rel _ c.publishToken? c.publishToken?
    cases c.publishToken? with
    | none => exact .none
    | some token => exact .some rfl
  formula := by
    show Option.Rel _ c.formulaToken? c.formulaToken?
    cases c.formulaToken? with
    | none => exact .none
    | some token => exact .some ⟨rfl, fun request => ⟨rfl, rfl, rfl, .some rfl⟩⟩

theorem Build.mirrors_run (host : Host σ) (c : RunContext) (target : BuildTarget)
    (out : Console) : Mirrors (run host.logged c target out) (run host c target out) :=
  (alike_run (coupled_logged host) c.interchangeable_self target out).mirrors

theorem Publication.mirrors_run (host : Host σ) (c : RunContext) (artifact : Artifact)
    (out : Console) : Mirrors (run host.logged c artifact out) (run host c artifact out) :=
  (alike_run (coupled_logged host) c.interchangeable_self artifact out).mirrors

theorem Formula.mirrors_bump (host : Host σ) (c : RunContext) (request : FormulaRequest)
    (out : Console) : Mirrors (bump host.logged c request out) (bump host c request out) :=
  (alike_bump (coupled_logged host) c.interchangeable_self request out).mirrors

theorem Branch.mirrors_run (host : Host σ) (c : RunContext) (target : BuildTarget)
    (console : Console) : Mirrors (run host.logged c target console) (run host c target console) :=
  (alike_run (coupled_logged host) c.interchangeable_self target console).mirrors

theorem Release.mirrors_runBranches (host : Host σ) (c : RunContext) (console : Console)
    (targets : List BuildTarget) :
    Mirrors (runBranches host.logged c console targets) (runBranches host c console targets) :=
  (alike_runBranches (coupled_logged host) c.interchangeable_self console targets).mirrors

/-- **A run does the same with a log.** -/
theorem Release.mirrors_run (host : Host σ) (c : RunContext) (targets : List BuildTarget)
    (console : Console) :
    Mirrors (run host.logged c targets console) (run host c targets console) :=
  (alike_run (coupled_logged host) c.interchangeable_self targets console).mirrors

end Logged

end Shipyard
