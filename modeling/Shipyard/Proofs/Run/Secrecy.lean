import Shipyard.Proofs.Command.Variables
import Shipyard.Proofs.Rehearsal
import Shipyard.Proofs.Run.Coupling

/-!
# Tokens stay hidden

A run hands its tokens over to commands as variables and does nothing else with them. So on a host
that does not look at variables two runs with different tokens cannot be told apart: they end in the
same way, tell the user the same, leave the same files and issue the same commands, and the
variables of these differ only where the tokens are (`Release.run_hides_tokens`).
-/

namespace Shipyard

open Shipyard.Action

variable {σ : Type} {host : Host σ} {c : RunContext} {environ : Environment}

/-! ## Hosts that do not look at variables -/

/-- Whether the answers of a host do not depend on the variables of a command. -/
def Host.IgnoresVariables (host : Host σ) : Prop :=
  ∀ command env files s,
    host.answer { command with env := env } files s = host.answer command files s

/-- Worlds that are the same, but for the variables of the commands that were issued. -/
structure World.SameBut (hidden : List String) (w w' : World σ) : Prop where
  /-- the files -/
  files : w.files = w'.files
  /-- what the user was told -/
  transcript : w.transcript = w'.transcript
  /-- the commands, one by one -/
  issued : List.Forall₂ (Command.Like (Environment.SameBut hidden)) w.issued w'.issued
  /-- everything outside -/
  outside : w.outside = w'.outside

theorem World.SameBut.refl (hidden : List String) (w : World σ) : w.SameBut hidden w := by
  refine ⟨rfl, rfl, List.forall₂_same.mpr fun command _ => ⟨rfl, rfl, rfl, ?_⟩, rfl⟩
  cases command.env with
  | none => exact .none
  | some env => exact .some (.refl hidden env)

/-- **Such a host is coupled with itself**, whatever variables are hidden. -/
theorem Host.IgnoresVariables.coupled (h : host.IgnoresVariables) (hidden : List String) :
    Coupled (Environment.SameBut hidden) host host (World.SameBut hidden) where
  installed := rfl
  archiver := rfl
  files hw := hw.files
  tells hw n := ⟨hw.files, by rw [hw.transcript], hw.issued, hw.outside⟩
  works hw fs := ⟨rfl, hw.transcript, hw.issued, hw.outside⟩
  issues := by
    intro w w' hw command command' hlike
    have hanswer : ∀ fs s, host.answer command fs s = host.answer command' fs s := by
      intro fs s
      rw [← h command command'.env fs s, hlike.argv, hlike.cwd, hlike.timeout]
    rw [runOn_issue, runOn_issue, hanswer, hw.files, hw.outside]
    refine ⟨rfl, rfl, hw.transcript, ?_, rfl⟩
    exact List.rel_append hw.issued (.cons hlike .nil)

/-! ## Runs -/

namespace RunContext

/-- The variables that a run reads its tokens from. -/
def tokenSources (c : RunContext) : List String :=
  [c.config.secrets.publishTokenEnv, c.config.secrets.formulaTokenEnv]

/-- All variables that hold a token: these, and those that commands expect theirs in. -/
def tokenVariables (c : RunContext) : List String :=
  c.tokenSources ++ ["GH_TOKEN", "HOMEBREW_GITHUB_API_TOKEN"]

/-- Whether both tokens are set and not empty. -/
def HasTokens (c : RunContext) : Prop :=
  ∀ name ∈ c.tokenSources, ∃ token, c.environ.find? name = some token ∧ token ≠ ""

theorem HasTokens.publish (h : c.HasTokens) : ∃ token, c.publishToken? = some token :=
  Environment.exists_nonempty?_iff.mpr (h _ (List.mem_cons_self ..))

theorem HasTokens.formula (h : c.HasTokens) : ∃ token, c.formulaToken? = some token :=
  Environment.exists_nonempty?_iff.mpr (h _ (List.mem_cons_of_mem _ (List.mem_cons_self ..)))

/-- Variables with other tokens can take the place of those of a run. -/
theorem interchangeable_of_tokens (hsame : c.environ.SameBut c.tokenSources environ)
    (hset : c.HasTokens) (hset' : (c.under environ).HasTokens) :
    c.Interchangeable (Environment.SameBut c.tokenVariables) environ := by
  have hvars : c.environ.SameBut c.tokenVariables environ :=
    hsame.mono fun name hname => List.mem_append_left _ hname
  have hrelease : ∀ token token', Environment.SameBut c.tokenVariables (c.releaseEnv token)
      ((c.under environ).releaseEnv token') := by
    intro token token'
    exact hvars.set (.inr (by simp [tokenVariables]))
  refine ⟨fun more => hvars.extend more, ?_, ?_⟩
  · obtain ⟨token, htoken⟩ := hset.publish
    obtain ⟨token', htoken'⟩ := hset'.publish
    rw [htoken, htoken']
    exact .some (hrelease token token')
  · obtain ⟨token, htoken⟩ := hset.formula
    obtain ⟨token', htoken'⟩ := hset'.formula
    rw [htoken, htoken']
    refine .some ⟨hrelease token token', fun request => ⟨rfl, rfl, rfl, .some ?_⟩⟩
    exact (hvars.set (.inr (by simp [tokenVariables]))).set (.inl rfl)

end RunContext

namespace Release

/-- **Tokens do not show in a run.** If no answer depends on variables, other tokens change nothing
but the variables of commands, and of those only the ones that hold tokens. -/
theorem run_hides_tokens (hignores : host.IgnoresVariables)
    (hsame : c.environ.SameBut c.tokenSources environ) (hset : c.HasTokens)
    (hset' : ({ c with environ := environ } : RunContext).HasTokens) (targets : List BuildTarget)
    (console : Console) (w : World σ) :
    (runOn (run host c targets console) w).1 =
        (runOn (run host { c with environ := environ } targets console) w).1 ∧
      (runOn (run host c targets console) w).2.SameBut c.tokenVariables
        (runOn (run host { c with environ := environ } targets console) w).2 :=
  alike_run (hignores.coupled c.tokenVariables)
    (RunContext.interchangeable_of_tokens hsame hset hset') targets console w w (.refl _ w)

/-! ## Two rehearsals -/

theorem ignoresVariables_rehearsal (script : Script) :
    (Rehearsal.host script).IgnoresVariables :=
  fun _ _ _ _ => rfl

/-- Other tokens than those of the rehearsed release. -/
def otherTokens : Environment := [("GITHUB_TOKEN", "u"), ("PERSONAL_TOKEN", "q")]

theorem sameBut_otherTokens :
    Rehearsal.context.environ.SameBut Rehearsal.context.tokenSources otherTokens := by
  intro name
  by_cases hpublish : name = "GITHUB_TOKEN"
  · subst hpublish
    exact ⟨rfl, fun h => absurd (List.mem_cons_self ..) h⟩
  by_cases hformula : name = "PERSONAL_TOKEN"
  · subst hformula
    exact ⟨rfl, fun h => absurd (List.mem_cons_of_mem _ (List.mem_cons_self ..)) h⟩
  simp [Rehearsal.context, otherTokens, Environment.find?_cons, hpublish, hformula]

theorem hasTokens_rehearsed {environ : Environment} {token token' : String}
    (henviron : environ = [("GITHUB_TOKEN", token), ("PERSONAL_TOKEN", token')])
    (htoken : token ≠ "") (htoken' : token' ≠ "") :
    ({ Rehearsal.context with environ := environ } : RunContext).HasTokens := by
  subst henviron
  intro name hname
  rcases List.mem_cons.mp hname with rfl | hname
  · exact ⟨token, rfl, htoken⟩
  · obtain rfl := List.mem_singleton.mp hname
    exact ⟨token', rfl, htoken'⟩

/-- Two rehearsals with different tokens cannot be told apart. -/
theorem run_hides_tokens_rehearsed :
    (runOn (run (Rehearsal.host Rehearsal.script) Rehearsal.context BuildTarget.all Console.plain)
          (Rehearsal.world [])).1 =
        (runOn (run (Rehearsal.host Rehearsal.script)
          { Rehearsal.context with environ := otherTokens } BuildTarget.all Console.plain)
          (Rehearsal.world [])).1 ∧
      (runOn (run (Rehearsal.host Rehearsal.script) Rehearsal.context BuildTarget.all
          Console.plain) (Rehearsal.world [])).2.SameBut Rehearsal.context.tokenVariables
        (runOn (run (Rehearsal.host Rehearsal.script)
          { Rehearsal.context with environ := otherTokens } BuildTarget.all Console.plain)
          (Rehearsal.world [])).2 :=
  run_hides_tokens (ignoresVariables_rehearsal _) sameBut_otherTokens
    (hasTokens_rehearsed rfl (by decide) (by decide))
    (hasTokens_rehearsed rfl (by decide) (by decide)) _ _ _

end Release

end Shipyard
