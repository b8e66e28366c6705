import Shipyard.Proofs.Command.Exchange
import Shipyard.Step.Formula

/-!
# What a bump says to its host

A bump that is forced is one command. Any other looks at the open pull requests first, and its
command comes behind a look that found none.
-/

namespace Shipyard.Formula

variable {σ : Type} {c : RunContext} {request : FormulaRequest}

/-- What is found in the answer to a look at the open pull requests. No output counts as a list
without entries. -/
def found (request : FormulaRequest) :
    Answer → Except Fault (Except FormulaFailure (Option String))
  | .error fault => .error fault
  | .ok (.error failure) =>
    .ok (.error ⟨.lookupFailed, "cannot list open pull requests on " ++ request.tap, failure.hint⟩)
  | .ok (.ok output) =>
    match Value.ofJson (if output = "" then "[]" else output) with
    | .error fault => .error fault
    | .ok (.error what) =>
      .ok (.error ⟨.lookupFailed, "invalid JSON from gh pr list: " ++ what, none⟩)
    | .ok (.ok answer) => .ok (.ok ((answer.asList?.getD []).findSome? (matching? request)))

/-- What is made of the answer to a bump. -/
def submitted (request : FormulaRequest) :
    Answer → Except Fault (Except FormulaFailure FormulaBump)
  | .error fault => .error fault
  | .ok (.error failure) =>
    .ok (.error
      ⟨.submitFailed, s!"brew bump-formula-pr failed (exit {failure.code})", failure.hint⟩)
  | .ok (.ok output) => .ok (.ok (.submitted request (pullRequestUrl? output)))

/-- There is no token for the tap. -/
def authMissing (c : RunContext) : FormulaFailure :=
  ⟨.authMissing, c.config.secrets.formulaTokenEnv ++ " is not set",
    some "a token with 'public_repo' and 'workflow' scopes is required"⟩

/-- A look at the open pull requests is one exchange. -/
theorem follows_findOpen (host : Host σ) (c : RunContext) (request : FormulaRequest)
    (token : String) :
    Action.Follows host (findOpen host.logged c request token) fun es r =>
      ∃ e, es = [e] ∧ e.command = listCommand c request token ∧ r = found request e.answer := by
  refine .issue_bind (fun reply => ?_) ?_
  · cases reply with
    | error failure =>
      refine Action.follows_pure fun e hc ha => ⟨e, rfl, hc, ?_⟩
      rw [ha]
      rfl
    | ok output =>
      refine .orFault_bind (fun read hread => ?_) ?_
      · rcases read with what | answer
        all_goals
          refine Action.follows_pure fun e hc ha => ⟨e, rfl, hc, ?_⟩
          simp only [ha, found, hread]
      · intro fault hread e hc ha
        refine ⟨e, rfl, hc, ?_⟩
        simp only [ha, found, hread]
  · intro e fault hc ha
    refine ⟨e, rfl, hc, ?_⟩
    rw [ha]
    rfl

/-- A bump that is requested is one exchange. -/
theorem follows_submit (host : Host σ) (c : RunContext) (request : FormulaRequest) (token : String)
    (out : Console) :
    Action.Follows host (submit host.logged c request token out) fun es r =>
      ∃ e, es = [e] ∧ e.command = bumpCommand c request token ∧
        r = submitted request e.answer := by
  refine .echo_bind (.issue_bind (fun reply => ?_) ?_)
  · cases reply with
    | error failure =>
      refine Action.follows_pure fun e hc ha => ⟨e, rfl, hc, ?_⟩
      rw [ha]
      rfl
    | ok output =>
      refine Action.follows_pure fun e hc ha => ⟨e, rfl, hc, ?_⟩
      rw [ha]
      rfl
  · intro e fault hc ha
    refine ⟨e, rfl, hc, ?_⟩
    rw [ha]
    rfl

/-- **A whole bump.** -/
inductive Transcript (c : RunContext) (request : FormulaRequest) :
    Protocol σ (Except FormulaFailure FormulaBump)
  /-- there is no token -/
  | noToken : c.formulaToken? = none → Transcript c request [] (.ok (.error (authMissing c)))
  /-- it is forced -/
  | forced {token : String} {e : Exchange σ} : c.formulaToken? = some token →
      request.force = true → e.command = bumpCommand c request token →
      Transcript c request [e] (submitted request e.answer)
  /-- the look met a fault -/
  | faulted {token : String} {e : Exchange σ} {fault : Fault} : c.formulaToken? = some token →
      request.force = false → e.command = listCommand c request token →
      found request e.answer = .error fault → Transcript c request [e] (.error fault)
  /-- the look failed -/
  | failed {token : String} {e : Exchange σ} {failure : FormulaFailure} :
      c.formulaToken? = some token → request.force = false →
      e.command = listCommand c request token → found request e.answer = .ok (.error failure) →
      Transcript c request [e] (.ok (.error failure))
  /-- a pull request is open -/
  | skipped {token url : String} {e : Exchange σ} : c.formulaToken? = some token →
      request.force = false → e.command = listCommand c request token →
      found request e.answer = .ok (.ok (some url)) →
      Transcript c request [e] (.ok (.ok (.skipped request.tag (some url))))
  /-- none is open -/
  | unforced {token : String} {e e' : Exchange σ} : c.formulaToken? = some token →
      request.force = false → e.command = listCommand c request token →
      found request e.answer = .ok (.ok none) → e'.command = bumpCommand c request token →
      Transcript c request [e, e'] (submitted request e'.answer)

/-- Every bump has a transcript. -/
theorem follows_bump (host : Host σ) (c : RunContext) (request : FormulaRequest) (out : Console) :
    Action.Follows host (bump host.logged c request out) (Transcript c request) := by
  unfold bump
  rcases htoken : c.formulaToken? with _ | token
  · exact Action.follows_pure (.noToken htoken)
  by_cases hforce : request.force = true
  · simp only [hforce, if_true]
    refine (follows_submit host c request token out).mono ?_
    rintro _ _ ⟨e, rfl, hc, rfl⟩
    exact .forced htoken hforce hc
  · simp only [hforce]
    rw [Bool.not_eq_true] at hforce
    refine (follows_findOpen host c request token).bind (fun looked => ?_) ?_
    · rcases looked with failure | _ | url
      · refine Action.follows_pure_after ?_
        rintro _ ⟨e, rfl, hc, hfound⟩
        exact .failed htoken hforce hc hfound.symm
      · refine (follows_submit host c request token out).mono ?_
        rintro _ _ ⟨e', rfl, hc', rfl⟩ _ ⟨e, rfl, hc, hfound⟩
        exact .unforced htoken hforce hc hfound.symm hc'
      · refine Action.follows_pure_after ?_
        rintro _ ⟨e, rfl, hc, hfound⟩
        exact .skipped htoken hforce hc hfound.symm
    · rintro _ fault ⟨e, rfl, hc, hfound⟩
      exact .faulted htoken hforce hc hfound.symm

/-- Without a token there is no command, and the bump ends with the failure that says so. -/
theorem Transcript.eq_of_no_token {c : RunContext} {request : FormulaRequest}
    {es : List (Exchange σ)} {r : Except Fault (Except FormulaFailure FormulaBump)}
    (h : Transcript c request es r) (htoken : c.formulaToken? = none) :
    es = [] ∧ r = .ok (.error (authMissing c)) := by
  cases h with
  | noToken => exact ⟨rfl, rfl⟩
  | forced hsome | faulted hsome | failed hsome | skipped hsome | unforced hsome =>
    rw [htoken] at hsome
    cases hsome

end Shipyard.Formula
