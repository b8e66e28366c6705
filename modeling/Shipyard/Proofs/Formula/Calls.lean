import Shipyard.Proofs.Formula.Tap
import Shipyard.Proofs.Plan.Settings
import Shipyard.Proofs.Rehearsal
import Shipyard.Proofs.Run.Coupling

/-!
# No second bump

The same bump is asked for again and again, on a tap that is served. However the single calls end,
at most one of them submits with success, and as soon as a pull request for the bump is open, the
others submit nothing. What carries this is that an open pull request stays open and is recognized
by its title; the name of the formula must not be empty for that, since the title is stripped.
-/

namespace Shipyard.Formula

variable {σ : Type} {host : Host σ} {request : FormulaRequest} {pulls : σ → Set PullRequest}

/-! ## Sequences of calls -/

/-- A bump that was asked for: where, how it found everything outside, what it gave, and its
exchanges. -/
structure Call (σ : Type) where
  /-- the run that asked for it -/
  context : RunContext
  /-- the state of everything outside when it began -/
  found : σ
  /-- what it gave -/
  outcome : Except Fault (Except FormulaFailure FormulaBump)
  /-- what was said to the host, and its answers -/
  exchanges : List (Exchange σ)

/-- The exchanges of a bump. -/
def exchanges (host : Host σ) (c : RunContext) (request : FormulaRequest) (out : Console)
    (w : World σ) : List (Exchange σ) :=
  Action.exchanges (bump host.logged c request out) w.logged

/-- Asks for the same bump in one run after the other, whatever becomes of each. -/
def runAll (host : Host σ) (request : FormulaRequest) :
    List (RunContext × Console) → World σ → List (Call σ) × World σ
  | [], w => ([], w)
  | (c, out) :: rest, w =>
    let (outcome, w₁) := Action.runOn (bump host c request out) w
    let (calls, w₂) := runAll host request rest w₁
    (⟨c, w.outside, outcome, exchanges host c request out w⟩ :: calls, w₂)

/-- Calls that a host can have, from one state of the outside to another. -/
def History (host : Host σ) (request : FormulaRequest) : σ → List (Call σ) → σ → Prop
  | s, [], s' => s' = s
  | s, call :: rest, s' =>
    call.found = s ∧ ∃ s₁, host.Conducts s call.exchanges s₁ ∧
      Transcript call.context request call.exchanges call.outcome ∧ History host request s₁ rest s'

theorem history_runAll (host : Host σ) (request : FormulaRequest)
    (runs : List (RunContext × Console)) (w : World σ) :
    History host request w.outside (runAll host request runs w).1
      (runAll host request runs w).2.outside := by
  induction runs generalizing w with
  | nil => exact rfl
  | cons run rest ih =>
    obtain ⟨c, out⟩ := run
    have hmirrors := mirrors_bump host c request out
    have hfollows := follows_bump host c request out
    exact ⟨rfl, _, hmirrors.conducts hfollows w, hmirrors.holds hfollows w, ih _⟩

/-- A call submits nothing, and skips with an open pull request if its look went well. -/
def Call.Skips (call : Call σ) (request : FormulaRequest) : Prop :=
  (∀ e ∈ call.exchanges, e.brews = false) ∧
    ((∃ e ∈ call.exchanges, e.lists = true ∧ e.succeeded = true) →
      ∃ url, call.outcome = .ok (.ok (.skipped request.tag (some url))))

/-- The number of submissions that went well. -/
def submissions (calls : List (Call σ)) : Nat :=
  (calls.flatMap (·.exchanges)).countP fun e => e.brews && e.succeeded

namespace History

variable {s s' : σ} {calls before after : List (Call σ)} {call : Call σ}

theorem split (h : History host request s (before ++ after) s') :
    ∃ s₁, History host request s before s₁ ∧ History host request s₁ after s' := by
  induction before generalizing s with
  | nil => exact ⟨s, rfl, h⟩
  | cons call before ih =>
    obtain ⟨hfound, s₁, hc, htranscript, hrest⟩ := h
    obtain ⟨s₂, h₁, h₂⟩ := ih hrest
    exact ⟨s₂, ⟨hfound, s₁, hc, htranscript, h₁⟩, h₂⟩

/-- **Once a pull request is open, all calls skip.** -/
theorem skips_of_isOpen (h : History host request s calls s') (hforce : request.force = false)
    (hserves : ServesTap host request pulls) (hopen : request.IsOpen (pulls s)) :
    ∀ call ∈ calls, call.Skips request := by
  induction calls generalizing s with
  | nil => exact List.forall_mem_nil _
  | cons call calls ih =>
    obtain ⟨-, s₁, hc, htranscript, hrest⟩ := h
    refine List.forall_mem_cons.mpr ⟨htranscript.skips_of_isOpen hforce hserves hc hopen, ?_⟩
    exact ih hrest (isOpen_of_conducts hserves hc htranscript.asks hopen)

/-- **At most one call submits with success.** -/
theorem submissions_le_one (h : History host request s calls s') (hforce : request.force = false)
    (hplain : request.IsPlain) (hserves : ServesTap host request pulls) :
    submissions calls ≤ 1 := by
  induction calls generalizing s with
  | nil => exact Nat.zero_le _
  | cons call calls ih =>
    obtain ⟨-, s₁, hc, htranscript, hrest⟩ := h
    rw [submissions, List.flatMap_cons, List.countP_append]
    by_cases hsubmitted : ∃ e ∈ call.exchanges, (e.brews && e.succeeded) = true
    · -- the first call has opened a pull request, so the others submit nothing
      obtain ⟨e, he, hwell⟩ := hsubmitted
      obtain ⟨hbrews, hsucceeded⟩ := Bool.and_eq_true_iff.mp hwell
      have hopen := htranscript.isOpen_of_brews hplain hserves hc he hbrews hsucceeded
      have hskips := hrest.skips_of_isOpen hforce hserves hopen
      have hnone : submissions calls = 0 := by
        refine List.countP_eq_zero.mpr fun e he => ?_
        obtain ⟨later, hlater, he⟩ := List.mem_flatMap.mp he
        rw [(hskips later hlater).1 e he]
        exact Bool.false_ne_true
      have hfirst : call.exchanges.countP (fun e => e.brews && e.succeeded) ≤ 1 := by
        refine le_trans (List.countP_mono_left fun e _ hwell => ?_) htranscript.countP_brews_le_one
        exact (Bool.and_eq_true_iff.mp hwell).1
      exact Nat.add_le_add hfirst hnone.le
    · have hnone : call.exchanges.countP (fun e => e.brews && e.succeeded) = 0 :=
        List.countP_eq_zero.mpr fun e he hwell => hsubmitted ⟨e, he, hwell⟩
      rw [hnone, Nat.zero_add]
      exact ih hrest

end History

/-- **No second bump.** However often a bump is asked for on a tap that is served, at most one call
submits it with success; and from the first call on that finds a pull request for it open, nothing
is submitted, and every call whose look went well ends with such a pull request. -/
theorem no_second_bump (hserves : ServesTap host request pulls) (hforce : request.force = false)
    (hplain : request.IsPlain) (runs : List (RunContext × Console)) (w : World σ)
    {calls : List (Call σ)} {final : World σ} (hrun : runAll host request runs w = (calls, final)) :
    submissions calls ≤ 1 ∧
      ∀ before call after, calls = before ++ call :: after →
        request.IsOpen (pulls call.found) → ∀ later ∈ call :: after, later.Skips request := by
  have hhistory := history_runAll host request runs w
  rw [hrun] at hhistory
  refine ⟨hhistory.submissions_le_one hforce hplain hserves, ?_⟩
  rintro before call after rfl hopen
  obtain ⟨s₁, -, hafter⟩ := hhistory.split
  have hfound : call.found = s₁ := hafter.1
  rw [hfound] at hopen
  exact hafter.skips_of_isOpen hforce hserves hopen

/-! ## A tap with one bump -/

/-- What a look at a tap gives that has one pull request, or none. -/
def listing (pull : PullRequest) (opened : Bool) : Value :=
  .list (if opened then [.table [("title", .text pull.title), ("url", .text pull.url)]] else [])

/-- The host of that tap: a submission opens the pull request. -/
def tapHost (pull : PullRequest) : Host Bool where
  answer command files opened :=
    if command.argv.head? = some "brew" then (.ok (.ok ""), files, true)
    else (.ok (.ok (Json.write (listing pull opened))), files, opened)
  installed _ := true
  archiver := Archive.storing

/-- What is open on that tap. -/
def tapPulls (pull : PullRequest) (opened : Bool) : Set PullRequest :=
  {p | opened = true ∧ p = pull}

theorem tapHost_gives_of_looks {pull : PullRequest} {s : Bool} {e : Exchange Bool}
    (hg : (tapHost pull).Gives s e) (hlooks : e.Looks request) :
    e.answer = .ok (.ok (Json.write (listing pull s))) ∧ e.left = s := by
  obtain ⟨files, files', hg⟩ := hg
  have hbrews : ¬ e.command.argv.head? = some "brew" :=
    of_decide_eq_false (hlooks.not_brews)
  rw [tapHost] at hg
  simp only [if_neg hbrews, Prod.mk.injEq] at hg
  exact ⟨hg.1.symm, hg.2.2.symm⟩

theorem tapHost_left_of_submits {pull : PullRequest} {s : Bool} {e : Exchange Bool}
    (hg : (tapHost pull).Gives s e) (hsubmits : e.Submits request) : e.left = true := by
  obtain ⟨files, files', hg⟩ := hg
  have hbrews : e.command.argv.head? = some "brew" := of_decide_eq_true hsubmits.brews
  rw [tapHost] at hg
  simp only [if_pos hbrews, Prod.mk.injEq] at hg
  exact hg.2.2.symm

theorem servesTap_tapHost {pull : PullRequest}
    (htitle : pull.title = bumpTitle request.formula request.tag)
    (hreads : ∀ opened, ∃ output, Json.write (listing pull opened) = output ∧ output ≠ "" ∧
      Value.ofJson output = .ok (.ok (listing pull opened))) :
    ServesTap (tapHost pull) request (tapPulls pull) where
  keeps := by
    rintro s e hg (hlooks | hsubmits) p ⟨hopened, hp⟩
    · exact ⟨by rw [(tapHost_gives_of_looks hg hlooks).2, hopened], hp⟩
    · exact ⟨tapHost_left_of_submits hg hsubmits, hp⟩
  opens := by
    intro s e hg hsubmits _
    exact ⟨pull, ⟨tapHost_left_of_submits hg hsubmits, rfl⟩, htitle⟩
  shows := by
    intro s e output hg hlooks hanswer
    rw [(tapHost_gives_of_looks hg hlooks).1] at hanswer
    obtain ⟨output', rfl, hne, hjson⟩ := hreads s
    cases hanswer
    refine ⟨listing pull s, _, by rw [if_neg hne, hjson], rfl, ?_⟩
    rintro p ⟨rfl, rfl⟩
    exact ⟨_, List.mem_singleton_self _, _, rfl, rfl, rfl⟩

/-- The pull request of a bump. -/
def pullOf (request : FormulaRequest) : PullRequest :=
  ⟨bumpTitle request.formula request.tag, "https://github.com/o/r/pull/1"⟩

/-- Two runs that ask for the same bump on that tap. -/
def askTwice (request : FormulaRequest) : List (Call Bool) × World Bool :=
  runAll (tapHost (pullOf request)) request
    [(Rehearsal.context, Console.plain), (Rehearsal.context, Console.plain)]
    ⟨FileSystem.empty [], [], [], false⟩

/-- The bump of `replibyte` to `v1`. -/
def rehearsedBump : FormulaRequest := requestOf Rehearsal.context (some false)

set_option maxRecDepth 100000 in
/-- The second of two runs skips. -/
theorem no_second_bump_rehearsed :
    submissions (askTwice rehearsedBump).1 ≤ 1 ∧
      ∃ first second, (askTwice rehearsedBump).1 = [first, second] ∧
        second.Skips rehearsedBump := by
  have hserves : ServesTap (tapHost (pullOf rehearsedBump)) rehearsedBump
      (tapPulls (pullOf rehearsedBump)) := by
    refine servesTap_tapHost rfl fun opened => ?_
    cases opened <;> exact ⟨_, rfl, by decide, rfl⟩
  have hplain : rehearsedBump.IsPlain := by
    constructor <;> decide
  obtain ⟨honce, hskips⟩ := no_second_bump hserves rfl hplain _ _ rfl
  refine ⟨honce, _, _, rfl, ?_⟩
  exact hskips [_] _ [] rfl ⟨_, ⟨rfl, rfl⟩, hplain.matches rfl⟩ _ List.mem_cons_self

/-! ## Formulas without a name -/

/-- Settings that were read name a formula, so runs ask for no other bumps. -/
theorem requestOf_formula_ne_empty {c : RunContext} {t : Table}
    (hread : Config.ofTable t = .ok c.config) (force : Option Bool) :
    (requestOf c force).formula ≠ "" := by
  let setting : Config.TextSetting := ⟨⟨"formula", "name"⟩, "replibyte", (·.formula.name)⟩
  have hmem : setting ∈ Config.textSettings := by simp [setting, Config.textSettings]
  exact ((Config.reads_of_ofTable hread).stripped hmem).1

/-- The bump of a formula without a name. -/
def namelessBump : FormulaRequest := { rehearsedBump with formula := "" }

set_option maxRecDepth 100000 in
theorem submissions_namelessBump : submissions (askTwice namelessBump).1 = 2 := by
  decide

set_option maxRecDepth 100000 in
/-- **The formula needs a name.** Without one a title begins with a blank; when it is read, the
blank is stripped, and with it the empty word that stood for the formula. -/
theorem nameless_bumped_twice :
    ServesTap (tapHost (pullOf namelessBump)) namelessBump (tapPulls (pullOf namelessBump)) ∧
      namelessBump.force = false ∧ IsPlain namelessBump.formula ∧ IsPlain namelessBump.tag ∧
      versionOf namelessBump.tag ≠ "" ∧ submissions (askTwice namelessBump).1 = 2 := by
  refine ⟨servesTap_tapHost rfl fun opened => ?_, rfl, by decide, by decide +kernel,
    by decide, submissions_namelessBump⟩
  cases opened <;> exact ⟨_, rfl, by decide, rfl⟩

end Shipyard.Formula
