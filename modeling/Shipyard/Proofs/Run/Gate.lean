import Shipyard.Proofs.Command.Variables
import Shipyard.Proofs.Run.Delivery

/-!
# The gate of the formula

A run bumps the formula if the branch of its gate is done, and then it asks for the open pull
requests at most once and requests a bump at most once. What decides is the token, whether the bump
is forced, and what the list of pull requests shows. Every bump comes behind the confirmation of
what the branch of the gate has uploaded (`Release.gate_kept`).
-/

namespace Shipyard

variable {σ : Type} {host : Host σ} {c : RunContext} {es log : List (Exchange σ)}
  {target : BuildTarget} {targets : List BuildTarget}

/-! ## Once or never -/

/-- Exchanges of a kind happen once if a condition holds, and never otherwise. -/
structure OnceIf (p : Prop) (kind : Exchange σ → Bool) (log : List (Exchange σ)) : Prop where
  /-- it holds -/
  once : p → log.countP kind = 1
  /-- it does not hold -/
  never : ¬ p → log.countP kind = 0

namespace OnceIf

variable {p q : Prop} {kind : Exchange σ → Bool}

theorem of_once (hp : p) (h : log.countP kind = 1) : OnceIf p kind log :=
  ⟨fun _ => h, fun hn => absurd hp hn⟩

theorem of_never (hp : ¬ p) (h : log.countP kind = 0) : OnceIf p kind log :=
  ⟨fun h => absurd h hp, fun _ => h⟩

theorem congr (hpq : p ↔ q) (h : OnceIf p kind log) : OnceIf q kind log :=
  ⟨fun hq => h.once (hpq.mpr hq), fun hq => h.never (hpq.not.mpr hq)⟩

/-- Exchanges of other kinds do not matter. -/
theorem append_left {before : List (Exchange σ)} (h : OnceIf p kind log)
    (hbefore : ∀ e ∈ before, kind e = false) : OnceIf p kind (before ++ log) := by
  have hcount : (before ++ log).countP kind = log.countP kind := by
    have hzero : before.countP kind = 0 :=
      List.countP_eq_zero.mpr fun e he => Bool.eq_false_iff.mp (hbefore e he)
    rw [List.countP_append, hzero, Nat.zero_add]
  exact ⟨fun hp => hcount.trans (h.once hp), fun hp => hcount.trans (h.never hp)⟩

end OnceIf

/-! ## Bumps -/

/-- Whether the token for the tap is set and not empty. -/
def RunContext.HasFormulaToken (c : RunContext) : Prop :=
  ∃ token, c.environ.find? c.config.secrets.formulaTokenEnv = some token ∧ token ≠ ""

theorem RunContext.hasFormulaToken_iff :
    c.HasFormulaToken ↔ ∃ token, c.formulaToken? = some token :=
  Environment.exists_nonempty?_iff.symm

namespace Formula

variable {request : FormulaRequest} {entry : Value} {answer : Answer}

/-- Whether an open pull request mentions a request in its title. -/
def Mentions (request : FormulaRequest) (entry : Value) : Prop :=
  ∃ t, entry.asTable? = some t ∧
    titleMentions ((t.text? "title").getD "") request.formula request.tag = true

/-- Whether a list of pull requests was given, and none of them mentions a request. -/
def ListsNone (request : FormulaRequest) (answer : Answer) : Prop :=
  ∃ output v, answer = .ok (.ok output) ∧ Value.ofJson output = .ok (.ok v) ∧
    ∀ entry ∈ v.asList?.getD [], ¬ Mentions request entry

/-- Whether no pull request is open for a request. No output counts as an empty list. -/
def NoneOpen (request : FormulaRequest) (answer : Answer) : Prop :=
  answer = .ok (.ok "") ∨ ListsNone request answer

theorem matching?_eq_none_iff : matching? request entry = none ↔ ¬ Mentions request entry := by
  rcases htable : entry.asTable? with _ | t
  · simp [matching?, Mentions, htable]
  · simp [matching?, Mentions, htable]

theorem found_eq_none_iff : found request answer = .ok (.ok none) ↔ NoneOpen request answer := by
  rcases answer with fault | failure | output
  · simp [found, NoneOpen, ListsNone]
  · simp [found, NoneOpen, ListsNone]
  by_cases houtput : output = ""
  · have hread : Value.ofJson "[]" = .ok (.ok (.list [])) := by rfl
    simp [found, NoneOpen, houtput, hread, Value.asList?]
  · rcases hread : Value.ofJson output with fault | what | v
    · simp [found, NoneOpen, ListsNone, houtput, hread]
    · simp [found, NoneOpen, ListsNone, houtput, hread]
    · simp [found, NoneOpen, ListsNone, houtput, hread, List.findSome?_eq_none_iff,
        matching?_eq_none_iff]

/-- **The look at the pull requests.** It is taken once if there is a token and the bump is not
forced. -/
theorem Transcript.listsOnce {r : Except Fault (Except FormulaFailure FormulaBump)}
    (h : Transcript c request es r) :
    OnceIf (c.HasFormulaToken ∧ request.force = false) Exchange.lists es := by
  rw [RunContext.hasFormulaToken_iff]
  cases h with
  | noToken htoken =>
    refine .of_never ?_ rfl
    rintro ⟨⟨token, hsome⟩, -⟩
    rw [htoken] at hsome
    cases hsome
  | forced _ hforce hbump =>
    refine .of_never ?_ ?_
    · rintro ⟨-, hunforced⟩
      rw [hforce] at hunforced
      cases hunforced
    · simp [not_lists_of_bump hbump]
  | faulted htoken hforce hlist _ | failed htoken hforce hlist _ | skipped htoken hforce hlist _ =>
    refine .of_once ⟨⟨_, htoken⟩, hforce⟩ ?_
    simp [lists_of_list hlist]
  | unforced htoken hforce hlist _ hbump =>
    refine .of_once ⟨⟨_, htoken⟩, hforce⟩ ?_
    simp [lists_of_list hlist, not_lists_of_bump hbump]

/-- What a single look has to show before a bump is requested. -/
theorem exists_lists_noneOpen_iff {token : String} {e : Exchange σ}
    (hlist : e.command = listCommand c request token) :
    (∃ e' ∈ [e], e'.lists = true ∧ NoneOpen request e'.answer) ↔
      found request e.answer = .ok (.ok none) := by
  simp [found_eq_none_iff, lists_of_list hlist]

/-- **The bump.** It is requested once if there is a token, and it is forced or none is open. -/
theorem Transcript.bumpsOnce {r : Except Fault (Except FormulaFailure FormulaBump)}
    (h : Transcript c request es r) :
    OnceIf (c.HasFormulaToken ∧
      (request.force = true ∨ ∃ e ∈ es, e.lists = true ∧ NoneOpen request e.answer))
      Exchange.bumps es := by
  rw [RunContext.hasFormulaToken_iff]
  cases h with
  | noToken htoken =>
    refine .of_never ?_ rfl
    rintro ⟨⟨token, hsome⟩, -⟩
    rw [htoken] at hsome
    cases hsome
  | forced htoken hforce hbump =>
    refine .of_once ⟨⟨_, htoken⟩, .inl hforce⟩ ?_
    simp [bumps_of_bump hbump]
  | faulted _ hforce hlist hfound | failed _ hforce hlist hfound | skipped _ hforce hlist hfound =>
    refine .of_never ?_ ?_
    · rw [exists_lists_noneOpen_iff hlist, hforce, hfound]
      rintro ⟨-, hforced | hnone⟩
      · cases hforced
      · cases hnone
    · simp [not_bumps_of_list hlist]
  | unforced htoken _ hlist hfound hbump =>
    refine .of_once ⟨⟨_, htoken⟩, .inr ⟨_, List.mem_cons_self .., ?_⟩⟩ ?_
    · exact ⟨lists_of_list hlist, found_eq_none_iff.mp hfound⟩
    · simp [not_bumps_of_list hlist, bumps_of_bump hbump]

/-- Which commands of a bump are requests. -/
theorem Transcript.exists_bumpCommand {r : Except Fault (Except FormulaFailure FormulaBump)}
    (h : Transcript c request es r) :
    ∀ e ∈ es, e.bumps = true → ∃ token, e.command = bumpCommand c request token := by
  cases h with
  | noToken => exact fun e he => absurd he List.not_mem_nil
  | forced _ _ hbump =>
    rw [List.forall_mem_singleton]
    exact fun _ => ⟨_, hbump⟩
  | faulted _ _ hlist _ | failed _ _ hlist _ | skipped _ _ hlist _ =>
    rw [List.forall_mem_singleton, not_bumps_of_list hlist]
    exact fun h => by cases h
  | unforced _ _ hlist _ hbump =>
    refine List.forall_mem_cons.mpr ⟨?_, ?_⟩
    · rw [not_bumps_of_list hlist]
      exact fun h => by cases h
    · rw [List.forall_mem_singleton]
      exact fun _ => ⟨_, hbump⟩

theorem mem_force_iff {token : String} :
    "--force" ∈ (bumpCommand c request token).argv ↔ request.force = true := by
  have htag : "--force" ≠ "--tag=" ++ request.tag := by
    intro h
    have hlist := congrArg String.toList h
    simp at hlist
  have hrevision : "--force" ≠ "--revision=" ++ request.revision := by
    intro h
    have hlist := congrArg String.toList h
    simp at hlist
  -- the name of the formula has a slash in front of it
  have hname : "--force" ≠ tapName request.tap ++ "/" ++ request.formula := by
    intro h
    have hslash : '/' ∈ "--force".toList := by
      rw [h]
      simp
    exact absurd hslash (by decide)
  by_cases hforce : request.force = true
  · simp [bumpCommand, hforce]
  · simp [bumpCommand, hforce, htag, hrevision, hname]

end Formula

/-! ## Confirmations -/

/-- Two exchanges of which the first uploads files of these names, and the second is a look at the
release that shows them. -/
structure Confirms (c : RunContext) (names : List String) (up look : Exchange σ) : Prop where
  /-- files of these names are uploaded -/
  uploads : ∃ first second, up.Asks c (.upload first second) ∧
    (ReleaseRequest.upload first second).touched = names
  /-- this went well -/
  uploaded : up.succeeded = true
  /-- the release is looked at -/
  looks : look.Asks c .view
  /-- this went well -/
  looked : look.succeeded = true
  /-- the names are attached -/
  shows : ∃ output v release, look.answer = .ok (.ok output) ∧
    Value.ofJson output = .ok (.ok v) ∧ Publication.releaseOf? v = some release ∧
    ∀ name ∈ names, name ∈ release.assets

/-- A publication that succeeds is an upload and its confirmation. -/
theorem Publication.Transcript.exists_confirms {artifact : Artifact} {release : PublishedRelease}
    (h : Publication.Transcript c artifact es (.ok (.ok release)))
    (hartifact : Path.IsName artifact.archiveName) :
    ∃ up look, es = [up, look] ∧ Confirms c artifact.names up look := by
  cases h with
  | attached _ hfiles hattachment =>
    have hnames := Artifact.names_of_assets_eq_ok hfiles
    obtain ⟨sidecar, rfl, htouched⟩ := touched_upload hartifact hfiles
    cases hattachment with
    | @viewed up look output _ hup hanswer hlook hr =>
      obtain ⟨hread, hmem⟩ := confirmation_eq_ok_ok hr.symm
      obtain ⟨shown, v, hshown, hjson, hrelease⟩ := reading_eq_ok_ok hread
      rw [hnames] at hmem
      exact ⟨up, look, rfl, {
        uploads := ⟨_, _, asks_upload hup, htouched⟩
        uploaded := Exchange.succeeded_iff.mpr ⟨output, hanswer⟩
        looks := asks_view hlook
        looked := Exchange.succeeded_iff.mpr ⟨shown, hshown⟩
        shows := ⟨shown, v, release, hshown, hjson, hrelease, hmem⟩ }⟩

/-- So is the end of a branch that is done. -/
theorem Branch.Transcript.exists_confirms {ended : Except Fault BranchOutcome}
    (h : Branch.Transcript c target es ended) (hbuiltIn : target ∈ BuildTarget.all)
    (hdone : (Release.settled target ended).state = .done) :
    ∃ before up look, es = before ++ [up, look] ∧ Confirms c (c.assetNames target) up look := by
  cases h with
  | buildFaulted | buildFailed | packagingFaulted | packagingFailed => cases hdone
  | @published before publication _ artifact r _ hpackaged hpublication =>
    rcases r with fault | failure | release
    · cases hdone
    · cases hdone
    · have hartifact := isName_of_archive hbuiltIn hpackaged.2
      obtain ⟨up, look, rfl, hconfirms⟩ := hpublication.exists_confirms hartifact
      rw [names_of_archive hpackaged.2] at hconfirms
      exact ⟨before, up, look, rfl, hconfirms⟩

/-! ## Runs -/

namespace Release

variable {outcomes : List BranchOutcome}

/-- Whether the assets of a target were uploaded, and then the release was seen to have them. -/
def Confirmed (c : RunContext) (target : BuildTarget) (log : List (Exchange σ)) : Prop :=
  ∃ before up look after, log = before ++ up :: look :: after ∧
    Confirms c (c.assetNames target) up look

theorem Confirmed.append (h : Confirmed c target log) (log' : List (Exchange σ)) :
    Confirmed c target (log ++ log') := by
  obtain ⟨before, up, look, after, rfl, hconfirms⟩ := h
  exact ⟨before, up, look, after ++ log', by simp, hconfirms⟩

theorem Branches.confirmed (h : Branches c targets es outcomes)
    (hbuiltIn : ∀ target ∈ targets, target ∈ BuildTarget.all) {outcome : BranchOutcome}
    (hmem : outcome ∈ outcomes) (hdone : outcome.state = .done) :
    Confirmed c outcome.target es := by
  obtain ⟨targets₁, targets₂, es₁, own, es₂, outcomes₁, outcomes₂, ended, rfl, rfl, -, hown, -,
    heq⟩ := h.split hmem
  have htarget : outcome.target ∈ BuildTarget.all :=
    hbuiltIn _ (List.mem_append_right _ (List.mem_cons_self ..))
  rw [heq] at hdone
  obtain ⟨before, up, look, rfl, hconfirms⟩ := hown.exists_confirms htarget hdone
  exact ⟨es₁ ++ before, up, look, es₂, by simp, hconfirms⟩

/-- Whether the branch of a target of a run is done. -/
def TargetDone (targets : List BuildTarget) (outcomes : List BranchOutcome)
    (target : BuildTarget) : Prop :=
  target ∈ targets ∧ ∃ outcome ∈ outcomes, outcome.target = target ∧ outcome.state = .done

theorem Branches.gateOpen_iff (h : Branches c targets es outcomes) (hnodup : targets.Nodup) :
    GateOpen outcomes ↔ TargetDone targets outcomes BuildTarget.macos := by
  rw [← h.map_target] at hnodup ⊢
  constructor
  · rintro ⟨outcome, hsome, hok⟩
    have hmem : outcome ∈ outcomes := List.mem_reverse.mp (List.mem_of_find?_eq_some hsome)
    have htarget : outcome.target = BuildTarget.macos := by
      show outcome.target = BuildTarget.formulaGate
      simpa using List.find?_some hsome
    refine ⟨htarget ▸ List.mem_map_of_mem hmem, outcome, hmem, htarget, ?_⟩
    exact of_decide_eq_true hok
  · rintro ⟨-, outcome, hmem, htarget, hdone⟩
    refine ⟨outcome, ?_, decide_eq_true hdone⟩
    rw [BuildTarget.formulaGate, ← htarget]
    exact outcomeOf?_target hnodup hmem

/-- **The gate is kept.** What a run does about the formula, by what it reports of its branches. -/
structure GateKept (c : RunContext) (targets : List BuildTarget) (report : RunReport)
    (log : List (Exchange σ)) : Prop where
  /-- the report speaks of the formula if the branch of macOS is done -/
  formula : report.formula.isSome = true ↔ TargetDone targets report.outcomes BuildTarget.macos
  /-- then the open pull requests are asked for, if there is a token and the bump is not forced -/
  lists : OnceIf (TargetDone targets report.outcomes BuildTarget.macos ∧ c.HasFormulaToken ∧
    c.config.formula.force = false) Exchange.lists log
  /-- and a bump is requested, if there is a token, and it is forced or none is open -/
  bumps : OnceIf (TargetDone targets report.outcomes BuildTarget.macos ∧ c.HasFormulaToken ∧
    (c.config.formula.force = true ∨
      ∃ e ∈ log, e.lists = true ∧ Formula.NoneOpen (Formula.requestOf c none) e.answer))
    Exchange.bumps log
  /-- it is one to the release of the run, and forced as the settings say -/
  carries : ∀ e ∈ log, e.bumps = true →
    "--tag=" ++ c.event.tag ∈ e.command.argv ∧
      "--revision=" ++ c.event.revision ∈ e.command.argv ∧
      ("--force" ∈ e.command.argv ↔ c.config.formula.force = true)
  /-- the assets for macOS were confirmed before it -/
  behind : ∀ before e after, log = before ++ e :: after → e.bumps = true →
    Confirmed c BuildTarget.macos before

namespace Gated

theorem eq_nil {r : Except Fault (Option FormulaResult)} (h : Gated c outcomes es r)
    (hclosed : ¬ GateOpen outcomes) : es = [] := by
  cases h with
  | closed => rfl
  | faulted hopen | bumped hopen => exact absurd hopen hclosed

theorem exists_transcript {r : Except Fault (Option FormulaResult)} (h : Gated c outcomes es r)
    (hopen : GateOpen outcomes) : ∃ r', Formula.Transcript c (Formula.requestOf c none) es r' := by
  cases h with
  | closed hclosed => exact absurd hopen hclosed
  | faulted _ h | bumped _ h => exact ⟨_, h⟩

theorem isSome_iff {formula : Option FormulaResult} (h : Gated c outcomes es (.ok formula)) :
    formula.isSome = true ↔ GateOpen outcomes := by
  cases h with
  | closed hclosed => exact ⟨fun hsome => (by cases hsome), fun hopen => absurd hopen hclosed⟩
  | bumped hopen => exact ⟨fun _ => hopen, fun _ => rfl⟩

theorem listsOnce {r : Except Fault (Option FormulaResult)} (h : Gated c outcomes es r) :
    OnceIf (GateOpen outcomes ∧ c.HasFormulaToken ∧ c.config.formula.force = false)
      Exchange.lists es := by
  by_cases hopen : GateOpen outcomes
  · obtain ⟨r', hbump⟩ := h.exists_transcript hopen
    exact hbump.listsOnce.congr (and_iff_right hopen).symm
  · obtain rfl := h.eq_nil hopen
    exact .of_never (fun hp => hopen hp.1) rfl

theorem bumpsOnce {r : Except Fault (Option FormulaResult)} (h : Gated c outcomes es r) :
    OnceIf (GateOpen outcomes ∧ c.HasFormulaToken ∧
      (c.config.formula.force = true ∨
        ∃ e ∈ es, e.lists = true ∧ Formula.NoneOpen (Formula.requestOf c none) e.answer))
      Exchange.bumps es := by
  by_cases hopen : GateOpen outcomes
  · obtain ⟨r', hbump⟩ := h.exists_transcript hopen
    exact hbump.bumpsOnce.congr (and_iff_right hopen).symm
  · obtain rfl := h.eq_nil hopen
    exact .of_never (fun hp => hopen hp.1) rfl

/-- The bump is one to the release of the run. -/
theorem carries {r : Except Fault (Option FormulaResult)} (h : Gated c outcomes es r) :
    ∀ e ∈ es, e.bumps = true →
      "--tag=" ++ c.event.tag ∈ e.command.argv ∧
        "--revision=" ++ c.event.revision ∈ e.command.argv ∧
        ("--force" ∈ e.command.argv ↔ c.config.formula.force = true) := by
  intro e he hbumps
  by_cases hopen : GateOpen outcomes
  · obtain ⟨r', hbump⟩ := h.exists_transcript hopen
    obtain ⟨token, hcommand⟩ := hbump.exists_bumpCommand e he hbumps
    rw [hcommand]
    refine ⟨?_, ?_, Formula.mem_force_iff⟩
    · simp [Formula.bumpCommand, Formula.requestOf]
    · simp [Formula.bumpCommand, Formula.requestOf]
  · obtain rfl := h.eq_nil hopen
    cases he

end Gated

/-- What comes before an exchange that is not in the first of two logs has all of the first log. -/
theorem exists_append_of_not_mem {es' before after : List (Exchange σ)} {e : Exchange σ}
    (h : es ++ es' = before ++ e :: after) (he : e ∉ es) :
    ∃ rest, before = es ++ rest ∧ es' = rest ++ e :: after := by
  rcases List.append_eq_append_iff.mp h with ⟨rest, hbefore, hes'⟩ | ⟨rest, hes, hafter⟩
  · exact ⟨rest, hbefore, hes'⟩
  · cases rest with
    | nil => exact ⟨[], by simpa using hes.symm, hafter.symm⟩
    | cons e' rest =>
      obtain ⟨rfl, -⟩ := List.cons.inj hafter
      exact absurd (by simp [hes]) he

/-- The branches and the bump behind them keep the gate. -/
theorem Branches.gateKept {es' : List (Exchange σ)} {formula : Option FormulaResult}
    (h : Branches c targets es outcomes) (hgated : Gated c outcomes es' (.ok formula))
    (hnodup : targets.Nodup) (hbuiltIn : ∀ target ∈ targets, target ∈ BuildTarget.all) :
    GateKept c targets ⟨c.event, outcomes, formula⟩ (es ++ es') := by
  have hopen := h.gateOpen_iff hnodup
  have hapart := h.not_ofBump hbuiltIn
  have hlists : ∀ e ∈ es, e.lists = false := fun e he => (Bool.or_eq_false_iff.mp (hapart e he)).1
  have hbumps : ∀ e ∈ es, e.bumps = false := fun e he => (Bool.or_eq_false_iff.mp (hapart e he)).2
  refine ⟨hgated.isSome_iff.trans hopen, ?_, ?_, ?_, ?_⟩
  · exact (hgated.listsOnce.append_left hlists).congr (and_congr_left' hopen)
  · refine (hgated.bumpsOnce.append_left hbumps).congr ?_
    refine and_congr hopen (and_congr_right' (or_congr_right ?_))
    constructor
    · rintro ⟨e, he, hlook⟩
      exact ⟨e, List.mem_append_right _ he, hlook⟩
    · -- no branch asks for pull requests
      rintro ⟨e, he, hlist, hnone⟩
      rcases List.mem_append.mp he with he | he
      · rw [hlists e he] at hlist
        cases hlist
      · exact ⟨e, he, hlist, hnone⟩
  · refine List.forall_mem_append.mpr ⟨fun e he hbump => ?_, hgated.carries⟩
    rw [hbumps e he] at hbump
    cases hbump
  · intro before e after hlog hbump
    have hnot : e ∉ es := by
      intro he
      rw [hbumps e he] at hbump
      cases hbump
    -- so all branches come before it
    obtain ⟨rest, rfl, rfl⟩ := exists_append_of_not_mem hlog hnot
    have hgate : GateOpen outcomes := by
      by_contra hclosed
      have hnil := hgated.eq_nil hclosed
      simp at hnil
    obtain ⟨-, outcome, hmem, htarget, hdone⟩ := hopen.mp hgate
    have hconfirmed := h.confirmed hbuiltIn hmem hdone
    rw [htarget] at hconfirmed
    exact hconfirmed.append rest

namespace Transcript

theorem eq_nil {r : Except Fault RunReport} (h : Transcript c [] es r) : es = [] := by
  cases h with
  | idle => rfl
  | faulted hne | reported hne => exact absurd rfl hne

/-- A run over targets gives a report if its bump does not meet a fault. -/
theorem exists_eq_ok {r : Except Fault RunReport} (h : Transcript c targets es r)
    (hne : targets ≠ [])
    (hreturns : ∀ e ∈ es, e.ofBump = true → ∃ reply, e.answer = .ok reply)
    (hreadable : ∀ e ∈ es, e.lists = true → ∀ output, e.answer = .ok (.ok output) → output ≠ "" →
      ∃ read, Value.ofJson output = .ok read) : ∃ report, r = .ok report := by
  cases h with
  | idle htargets => exact absurd htargets hne
  | @faulted before _ _ _ _ _ hgated =>
    obtain ⟨e, he, hbreaks⟩ := hgated.eq_error_iff.mp ⟨_, rfl⟩
    have hmem := List.mem_append_right before he
    rcases hbreaks with ⟨fault, hfault⟩ | ⟨hlists, output, fault, hanswer, houtput, hread⟩
    · obtain ⟨reply, hreply⟩ := hreturns e hmem (hgated.ofBump e he)
      rw [hfault] at hreply
      cases hreply
    · obtain ⟨read, hok⟩ := hreadable e hmem hlists output hanswer houtput
      rw [hread] at hok
      cases hok
  | reported => exact ⟨_, rfl⟩

/-- It gives one, too, if there is no token for the bump. -/
theorem exists_eq_ok_of_no_token {r : Except Fault RunReport} (h : Transcript c targets es r)
    (hne : targets ≠ []) (htoken : c.formulaToken? = none) : ∃ report, r = .ok report := by
  cases h with
  | idle htargets => exact absurd htargets hne
  | faulted _ _ hgated =>
    cases hgated with
    | faulted _ hformula => cases (hformula.eq_of_no_token htoken).2
  | reported => exact ⟨_, rfl⟩

theorem gateKept {report : RunReport} (h : Transcript c targets es (.ok report))
    (hnodup : targets.Nodup) (hbuiltIn : ∀ target ∈ targets, target ∈ BuildTarget.all) :
    GateKept c targets report es := by
  obtain ⟨es₁, es₂, outcomes, formula, rfl, hbranches, hgated, rfl⟩ := h.exists_of_ok hnodup
  exact hbranches.gateKept hgated hnodup hbuiltIn

end Transcript

/-- **The formula is bumped when it should be.** If the commands of the bump are answered and the
list of pull requests can be read, a run over targets gives a report and keeps the gate. -/
theorem gate_kept {console : Console} {w : World σ} (hnodup : targets.Nodup)
    (hbuiltIn : ∀ target ∈ targets, target ∈ BuildTarget.all)
    (hreturns : ∀ e ∈ exchanges host c targets console w, e.ofBump = true →
      ∃ reply, e.answer = .ok reply)
    (hreadable : ∀ e ∈ exchanges host c targets console w, e.lists = true →
      ∀ output, e.answer = .ok (.ok output) → output ≠ "" →
        ∃ read, Value.ofJson output = .ok read) :
    (targets = [] → exchanges host c targets console w = []) ∧
      (targets ≠ [] → ∃ report, (Action.runOn (run host c targets console) w).1 = .ok report ∧
        GateKept c targets report (exchanges host c targets console w)) := by
  have htranscript := transcript_exchanges host c targets console w
  constructor
  · rintro rfl
    exact htranscript.eq_nil
  · intro hne
    obtain ⟨report, hreport⟩ := htranscript.exists_eq_ok hne hreturns hreadable
    rw [hreport] at htranscript
    exact ⟨report, hreport, htranscript.gateKept hnodup hbuiltIn⟩

/-! ## A list without output -/

/-- A rehearsal in which the list of pull requests is no text at all. -/
def mutedRun : Except Fault RunReport × World Stage :=
  Action.runOn (run (Rehearsal.host Rehearsal.script) Rehearsal.context [BuildTarget.macos]
    Console.plain) (Rehearsal.world [⟨["gh", "pr", "list"], none, 1, 0, .exit 0 "" ""⟩])

/-- The exchanges of that run. -/
def mutedLog : List (Exchange Stage) :=
  exchanges (Rehearsal.host Rehearsal.script) Rehearsal.context [BuildTarget.macos] Console.plain
    (Rehearsal.world [⟨["gh", "pr", "list"], none, 1, 0, .exit 0 "" ""⟩])

/-- What an exchange gave, if all went well. -/
def outputOf? (e : Exchange σ) : Option String := e.answer.toOption.bind (·.toOption)

/-- How that run ends: no command of the bump has written anything, and one was a request. -/
def EndsMuted : Prop :=
  (∀ e ∈ mutedLog, e.ofBump = true → outputOf? e = some "") ∧ mutedLog.countP Exchange.bumps = 1

instance : Decidable EndsMuted := inferInstanceAs (Decidable (_ ∧ _))

set_option maxRecDepth 100000 in
theorem endsMuted : EndsMuted := by
  decide +kernel

theorem exists_reply_of_mutedLog :
    ∀ e ∈ mutedLog, e.ofBump = true → ∃ reply, e.answer = .ok reply := by
  intro e he hbump
  have hmuted := endsMuted.1 e he hbump
  rcases hanswer : e.answer with fault | reply
  · rw [outputOf?, hanswer] at hmuted
    cases hmuted
  · exact ⟨reply, rfl⟩

theorem eq_empty_of_mutedLog :
    ∀ e ∈ mutedLog, e.lists = true → ∀ output, e.answer = .ok (.ok output) → output = "" := by
  intro e he hlists output hanswer
  have hmuted := endsMuted.1 e he (Exchange.ofBump_of_lists hlists)
  rw [outputOf?, hanswer] at hmuted
  exact Option.some.inj hmuted

theorem readable_mutedLog :
    ∀ e ∈ mutedLog, e.lists = true → ∀ output, e.answer = .ok (.ok output) → output ≠ "" →
      ∃ read, Value.ofJson output = .ok read := by
  intro e he hlists output hanswer hne
  exact absurd (eq_empty_of_mutedLog e he hlists output hanswer) hne

/-- **No output is as good as an empty list.** No list of pull requests was given, but a bump was
requested all the same. -/
theorem bump_without_list :
    ∃ report, mutedRun.1 = .ok report ∧
      (∀ e ∈ mutedLog, e.ofBump = true → ∃ reply, e.answer = .ok reply) ∧
      ¬ OnceIf (TargetDone [BuildTarget.macos] report.outcomes BuildTarget.macos ∧
          Rehearsal.context.HasFormulaToken ∧
          (Rehearsal.context.config.formula.force = true ∨ ∃ e ∈ mutedLog, e.lists = true ∧
            Formula.ListsNone (Formula.requestOf Rehearsal.context none) e.answer))
        Exchange.bumps mutedLog := by
  have htranscript : Transcript Rehearsal.context [BuildTarget.macos] mutedLog mutedRun.1 :=
    transcript_exchanges ..
  obtain ⟨report, hreport⟩ := htranscript.exists_eq_ok (List.cons_ne_nil _ _)
    exists_reply_of_mutedLog readable_mutedLog
  refine ⟨report, hreport, exists_reply_of_mutedLog, fun honce => ?_⟩
  have hzero : mutedLog.countP Exchange.bumps = 0 := by
    refine honce.never ?_
    rintro ⟨-, -, hforced | ⟨e, he, hlists, output, v, hanswer, hjson, -⟩⟩
    · cases hforced
    · rw [eq_empty_of_mutedLog e he hlists output hanswer] at hjson
      cases hjson
  rw [endsMuted.2] at hzero
  cases hzero

/-- The gate is kept in that run. -/
theorem gate_kept_mutedRun :
    ∃ report, mutedRun.1 = .ok report ∧
      GateKept Rehearsal.context [BuildTarget.macos] report mutedLog := by
  exact (gate_kept (List.nodup_singleton _) (by decide) exists_reply_of_mutedLog
    readable_mutedLog).2 (List.cons_ne_nil _ _)

end Release

end Shipyard
