import Mathlib.Data.Set.Basic
import Shipyard.Proofs.Formula.Title
import Shipyard.Proofs.Run.Requests

/-!
# Bumps on a served tap

A tap is a set of open pull requests that a host serves: `ServesTap` says what its answers tell of
the set and do to it, and leaves open how each command turns out. From the transcript of a bump
follows what it does there: it submits at most once, what it submits is open afterwards, and where a
pull request with the title of a bump is open, it submits nothing.
-/

namespace Shipyard

variable {σ : Type}

/-! ## Pull requests -/

/-- A pull request on a tap. -/
structure PullRequest where
  /-- its title -/
  title : String
  /-- its link -/
  url : String

/-- Whether an entry of a list shows a pull request. -/
def PullRequest.ShownBy (pull : PullRequest) (entry : Value) : Prop :=
  ∃ fields, entry.asTable? = some fields ∧ fields.find? "title" = some (.text pull.title) ∧
    fields.find? "url" = some (.text pull.url)

/-- Whether a pull request is one for a request: its title, as it is read, mentions the formula and
the tag. -/
def FormulaRequest.Matches (request : FormulaRequest) (pull : PullRequest) : Prop :=
  Formula.titleMentions (Text.strip pull.title) request.formula request.tag = true

/-- Whether the open pull requests are looked through for a request. -/
def Exchange.Looks (e : Exchange σ) (request : FormulaRequest) : Prop :=
  ∃ c token, e.command = Formula.listCommand c request token

/-- Whether the bump of a request is submitted. -/
def Exchange.Submits (e : Exchange σ) (request : FormulaRequest) : Prop :=
  ∃ c token, e.command = Formula.bumpCommand c request token

/-- Whether the program of the tap is run. -/
def Exchange.brews (e : Exchange σ) : Bool := e.command.argv.head? = some "brew"

/-- **A served tap.** Whatever a command ends with, no pull request is closed. A bump that went well
has opened one under its title. A look that went well writes a list with all that are open. -/
structure ServesTap (host : Host σ) (request : FormulaRequest) (pulls : σ → Set PullRequest) :
    Prop where
  /-- what is open stays open -/
  keeps {s : σ} {e : Exchange σ} :
    host.Gives s e → e.Looks request ∨ e.Submits request → pulls s ⊆ pulls e.left
  /-- what was submitted is open -/
  opens {s : σ} {e : Exchange σ} :
    host.Gives s e → e.Submits request → e.succeeded = true →
      ∃ pull ∈ pulls e.left, pull.title = Formula.bumpTitle request.formula request.tag
  /-- what is open is shown -/
  shows {s : σ} {e : Exchange σ} {output : String} :
    host.Gives s e → e.Looks request → e.answer = .ok (.ok output) →
      ∃ v entries, Value.ofJson (if output = "" then "[]" else output) = .ok (.ok v) ∧
        v.asList? = some entries ∧ ∀ pull ∈ pulls s, ∃ entry ∈ entries, pull.ShownBy entry

namespace FormulaRequest

variable {request : FormulaRequest} {pull : PullRequest}

/-- Whether a pull request for a request is open. -/
def IsOpen (request : FormulaRequest) (pulls : Set PullRequest) : Prop :=
  ∃ pull ∈ pulls, request.Matches pull

theorem IsOpen.mono {pulls pulls' : Set PullRequest} (h : request.IsOpen pulls)
    (hsub : pulls ⊆ pulls') : request.IsOpen pulls' := by
  obtain ⟨pull, hpull, hmatches⟩ := h
  exact ⟨pull, hsub hpull, hmatches⟩

/-- Whether the formula of a request and its version are words of printable ASCII. -/
structure IsPlain (request : FormulaRequest) : Prop where
  /-- the formula is plain -/
  formula : Formula.IsPlain request.formula
  /-- the formula has a name -/
  named : request.formula ≠ ""
  /-- the tag is plain -/
  tag : Formula.IsPlain request.tag
  /-- the tag has a version -/
  versioned : Formula.versionOf request.tag ≠ ""

/-- What is submitted for a request is one for it. -/
theorem IsPlain.matches (h : request.IsPlain)
    (htitle : pull.title = Formula.bumpTitle request.formula request.tag) :
    request.Matches pull := by
  rw [Matches, htitle]
  exact Formula.titleMentions_bumpTitle h.formula h.named h.tag h.versioned

end FormulaRequest

/-! ## Single commands -/

namespace Exchange

variable {request : FormulaRequest} {e : Exchange σ}

theorem Looks.not_brews (h : e.Looks request) : e.brews = false := by
  obtain ⟨c, token, hcommand⟩ := h
  rw [brews, hcommand]
  rfl

theorem Submits.brews (h : e.Submits request) : e.brews = true := by
  obtain ⟨c, token, hcommand⟩ := h
  rw [Exchange.brews, hcommand]
  rfl

end Exchange

namespace Formula

variable {host : Host σ} {c : RunContext} {request : FormulaRequest} {pull : PullRequest}
  {pulls : σ → Set PullRequest} {s s' : σ} {e : Exchange σ} {es : List (Exchange σ)}
  {r : Except Fault (Except FormulaFailure FormulaBump)}

theorem exists_matching?_eq_some {entry : Value} (hmatches : request.Matches pull)
    (hshown : pull.ShownBy entry) : ∃ url, matching? request entry = some url := by
  obtain ⟨fields, hfields, htitle, -⟩ := hshown
  -- a blank title is read as none, and then as the empty text that it is without its blanks
  have hread : (fields.text? "title").getD "" = Text.strip pull.title := by
    simp only [Table.text?, htitle, Option.bind_some, Value.asText?]
    split
    · next hempty => rw [hempty, Option.getD_none]
    · rfl
  refine ⟨(fields.text? "url").getD (Text.strip pull.title), ?_⟩
  rw [matching?, hfields]
  simp only [Option.bind_eq_bind, Option.bind_some, hread]
  exact if_pos hmatches

/-- **A look that went well finds an open pull request.** -/
theorem exists_found_eq_some (hserves : ServesTap host request pulls) (hg : host.Gives s e)
    (hlooks : e.Looks request) (hopen : request.IsOpen (pulls s))
    (hsucceeded : e.succeeded = true) :
    ∃ url, found request e.answer = .ok (.ok (some url)) := by
  obtain ⟨output, hanswer⟩ := Exchange.succeeded_iff.mp hsucceeded
  obtain ⟨v, entries, hjson, hentries, hall⟩ := hserves.shows hg hlooks hanswer
  obtain ⟨pull, hpull, hmatches⟩ := hopen
  obtain ⟨entry, hentry, hshown⟩ := hall pull hpull
  obtain ⟨url, hurl⟩ := exists_matching?_eq_some hmatches hshown
  have hsome : (entries.findSome? (matching? request)).isSome = true :=
    List.findSome?_isSome_iff.mpr ⟨entry, hentry, by rw [hurl]; rfl⟩
  obtain ⟨first, hfirst⟩ := Option.isSome_iff_exists.mp hsome
  refine ⟨first, ?_⟩
  rw [hanswer]
  simp only [found, hjson, hentries, Option.getD_some, hfirst]

/-- So a look that has not found one went wrong. -/
theorem not_succeeded_of_found_ne (hserves : ServesTap host request pulls) (hg : host.Gives s e)
    (hlooks : e.Looks request) (hopen : request.IsOpen (pulls s))
    (hfound : ∀ url, found request e.answer ≠ .ok (.ok (some url))) : e.succeeded = false := by
  rw [Bool.eq_false_iff]
  intro hsucceeded
  obtain ⟨url, hurl⟩ := exists_found_eq_some hserves hg hlooks hopen hsucceeded
  exact hfound url hurl

/-- What was looked through was given. -/
theorem succeeded_of_found {url? : Option String} (h : found request e.answer = .ok (.ok url?)) :
    e.succeeded = true := by
  refine Exchange.succeeded_iff.mpr ?_
  rcases hanswer : e.answer with fault | failure | output
  · rw [hanswer] at h
    cases h
  · rw [hanswer] at h
    cases h
  · exact ⟨output, rfl⟩

/-! ## Whole bumps -/

/-- What is open stays open as long as nothing but a bump is made. -/
theorem isOpen_of_conducts (hserves : ServesTap host request pulls) (hc : host.Conducts s es s')
    (hasks : ∀ e ∈ es, e.Looks request ∨ e.Submits request) (hopen : request.IsOpen (pulls s)) :
    request.IsOpen (pulls s') := by
  refine hc.keeps (I := fun s => request.IsOpen (pulls s)) hopen fun s e he hg hopen => ?_
  exact hopen.mono (hserves.keeps hg (hasks e he))

namespace Transcript

/-- A bump looks and submits, and asks for nothing else. -/
theorem asks (h : Transcript c request es r) : ∀ e ∈ es, e.Looks request ∨ e.Submits request := by
  cases h with
  | noToken => exact List.forall_mem_nil _
  | forced _ _ hbump => exact List.forall_mem_singleton.mpr (.inr ⟨_, _, hbump⟩)
  | faulted _ _ hlist _ | failed _ _ hlist _ | skipped _ _ hlist _ =>
    exact List.forall_mem_singleton.mpr (.inl ⟨_, _, hlist⟩)
  | unforced _ _ hlist _ hbump =>
    exact List.forall_mem_cons.mpr
      ⟨.inl ⟨_, _, hlist⟩, List.forall_mem_singleton.mpr (.inr ⟨_, _, hbump⟩)⟩

/-- A bump submits at most once. -/
theorem countP_brews_le_one (h : Transcript c request es r) : es.countP Exchange.brews ≤ 1 := by
  cases h with
  | noToken => exact Nat.zero_le _
  | forced | faulted | failed | skipped => exact List.countP_le_length
  | @unforced token look submission _ _ hlist _ _ =>
    have hlooks : look.Looks request := ⟨_, _, hlist⟩
    rw [List.countP_cons_of_neg (Bool.eq_false_iff.mp hlooks.not_brews)]
    exact List.countP_le_length

/-- **What a bump has submitted is open afterwards.** -/
theorem isOpen_of_brews (h : Transcript c request es r) (hplain : request.IsPlain)
    (hserves : ServesTap host request pulls) (hc : host.Conducts s es s') (he : e ∈ es)
    (hbrews : e.brews = true) (hsucceeded : e.succeeded = true) : request.IsOpen (pulls s') := by
  have hsubmits : e.Submits request := by
    rcases h.asks e he with hlooks | hsubmits
    · rw [hlooks.not_brews] at hbrews
      cases hbrews
    · exact hsubmits
  -- it is open right behind the submission, and nothing after it closes it
  obtain ⟨before, after, rfl⟩ := List.append_of_mem he
  obtain ⟨s₁, -, hg, hafter⟩ := hc.split
  obtain ⟨pull, hpull, htitle⟩ := hserves.opens hg hsubmits hsucceeded
  refine isOpen_of_conducts hserves hafter (fun e' he' => ?_) ⟨pull, hpull, hplain.matches htitle⟩
  exact h.asks e' (List.mem_append_right _ (List.mem_cons_of_mem _ he'))

/-- **Where a pull request is open, nothing is submitted**, and a look that went well makes the bump
end with it. -/
theorem skips_of_isOpen (h : Transcript c request es r) (hforce : request.force = false)
    (hserves : ServesTap host request pulls) (hc : host.Conducts s es s')
    (hopen : request.IsOpen (pulls s)) :
    (∀ e ∈ es, e.brews = false) ∧
      ((∃ e ∈ es, e.lists = true ∧ e.succeeded = true) →
        ∃ url, r = .ok (.ok (.skipped request.tag (some url)))) := by
  cases h with
  | noToken => exact ⟨List.forall_mem_nil _, fun ⟨e, he, _⟩ => absurd he List.not_mem_nil⟩
  | forced _ hforced _ =>
    rw [hforce] at hforced
    cases hforced
  | @faulted token look _ _ _ hlist hfound | @failed token look _ _ _ hlist hfound =>
    have hlooks : look.Looks request := ⟨_, _, hlist⟩
    have hfailed : look.succeeded = false :=
      not_succeeded_of_found_ne hserves hc.1 hlooks hopen fun url => by rw [hfound]; nofun
    refine ⟨List.forall_mem_singleton.mpr hlooks.not_brews, ?_⟩
    rintro ⟨e, he, -, hsucceeded⟩
    rw [List.mem_singleton.mp he, hfailed] at hsucceeded
    cases hsucceeded
  | @skipped token url look _ _ hlist _ =>
    have hlooks : look.Looks request := ⟨_, _, hlist⟩
    exact ⟨List.forall_mem_singleton.mpr hlooks.not_brews, fun _ => ⟨url, rfl⟩⟩
  | @unforced token look submission _ _ hlist hfound _ =>
    -- nothing can have been submitted: the look would have found what is open
    have hlooks : look.Looks request := ⟨_, _, hlist⟩
    have hfailed : look.succeeded = false :=
      not_succeeded_of_found_ne hserves hc.1 hlooks hopen fun url => by rw [hfound]; nofun
    rw [succeeded_of_found hfound] at hfailed
    cases hfailed

end Transcript

end Formula

end Shipyard
