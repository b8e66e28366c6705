import Shipyard.Proofs.Run.Directories
import Shipyard.Proofs.Run.Steady

/-!
# Builds and packagings side by side

Two runs of a branch on a steady host, from files that are beside each other. Either the checkout
cannot be cleared, and then nothing has been changed in either run; or from there on both have the
same directory, and everything that the build and the packaging do is decided by what is in it.
-/

namespace Shipyard

open Shipyard.Action FileSystem

variable {σ : Type} {host : Host σ} {c : RunContext} {assets : σ → Set String}
  {target : BuildTarget} {command : Command} {names : List String} {s₁ s₂ : σ}
  {fs₁ fs₂ fs gs : FileSystem} {A : σ → σ → Prop}

/-! ## Files of two branches -/

/-- The files of two runs of a branch behind the clearing of its checkout. -/
abbrev Cleared (c : RunContext) (target : BuildTarget) (fs₁ fs₂ : FileSystem) :
    FileSystem → FileSystem → Prop :=
  Parallel fs₁.cwd c.workDir (c.branchDir target) fs₁ fs₂

/-- The files of two runs of a branch at any time: those it began with, or behind the clearing. -/
def Started (c : RunContext) (target : BuildTarget) (fs₁ fs₂ fs gs : FileSystem) : Prop :=
  fs = fs₁ ∧ gs = fs₂ ∨ Cleared c target fs₁ fs₂ fs gs

theorem joined_started (p q : Scene σ) (h : Joined (Cleared c target fs₁ fs₂) A p q) :
    Joined (Started c target fs₁ fs₂) A p q :=
  ⟨.inr h.1, h.2⟩

/-- What two runs of a step give: the same failure, or the same good thing, and then the checkout
was cleared in both. -/
inductive Ended (c : RunContext) (target : BuildTarget) (fs₁ fs₂ : FileSystem) (A : σ → σ → Prop)
    {ε α : Type} (good : α) : Except ε α → Except ε α → Scene σ → Scene σ → Prop
  /-- both failed -/
  | failed {failure : ε} {p q : Scene σ} : Joined (Started c target fs₁ fs₂) A p q →
      Ended c target fs₁ fs₂ A good (.error failure) (.error failure) p q
  /-- both went well -/
  | done {p q : Scene σ} : Joined (Cleared c target fs₁ fs₂) A p q →
      Ended c target fs₁ fs₂ A good (.ok good) (.ok good) p q

/-- What comes behind is paired on its own for either end. -/
theorem Action.Pairs.bind_ended {ε α γ δ : Type} {good : α}
    {R E : Scene σ → Scene σ → Prop} {P : γ → δ → Scene σ → Scene σ → Prop}
    {a b : Action σ (Except ε α)} {f : Except ε α → Action σ γ} {g : Except ε α → Action σ δ}
    (h : Pairs R a b (Ended c target fs₁ fs₂ A good) E)
    (hfailed : ∀ failure, Pairs (Joined (Started c target fs₁ fs₂) A) (f (.error failure))
      (g (.error failure)) P E)
    (hdone : Pairs (Joined (Cleared c target fs₁ fs₂) A) (f (.ok good)) (g (.ok good)) P E) :
    Pairs R (a >>= f) (b >>= g) P E := by
  refine h.bind fun r r' w w' hended => ?_
  cases hended with
  | failed hstarted => exact hfailed _ w w' hstarted
  | done hcleared => exact hdone w w' hcleared

namespace Build

/-- What is above the directory of a branch is that directory or above the directory of all. -/
theorem above_branchDir_iff {cwd l : Location} (htarget : target ∈ BuildTarget.all) :
    Above cwd (c.branchDir target) l ↔
      Above cwd c.workDir l ∨ l = (c.branchDir target).place cwd := by
  rw [RunContext.branchDir_eq htarget]
  exact above_entry_iff

theorem below_branchDir {cwd l : Location} (hl : Below cwd (c.checkoutDir target) l) :
    Below cwd (c.branchDir target) l := by
  rw [Below, RunContext.checkoutDir_eq, Path.place_entry (by decide)] at hl
  exact (List.prefix_append ..).trans hl

section

variable (hsteady : Steady host c assets) (htarget : target ∈ BuildTarget.all)
  (hsite : Site fs₁ c.workDir target.platform)

include hsteady htarget hsite

/-- A command of the build keeps the files the same. -/
theorem cleared_answer (hcommand : command ∈ commandsOf c target) (s t : σ)
    (h : Cleared c target fs₁ fs₂ fs gs) :
    Cleared c target fs₁ fs₂ (host.answer command fs s).2.1 (host.answer command gs t).2.1 := by
  have habove (l : Location) (hl : OnWay c target fs₁.cwd l) :
      Above fs₁.cwd c.workDir l ∨ Below fs₁.cwd (c.branchDir target) l :=
    ((above_branchDir_iff htarget).mp hl.1).imp_right fun heq => by
      rw [heq]
      exact List.prefix_refl _
  have hapart (l : Location) (hl : Above fs₁.cwd c.workDir l) :
      ¬ Below fs₁.cwd (c.checkoutDir target) l := by
    rw [RunContext.checkoutDir_eq, RunContext.branchDir_eq htarget]
    exact hsite.apart l hl
  have hwrites := hsteady.writes fs s htarget hcommand
  have hwrites' := hsteady.writes gs t htarget hcommand
  rw [h.current] at hwrites
  rw [h.same.cwd, h.current] at hwrites'
  have hseen := h.same
  rw [← h.current] at hseen habove
  have hsees := hsteady.sees s t htarget hcommand
    ⟨hseen.cwd, fun l hl => hseen.node l (hl.elim (habove l) fun hl => .inr (below_branchDir hl))⟩
  rw [h.current] at hsees habove
  refine h.step (hwrites.mono habove (fun _ => below_branchDir) hapart)
    (hwrites'.mono habove (fun _ => below_branchDir) hapart) ⟨hsees.cwd, fun l hl => ?_⟩
  by_cases hcheckout : OnWay c target fs₁.cwd l ∨ Below fs₁.cwd (c.checkoutDir target) l
  · exact hsees.node l hcheckout
  · obtain ⟨habove, hbelow⟩ := not_or.mp hcheckout
    rw [hwrites.node_of_not habove hbelow, hwrites'.node_of_not habove hbelow]
    exact h.same.node l hl

/-- So commands in order go alike. -/
theorem pairs_issueInOrder (out : Console) {commands : List Command}
    (hcommands : ∀ command ∈ commands, command ∈ commandsOf c target) :
    Pairs (Joined (Cleared c target fs₁ fs₂) (Sharing assets names s₁ s₂))
      (issueInOrder host out commands) (issueInOrder host out commands)
      (Keeping (Joined (Cleared c target fs₁ fs₂) (Sharing assets names s₁ s₂)) Eq)
      (Joined (Cleared c target fs₁ fs₂) (Sharing assets names s₁ s₂)) := by
  induction commands with
  | nil => exact pairs_pure fun p q h => ⟨rfl, h⟩
  | cons command rest ih =>
    obtain ⟨hcommand, hrest⟩ := List.forall_mem_cons.mp hcommands
    have hbuilds := builds_of_mem hcommand
    refine .echo_bind (Pairs.bind_keeping (hsteady.pairs_issue hbuilds.not_looks ?_ ?_) ?_)
    · rw [hbuilds.touched_eq_nil]
      exact fun name hname => absurd hname List.not_mem_nil
    · exact fun fs gs s t h => cleared_answer hsteady htarget hsite hcommand s t h
    · rintro reply _ rfl
      cases reply with
      | error failure => exact pairs_pure fun p q h => ⟨rfl, h⟩
      | ok output => exact ih hrest

omit hsteady in
/-- The checkout is cleared in both runs, or in none. -/
theorem pairs_clearCheckout (htree : fs₁.IsTree)
    (hbeside : Beside c.workDir target.platform fs₁ fs₂) :
    Pairs (Joined (fun fs gs => fs = fs₁ ∧ gs = fs₂) A)
      (onFiles (Disk.attempt (clearCheckout (c.checkoutDir target))))
      (onFiles (Disk.attempt (clearCheckout (c.checkoutDir target))))
      (Ended c target fs₁ fs₂ A ()) (Joined (Started c target fs₁ fs₂) A) := by
  have hcheckout : c.checkoutDir target =
      (c.workDir.entry target.platform).entry sourceName := by
    rw [RunContext.checkoutDir_eq, RunContext.branchDir_eq htarget]
  refine Action.pairs_onFiles ?_
  rintro ⟨fs, s⟩ ⟨gs, t⟩ ⟨⟨rfl, rfl⟩, hA⟩
  have hunchanged : Joined (Started c target fs gs) A (fs, s) (gs, t) := ⟨.inl ⟨rfl, rfl⟩, hA⟩
  rw [Disk.runOn_attempt, Disk.runOn_attempt, hcheckout]
  rcases hsite.clearCheckout_beside htree hbeside with
    ⟨fault, hrun, hrun'⟩ | ⟨fs', gs', hrun, hrun', hsame, ⟨base, hreaches⟩⟩
  · dsimp only
    rw [hrun, hrun']
    cases fault with
    | os e => exact .inl ⟨_, _, _, rfl, rfl, .failed hunchanged⟩
    | _ => exact .inr ⟨_, _, _, rfl, rfl, hunchanged⟩
  · have hstays := hsite.confined.stays rfl
    have hstays' := hsite.confined.stays hbeside.cwd
    rw [hrun] at hstays
    rw [hrun'] at hstays'
    dsimp only
    rw [hrun, hrun']
    have hclear := hsite.unblocked_of_reaches hrun hreaches
    refine .inl ⟨_, _, _, rfl, rfl,
      .done ⟨⟨hstays.cwd, ?_, ?_, ?_, hreaches.parent, hclear⟩, hA⟩⟩
    all_goals rw [RunContext.branchDir_eq htarget]
    · exact hstays
    · exact hstays'
    · exact hsame

/-- Checkouts go alike. -/
theorem pairs_prepareCheckout (htree : fs₁.IsTree)
    (hbeside : Beside c.workDir target.platform fs₁ fs₂) (out : Console) :
    Pairs (Joined (fun fs gs => fs = fs₁ ∧ gs = fs₂) (Sharing assets names s₁ s₂))
      (prepareCheckout host c target out) (prepareCheckout host c target out)
      (Ended c target fs₁ fs₂ (Sharing assets names s₁ s₂) (c.checkoutDir target))
      (Joined (Started c target fs₁ fs₂) (Sharing assets names s₁ s₂)) := by
  refine (pairs_clearCheckout htarget hsite htree hbeside).bind_ended (fun e => ?_) ?_
  · exact pairs_pure fun p q h => .failed h
  · have hissue : Pairs (Joined (Cleared c target fs₁ fs₂) (Sharing assets names s₁ s₂))
        (issueInOrder host out (checkoutCommands c (c.checkoutDir target))) _ _ _ :=
      pairs_issueInOrder hsteady htarget hsite out fun command => List.mem_append_left _
    refine (hissue.mono (fun _ _ h => h) (fun _ _ _ _ h => h) joined_started).bind_keeping ?_
    rintro reply _ rfl
    cases reply with
    | error failure => exact pairs_pure fun p q h => .failed (joined_started p q h)
    | ok u => exact pairs_pure fun p q h => .done h

/-- Compilations go alike. -/
theorem pairs_compile (hprogram : '/' ∉ c.config.project.binaryName.toList) (out : Console) :
    Pairs (Joined (Cleared c target fs₁ fs₂) (Sharing assets names s₁ s₂))
      (compile host c target (c.checkoutDir target) out)
      (compile host c target (c.checkoutDir target) out)
      (Ended c target fs₁ fs₂ (Sharing assets names s₁ s₂)
        ⟨target, expectedBinary target (c.checkoutDir target) c.config.project.binaryName⟩)
      (Joined (Started c target fs₁ fs₂) (Sharing assets names s₁ s₂)) := by
  have hcommands : ∀ command ∈ compileCommands c target (c.checkoutDir target),
      command ∈ commandsOf c target := fun command => List.mem_append_right _
  refine ((pairs_issueInOrder hsteady htarget hsite out hcommands).weaken
    joined_started).bind_keeping ?_
  rintro reply _ rfl
  cases reply with
  | error failure => exact pairs_pure fun p q h => .failed (joined_started p q h)
  | ok u =>
    have hbinary := Packaging.usable_expectedBinary htarget c fs₁.cwd hprogram
    have hgives : (Disk.isFile (expectedBinary target (c.checkoutDir target)
        c.config.project.binaryName)).Gives fun _ => True := fun _ _ _ => trivial
    refine ((pairs_onFiles (Disk.confined_isFile hbinary.inReach)
      hgives).weaken joined_started).bind_keeping ?_
    rintro found _ ⟨rfl, -⟩
    cases found with
    | false => exact pairs_pure fun p q h => .failed (joined_started p q h)
    | true => exact pairs_pure fun p q h => .done h

/-- **Builds go alike.** -/
theorem pairs_run (htree : fs₁.IsTree) (hbeside : Beside c.workDir target.platform fs₁ fs₂)
    (hprogram : '/' ∉ c.config.project.binaryName.toList) (out : Console) :
    Pairs (Joined (fun fs gs => fs = fs₁ ∧ gs = fs₂) (Sharing assets names s₁ s₂))
      (run host c target out) (run host c target out)
      (Ended c target fs₁ fs₂ (Sharing assets names s₁ s₂)
        ⟨target, expectedBinary target (c.checkoutDir target) c.config.project.binaryName⟩)
      (Joined (Started c target fs₁ fs₂) (Sharing assets names s₁ s₂)) := by
  unfold run
  split
  · exact pairs_pure fun p q h => .failed ⟨.inl h.1, h.2⟩
  · refine (pairs_prepareCheckout hsteady htarget hsite htree hbeside out).bind_ended
      (fun failure => ?_) ?_
    · exact pairs_pure fun p q h => .failed h
    · exact pairs_compile hsteady htarget hsite hprogram out

end

end Build

end Shipyard
