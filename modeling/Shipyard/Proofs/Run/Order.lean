import Shipyard.Proofs.Run.Isolation
import Shipyard.Proofs.Run.Outcomes

/-!
# Branches in any order

What a whole run does is put together from what each branch does alone: every place is as one of the
branches would have left it, or as it was. So it does not matter which branches come before a
branch, and not in which order they come.
-/

namespace Shipyard

open Shipyard.Action FileSystem

/-! ## Overlays -/

/-- Whether something is as it was at the start, except where some parts have changed it, and there
as they have left it. -/
structure Overlay {κ β ι : Type} (start : κ → β) (parts : ι → κ → β) (done : List ι)
    (whole : κ → β) : Prop where
  /-- what no part has changed -/
  untouched : ∀ k, (∀ i ∈ done, parts i k = start k) → whole k = start k
  /-- what a part has changed -/
  touched : ∀ i ∈ done, ∀ k, parts i k ≠ start k → whole k = parts i k

namespace Overlay

variable {κ β ι : Type} {start : κ → β} {parts : ι → κ → β} {done done' : List ι}
  {whole whole' : κ → β} {i : ι}

theorem nil : Overlay start parts [] start :=
  ⟨fun _ _ => rfl, fun _ h => absurd h List.not_mem_nil⟩

theorem congr (h : Overlay start parts done whole) (hdone : ∀ i, i ∈ done' ↔ i ∈ done) :
    Overlay start parts done' whole :=
  ⟨fun k hk => h.untouched k fun i hi => hk i ((hdone i).mpr hi),
    fun i hi k hk => h.touched i ((hdone i).mp hi) k hk⟩

/-- Everything is as at the start or as a part has left it. -/
theorem cases (h : Overlay start parts done whole) (k : κ) :
    (∀ i ∈ done, parts i k = start k) ∧ whole k = start k ∨
      ∃ i ∈ done, parts i k ≠ start k ∧ whole k = parts i k := by
  by_cases hk : ∀ i ∈ done, parts i k = start k
  · exact .inl ⟨hk, h.untouched k hk⟩
  · obtain ⟨i, hi⟩ := not_forall.mp hk
    obtain ⟨hmem, hne⟩ := Classical.not_imp.mp hi
    exact .inr ⟨i, hmem, hne, h.touched i hmem k hne⟩

/-- **The order of the parts does not matter.** -/
theorem unique (h : Overlay start parts done whole) (h' : Overlay start parts done whole') (k : κ) :
    whole k = whole' k := by
  rcases h.cases k with ⟨hk, hwhole⟩ | ⟨i, hmem, hne, hwhole⟩
  · rw [hwhole, h'.untouched k hk]
  · rw [hwhole, h'.touched i hmem k hne]

/-- A further part goes with those before it if it agrees with them wherever both have changed
something. -/
theorem cons (h : Overlay start parts done whole)
    (hnew : ∀ k, whole' k = whole k ∧ parts i k = start k ∨
      whole' k = parts i k ∧ ∀ j ∈ done, parts j k ≠ start k → parts j k = parts i k) :
    Overlay start parts (i :: done) whole' := by
  refine ⟨fun k hk => ?_, List.forall_mem_cons.mpr ⟨fun k hk => ?_, fun j hj k hk => ?_⟩⟩
  · obtain ⟨hi, hdone⟩ := List.forall_mem_cons.mp hk
    rcases hnew k with ⟨hwhole, -⟩ | ⟨hwhole, -⟩
    · rw [hwhole, h.untouched k hdone]
    · rw [hwhole, hi]
  · rcases hnew k with ⟨-, hstart⟩ | ⟨hwhole, -⟩
    · exact absurd hstart hk
    · exact hwhole
  · rcases hnew k with ⟨hwhole, -⟩ | ⟨hwhole, hagree⟩
    · rw [hwhole, h.touched j hj k hk]
    · rw [hwhole, hagree j hj hk]

end Overlay

/-! ## Branches alone -/

namespace Release

variable {σ : Type} {host : Host σ} {c : RunContext} {assets : σ → Set String} {console : Console}
  {w v : World σ} {target : BuildTarget} {done : List BuildTarget}

/-- Whether branches can be told apart: the host is steady, the directory of each branch can be made
apart from the others, and names of files lead nowhere else. -/
structure Setting (host : Host σ) (c : RunContext) (assets : σ → Set String) (w : World σ) :
    Prop where
  /-- the host -/
  steady : Steady host c assets
  /-- the files -/
  tree : w.files.IsTree
  /-- the directory of a branch -/
  site : ∀ target ∈ BuildTarget.all, Build.Site w.files c.workDir target.platform
  /-- the name of the program -/
  program : '/' ∉ c.config.project.binaryName.toList
  /-- the version -/
  version : '/' ∉ c.event.version.toList

/-- What a branch does that is the only one. -/
def alone (host : Host σ) (c : RunContext) (console : Console) (w : World σ)
    (target : BuildTarget) : Except Fault BranchOutcome × World σ :=
  runOn (Branch.run host c target console) w

variable (hsetting : Setting host c assets w)

include hsetting

/-- **A branch among others** does the same as alone. -/
theorem Setting.alone_eq (console : Console) (htarget : target ∈ BuildTarget.all)
    (hbeside : Build.Beside c.workDir target.platform w.files v.files)
    (hsharing : Sharing assets (c.assetNames target) w.outside v.outside w.outside v.outside) :
    (runOn (Branch.run host c target console) v).1 = (alone host c console w target).1 ∧
      Started c target w.files v.files (alone host c console w target).2.files
        (runOn (Branch.run host c target console) v).2.files ∧
      Sharing assets (c.assetNames target) w.outside v.outside
        (alone host c console w target).2.outside
        (runOn (Branch.run host c target console) v).2.outside := by
  have hpairs := Branch.pairs_run hsetting.steady htarget (hsetting.site target htarget)
    hsetting.program hsetting.version hsetting.tree hbeside console w v ⟨⟨rfl, rfl⟩, hsharing⟩
  unfold alone
  rcases hpairs with ⟨x, _, w', v', hrun, hrun', rfl, hleft⟩ | ⟨fault, w', v', hrun, hrun', hleft⟩
  · rw [hrun, hrun']
    exact ⟨rfl, hleft⟩
  · rw [hrun, hrun']
    exact ⟨rfl, hleft⟩

/-- What a branch alone changes in the files: nothing, or it makes its directory and works there. -/
theorem Setting.alone_files (console : Console) (htarget : target ∈ BuildTarget.all) :
    (alone host c console w target).2.files = w.files ∨
      Local (Above w.files.cwd c.workDir) (Below w.files.cwd (c.branchDir target)) w.files
          (alone host c console w target).2.files ∧
        w.files.Unblocked c.workDir ∧
          ∃ base, (alone host c console w target).2.files.Reaches c.workDir base := by
  have hstarted := (hsetting.alone_eq console htarget
    ⟨rfl, fun _ _ => rfl, .inl fun _ _ => rfl⟩
    ⟨fun _ _ => Iff.rfl, fun _ _ => Iff.rfl, fun _ _ => Iff.rfl⟩).2.1
  rcases hstarted with ⟨hsame, -⟩ | hcleared
  · exact .inl hsame
  · exact .inr ⟨hcleared.changed, hcleared.unblocked, hcleared.reaches⟩

theorem Setting.alone_cwd (console : Console) (htarget : target ∈ BuildTarget.all) :
    (alone host c console w target).2.files.cwd = w.files.cwd := by
  rcases hsetting.alone_files console htarget with hsame | ⟨hchanged, -⟩
  · rw [hsame]
  · exact hchanged.cwd

/-- Where a branch alone changes the files, it is in its directory and not above that, or the branch
has made a directory above. -/
theorem Setting.alone_node_of_ne (htarget : target ∈ BuildTarget.all) {l : Location}
    (hne : (alone host c console w target).2.files.node? l ≠ w.files.node? l) :
    Below w.files.cwd (c.branchDir target) l ∧ ¬ Above w.files.cwd c.workDir l ∨
      Above w.files.cwd c.workDir l ∧ w.files.node? l = none ∧
        (alone host c console w target).2.files.node? l = some .directory := by
  rcases hsetting.alone_files console htarget with hsame | ⟨hchanged, hclear, base, hreaches⟩
  · rw [hsame] at hne
    exact absurd rfl hne
  rcases hchanged.node l with hbelow | hl
  · refine .inl ⟨hbelow, fun habove => hne ?_⟩
    rw [RunContext.branchDir_eq htarget] at hbelow
    have hnode :=
      (hsetting.site target htarget).node?_of_above_of_below hclear hreaches habove hbelow
    rw [hnode, hchanged.kept l habove hnode]
  · exact .inr (hl.resolve_left hne)

/-- A branch alone touches no assets but its own. -/
theorem Setting.mem_alone_iff (htarget : target ∈ BuildTarget.all) {name : String}
    (hname : name ∉ c.assetNames target) :
    name ∈ assets (alone host c console w target).2.outside ↔ name ∈ assets w.outside :=
  (hsetting.alone_eq console htarget ⟨rfl, fun _ _ => rfl, .inl fun _ _ => rfl⟩
    ⟨fun _ _ => Iff.rfl, fun _ _ => Iff.rfl, fun _ _ => Iff.rfl⟩).2.2.kept name hname

omit hsetting in
/-- **A world between two branches**: it is put together from what the branches so far do alone. -/
structure Composed (host : Host σ) (c : RunContext) (assets : σ → Set String) (console : Console)
    (w : World σ) (done : List BuildTarget) (v : World σ) : Prop where
  /-- the current directory is the same -/
  cwd : v.files.cwd = w.files.cwd
  /-- the files -/
  files : Overlay w.files.node? (fun target => (alone host c console w target).2.files.node?) done
    v.files.node?
  /-- the release -/
  assets : Overlay (· ∈ assets w.outside)
    (fun target => (· ∈ assets (alone host c console w target).2.outside)) done
    (· ∈ assets v.outside)

namespace Composed

variable (h : Composed host c assets console w done v)
  (hdone : ∀ target ∈ done, target ∈ BuildTarget.all) (htarget : target ∈ BuildTarget.all)
  (hnew : target ∉ done)

include h hdone htarget hnew

/-- What the branches so far have left is beside what a further branch begins with. -/
theorem beside : Build.Beside c.workDir target.platform w.files v.files where
  cwd := h.cwd
  below l hl := by
    refine h.files.untouched l fun other hother => ?_
    -- what another branch changes is in its own directory or above all of them
    by_contra hne
    rcases hsetting.alone_files console (hdone other hother) with
      hsame | ⟨-, hclear, base, hreaches⟩
    · rw [hsame] at hne
      exact hne rfl
    rcases hsetting.alone_node_of_ne (hdone other hother) hne with ⟨hbelow, -⟩ | ⟨habove, hnone, -⟩
    · rw [← RunContext.branchDir_eq htarget] at hl
      exact hnew (RunContext.eq_of_below htarget (hdone other hother) hl hbelow ▸ hother)
    · rw [(hsetting.site target htarget).node?_of_above_of_below hclear hreaches habove hl] at hnone
      cases hnone
  above := by
    by_cases hmade : ∃ other ∈ done,
        w.files.Unblocked c.workDir ∧
          ∃ base, (alone host c console w other).2.files.Reaches c.workDir base
    · -- one branch that made the directories is enough, as no other one removes them
      obtain ⟨other, hother, hclear, base, hreaches⟩ := hmade
      have hcwd := hsetting.alone_cwd console (hdone other hother)
      refine .inr ⟨hclear, base, hreaches.of_directories (h.cwd.trans hcwd.symm) ?_⟩
      intro l hl hdirectory
      rw [hcwd] at hl
      rcases h.files.cases l with ⟨hall, hwhole⟩ | ⟨another, hanother, hne, hwhole⟩
      · rw [hwhole, ← hall other hother, hdirectory]
      · rcases hsetting.alone_node_of_ne (hdone another hanother) hne with ⟨-, hl'⟩ | ⟨-, -, hnode⟩
        · exact absurd hl hl'
        · rw [hwhole, hnode]
    · refine .inl fun l _ => h.files.untouched l fun other hother => ?_
      rcases hsetting.alone_files console (hdone other hother) with hsame | ⟨-, hmade'⟩
      · rw [hsame]
      · exact absurd ⟨other, hother, hmade'⟩ hmade

/-- Of the names of a further branch the release holds what it held at the beginning. -/
theorem sharing :
    Sharing assets (c.assetNames target) w.outside v.outside w.outside v.outside where
  kept _ _ := Iff.rfl
  kept' _ _ := Iff.rfl
  same name hname := by
    refine iff_of_eq (h.assets.untouched name fun other hother => propext ?_)
    refine hsetting.mem_alone_iff (hdone other hother) fun hmem => ?_
    have heq : other = target := by
      rcases hname with hname | hname
      · exact RunContext.eq_of_mem_assetNames (hdone other hother) htarget hmem hname
      · exact RunContext.eq_of_strip_mem_assetNames (hdone other hother) htarget hmem hname
    exact hnew (heq ▸ hother)

/-- **One more branch** ends as it does alone and leaves a world that is put together in this
way. -/
theorem step :
    (runOn (Branch.run host c target console) v).1 = (alone host c console w target).1 ∧
      Composed host c assets console w (target :: done)
        (runOn (Branch.run host c target console) v).2 := by
  obtain ⟨hended, hfiles, hassets⟩ := hsetting.alone_eq console htarget
    (h.beside hsetting hdone htarget hnew) (h.sharing hsetting hdone htarget hnew)
  refine ⟨hended, ?_, h.files.cons fun l => ?_, h.assets.cons fun name => ?_⟩
  · rcases hfiles with ⟨-, hsame⟩ | hcleared
    · rw [hsame, h.cwd]
    · rw [hcleared.same.cwd, hcleared.current]
  · rcases hfiles with ⟨hlone, hsame⟩ | hcleared
    · exact .inl ⟨by rw [hsame], by rw [hlone]⟩
    by_cases hl : Above w.files.cwd c.workDir l ∨ Below w.files.cwd (c.branchDir target) l
    · refine .inr ⟨hcleared.same.node l hl, fun other hother hne => ?_⟩
      -- two branches can have changed the same place only by making the same directory
      rcases hsetting.alone_node_of_ne (hdone other hother) hne with
        ⟨hbelow, hl'⟩ | ⟨habove, -, hnode⟩
      · rcases hl with habove | hbelow'
        · exact absurd habove hl'
        · exact absurd (RunContext.eq_of_below htarget (hdone other hother) hbelow' hbelow ▸ hother)
            hnew
      · obtain ⟨base, hreaches⟩ := hcleared.reaches
        rw [hnode]
        exact (hreaches.above (hcleared.current ▸ habove)).symm
    · obtain ⟨habove, hbelow⟩ := not_or.mp hl
      exact .inl ⟨hcleared.changed'.node_of_not habove hbelow,
        hcleared.changed.node_of_not habove hbelow⟩
  · by_cases hname : name ∈ c.assetNames target
    · refine .inr ⟨propext (hassets.same name (.inl hname)), fun other hother hne => ?_⟩
      refine absurd (propext (hsetting.mem_alone_iff (hdone other hother) fun hmem => ?_)) hne
      exact hnew (RunContext.eq_of_mem_assetNames (hdone other hother) htarget hmem hname ▸ hother)
    · exact .inl ⟨propext (hassets.kept' name hname), propext (hassets.kept name hname)⟩

end Composed

/-! ## Runs -/

omit hsetting in
/-- The outcome of a branch that is the only one. -/
def outcomeAlone (host : Host σ) (c : RunContext) (console : Console) (w : World σ)
    (target : BuildTarget) : BranchOutcome :=
  settled target (alone host c console w target).1

omit hsetting in
theorem outcomeAlone_target : (outcomeAlone host c console w target).target = target :=
  settled_target ((Branch.mirrors_run host c target console).holds
    (Branch.follows_run host c target console) w)

omit hsetting in
theorem runOn_runBranch (host : Host σ) (c : RunContext) (console : Console) (target : BuildTarget)
    (v : World σ) :
    runOn (runBranch host c console target) v =
      (.ok (settled target (runOn (Branch.run host c target console) v).1),
        (runOn (Branch.run host c target console) v).2) := by
  refine (runOn_bind_ok (runOn_caught ..)).trans ?_
  rcases (runOn (Branch.run host c target console) v).1 with fault | outcome
  · rfl
  · rfl

/-- **Branches one after the other** end as they do alone, and what they leave is put together from
what they do alone. -/
theorem Composed.runBranches {targets : List BuildTarget}
    (h : Composed host c assets console w done v)
    (hdone : ∀ target ∈ done, target ∈ BuildTarget.all)
    (htargets : ∀ target ∈ targets, target ∈ BuildTarget.all) (hnodup : targets.Nodup)
    (hnew : ∀ target ∈ targets, target ∉ done) :
    ∃ v', runOn (runBranches host c console targets) v =
        (.ok (targets.map (outcomeAlone host c console w)), v') ∧
      Composed host c assets console w (targets.reverse ++ done) v' := by
  -- the branches that are done grow by one in each step, and stay distinct from those to come
  induction targets generalizing done v with
  | nil => exact ⟨v, rfl, h⟩
  | cons target rest ih =>
    obtain ⟨htarget, hrest⟩ := List.forall_mem_cons.mp htargets
    obtain ⟨hnew, hnewRest⟩ := List.forall_mem_cons.mp hnew
    obtain ⟨hfirst, hnodup⟩ := List.nodup_cons.mp hnodup
    obtain ⟨hended, hcomposed⟩ := h.step hsetting hdone htarget hnew
    have hrun := runOn_runBranch host c console target v
    rw [hended] at hrun
    obtain ⟨v', hruns, hleft⟩ := ih hcomposed (List.forall_mem_cons.mpr ⟨htarget, hdone⟩) hrest
      hnodup fun other hother hmem => by
        rcases List.mem_cons.mp hmem with rfl | hmem
        · exact hfirst hother
        · exact hnewRest other hother hmem
    refine ⟨v', ?_, by simpa using hleft⟩
    refine (runOn_bind_ok hrun).trans ((runOn_bind_ok hruns).trans ?_)
    rfl

end Release

end Shipyard
