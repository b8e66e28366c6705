import Shipyard.Proofs.FileSystem.Look
import Shipyard.Proofs.Rehearsal
import Shipyard.Proofs.Run.Territory
import Shipyard.Rehearsal.Script

/-!
# Builds from scratch

A build clears its checkout before anything else, so it comes to the same end whatever was left
there, and the program that it gives was made by one of its commands (`run_afresh`). What a build
clears is a matter of its first look at the checkout: where the path leads nowhere, nothing is
removed, and if the way to it is made right after that look, what was left there comes to light
again (`leftover_given`).
-/

namespace Shipyard

variable {σ : Type}

namespace Exchange

open FileSystem

variable {fs fs' : FileSystem} {es : List (Exchange (Filmed σ))} {p : Path}

/-- Whether a command makes a file: it finds none behind a path, and leaves one there. -/
structure Makes (e : Exchange (Filmed σ)) (p : Path) : Prop where
  /-- there was none -/
  found : e.found.Vacant p
  /-- there is one -/
  kept : ¬ e.kept.Vacant p

/-- A path stays vacant unless some command makes a file there. -/
theorem Uncut.vacant (h : Uncut fs es fs') (hvacant : fs.Vacant p)
    (hmakes : ∀ e ∈ es, ¬ e.Makes p) : fs'.Vacant p := by
  induction es generalizing fs with
  | nil =>
    obtain rfl : fs' = fs := h
    exact hvacant
  | cons e es ih =>
    obtain ⟨hfirst, hrest⟩ := List.forall_mem_cons.mp hmakes
    obtain ⟨rfl, h⟩ := h
    refine ih h ?_ hrest
    by_contra hkept
    exact hfirst ⟨hvacant, hkept⟩

end Exchange

namespace Build

open Shipyard.Action Exchange FileSystem Disk

variable {host : Host σ} {c : RunContext} {target : BuildTarget} {fs gs fs' : FileSystem}
  {p q : Path} {out : Console} {w : World σ}

/-! ## Clearing -/

/-- Whether what a path leads to can be replaced: nothing is at its place, or the path leads to a
directory. -/
def Replaceable (fs : FileSystem) (p : Path) : Prop :=
  (∀ l, Below fs.cwd p l → fs.node? l = none) ∨ fs.find? p = .ok (some .directory)

namespace Replaceable

/-- Where the path is too long, there was nothing. -/
theorem eraseBelow_eq_self (h : Replaceable fs p) (hplace : p.place fs.cwd ≠ [])
    (hlong : TooLong p) : fs.eraseBelow (p.place fs.cwd) = fs := by
  rcases h with hnone | hdirectory
  · exact FileSystem.eraseBelow_eq_self hplace hnone
  · obtain ⟨loc, hlocate, -⟩ := find?_eq_some_iff.mp hdirectory
    exact absurd hlong (not_tooLong_of_locate hlocate)

/-- Everything is removed from the place, and the directory above is made. -/
theorem runOn_clearCheckout (h : Replaceable fs p) (hplace : p.place fs.cwd ≠ []) :
    runOn (clearCheckout p) fs =
        runOn (makeDirectories p.parent) (fs.eraseBelow (p.place fs.cwd)) ∨
      TooLong p ∧ ∃ fault, runOn (clearCheckout p) fs = (.error fault, fs) := by
  rw [Build.runOn_clearCheckout]
  rcases hfind : fs.find? p with fault | _ | node
  · obtain ⟨-, hlong⟩ := find?_eq_error hfind
    exact .inr ⟨hlong, fault, rfl⟩
  · rcases h with hnone | hdirectory
    · rw [FileSystem.eraseBelow_eq_self hplace hnone]
      exact .inl rfl
    · cases hfind.symm.trans hdirectory
  · obtain ⟨loc, hlocate, hnode⟩ := find?_eq_some_iff.mp hfind
    obtain rfl := eq_place_of_locate hlocate
    have hdirectory : node = .directory := by
      rcases h with hnone | hdirectory
      · rw [hnone _ List.prefix_rfl] at hnode
        cases hnode
      · cases hfind.symm.trans hdirectory
        rfl
    have hremove : runOn (removeTree p) fs = (.ok (), fs.eraseBelow (p.place fs.cwd)) := by
      rw [runOn_removeTree, hlocate]
      dsimp only
      rw [hnode, hdirectory]
    exact .inl (runOn_bind_ok hremove)

/-- **Clearing forgets what was left.** -/
theorem clearCheckout_same (hfs : Replaceable fs p) (hgs : Replaceable gs p)
    (hplace : p.place fs.cwd ≠ []) (h : Agrees (fun l => ¬ Below fs.cwd p l) fs gs) :
    runOn (clearCheckout p) gs = runOn (clearCheckout p) fs := by
  have hplace' : p.place gs.cwd ≠ [] := h.cwd ▸ hplace
  have herased : gs.eraseBelow (p.place gs.cwd) = fs.eraseBelow (p.place fs.cwd) :=
    h.cwd ▸ h.eraseBelow_eq hplace
  by_cases hlong : TooLong p
  · rw [hfs.eraseBelow_eq_self hplace hlong, hgs.eraseBelow_eq_self hplace' hlong] at herased
    rw [herased]
  · have hrun := (hfs.runOn_clearCheckout hplace).resolve_right fun h => hlong h.1
    have hrun' := (hgs.runOn_clearCheckout hplace').resolve_right fun h => hlong h.1
    rw [hrun, hrun', herased]

/-- **And leaves no file.** -/
theorem vacant (h : Replaceable fs p) (hplace : p.place fs.cwd ≠ [])
    (hrun : runOn (clearCheckout p) fs = (.ok (), fs')) (hq : Below fs.cwd p (q.place fs.cwd)) :
    fs'.Vacant q := by
  rcases h.runOn_clearCheckout hplace with hcleared | ⟨-, fault, hfailed⟩
  · obtain ⟨hgrown, -⟩ := ensures_makeDirectories.of_runOn_ok rfl (hcleared.symm.trans hrun)
    rw [vacant_iff]
    intro l f hlocate hnode
    -- nothing but directories is new, and what was below the checkout is gone
    have hbefore := hgrown.file_iff.mp hnode
    have hcwd : fs'.cwd = fs.cwd := hgrown.cwd
    rw [eq_place_of_locate hlocate, hcwd, node?_eraseBelow _ _ hplace,
      if_pos (List.isPrefixOf_iff_prefix.mpr hq)] at hbefore
    cases hbefore
  · cases hfailed.symm.trans hrun

end Replaceable

/-! ## What follows the clearing -/

/-- A build sees the files only through the clearing. -/
theorem runOn_run_congr (hlinker : lacksLinker host target = false)
    (h : runOn (clearCheckout (c.checkoutDir target)) gs =
      runOn (clearCheckout (c.checkoutDir target)) fs) :
    runOn (run host c target out) { w with files := gs } =
      runOn (run host c target out) { w with files := fs } := by
  have hclear : runOn (onFiles (attempt (clearCheckout (c.checkoutDir target))))
      { w with files := gs } =
        runOn (onFiles (attempt (clearCheckout (c.checkoutDir target))))
          { w with files := fs } := by
    rw [runOn_onFiles, runOn_onFiles, runOn_attempt, runOn_attempt, h]
  unfold run
  rw [hlinker]
  simp only [Bool.false_eq_true, if_false, prepareCheckout, Action.runOn_bind, hclear]

/-! ### Films behind the clearing -/

section

variable {α β ε ε' : Type} {value : FileSystem → Except Fault (Except ε α)}
  {first : FileSystem → Except Fault (Except ε' β)} {commands : List Command}
  {es es' : List (Exchange (Filmed σ))} {r : Except Fault (Except ε α)} {fs₁ fs₂ : FileSystem}

/-- A film without cuts, of a step that comes to some value if all commands go well, and otherwise
to none. -/
structure Closing (value : FileSystem → Except Fault (Except ε α)) (fs : FileSystem)
    (es : List (Exchange (Filmed σ))) (r : Except Fault (Except ε α)) (fs' : FileSystem) :
    Prop where
  /-- only commands touch the files -/
  uncut : Uncut fs es fs'
  /-- how it ends -/
  ends : (∀ e ∈ es, e.succeeded = true) ∧ r = value fs' ∨
    (∃ e ∈ es, e.succeeded = false) ∧ ∀ x, r ≠ .ok (.ok x)

namespace Closing

theorem eq_value {x : β} (h : Closing first fs es (.ok (.ok x)) fs₁) :
    (∀ e ∈ es, e.succeeded = true) ∧ .ok (.ok x) = first fs₁ :=
  h.ends.resolve_right fun hnone => hnone.2 x rfl

/-- A step goes on behind one that came to its value. -/
theorem append {x : β} (h : Closing first fs es (.ok (.ok x)) fs₁)
    (h' : Closing value fs₁ es' r fs₂) : Closing value fs (es ++ es') r fs₂ := by
  refine ⟨h.uncut.append h'.uncut, ?_⟩
  rcases h'.ends with ⟨hall, hr⟩ | ⟨⟨e, he, hfailed⟩, hr⟩
  · exact .inl ⟨List.forall_mem_append.mpr ⟨h.eq_value.1, hall⟩, hr⟩
  · exact .inr ⟨⟨e, List.mem_append_right _ he, hfailed⟩, hr⟩

/-- And it stops behind one that did not. -/
theorem stops {x : β} {r' : Except Fault (Except ε' β)}
    (h : Closing (fun _ => .ok (.ok x)) fs es r' fs₁) (hr' : ∀ x, r' ≠ .ok (.ok x))
    (hr : ∀ x, r ≠ .ok (.ok x)) : Closing value fs es r fs₁ := by
  refine ⟨h.uncut, .inr ⟨?_, hr⟩⟩
  rcases h.ends with ⟨-, hvalue⟩ | ⟨hsome, -⟩
  · exact absurd hvalue (hr' x)
  · exact hsome

end Closing

theorem InOrder.ends {es : List (Exchange σ)} {r : Except Fault (Except CommandFailure Unit)}
    (h : InOrder commands es r) : (∀ e ∈ es, e.succeeded = true) ∧ r = .ok (.ok ()) ∨
      (∃ e ∈ es, e.succeeded = false) ∧ ∀ x, r ≠ .ok (.ok x) := by
  induction h with
  | done => exact .inl ⟨List.forall_mem_nil _, rfl⟩
  | @answered _ _ e output _ _ _ hanswer _ ih =>
    have hfirst : e.succeeded = true := succeeded_iff.mpr ⟨output, hanswer⟩
    rcases ih with ⟨hall, rfl⟩ | ⟨⟨e', he', hfailed⟩, hr⟩
    · exact .inl ⟨List.forall_mem_cons.mpr ⟨hfirst, hall⟩, rfl⟩
    · exact .inr ⟨⟨e', List.mem_cons_of_mem _ he', hfailed⟩, hr⟩
  | failed _ hanswer | faulted _ hanswer =>
    refine .inr ⟨⟨_, List.mem_cons_self, ?_⟩, fun x hx => by cases hx⟩
    rw [succeeded, hanswer]

/-- Commands in their order come first; if one fails, so does the step. -/
theorem closing_issueInOrder_bind
    {f : Except CommandFailure Unit → Action (Logged (Filmed σ)) (Except ε α)}
    (hfailed : ∀ failure, ∃ failure', f (.error failure) = pure (.error failure'))
    (hok : Films (f (.ok ())) (Closing value)) :
    Films (issueInOrder host.filmed.logged out commands >>= f) (Closing value) := by
  have hcommands : Films (issueInOrder host.filmed.logged out commands)
      (Closing fun _ => .ok (.ok ())) :=
    (films_issueInOrder host out commands).mono fun fs es r fs' h => ⟨h.2, h.1.ends⟩
  refine hcommands.bind (fun reply => ?_) fun fs es fault fs' h => h.stops nofun nofun
  cases reply with
  | error failure =>
    obtain ⟨failure', hf⟩ := hfailed failure
    rw [hf]
    refine films_pure fun fs' fs es h => ?_
    rw [List.append_nil]
    exact h.stops nofun nofun
  | ok u => exact hok.mono fun fs₁ es' r fs₂ h fs es hfirst => hfirst.append h

end

/-- What a build gives in the end, by a look for the program. -/
def verdict (target : BuildTarget) (program : Path) (fs : FileSystem) :
    Except Fault (Except BuildFailure BuiltBinary) :=
  ((isFile program).runOn fs).1.map fun found =>
    if found then .ok ⟨target, program⟩ else .error (outputMissing target program)

/-- The look changes nothing, so the verdict can be given afterwards. -/
theorem verdict_of_isFile (target : BuildTarget) {r : Except Fault Bool}
    (h : (isFile p).runOn fs = (r, fs')) :
    fs' = fs ∧ verdict target p fs = r.map fun found =>
      if found then .ok ⟨target, p⟩ else .error (outputMissing target p) := by
  refine ⟨?_, by rw [verdict, h]⟩
  have hreads := reads_isFile (p := p) fs
  rwa [h] at hreads

/-- A program that is given was found. -/
theorem not_vacant_of_verdict {built : BuiltBinary} (h : verdict target p fs = .ok (.ok built)) :
    built = ⟨target, p⟩ ∧ ¬ fs.Vacant p := by
  rcases hlook : (isFile p).runOn fs with ⟨fault | _ | _, fs'⟩
  all_goals
    obtain ⟨rfl, hverdict⟩ := verdict_of_isFile target hlook
    cases hverdict.symm.trans h
  exact ⟨rfl, not_vacant_of_isFile hlook⟩

/-- If there is none, that is the verdict, unless it cannot be looked for. -/
theorem verdict_of_vacant (h : fs.Vacant p) :
    verdict target p fs = .ok (.error (outputMissing target p)) ∨
      TooLong p ∧ verdict target p fs = .error (osError .nameTooLong p) := by
  rcases runOn_isFile_of_vacant h with hlook | ⟨hlong, hlook⟩
  · exact .inl (verdict_of_isFile target hlook).2
  · exact .inr ⟨hlong, (verdict_of_isFile target hlook).2⟩

theorem closing_compile (host : Host σ) (c : RunContext) (target : BuildTarget) (checkout : Path)
    (out : Console) : Films (compile host.filmed.logged c target checkout out)
      (Closing (verdict target (expectedBinary target checkout c.config.project.binaryName))) := by
  refine closing_issueInOrder_bind (fun failure => ⟨_, rfl⟩) (.onFiles_bind (fun found => ?_) ?_)
  · cases found with
    | false =>
      refine films_pure fun fs' fs hlook => ?_
      obtain ⟨rfl, hverdict⟩ := verdict_of_isFile target hlook
      exact ⟨rfl, .inl ⟨List.forall_mem_nil _, hverdict.symm⟩⟩
    | true =>
      refine films_pure fun fs' fs hlook => ?_
      obtain ⟨rfl, hverdict⟩ := verdict_of_isFile target hlook
      exact ⟨rfl, .inl ⟨List.forall_mem_nil _, hverdict.symm⟩⟩
  · intro fs fault fs' hlook
    obtain ⟨rfl, hverdict⟩ := verdict_of_isFile target hlook
    exact ⟨rfl, .inl ⟨List.forall_mem_nil _, hverdict.symm⟩⟩

/-! ### Films of whole builds -/

/-- Whether a film begins with the cleared checkout and closes behind that. Without an exchange,
nothing is given. -/
def Scratch {α : Type} (c : RunContext) (target : BuildTarget)
    (value : FileSystem → Except Fault (Except BuildFailure α)) :
    Filming σ (Except BuildFailure α) := fun fs es r fs' =>
  (es = [] ∧ ∀ x, r ≠ .ok (.ok x)) ∨
    ∃ cleared, runOn (clearCheckout (c.checkoutDir target)) fs = (.ok (), cleared) ∧
      Closing value cleared es r fs'

/-- A build stops where no checkout is made. -/
theorem Scratch.stops {α β : Type} {checkout : β}
    {value : FileSystem → Except Fault (Except BuildFailure α)} {es : List (Exchange (Filmed σ))}
    {r' : Except Fault (Except BuildFailure β)} {r : Except Fault (Except BuildFailure α)}
    (h : Scratch c target (fun _ => .ok (.ok checkout)) fs es r' fs')
    (hr' : ∀ x, r' ≠ .ok (.ok x)) (hr : ∀ x, r ≠ .ok (.ok x)) :
    Scratch c target value fs es r fs' := by
  rcases h with ⟨hes, -⟩ | ⟨cleared, hclear, h⟩
  · exact .inl ⟨hes, hr⟩
  · exact .inr ⟨cleared, hclear, h.stops hr' hr⟩

theorem scratch_prepareCheckout (host : Host σ) (c : RunContext) (target : BuildTarget)
    (out : Console) : Films (prepareCheckout host.filmed.logged c target out)
      (Scratch c target fun _ => .ok (.ok (c.checkoutDir target))) := by
  refine .onFiles_bind (fun cleared => ?_) fun fs fault fs' _ => .inl ⟨rfl, nofun⟩
  cases cleared with
  | error e => exact films_pure fun fs' fs hclear => .inl ⟨rfl, nofun⟩
  | ok u =>
    refine .mono ?_ fun cleared es r fs' h fs hclear =>
      .inr ⟨cleared, runOn_attempt_eq_ok.mp hclear, h⟩
    refine closing_issueInOrder_bind (fun failure => ⟨_, rfl⟩) (films_pure fun fs => ?_)
    exact ⟨rfl, .inl ⟨List.forall_mem_nil _, rfl⟩⟩

theorem scratch_run (host : Host σ) (c : RunContext) (target : BuildTarget) (out : Console) :
    Films (run host.filmed.logged c target out)
      (Scratch c target (verdict target (output c target))) := by
  unfold run
  split
  · exact films_pure fun fs => .inl ⟨rfl, nofun⟩
  refine (scratch_prepareCheckout host c target out).bind (fun prepared => ?_) ?_
  · cases prepared with
    | error failure =>
      refine films_pure fun fs' fs es h => ?_
      rw [List.append_nil]
      exact h.stops nofun nofun
    | ok checkout =>
      refine (closing_compile host c target checkout out).mono ?_
      intro fs₁ es' r fs₂ h fs es hfirst
      rcases hfirst with ⟨-, hnone⟩ | ⟨cleared, hclear, hfirst⟩
      · exact absurd rfl (hnone checkout)
      · cases hfirst.eq_value.2
        exact .inr ⟨cleared, hclear, hfirst.append h⟩
  · exact fun fs es fault fs' h => h.stops nofun nofun

/-! ## Builds from scratch -/

/-- The film of a build. -/
def film (host : Host σ) (c : RunContext) (target : BuildTarget) (out : Console) (w : World σ) :
    List (Exchange (Filmed σ)) :=
  Action.film (run host.filmed.logged c target out) w

/-- **Whether a program comes from the commands of its build.** The film shows what each of them
found and what it left. -/
structure SelfMade (host : Host σ) (c : RunContext) (target : BuildTarget) (out : Console)
    (w : World σ) : Prop where
  /-- the film shows the commands that are issued -/
  issued : (runOn (run host c target out) w).2.issued =
    w.issued ++ (film host c target out w).map (·.command)
  /-- a program that is given is the one in the checkout, and a command made it -/
  made : ∀ built, (runOn (run host c target out) w).1 = .ok (.ok built) →
    built = ⟨target, output c target⟩ ∧
      ∃ e ∈ film host c target out w, e.Makes (output c target)
  /-- if all commands went well and none made it, it is missed; or its path is too long for that -/
  missing : Completes (plan c target) (film host c target out w) →
    (∀ e ∈ film host c target out w, ¬ e.Makes (output c target)) →
      (runOn (run host c target out) w).1 =
          .ok (.error (outputMissing target (output c target))) ∨
        TooLong (output c target) ∧
          (runOn (run host c target out) w).1 = .error (osError .nameTooLong (output c target))

theorem place_checkoutDir_ne_nil (c : RunContext) (target : BuildTarget) (cwd : Location) :
    (c.checkoutDir target).place cwd ≠ [] := by
  rw [RunContext.checkoutDir_eq, Path.place_entry (by decide)]
  simp

theorem ne_nil_of_plan {es : List (Exchange σ)} (h : Completes (plan c target) es) : es ≠ [] := by
  rintro rfl
  cases h.commands

/-- Where the checkout can be replaced, the program comes from the commands. -/
theorem selfMade_run (hcheckout : Replaceable w.files (c.checkoutDir target))
    (htarget : target.LeadsDown) (hprogram : '/' ∉ c.config.project.binaryName.toList) :
    SelfMade host c target out w := by
  have halike := alike_run (coupled_filmed host w.issued) c.interchangeable_self target out
  have hfilm := halike.films (scratch_run host c target out)
  -- a program that is found behind the clearing is none of an earlier run
  have hvacant (cleared : FileSystem)
      (hclear : runOn (clearCheckout (c.checkoutDir target)) w.files = (.ok (), cleared)) :
      cleared.Vacant (output c target) :=
    hcheckout.vacant (place_checkoutDir_ne_nil c target _) hclear
      (below_output htarget w.files.cwd hprogram)
  refine ⟨halike.issued_eq, fun built hbuilt => ?_, fun hall hnone => ?_⟩
  · rcases hfilm with ⟨-, hnothing⟩ | ⟨cleared, hclear, hclosing⟩
    · exact absurd hbuilt (hnothing built)
    change Closing _ _ _ (runOn (run host c target out) w).1 _ at hclosing
    rw [hbuilt] at hclosing
    obtain ⟨rfl, hfound⟩ := not_vacant_of_verdict hclosing.eq_value.2.symm
    refine ⟨rfl, ?_⟩
    by_contra hnone
    exact hfound (hclosing.uncut.vacant (hvacant cleared hclear) fun e he hmakes =>
      hnone ⟨e, he, hmakes⟩)
  · rcases hfilm with ⟨hempty, -⟩ | ⟨cleared, hclear, hclosing⟩
    · exact absurd hempty (ne_nil_of_plan hall)
    have hends : (runOn (run host c target out) w).1 = _ :=
      (hclosing.ends.resolve_right fun hsome => ?_).2
    · rw [hends]
      exact verdict_of_vacant (hclosing.uncut.vacant (hvacant cleared hclear) hnone)
    · obtain ⟨⟨e, he, hfailed⟩, -⟩ := hsome
      rw [hall.succeeded e he] at hfailed
      cases hfailed

/-- **Every build is one from scratch.** Whatever was left in the checkout, the result, the commands
and the files behind them are the same, and the program comes from the commands. -/
theorem run_afresh (host : Host σ) (c : RunContext) (target : BuildTarget) (out : Console)
    (w : World σ) (hlinker : lacksLinker host target = false)
    (hagrees : Agrees (fun l => ¬ Below fs.cwd (c.checkoutDir target) l) fs gs)
    (hfs : Replaceable fs (c.checkoutDir target)) (hgs : Replaceable gs (c.checkoutDir target)) :
    runOn (run host c target out) { w with files := gs } =
        runOn (run host c target out) { w with files := fs } ∧
      (target.LeadsDown → '/' ∉ c.config.project.binaryName.toList →
        SelfMade host c target out { w with files := fs }) := by
  refine ⟨runOn_run_congr hlinker ?_, fun htarget hprogram => ?_⟩
  · exact hfs.clearCheckout_same hgs (place_checkoutDir_ne_nil c target _) hagrees
  · exact selfMade_run hfs htarget hprogram

/-! ### Leftovers -/

/-- The files of a rehearsal with the directory of the branch for Linux. -/
def cleanFiles : FileSystem :=
  (((FileSystem.empty []).put ["r"] .directory).put ["r", ".rbr"] .directory).put
    ["r", ".rbr", "linux"] .directory

/-- A path in the checkout of that branch. -/
def inCheckout (names : List String) : Location := ["r", ".rbr", "linux", "src"] ++ names

/-- The same files with the program of an earlier build. -/
def leftFiles : FileSystem :=
  ((((cleanFiles.put (inCheckout []) .directory).put
    (inCheckout ["target"]) .directory).put
    (inCheckout ["target", BuildTarget.linux.triple]) .directory).put
    (inCheckout ["target", BuildTarget.linux.triple, "release"]) .directory).put
    (inCheckout ["target", BuildTarget.linux.triple, "release", "replibyte"])
    (.file ⟨Utf8.encode "old", 0o755, 0⟩)

/-- A rehearsal in which the clone leaves nothing and no program is compiled. -/
def idleHost : Host Stage := Rehearsal.host { Rehearsal.script with produces := none }

/-- Its world with some files. -/
def idleWorld (fs : FileSystem) : World Stage :=
  { Rehearsal.world [⟨["git", "clone"], none, 1, 0, .exit 0 "" ""⟩] with files := fs }

theorem node?_put_inCheckout (fs : FileSystem) (names : List String) (node : Node) {l : Location}
    (hl : ¬ inCheckout [] <+: l) : (fs.put (inCheckout names) node).node? l = fs.node? l := by
  rw [node?_put _ _ _ (show inCheckout names ≠ [] by simp [inCheckout]), if_neg]
  rintro rfl
  exact hl ⟨names, rfl⟩

theorem agrees_leftFiles {p : Path} (hplace : p.place cleanFiles.cwd = inCheckout []) :
    Agrees (fun l => ¬ Below cleanFiles.cwd p l) cleanFiles leftFiles := by
  refine ⟨rfl, fun l hl => ?_⟩
  rw [Below, hplace] at hl
  simp only [leftFiles, node?_put_inCheckout _ _ _ hl]

theorem replaceable_cleanFiles {p : Path} (hplace : p.place cleanFiles.cwd = inCheckout []) :
    Replaceable cleanFiles p := by
  refine .inl fun l hl => ?_
  obtain ⟨rest, rfl⟩ := hl
  rw [hplace, cleanFiles, node?_put _ _ _ (by simp), node?_put _ _ _ (by simp),
    node?_put _ _ _ (by simp)]
  simp [inCheckout, node?, empty]

/-- A rehearsed build does not see the program of an earlier one, and gives its own. -/
theorem run_afresh_rehearsed :
    runOn (run (Rehearsal.host Rehearsal.script) Rehearsal.context BuildTarget.linux Console.plain)
        { Rehearsal.world [] with files := leftFiles } =
      runOn (run (Rehearsal.host Rehearsal.script) Rehearsal.context BuildTarget.linux
        Console.plain) { Rehearsal.world [] with files := cleanFiles } ∧
      SelfMade (Rehearsal.host Rehearsal.script) Rehearsal.context BuildTarget.linux Console.plain
        { Rehearsal.world [] with files := cleanFiles } := by
  have hplace : (Rehearsal.context.checkoutDir BuildTarget.linux).place cleanFiles.cwd =
      inCheckout [] := by
    decide
  obtain ⟨hsame, hself⟩ := run_afresh (Rehearsal.host Rehearsal.script) Rehearsal.context
    BuildTarget.linux Console.plain (Rehearsal.world []) (by decide) (agrees_leftFiles hplace)
    (replaceable_cleanFiles hplace) (.inr (by decide))
  exact ⟨hsame, hself (BuildTarget.leadsDown _ (by decide)) (by decide)⟩

/-- The context of a rehearsal whose way to the checkout leads through a directory that is not
there. -/
def windingContext : RunContext :=
  { Rehearsal.context with workDir := ⟨.root, ["r", "n", "..", ".rbr"]⟩ }

/-- **A way that is made too late.** The checkout is not found, so nothing is removed; then the way
to it is made, and the program of an earlier build is given for that of this one, although no
command made any. -/
theorem leftover_given :
    Agrees (fun l => ¬ Below cleanFiles.cwd (windingContext.checkoutDir BuildTarget.linux) l)
        cleanFiles leftFiles ∧
      leftFiles.find? (windingContext.checkoutDir BuildTarget.linux) = .ok none ∧
      (runOn (run idleHost windingContext BuildTarget.linux Console.plain)
        (idleWorld cleanFiles)).1 = .ok (.error (outputMissing BuildTarget.linux
          (output windingContext BuildTarget.linux))) ∧
      (runOn (run idleHost windingContext BuildTarget.linux Console.plain)
        (idleWorld leftFiles)).1 = .ok (.ok ⟨BuildTarget.linux,
          output windingContext BuildTarget.linux⟩) ∧
      ∀ e ∈ film idleHost windingContext BuildTarget.linux Console.plain (idleWorld leftFiles),
        e.kept.find? (output windingContext BuildTarget.linux) =
          e.found.find? (output windingContext BuildTarget.linux) := by
  refine ⟨agrees_leftFiles (by decide), by decide, by decide, by decide,
    by decide +kernel⟩

end Build

end Shipyard
