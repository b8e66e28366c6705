import Shipyard.Proofs.Build.Checkout
import Shipyard.Proofs.Packaging.Confinement
import Shipyard.Proofs.Packaging.Layout

/-!
# The directory of a branch

Everything that a branch makes is in a directory of its own: the checkout with the program in it,
and the three files of the packaging. The directories of two targets have nothing in common.
-/

namespace Shipyard

open FileSystem Packaging

variable {c : RunContext} {target target' : BuildTarget} {cwd : Location} {p dir : Path}
  {above : Location → Prop} {name : String} {names : List String} {l : Location}

/-! ## Directories -/

namespace BuildTarget

theorem platform_isName : ∀ target ∈ all, Path.IsName target.platform := by
  have h : ∀ target ∈ all, target.platform ≠ "" ∧ target.platform ≠ "." ∧
      '/' ∉ target.platform.toList := by decide
  exact fun target htarget => ⟨(h target htarget).1, (h target htarget).2.1, (h target htarget).2.2⟩

theorem platform_plain : ∀ target ∈ all, Plain [target.platform] := by
  have h : ∀ target ∈ all, target.platform ≠ ".." ∧
      target.platform.utf8ByteSize ≤ maxNameBytes := by decide
  exact fun target htarget => List.forall_mem_singleton.mpr (h target htarget)

theorem triple_isName : ∀ target ∈ all, Path.IsName target.triple ∧ target.triple ≠ ".." := by
  have h : ∀ target ∈ all, target.triple ≠ "" ∧ target.triple ≠ "." ∧
      '/' ∉ target.triple.toList ∧ target.triple ≠ ".." := by decide
  exact fun target htarget => ⟨⟨(h target htarget).1, (h target htarget).2.1,
    (h target htarget).2.2.1⟩, (h target htarget).2.2.2⟩

theorem exeSuffix_no_slash : ∀ target ∈ all, '/' ∉ target.exeSuffix.toList := by decide

/-- Whether the names that a target gives to what is compiled for it lead down. -/
structure LeadsDown (target : BuildTarget) : Prop where
  /-- its triple is a name -/
  isName : Path.IsName target.triple
  /-- and no way back -/
  ne_up : target.triple ≠ ".."
  /-- the end of a program has no slash -/
  no_slash : '/' ∉ target.exeSuffix.toList

theorem leadsDown (target : BuildTarget) (h : target ∈ all) : target.LeadsDown :=
  ⟨(triple_isName target h).1, (triple_isName target h).2, exeSuffix_no_slash target h⟩

/-- A platform has one target. -/
theorem eq_of_platform_eq : ∀ target ∈ all, ∀ target' ∈ all, target.platform = target'.platform →
    target = target' := by decide

end BuildTarget

namespace RunContext

theorem branchDir_eq (h : target ∈ BuildTarget.all) :
    c.branchDir target = c.workDir.entry target.platform :=
  Path.child_of_isName _ (BuildTarget.platform_isName target h)

theorem checkoutDir_eq (c : RunContext) (target : BuildTarget) :
    c.checkoutDir target = (c.branchDir target).entry Build.sourceName :=
  Path.child_of_isName _ ⟨by decide, by decide, by decide⟩

theorem stagingDir_eq (c : RunContext) (target : BuildTarget) :
    c.stagingDir target = (c.branchDir target).entry "dist" :=
  Path.child_of_isName _ ⟨by decide, by decide, by decide⟩

theorem place_branchDir (h : target ∈ BuildTarget.all) :
    (c.branchDir target).place cwd = c.workDir.place cwd ++ [target.platform] := by
  rw [branchDir_eq h]
  exact Path.place_entry (BuildTarget.platform_plain target h _ (List.mem_singleton_self _)).1 ..

/-- **The directories of two targets have nothing in common.** -/
theorem eq_of_below (h : target ∈ BuildTarget.all) (h' : target' ∈ BuildTarget.all)
    (hl : Below cwd (c.branchDir target) l) (hl' : Below cwd (c.branchDir target') l) :
    target = target' := by
  rw [Below, place_branchDir h] at hl
  rw [Below, place_branchDir h'] at hl'
  refine BuildTarget.eq_of_platform_eq target h target' h' ?_
  have hsame :
      c.workDir.place cwd ++ [target.platform] = c.workDir.place cwd ++ [target'.platform] :=
    List.IsPrefix.eq_of_length (List.prefix_of_prefix_length_le hl hl' (by simp)) (by simp)
  exact List.singleton_inj.mp (List.append_cancel_left hsame)

end RunContext

/-! ## Files in the directory of a branch -/

namespace Packaging

/-- A name in a directory that is in reach can be used, if it does not lead back. -/
theorem usable_entry (hp : Usable cwd above (Below cwd dir) p) (hup : name ≠ "..") :
    Usable cwd above (Below cwd dir) (p.entry name) := by
  have hplace : Below cwd dir ((p.entry name).place cwd) := by
    rw [Path.place_entry hup]
    exact hp.place.trans (List.prefix_append ..)
  exact ⟨hp.inReach.entry (.inr hplace), hplace⟩

/-- So can a text without a slash, even if it leads back to a place below the directory. -/
theorem usable_child {parent : Path} {s : String}
    (hparent : Usable cwd above (Below cwd dir) parent) (hup : name ≠ "..") (hs : '/' ∉ s.toList) :
    Usable cwd above (Below cwd dir) ((parent.entry name).child s) := by
  have hentry := usable_entry hparent hup
  rcases Path.child_of_no_slash (parent.entry name) hs with hchild | hchild
  all_goals rw [hchild]
  · exact hentry
  by_cases hback : s = ".."
  · have hplace : ((parent.entry name).entry s).place cwd = parent.place cwd := by
      rw [Path.place_eq, hback]
      show (parent.parts ++ [name] ++ [".."]).foldl _ (parent.start cwd) = _
      rw [List.foldl_append, List.foldl_append, ← Path.place_eq]
      simp [Path.stepLexically, hup]
    refine ⟨hentry.inReach.entry (.inr ?_), ?_⟩
    all_goals
      rw [hplace]
      exact hparent.place
  · exact usable_entry hentry hback

/-- So can the program in a checkout. -/
theorem Usable.expectedBinary {checkout : Path} {program : String} (h : target.LeadsDown)
    (hcheckout : Usable cwd above (Below cwd dir) checkout) (hprogram : '/' ∉ program.toList) :
    Usable cwd above (Below cwd dir) (Build.expectedBinary target checkout program) := by
  have htarget : Path.IsName "target" := ⟨by decide, by decide, by decide⟩
  have hrelease : Path.IsName "release" := ⟨by decide, by decide, by decide⟩
  rw [Build.expectedBinary, Path.child_of_isName _ htarget, Path.child_of_isName _ h.isName,
    Path.child_of_isName _ hrelease]
  have hbuilt := usable_entry (usable_entry hcheckout (show "target" ≠ ".." by decide)) h.ne_up
  refine usable_child hbuilt (by decide) ?_
  rw [String.toList_append, List.mem_append]
  exact not_or.mpr ⟨hprogram, h.no_slash⟩

variable (h : target ∈ BuildTarget.all)

include h

/-- The directory of a branch is in reach. -/
theorem usable_branchDir (c : RunContext) (cwd : Location) :
    Usable cwd (Above cwd c.workDir) (Below cwd (c.branchDir target)) (c.branchDir target) where
  inReach := by
    rw [RunContext.branchDir_eq h]
    exact Build.inReach_entry cwd c.workDir target.platform
  place := List.prefix_refl _

theorem usable_stagingDir (c : RunContext) (cwd : Location) :
    Usable cwd (Above cwd c.workDir) (Below cwd (c.branchDir target)) (c.stagingDir target) := by
  rw [RunContext.stagingDir_eq]
  exact usable_entry (usable_branchDir h c cwd) (by decide)

/-- The program is in the directory of its branch. -/
theorem usable_expectedBinary (c : RunContext) (cwd : Location) {program : String}
    (hprogram : '/' ∉ program.toList) :
    Usable cwd (Above cwd c.workDir) (Below cwd (c.branchDir target))
      (Build.expectedBinary target (c.checkoutDir target) program) := by
  rw [RunContext.checkoutDir_eq]
  have hcheckout := usable_entry (usable_branchDir h c cwd) (show Build.sourceName ≠ ".." by decide)
  exact hcheckout.expectedBinary (BuildTarget.leadsDown target h) hprogram

/-- So are the files of its packaging, if neither the program nor the version leads elsewhere. -/
theorem exists_outputs_usable (c : RunContext) (cwd : Location) {program version : String}
    (hprogram : '/' ∉ program.toList) (hversion : '/' ∉ version.toList) :
    ∃ o, outputs target program version (c.stagingDir target) = .ok o ∧
      o.Usable cwd (Above cwd c.workDir) (Below cwd (c.branchDir target)) := by
  obtain ⟨dir, front, hplain, -, houtputs⟩ := exists_layout h program version (c.stagingDir target)
  obtain ⟨rfl, -⟩ := hplain ⟨hprogram, hversion⟩
  have husable (role : Role) : Usable cwd (Above cwd c.workDir) (Below cwd (c.branchDir target))
      ((Layout.of target (c.stagingDir target) [] front).path role) :=
    usable_entry (usable_stagingDir h c cwd) (Layout.ne_up _ role)
  exact ⟨_, houtputs [], husable .renamed, husable .archive, husable .sidecar⟩

end Packaging

end Shipyard
