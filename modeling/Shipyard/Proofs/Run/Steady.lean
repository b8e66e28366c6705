import Shipyard.Proofs.Build.Checkout
import Shipyard.Proofs.Command.Pairs
import Shipyard.Proofs.Run.Requests

/-!
# Steady hosts

A host is steady if neither time nor anything else that goes on has an influence on it: a command
always has the same answer, apart from a look at the release, and does the same to files and assets.
On such a host two runs of a branch can be compared that begin at different worlds. They go alike as
long as the worlds have the same directory for the branch and the same assets of its names.
-/

namespace Shipyard

open FileSystem

variable {σ : Type} {host : Host σ} {c : RunContext} {assets : σ → Set String}
  {command : Command} {names : List String} {s₁ s₂ s s' t t' : σ}

/-! ## Hosts -/

namespace Command

/-- The names of a release that a command can attach or take off. -/
def touched (command : Command) : List String :=
  ((ReleaseRequest.ofArgv? command.argv).map (·.touched)).getD []

/-- Whether a command looks at a release. -/
def Looks (command : Command) : Prop := ReleaseRequest.ofArgv? command.argv = some .view

/-- Whether a command runs a program of a build. -/
def Builds (command : Command) : Prop :=
  ∃ program ∈ Build.programs, command.argv.head? = some program

theorem Builds.ofArgv? (h : command.Builds) : ReleaseRequest.ofArgv? command.argv = none := by
  have hexchange : (Exchange.mk command (.ok (.ok "")) ()).Builds := h
  exact hexchange.request?_eq_none

theorem Builds.not_looks (h : command.Builds) : ¬ command.Looks := by
  rw [Looks, h.ofArgv?]
  nofun

theorem Builds.touched_eq_nil (h : command.Builds) : command.touched = [] := by
  rw [touched, h.ofArgv?]
  rfl

end Command

/-- The commands of a build. -/
def Build.commandsOf (c : RunContext) (target : BuildTarget) : List Command :=
  checkoutCommands c (c.checkoutDir target) ++ compileCommands c target (c.checkoutDir target)

theorem Build.builds_of_mem {target : BuildTarget} (h : command ∈ commandsOf c target) :
    command.Builds :=
  exists_program_of_mem h

/-- Whether a location is above the checkout of a branch and not in it. -/
def Build.OnWay (c : RunContext) (target : BuildTarget) (cwd l : Location) : Prop :=
  Above cwd (c.branchDir target) l ∧ ¬ Below cwd (c.checkoutDir target) l

/-- **A steady host.** Every command has one answer, except that a look at the release may show the
release, under one number. What a command does to the assets it names depends on nothing but these
assets, and it leaves all others alone. The commands of a build write only in their checkout and
make directories above it, and that depends on nothing but what is there and above it; no other
command writes any files. -/
structure Steady (host : Host σ) (c : RunContext) (assets : σ → Set String) : Prop where
  /-- a command that does not look at a release has one answer -/
  answers {command : Command} (fs gs : FileSystem) (s t : σ) : ¬ command.Looks →
    (host.answer command fs s).1 = (host.answer command gs t).1
  /-- a look at the release of the run has one answer too, or shows it -/
  looks {command : Command} : command.argv = ReleaseRequest.view.argv c →
    (∃ answer, ∀ fs s, (host.answer command fs s).1 = answer) ∨
      ∃ id, ∀ fs s, ∃ output v, (host.answer command fs s).1 = .ok (.ok output) ∧
        Value.ofJson output = .ok (.ok v) ∧ Describes v (assets s) ∧
        v.asTable?.bind (·.int? "databaseId") = some id
  /-- other assets are kept -/
  keeps {command : Command} (fs : FileSystem) (s : σ) {name : String} : name ∉ command.touched →
    (name ∈ assets (host.answer command fs s).2.2 ↔ name ∈ assets s)
  /-- what becomes of those that are named depends on them alone -/
  touches {command : Command} (fs gs : FileSystem) {s t : σ} :
    (∀ name ∈ command.touched, (name ∈ assets s ↔ name ∈ assets t)) →
      ∀ name ∈ command.touched, (name ∈ assets (host.answer command fs s).2.2 ↔
        name ∈ assets (host.answer command gs t).2.2)
  /-- a build writes in its checkout, and makes directories that are missing above it -/
  writes {target : BuildTarget} {command : Command} (fs : FileSystem) (s : σ) :
    target ∈ BuildTarget.all → command ∈ Build.commandsOf c target →
      Local (Build.OnWay c target fs.cwd) (Below fs.cwd (c.checkoutDir target)) fs
        (host.answer command fs s).2.1
  /-- what it writes depends on nothing else -/
  sees {target : BuildTarget} {command : Command} {fs gs : FileSystem} (s t : σ) :
    target ∈ BuildTarget.all → command ∈ Build.commandsOf c target →
      Agrees (fun l => Build.OnWay c target fs.cwd l ∨ Below fs.cwd (c.checkoutDir target) l) fs
          gs →
      Agrees (fun l => Build.OnWay c target fs.cwd l ∨ Below fs.cwd (c.checkoutDir target) l)
        (host.answer command fs s).2.1 (host.answer command gs t).2.1
  /-- other commands write nothing -/
  writesNothing {command : Command} (fs : FileSystem) (s : σ) : ¬ command.Builds →
    (host.answer command fs s).2.1 = fs

/-! ## The outside of two runs -/

/-- Whether two states of the outside come from two others by changes to certain names alone, and of
these names hold the same, with and without blanks around them. -/
structure Sharing (assets : σ → Set String) (names : List String) (s₁ s₂ s t : σ) : Prop where
  /-- what the first run has kept -/
  kept : ∀ name ∉ names, (name ∈ assets s ↔ name ∈ assets s₁)
  /-- what the second run has kept -/
  kept' : ∀ name ∉ names, (name ∈ assets t ↔ name ∈ assets s₂)
  /-- what is the same in both -/
  same : ∀ name, name ∈ names ∨ Text.strip name ∈ names → (name ∈ assets t ↔ name ∈ assets s)

/-- A command that touches no other names keeps this. -/
theorem Sharing.answer (h : Sharing assets names s₁ s₂ s t) (hsteady : Steady host c assets)
    (htouched : ∀ name ∈ command.touched, name ∈ names) (fs gs : FileSystem) :
    Sharing assets names s₁ s₂ (host.answer command fs s).2.2 (host.answer command gs t).2.2 where
  kept name hname :=
    (hsteady.keeps fs s fun hmem => hname (htouched name hmem)).trans (h.kept name hname)
  kept' name hname :=
    (hsteady.keeps gs t fun hmem => hname (htouched name hmem)).trans (h.kept' name hname)
  same name hname := by
    by_cases hmem : name ∈ command.touched
    · have hsame := fun name hmem => h.same name (.inl (htouched name hmem))
      exact hsteady.touches gs fs hsame name hmem
    · rw [hsteady.keeps gs t hmem, hsteady.keeps fs s hmem]
      exact h.same name hname

/-- What the files and the outside of two worlds have to do with each other. -/
def Joined (F : FileSystem → FileSystem → Prop) (A : σ → σ → Prop) : Scene σ → Scene σ → Prop :=
  fun p q => F p.1 q.1 ∧ A p.2 q.2

variable {F : FileSystem → FileSystem → Prop}

/-- **Commands go alike** if they touch no other names and keep what the files have to do with each
other. -/
theorem Steady.pairs_issue (h : Steady host c assets) (hlooks : ¬ command.Looks)
    (htouched : ∀ name ∈ command.touched, name ∈ names)
    (hfiles : ∀ fs gs s t, F fs gs →
      F (host.answer command fs s).2.1 (host.answer command gs t).2.1) :
    Action.Pairs (Joined F (Sharing assets names s₁ s₂)) (Action.issue host command)
      (Action.issue host command) (Action.Keeping (Joined F (Sharing assets names s₁ s₂)) Eq)
      (Joined F (Sharing assets names s₁ s₂)) := by
  refine Action.pairs_issue fun p q hpq => ?_
  have hleft : Joined F (Sharing assets names s₁ s₂) (host.answer command p.1 p.2).2
      (host.answer command q.1 q.2).2 :=
    ⟨hfiles _ _ _ _ hpq.1, hpq.2.answer h htouched p.1 q.1⟩
  exact ⟨h.answers p.1 q.1 p.2 q.2 hlooks, fun reply _ => ⟨rfl, hleft⟩, fun _ => hleft⟩

/-- Commands that run no program of a build leave the files as they are. -/
theorem Steady.pairs_issue_of_not_builds (h : Steady host c assets) (hlooks : ¬ command.Looks)
    (htouched : ∀ name ∈ command.touched, name ∈ names) (hbuilds : ¬ command.Builds) :
    Action.Pairs (Joined F (Sharing assets names s₁ s₂)) (Action.issue host command)
      (Action.issue host command) (Action.Keeping (Joined F (Sharing assets names s₁ s₂)) Eq)
      (Joined F (Sharing assets names s₁ s₂)) := by
  refine h.pairs_issue hlooks htouched fun fs gs s t hF => ?_
  rw [h.writesNothing fs s hbuilds, h.writesNothing gs t hbuilds]
  exact hF

/-! ## The files of two runs -/

/-- Whether two file systems come from two others by changes to one directory, are the same there
and above it, and have all directories above it. -/
structure Parallel (cwd : Location) (work dir : Path) (fs₁ fs₂ fs gs : FileSystem) : Prop where
  /-- the current directory -/
  current : fs.cwd = cwd
  /-- what the first run has changed -/
  changed : Local (Above cwd work) (Below cwd dir) fs₁ fs
  /-- what the second run has changed -/
  changed' : Local (Above cwd work) (Below cwd dir) fs₂ gs
  /-- what is the same in both -/
  same : Agrees (fun l => Above cwd work l ∨ Below cwd dir l) fs gs
  /-- the directory of all branches is there -/
  reaches : ∃ base, fs.Reaches work base
  /-- no file was above it -/
  unblocked : fs₁.Unblocked work

namespace Parallel

variable {cwd : Location} {work dir : Path} {fs₁ fs₂ fs gs fs' gs' : FileSystem}

/-- Changes to the directory alone, the same on both sides, keep this. -/
theorem step (h : Parallel cwd work dir fs₁ fs₂ fs gs)
    (hfs : Local (Above cwd work) (Below cwd dir) fs fs')
    (hgs : Local (Above cwd work) (Below cwd dir) gs gs')
    (hsame : Agrees (fun l => Above cwd work l ∨ Below cwd dir l) fs' gs') :
    Parallel cwd work dir fs₁ fs₂ fs' gs' where
  current := hfs.cwd.trans h.current
  changed := h.changed.trans hfs
  changed' := h.changed'.trans hgs
  same := hsame
  reaches := by
    obtain ⟨base, hreaches⟩ := h.reaches
    exact ⟨base, hreaches.of_directories hfs.cwd fun l hl => hfs.kept l (h.current ▸ hl)⟩
  unblocked := h.unblocked

variable {α : Type} {d : Disk α}

/-- So does work that is confined to the directory, and it gives the same. -/
theorem confined (h : Parallel cwd work dir fs₁ fs₂ fs gs)
    (hd : Disk.Confined cwd (Above cwd work) (Below cwd dir) d) :
    (d.runOn gs).1 = (d.runOn fs).1 ∧
      Parallel cwd work dir fs₁ fs₂ (d.runOn fs).2 (d.runOn gs).2 := by
  obtain ⟨hresult, hsame⟩ := hd.same h.current h.same
  exact ⟨hresult, h.step (hd.stays h.current) (hd.stays (h.same.cwd.trans h.current)) hsame⟩

end Parallel

/-- Work that is confined to the directory of a branch goes alike in two runs of it. -/
theorem pairs_onFiles {α : Type} {d : Disk α} {P : α → Prop} {cwd : Location} {work dir : Path}
    {fs₁ fs₂ : FileSystem} {A : σ → σ → Prop}
    (hd : Disk.Confined cwd (Above cwd work) (Below cwd dir) d) (hgives : d.Gives P) :
    Action.Pairs (Joined (Parallel cwd work dir fs₁ fs₂) A) (Action.onFiles d) (Action.onFiles d)
      (Action.Keeping (Joined (Parallel cwd work dir fs₁ fs₂) A) fun x y => x = y ∧ P x)
      (Joined (Parallel cwd work dir fs₁ fs₂) A) := by
  refine Action.pairs_onFiles fun p q ⟨hfiles, hassets⟩ => ?_
  obtain ⟨hresult, hleft⟩ := hfiles.confined hd
  have hgiven := hgives p.1
  rcases hrun : d.runOn p.1 with ⟨r, fs⟩
  rcases hrun' : d.runOn q.1 with ⟨r', gs⟩
  rw [hrun, hrun'] at hresult hleft
  rw [hrun] at hgiven
  obtain rfl : r' = r := hresult
  rcases r' with fault | x
  · exact .inr ⟨fault, fs, gs, rfl, rfl, hleft, hassets⟩
  · exact .inl ⟨x, fs, gs, rfl, rfl, ⟨rfl, hgiven x rfl⟩, hleft, hassets⟩

end Shipyard
