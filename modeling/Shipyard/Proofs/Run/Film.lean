import Mathlib.Data.List.Infix
import Shipyard.Proofs.Command.Film
import Shipyard.Proofs.Run.Protocol

/-!
# Films of branches

What a branch does with the files between its commands. The checkout is cleared before the first
command, nothing but commands touches the files from there to the end of the build, then the program
is looked for and packaged, and the publication leaves the files to its commands again.
-/

namespace Shipyard

open Shipyard.Action Exchange

variable {σ : Type} {host : Host σ} {c : RunContext} {target : BuildTarget} {fs fs' : FileSystem}

/-! ## Beginnings of a plan -/

namespace Exchange

variable {commands commands' : List Command} {es es' : List (Exchange σ)}

/-- Whether some commands were issued in their order, all of them, and went well. -/
structure Completes (commands : List Command) (es : List (Exchange σ)) : Prop where
  /-- the commands -/
  commands : es.map (·.command) = commands
  /-- they went well -/
  succeeded : ∀ e ∈ es, e.succeeded = true

/-- Whether some commands were issued in their order, from the first one on, and each one only
behind others that went well. -/
structure Starts (commands : List Command) (es : List (Exchange σ)) : Prop where
  /-- the commands -/
  commands : es.map (·.command) <+: commands
  /-- those before the last one went well -/
  succeeded : ∀ e ∈ es.dropLast, e.succeeded = true

theorem starts_nil (commands : List Command) : Starts commands ([] : List (Exchange σ)) :=
  ⟨List.nil_prefix, List.forall_mem_nil _⟩

theorem Completes.starts (h : Completes commands es) : Starts commands es :=
  ⟨h.commands ▸ List.prefix_rfl, fun e he => h.succeeded e (List.mem_of_mem_dropLast he)⟩

theorem Completes.append (h : Completes commands es) (h' : Completes commands' es') :
    Completes (commands ++ commands') (es ++ es') :=
  ⟨by rw [List.map_append, h.commands, h'.commands],
    List.forall_mem_append.mpr ⟨h.succeeded, h'.succeeded⟩⟩

theorem Starts.append_right (h : Starts commands es) (commands' : List Command) :
    Starts (commands ++ commands') es :=
  ⟨h.commands.trans (List.prefix_append _ _), h.succeeded⟩

/-- Further commands may start when all before them went well. -/
theorem Completes.append_starts (h : Completes commands es) (h' : Starts commands' es') :
    Starts (commands ++ commands') (es ++ es') := by
  refine ⟨?_, ?_⟩
  · rw [List.map_append, h.commands]
    exact (List.prefix_append_right_inj _).mpr h'.commands
  · rcases List.eq_nil_or_concat es' with rfl | ⟨front, e, rfl⟩
    · rw [List.append_nil]
      exact fun e he => h.succeeded e (List.mem_of_mem_dropLast he)
    · rw [List.concat_eq_append] at h' ⊢
      have hfront := h'.succeeded
      rw [List.dropLast_concat] at hfront
      rw [← List.append_assoc, List.dropLast_concat]
      exact List.forall_mem_append.mpr ⟨h.succeeded, hfront⟩

end Exchange

/-! ## Builds -/

namespace Build

section

variable {commands : List Command} {es : List (Exchange σ)}

theorem InOrder.completes (h : InOrder commands es (.ok (.ok ()))) : Completes commands es := by
  generalize hr : (.ok (.ok ()) : Except Fault (Except CommandFailure Unit)) = r at h
  induction h with
  | done => exact ⟨rfl, List.forall_mem_nil _⟩
  | answered hcommand hanswer _ ih =>
    obtain ⟨hcommands, hsucceeded⟩ := ih hr
    refine ⟨by rw [List.map_cons, hcommand, hcommands], List.forall_mem_cons.mpr ⟨?_, hsucceeded⟩⟩
    exact succeeded_iff.mpr ⟨_, hanswer⟩
  | failed | faulted => cases hr

theorem InOrder.starts {r : Except Fault (Except CommandFailure Unit)} (h : InOrder commands es r) :
    Starts commands es := by
  induction h with
  | done => exact starts_nil []
  | @answered command _ e _ es _ hcommand hanswer _ ih =>
    have hfirst : Completes [command] [e] :=
      ⟨by rw [List.map_singleton, hcommand], List.forall_mem_singleton.mpr
        (succeeded_iff.mpr ⟨_, hanswer⟩)⟩
    exact hfirst.append_starts ih
  | failed hcommand _ | faulted hcommand _ =>
    exact ⟨by rw [List.map_singleton, hcommand]; exact List.prefix_append _ _, List.forall_mem_nil _⟩

theorem InOrder.exists_last {failure : CommandFailure}
    (h : InOrder commands es (.ok (.error failure))) :
    ∃ e, es.getLast? = some e ∧ e.answer = .ok (.error failure) := by
  generalize hr : (.ok (.error failure) : Except Fault (Except CommandFailure Unit)) = r at h
  induction h with
  | done | faulted => cases hr
  | @answered _ _ e _ es _ _ _ _ ih =>
    obtain ⟨last, hlast, hanswer⟩ := ih hr
    refine ⟨last, ?_, hanswer⟩
    rw [List.getLast?_cons, hlast]
    rfl
  | failed _ hanswer =>
    cases hr
    exact ⟨_, rfl, hanswer⟩

end

/-- All commands of a build. -/
def plan (c : RunContext) (target : BuildTarget) : List Command :=
  checkoutCommands c (c.checkoutDir target) ++ compileCommands c target (c.checkoutDir target)

/-- Where a build leaves the program. -/
def output (c : RunContext) (target : BuildTarget) : Path :=
  expectedBinary target (c.checkoutDir target) c.config.project.binaryName

theorem uncut_issueInOrder (host : Host σ) (out : Console) (commands : List Command) :
    Uncut (issueInOrder host.filmed.logged out commands) := by
  induction commands with
  | nil => exact uncut_pure _
  | cons command rest ih =>
    refine (uncut_echo _ _).bind fun _ => (uncut_issue _).bind fun reply => ?_
    cases reply with
    | error failure => exact uncut_pure _
    | ok output => exact ih

theorem films_issueInOrder (host : Host σ) (out : Console) (commands : List Command) :
    Films (issueInOrder host.filmed.logged out commands) fun fs es r fs' =>
      InOrder commands es r ∧ Exchange.Uncut fs es fs' :=
  (follows_issueInOrder host.filmed out commands).films (uncut_issueInOrder host out commands)

/-- The film of a checkout. -/
inductive CheckoutFilm (c : RunContext) (target : BuildTarget) (fs : FileSystem) :
    List (Exchange (Filmed σ)) → Except Fault (Except BuildFailure Path) → FileSystem → Prop
  /-- what was left could not be looked through -/
  | crashed {fault : Fault} {fs' : FileSystem} : CheckoutFilm c target fs [] (.error fault) fs'
  /-- what was left could not be removed -/
  | kept {e : OsError} {fs' : FileSystem} :
      (Disk.attempt (clearCheckout (c.checkoutDir target))).runOn fs = (.ok (.error e), fs') →
      CheckoutFilm c target fs [] (.ok (.error (resetFailed target (c.checkoutDir target) e))) fs'
  /-- a command met a fault -/
  | faulted {es : List (Exchange (Filmed σ))} {fault : Fault} {fs' : FileSystem} :
      InOrder (checkoutCommands c (c.checkoutDir target)) es (.error fault) →
      CheckoutFilm c target fs es (.error fault) fs'
  /-- a command failed -/
  | failed {es : List (Exchange (Filmed σ))} {failure : CommandFailure} {fs' : FileSystem} :
      InOrder (checkoutCommands c (c.checkoutDir target)) es (.ok (.error failure)) →
      CheckoutFilm c target fs es (.ok (.error (checkoutFailed c target failure))) fs'
  /-- the source is there -/
  | done {es : List (Exchange (Filmed σ))} {fs' : FileSystem} :
      InOrder (checkoutCommands c (c.checkoutDir target)) es (.ok (.ok ())) →
      CheckoutFilm c target fs es (.ok (.ok (c.checkoutDir target))) fs'

theorem films_prepareCheckout (host : Host σ) (c : RunContext) (target : BuildTarget)
    (out : Console) :
    Films (prepareCheckout host.filmed.logged c target out) (CheckoutFilm c target) := by
  refine .onFiles_bind (fun cleared => ?_) fun fs fault fs' _ => .crashed
  cases cleared with
  | error e => exact films_pure fun fs' fs hclear => .kept hclear
  | ok u =>
    refine (films_issueInOrder host out _).bind (fun reply => ?_) ?_
    · cases reply with
      | error failure =>
        refine films_pure fun _ _ es h _ _ => ?_
        rw [List.append_nil]
        exact .failed h.1
      | ok u =>
        refine films_pure fun _ _ es h _ _ => ?_
        rw [List.append_nil]
        exact .done h.1
    · exact fun _ es fault _ h fs _ => .faulted h.1

/-- The film of a compilation. -/
inductive CompileFilm (c : RunContext) (target : BuildTarget) (checkout : Path) (fs : FileSystem) :
    List (Exchange (Filmed σ)) → Except Fault (Except BuildFailure BuiltBinary) → FileSystem → Prop
  /-- a command met a fault -/
  | faulted {es : List (Exchange (Filmed σ))} {fault : Fault} {fs' : FileSystem} :
      InOrder (compileCommands c target checkout) es (.error fault) →
      CompileFilm c target checkout fs es (.error fault) fs'
  /-- a command failed -/
  | failed {es : List (Exchange (Filmed σ))} {failure : CommandFailure} {fs' : FileSystem} :
      InOrder (compileCommands c target checkout) es (.ok (.error failure)) →
      CompileFilm c target checkout fs es (.ok (.error (compileFailed target failure))) fs'
  /-- the program could not be looked for -/
  | crashed {es : List (Exchange (Filmed σ))} {fault : Fault} {fs' : FileSystem} :
      InOrder (compileCommands c target checkout) es (.ok (.ok ())) →
      CompileFilm c target checkout fs es (.error fault) fs'
  /-- there is no program -/
  | missing {es : List (Exchange (Filmed σ))} {fs' : FileSystem} :
      InOrder (compileCommands c target checkout) es (.ok (.ok ())) →
      (Disk.isFile (expectedBinary target checkout c.config.project.binaryName)).runOn
        (keptBy fs es) = (.ok false, fs') →
      CompileFilm c target checkout fs es (.ok (.error (outputMissing target
        (expectedBinary target checkout c.config.project.binaryName)))) fs'
  /-- there is a program -/
  | done {es : List (Exchange (Filmed σ))} {fs' : FileSystem} :
      InOrder (compileCommands c target checkout) es (.ok (.ok ())) →
      (Disk.isFile (expectedBinary target checkout c.config.project.binaryName)).runOn
        (keptBy fs es) = (.ok true, fs') →
      CompileFilm c target checkout fs es
        (.ok (.ok ⟨target, expectedBinary target checkout c.config.project.binaryName⟩)) fs'

theorem films_compile (host : Host σ) (c : RunContext) (target : BuildTarget) (checkout : Path)
    (out : Console) :
    Films (compile host.filmed.logged c target checkout out) (CompileFilm c target checkout) := by
  refine (films_issueInOrder host out _).bind (fun reply => ?_) fun _ _ _ _ h => .faulted h.1
  cases reply with
  | error failure => exact films_pure_after fun _ _ _ h => .failed h.1
  | ok u =>
    refine .onFiles_bind (fun found => ?_) fun _ fault _ _ fs es h => ?_
    · cases found with
      | false =>
        refine films_pure fun fs₂ fs₁ hrun fs es h => ?_
        obtain rfl := h.2.eq_keptBy
        rw [List.append_nil]
        exact .missing h.1 hrun
      | true =>
        refine films_pure fun fs₂ fs₁ hrun fs es h => ?_
        obtain rfl := h.2.eq_keptBy
        rw [List.append_nil]
        exact .done h.1 hrun
    · rw [List.append_nil]
      exact .crashed h.1

/-! ### Whole builds -/

/-- Something is compiled by at least one command. -/
theorem ne_nil_of_completes {checkout : Path} {es : List (Exchange σ)}
    (h : Completes (compileCommands c target checkout) es) : es ≠ [] := by
  rintro rfl
  have hnil : compileCommands c target checkout = [] := h.commands.symm
  unfold compileCommands commands at hnil
  split at hnil
  · cases hnil
  · cases hnil

/-- Whether the program was made: all commands went well, and it is among the files that the last
one left. -/
structure Made (host : Host σ) (c : RunContext) (target : BuildTarget) (fs : FileSystem)
    (es : List (Exchange (Filmed σ))) : Prop where
  /-- the linker is there if it is needed -/
  linker : lacksLinker host target = false
  /-- the commands -/
  completes : Completes (plan c target) es
  /-- the program -/
  program : ((Disk.isFile (output c target)).runOn (keptBy fs es)).1 = .ok true

/-- Which step of a build was the first to fail, and the failure that it gives. -/
inductive Fails (host : Host σ) (c : RunContext) (target : BuildTarget) (fs : FileSystem) :
    List (Exchange (Filmed σ)) → BuildFailure → Prop
  /-- the linker is missing -/
  | linker : lacksLinker host target = true → Fails host c target fs [] (linkerMissing target)
  /-- what was left of the last checkout could not be removed -/
  | reset {e : OsError} : lacksLinker host target = false →
      ((Disk.attempt (clearCheckout (c.checkoutDir target))).runOn fs).1 = .ok (.error e) →
      Fails host c target fs [] (resetFailed target (c.checkoutDir target) e)
  /-- a command of the checkout failed -/
  | checkout {es : List (Exchange (Filmed σ))} {e : Exchange (Filmed σ)}
      {failure : CommandFailure} : lacksLinker host target = false →
      Starts (checkoutCommands c (c.checkoutDir target)) es → es.getLast? = some e →
      e.answer = .ok (.error failure) → Fails host c target fs es (checkoutFailed c target failure)
  /-- a command of the compilation failed -/
  | compile {es es' : List (Exchange (Filmed σ))} {e : Exchange (Filmed σ)}
      {failure : CommandFailure} : lacksLinker host target = false →
      Completes (checkoutCommands c (c.checkoutDir target)) es →
      Starts (compileCommands c target (c.checkoutDir target)) es' → es'.getLast? = some e →
      e.answer = .ok (.error failure) →
      Fails host c target fs (es ++ es') (compileFailed target failure)
  /-- there is no program -/
  | output {es : List (Exchange (Filmed σ))} : lacksLinker host target = false →
      Completes (plan c target) es →
      ((Disk.isFile (output c target)).runOn (keptBy fs es)).1 = .ok false →
      Fails host c target fs es (outputMissing target (output c target))

theorem Fails.starts {es : List (Exchange (Filmed σ))} {failure : BuildFailure}
    (h : Fails host c target fs es failure) : Starts (plan c target) es := by
  cases h with
  | linker | reset => exact starts_nil _
  | checkout _ h _ _ => exact h.append_right _
  | compile _ h h' _ _ => exact h.append_starts h'
  | output _ h _ => exact h.starts

/-- **The film of a build.** -/
inductive Film (host : Host σ) (c : RunContext) (target : BuildTarget) (fs : FileSystem) :
    List (Exchange (Filmed σ)) → Except Fault (Except BuildFailure BuiltBinary) → FileSystem → Prop
  /-- it met a fault -/
  | faulted {es : List (Exchange (Filmed σ))} {fault : Fault} {fs' : FileSystem} :
      Starts (plan c target) es → Film host c target fs es (.error fault) fs'
  /-- it failed -/
  | failed {es : List (Exchange (Filmed σ))} {failure : BuildFailure} {fs' : FileSystem} :
      Fails host c target fs es failure → Film host c target fs es (.ok (.error failure)) fs'
  /-- the program was made -/
  | made {es : List (Exchange (Filmed σ))} : Made host c target fs es →
      Film host c target fs es (.ok (.ok ⟨target, output c target⟩)) (keptBy fs es)

theorem films_run (host : Host σ) (c : RunContext) (target : BuildTarget) (out : Console) :
    Films (run host.filmed.logged c target out) (Film host c target) := by
  unfold run
  rcases hlinker : lacksLinker host target with _ | _
  all_goals
    have hsame : lacksLinker host.filmed.logged target = lacksLinker host target := rfl
    rw [hsame, hlinker]
  · refine (films_prepareCheckout host c target out).bind (fun prepared => ?_) ?_
    · cases prepared with
      | error failure =>
        refine films_pure fun fs' fs es h => ?_
        rw [List.append_nil]
        cases h with
        | kept hclear => exact .failed (.reset hlinker (congrArg Prod.fst hclear))
        | failed h =>
          obtain ⟨e, hlast, hanswer⟩ := h.exists_last
          exact .failed (.checkout hlinker h.starts hlast hanswer)
      | ok checkout =>
        refine (films_compile host c target checkout out).mono ?_
        intro fs₁ es' r fs₂ h fs es hdone
        cases hdone with
        | done hdone =>
        have hcompletes := hdone.completes
        have hkept : es' ≠ [] → keptBy fs (es ++ es') = keptBy fs₁ es' := keptBy_append
        cases h with
        | faulted h => exact .faulted (hcompletes.append_starts h.starts)
        | crashed h => exact .faulted (hcompletes.append h.completes).starts
        | failed h =>
          obtain ⟨e, hlast, hanswer⟩ := h.exists_last
          exact .failed (.compile hlinker hcompletes h.starts hlast hanswer)
        | missing h hprogram =>
          rw [← hkept (ne_nil_of_completes h.completes)] at hprogram
          exact .failed (.output hlinker (hcompletes.append h.completes)
            (congrArg Prod.fst hprogram))
        | done h hprogram =>
          rw [← hkept (ne_nil_of_completes h.completes)] at hprogram
          -- a look changes no file, so the program is found in what the last command left
          obtain rfl : keptBy fs (es ++ es') = fs₂ := by
            have hreads := Disk.reads_isFile (p := output c target) (keptBy fs (es ++ es'))
            rw [← hreads, output, hprogram]
          exact .made ⟨hlinker, hcompletes.append h.completes, congrArg Prod.fst hprogram⟩
    · intro fs es fault fs' h
      cases h with
      | crashed => exact .faulted (starts_nil _)
      | faulted h => exact .faulted (h.starts.append_right _)
  · exact films_pure fun fs => .failed (.linker hlinker)

end Build

/-! ## Publications -/

namespace Publication

theorem uncut_view (host : Host σ) (c : RunContext) (platform token : String) :
    Uncut (view host.filmed.logged c platform token) := by
  refine (uncut_issue _).bind fun reply => ?_
  cases reply with
  | error failure => exact uncut_pure _
  | ok output =>
    refine (uncut_orFault _).bind fun read => ?_
    rcases read with what | answer
    · exact uncut_pure _
    · dsimp only
      split
      · exact uncut_pure _
      · exact uncut_pure _

theorem uncut_deleteAttached (host : Host σ) (c : RunContext) (token : String)
    (attached : List String) (out : Console) (names : List String) :
    Uncut (deleteAttached host.filmed.logged c token attached out names) := by
  induction names with
  | nil => exact uncut_pure _
  | cons name rest ih =>
    unfold deleteAttached
    by_cases hname : attached.contains name = true
    · simp only [hname, if_true]
      refine (uncut_echo _ _).bind fun _ => (uncut_issue _).bind fun reply => ?_
      cases reply with
      | error failure => exact (uncut_tell _ _).bind fun _ => ih
      | ok output => exact ih
    · simp only [hname]
      exact ih

theorem uncut_detach (host : Host σ) (c : RunContext) (platform token : String)
    (names : List String) (out : Console) :
    Uncut (detach host.filmed.logged c platform token names out) := by
  refine (uncut_view host c platform token).bind fun looked => ?_
  cases looked with
  | error failure => exact uncut_tell _ _
  | ok release => exact uncut_deleteAttached host c token _ out names

theorem uncut_attachAndConfirm (host : Host σ) (c : RunContext) (platform token : String)
    (files : List Path) (out : Console) :
    Uncut (attachAndConfirm host.filmed.logged c platform token files out) := by
  refine (uncut_echo _ _).bind fun _ => (uncut_issue _).bind fun reply => ?_
  cases reply with
  | error failure => exact uncut_pure _
  | ok output =>
    refine (uncut_view host c platform token).bind fun looked => ?_
    cases looked with
    | error failure => exact uncut_pure _
    | ok release =>
      dsimp only
      split
      · exact uncut_pure _
      · exact uncut_pure _

theorem uncut_run (host : Host σ) (c : RunContext) (artifact : Artifact) (out : Console) :
    Uncut (run host.filmed.logged c artifact out) := by
  unfold run
  rcases c.publishToken? with _ | token
  · exact uncut_pure _
  · refine (uncut_orRefused _).bind fun files => ?_
    refine (uncut_attachAndConfirm host c _ token files out).bind fun confirmed => ?_
    cases confirmed with
    | ok release => exact uncut_pure _
    | error failure => exact (uncut_detach host c _ token _ out).bind fun _ => uncut_pure _

end Publication

/-! ## Branches -/

namespace Branch

theorem uncut_publish (host : Host σ) (c : RunContext) (target : BuildTarget)
    (artifact : Artifact) (out : Console) :
    Uncut (publish host.filmed.logged c target artifact out) := by
  refine (uncut_tell _ _).bind fun _ => ?_
  refine (Publication.uncut_run host c artifact out).bind fun published => ?_
  cases published with
  | error failure => exact (uncut_tell _ _).bind fun _ => uncut_pure _
  | ok release =>
    exact (uncut_tell _ _).bind fun _ => (uncut_orRefused _).bind fun _ => uncut_pure _

/-- The packaging of the program that a branch has made. -/
def packaging (host : Host σ) (c : RunContext) (target : BuildTarget) :
    Disk (Except PackagingFailure Artifact) :=
  Packaging.run host.archiver .none ⟨target, Build.output c target⟩ c.config.project.binaryName
    c.event.version (c.stagingDir target) c.config.sidecarPolicy

/-- **The film of a branch.** -/
inductive Film (host : Host σ) (c : RunContext) (target : BuildTarget) (fs : FileSystem) :
    List (Exchange (Filmed σ)) → Except Fault BranchOutcome → FileSystem → Prop
  /-- the build met a fault -/
  | buildFaulted {es : List (Exchange (Filmed σ))} {fault : Fault} {fs' : FileSystem} :
      Starts (Build.plan c target) es → Film host c target fs es (.error fault) fs'
  /-- the build failed -/
  | buildFailed {es : List (Exchange (Filmed σ))} {failure : BuildFailure} {fs' : FileSystem} :
      Build.Fails host c target fs es failure →
      Film host c target fs es
        (.ok (failedOutcome target [.pending, .building] none (.build failure))) fs'
  /-- the packaging met a fault -/
  | packagingFaulted {es : List (Exchange (Filmed σ))} {fault : Fault} {fs' : FileSystem} :
      Build.Made host c target fs es → Film host c target fs es (.error fault) fs'
  /-- the packaging failed -/
  | packagingFailed {es : List (Exchange (Filmed σ))} {failure : PackagingFailure}
      {fs' : FileSystem} : Build.Made host c target fs es →
      (packaging host c target).runOn (keptBy fs es) = (.ok (.error failure), fs') →
      Film host c target fs es
        (.ok (failedOutcome target [.pending, .building] none (.packaging failure))) fs'
  /-- the artifact was published, or that was tried -/
  | published {es es' : List (Exchange (Filmed σ))} {artifact : Artifact}
      {r : Except Fault (Except PublishFailure PublishedRelease)} {fs' fs'' : FileSystem} :
      Build.Made host c target fs es →
      (packaging host c target).runOn (keptBy fs es) = (.ok (.ok artifact), fs') →
      Publication.Transcript c artifact es' r → Exchange.Uncut fs' es' fs'' →
      Film host c target fs (es ++ es') (endOf target artifact r) fs''

theorem films_run (host : Host σ) (c : RunContext) (target : BuildTarget) (console : Console) :
    Films (run host.filmed.logged c target console) (Film host c target) := by
  have hbuild := Build.films_run host c target (console.within target.platform)
  refine .tell_bind (hbuild.bind (fun built => ?_) ?_)
  · cases built with
    | error failure =>
      refine .tell_bind (films_pure fun fs' fs es h => ?_)
      rw [List.append_nil]
      cases h with
      | failed h => exact .buildFailed h
    | ok built =>
      refine .onFiles_bind (fun packaged => ?_) ?_
      · cases packaged with
        | error failure =>
          refine .tell_bind (films_pure fun fs₂ fs₁ hpackaged fs es h => ?_)
          rw [List.append_nil]
          cases h with
          | made hmade => exact .packagingFailed hmade hpackaged
        | ok artifact =>
          refine ((follows_publish host.filmed c target artifact _).films
            (uncut_publish host c target artifact _)).mono ?_
          rintro fs₁ es' _ fs₂ ⟨⟨r, hpublication, rfl⟩, huncut⟩ fs' hpackaged fs es h
          cases h with
          | made hmade => exact .published hmade hpackaged hpublication huncut
      · intro fs₁ fault fs₂ _ fs es h
        rw [List.append_nil]
        cases h with
        | made hmade => exact .packagingFaulted hmade
  · intro fs es fault fs' h
    cases h with
    | faulted h => exact .buildFaulted h

end Branch

end Shipyard
