import Shipyard.Proofs.Command.Exchange
import Shipyard.Step.Build

/-!
# What a build says to its host

A build issues the commands of its checkout and then those of its compilation, each list in its
order and up to the first command that does not go well. Everything that it can end with is for its
target.
-/

namespace Shipyard.Build

variable {σ : Type} {c : RunContext} {target : BuildTarget}

/-! ## Commands in order -/

/-- Commands are issued one after the other, up to the first that fails or meets a fault. -/
inductive InOrder : List Command → Protocol σ (Except CommandFailure Unit)
  /-- all commands went well -/
  | done : InOrder [] [] (.ok (.ok ()))
  /-- a command went well -/
  | answered {command : Command} {rest : List Command} {e : Exchange σ} {output : String}
      {es : List (Exchange σ)} {r : Except Fault (Except CommandFailure Unit)} :
      e.command = command → e.answer = .ok (.ok output) → InOrder rest es r →
      InOrder (command :: rest) (e :: es) r
  /-- a command failed -/
  | failed {command : Command} {rest : List Command} {e : Exchange σ} {failure : CommandFailure} :
      e.command = command → e.answer = .ok (.error failure) →
      InOrder (command :: rest) [e] (.ok (.error failure))
  /-- a command met a fault -/
  | faulted {command : Command} {rest : List Command} {e : Exchange σ} {fault : Fault} :
      e.command = command → e.answer = .error fault → InOrder (command :: rest) [e] (.error fault)

theorem follows_issueInOrder (host : Host σ) (out : Console) (commands : List Command) :
    Action.Follows host (issueInOrder host.logged out commands) (InOrder commands) := by
  induction commands with
  | nil => exact Action.follows_pure .done
  | cons command rest ih =>
    refine .echo_bind (.issue_bind (fun reply => ?_) fun e fault hc ha => .faulted hc ha)
    cases reply with
    | error failure => exact Action.follows_pure fun e hc ha => .failed hc ha
    | ok output => exact ih.mono fun es r h e hc ha => .answered hc ha h

/-- Nothing but the commands is issued, and each at most once: they are a beginning of the list. -/
theorem InOrder.commands_eq_take {commands : List Command} {es : List (Exchange σ)}
    {r : Except Fault (Except CommandFailure Unit)} (h : InOrder commands es r) :
    es.map (·.command) = commands.take es.length := by
  induction h with
  | done => rfl
  | answered hc _ _ ih => simp [hc, ih]
  | failed hc _ => simp [hc]
  | faulted hc _ => simp [hc]

/-! ## Failures -/

/-- The checkout cannot be made anew. -/
def resetFailed (target : BuildTarget) (checkout : Path) (e : OsError) : BuildFailure where
  platform := target.platform
  kind := .checkoutFailed
  message := "cannot reset checkout directory: " ++ checkout.text
  hint := some e.message

/-- A command of the checkout failed. -/
def checkoutFailed (c : RunContext) (target : BuildTarget) (failure : CommandFailure) :
    BuildFailure where
  platform := target.platform
  kind := .checkoutFailed
  message := "checkout of " ++ c.event.revision ++ " failed"
  hint := failure.hint
  code := some failure.code

/-- A command of the compilation failed. -/
def compileFailed (target : BuildTarget) (failure : CommandFailure) : BuildFailure where
  platform := target.platform
  kind := .compileFailed
  message := s!"build failed (exit {failure.code})"
  hint := failure.hint
  code := some failure.code

/-- The compilation left no program. -/
def outputMissing (target : BuildTarget) (binary : Path) : BuildFailure where
  platform := target.platform
  kind := .outputMissing
  message := "output not found: " ++ binary.text

/-- The linker is not installed. -/
def linkerMissing (target : BuildTarget) : BuildFailure where
  platform := target.platform
  kind := .toolchainMissing
  message := crossLinker ++ ": missing"
  hint := some "Install the cross linker: apt-get install -y g++-mingw-w64-x86-64"

/-! ## Builds -/

/-- A checkout. -/
inductive Checkout (c : RunContext) (target : BuildTarget) : Protocol σ (Except BuildFailure Path)
  /-- what was left could not be looked through -/
  | crashed {fault : Fault} : Checkout c target [] (.error fault)
  /-- what was left could not be removed -/
  | kept (e : OsError) :
      Checkout c target [] (.ok (.error (resetFailed target (c.checkoutDir target) e)))
  /-- a command met a fault -/
  | faulted {es : List (Exchange σ)} {fault : Fault} :
      InOrder (checkoutCommands c (c.checkoutDir target)) es (.error fault) →
      Checkout c target es (.error fault)
  /-- a command failed -/
  | failed {es : List (Exchange σ)} {failure : CommandFailure} :
      InOrder (checkoutCommands c (c.checkoutDir target)) es (.ok (.error failure)) →
      Checkout c target es (.ok (.error (checkoutFailed c target failure)))
  /-- the source is there -/
  | done {es : List (Exchange σ)} :
      InOrder (checkoutCommands c (c.checkoutDir target)) es (.ok (.ok ())) →
      Checkout c target es (.ok (.ok (c.checkoutDir target)))

theorem follows_prepareCheckout (host : Host σ) (c : RunContext) (target : BuildTarget)
    (out : Console) :
    Action.Follows host (prepareCheckout host.logged c target out) (Checkout c target) := by
  refine .onFiles_bind (fun cleared fs hcleared => ?_) fun fault => .crashed
  cases cleared with
  | error e => exact Action.follows_pure (.kept e)
  | ok u =>
    refine (follows_issueInOrder host out _).bind (fun reply => ?_) fun es fault h => .faulted h
    cases reply with
    | error failure =>
      exact Action.follows_pure_after fun es h => .failed h
    | ok u =>
      exact Action.follows_pure_after fun es h => .done h

/-- A compilation. -/
inductive Compilation (c : RunContext) (target : BuildTarget) (checkout : Path) :
    Protocol σ (Except BuildFailure BuiltBinary)
  /-- a command met a fault -/
  | faulted {es : List (Exchange σ)} {fault : Fault} :
      InOrder (compileCommands c target checkout) es (.error fault) →
      Compilation c target checkout es (.error fault)
  /-- a command failed -/
  | failed {es : List (Exchange σ)} {failure : CommandFailure} :
      InOrder (compileCommands c target checkout) es (.ok (.error failure)) →
      Compilation c target checkout es (.ok (.error (compileFailed target failure)))
  /-- the program could not be looked for -/
  | crashed {es : List (Exchange σ)} {fault : Fault} :
      InOrder (compileCommands c target checkout) es (.ok (.ok ())) →
      Compilation c target checkout es (.error fault)
  /-- there is no program -/
  | missing {es : List (Exchange σ)} :
      InOrder (compileCommands c target checkout) es (.ok (.ok ())) →
      Compilation c target checkout es (.ok (.error
        (outputMissing target (expectedBinary target checkout c.config.project.binaryName))))
  /-- there is a program -/
  | done {es : List (Exchange σ)} :
      InOrder (compileCommands c target checkout) es (.ok (.ok ())) →
      Compilation c target checkout es
        (.ok (.ok ⟨target, expectedBinary target checkout c.config.project.binaryName⟩))

theorem follows_compile (host : Host σ) (c : RunContext) (target : BuildTarget) (checkout : Path)
    (out : Console) :
    Action.Follows host (compile host.logged c target checkout out)
      (Compilation c target checkout) := by
  refine (follows_issueInOrder host out _).bind (fun reply => ?_) fun es fault h => .faulted h
  cases reply with
  | error failure =>
    exact Action.follows_pure_after fun es h => .failed h
  | ok u =>
    refine .onFiles_bind (fun found fs hfound => ?_) fun fault es h => ?_
    · cases found with
      | false =>
        exact Action.follows_pure_after fun es h => .missing h
      | true =>
        exact Action.follows_pure_after fun es h => .done h
    · rw [List.append_nil]
      exact .crashed h

/-- **A whole build.** Nothing is said to the host if the linker is missing. -/
inductive Transcript (c : RunContext) (target : BuildTarget) :
    Protocol σ (Except BuildFailure BuiltBinary)
  /-- there is no linker -/
  | noLinker : Transcript c target [] (.ok (.error (linkerMissing target)))
  /-- the checkout met a fault -/
  | faulted {es : List (Exchange σ)} {fault : Fault} : Checkout c target es (.error fault) →
      Transcript c target es (.error fault)
  /-- the checkout failed -/
  | failed {es : List (Exchange σ)} {failure : BuildFailure} :
      Checkout c target es (.ok (.error failure)) → Transcript c target es (.ok (.error failure))
  /-- the source was compiled -/
  | compiled {es es' : List (Exchange σ)} {checkout : Path}
      {r : Except Fault (Except BuildFailure BuiltBinary)} :
      Checkout c target es (.ok (.ok checkout)) → Compilation c target checkout es' r →
      Transcript c target (es ++ es') r

/-- Every build has a transcript. -/
theorem follows_run (host : Host σ) (c : RunContext) (target : BuildTarget) (out : Console) :
    Action.Follows host (run host.logged c target out) (Transcript c target) := by
  unfold run
  by_cases hlinker : lacksLinker host.logged target = true
  · rw [if_pos hlinker]
    exact Action.follows_pure .noLinker
  · rw [if_neg hlinker]
    have hcheckout := follows_prepareCheckout host c target out
    refine hcheckout.bind (fun prepared => ?_) fun es fault h => .faulted h
    cases prepared with
    | error failure =>
      exact Action.follows_pure_after fun es h => .failed h
    | ok checkout =>
      exact (follows_compile host c target checkout out).mono fun es' r h es hes => .compiled hes h

/-! ## What builds have in common -/

theorem InOrder.command_mem {commands : List Command} {es : List (Exchange σ)}
    {r : Except Fault (Except CommandFailure Unit)} (h : InOrder commands es r) {e : Exchange σ}
    (he : e ∈ es) : e.command ∈ commands := by
  have hmem : e.command ∈ es.map (·.command) := List.mem_map_of_mem he
  rw [h.commands_eq_take] at hmem
  exact List.mem_of_mem_take hmem

/-- A build issues the commands of its checkout and of its compilation and no others. -/
theorem Transcript.command_mem {es : List (Exchange σ)}
    {r : Except Fault (Except BuildFailure BuiltBinary)} (h : Transcript c target es r)
    {e : Exchange σ} (he : e ∈ es) :
    e.command ∈ checkoutCommands c (c.checkoutDir target) ++
      compileCommands c target (c.checkoutDir target) := by
  have hcheckout : ∀ {es r}, Checkout c target es r → e ∈ es →
      e.command ∈ checkoutCommands c (c.checkoutDir target) := by
    intro es r h he
    cases h with
    | crashed => cases he
    | kept => cases he
    | faulted h | failed h | done h => exact h.command_mem he
  cases h with
  | noLinker => cases he
  | faulted h | failed h => exact List.mem_append_left _ (hcheckout h he)
  | @compiled es es' checkout _ hprepared hcompiled =>
    rcases List.mem_append.mp he with he | he
    · exact List.mem_append_left _ (hcheckout hprepared he)
    · obtain rfl : checkout = c.checkoutDir target := by
        cases hprepared
        rfl
      refine List.mem_append_right _ ?_
      cases hcompiled with
      | faulted h | failed h | crashed h | missing h | done h => exact h.command_mem he

/-- The programs that a build runs. -/
def programs : List String := ["git", "docker", "rustup", "cargo"]

theorem exists_program_of_mem {checkout : Path} {command : Command}
    (h : command ∈ checkoutCommands c checkout ++ compileCommands c target checkout) :
    ∃ program ∈ programs, command.argv.head? = some program := by
  rcases List.mem_append.mp h with hmem | hmem
  · refine ⟨"git", by decide, ?_⟩
    simp only [checkoutCommands, List.mem_cons, List.not_mem_nil, or_false] at hmem
    rcases hmem with rfl | rfl <;> rfl
  · obtain ⟨command, hcommand, rfl⟩ := List.mem_map.mp hmem
    show ∃ program ∈ programs, command.argv.head? = some program
    unfold commands at hcommand
    split at hcommand
    · obtain rfl := List.mem_singleton.mp hcommand
      exact ⟨"docker", by decide, rfl⟩
    · simp only [List.mem_cons, List.not_mem_nil, or_false] at hcommand
      rcases hcommand with rfl | rfl
      · exact ⟨"rustup", by decide, rfl⟩
      · exact ⟨"cargo", by decide, rfl⟩

/-- **Builds stay among themselves.** Every command of a build runs one of its programs. -/
theorem Transcript.head?_mem {es : List (Exchange σ)}
    {r : Except Fault (Except BuildFailure BuiltBinary)} (h : Transcript c target es r)
    {e : Exchange σ} (he : e ∈ es) : ∃ program ∈ programs, e.command.argv.head? = some program :=
  exists_program_of_mem (h.command_mem he)

/-- A failure of a build is one of its platform. -/
theorem Transcript.platform_eq {es : List (Exchange σ)} {failure : BuildFailure}
    (h : Transcript c target es (.ok (.error failure))) : failure.platform = target.platform := by
  cases h with
  | noLinker => rfl
  | failed h =>
    cases h with
    | kept | failed => rfl
  | compiled _ h =>
    cases h with
    | failed | missing => rfl

/-- A program that was built is for the target. -/
theorem Transcript.target_eq {es : List (Exchange σ)} {built : BuiltBinary}
    (h : Transcript c target es (.ok (.ok built))) : built.target = target := by
  cases h with
  | compiled _ h =>
    cases h
    rfl

end Shipyard.Build
