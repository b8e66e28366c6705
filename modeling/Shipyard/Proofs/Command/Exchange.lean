import Shipyard.Proofs.Command.Action

/-!
# Exchanges with the host

What a run has said to its host and what came back. `Host.logged` answers like another host and
keeps a log, so that a statement about a run can speak about the answers and not only about the
commands. A `Protocol` says which exchanges a step may have, together with how it ends; that a step
`Follows` its protocol is proved along the text of the step, one rule for each way in which actions
are put together. What the exchanges did to the outside is a matter of the host alone
(`Host.Conducts`), so facts about a release are proved on lists of exchanges, without any action.
-/

namespace Shipyard

variable {σ α β : Type}

/-! ## Logs -/

/-- A command that was issued. -/
structure Exchange (σ : Type) where
  /-- the command -/
  command : Command
  /-- the answer to it -/
  answer : Answer
  /-- what the answer left of everything outside -/
  left : σ

/-- Whether the command gave its output. -/
def Exchange.succeeded (e : Exchange σ) : Bool :=
  match e.answer with
  | .ok (.ok _) => true
  | _ => false

theorem Exchange.succeeded_iff {e : Exchange σ} :
    e.succeeded = true ↔ ∃ output, e.answer = .ok (.ok output) := by
  unfold succeeded
  split
  · next output h => exact ⟨fun _ => ⟨output, h⟩, fun _ => rfl⟩
  · next h => exact ⟨fun hf => Bool.noConfusion hf, fun ⟨output, ho⟩ => absurd ho (h output)⟩

/-- Everything outside, with the exchanges so far. -/
structure Logged (σ : Type) where
  /-- the state of everything outside -/
  outside : σ
  /-- the exchanges, in order -/
  log : List (Exchange σ)

/-- The host that answers in the same way and keeps a log. -/
def Host.logged (host : Host σ) : Host (Logged σ) where
  answer c files s :=
    let (answer, files, outside) := host.answer c files s.outside
    (answer, files, ⟨outside, s.log ++ [⟨c, answer, outside⟩]⟩)
  installed := host.installed
  archiver := host.archiver

namespace World

/-- The world with an empty log. -/
def logged (w : World σ) : World (Logged σ) :=
  ⟨w.files, w.transcript, w.issued, ⟨w.outside, []⟩⟩

/-- The exchanges so far. -/
def log (w : World (Logged σ)) : List (Exchange σ) := w.outside.log

/-- The state of everything outside, without the log. -/
def actual (w : World (Logged σ)) : σ := w.outside.outside

end World

namespace Host

/-- Whether a host can answer so at some state of the outside. The files are left open. -/
def Gives (host : Host σ) (s : σ) (e : Exchange σ) : Prop :=
  ∃ files files', host.answer e.command files s = (e.answer, files', e.left)

/-- Whether a host can have exchanges one after the other, from one state of the outside to
another. -/
def Conducts (host : Host σ) : σ → List (Exchange σ) → σ → Prop
  | s, [], s' => s' = s
  | s, e :: es, s' => host.Gives s e ∧ host.Conducts e.left es s'

variable {host : Host σ} {s s' s'' : σ} {es es' : List (Exchange σ)}

theorem Conducts.append (h : host.Conducts s es s') (h' : host.Conducts s' es' s'') :
    host.Conducts s (es ++ es') s'' := by
  induction es generalizing s with
  | nil =>
    obtain rfl : s' = s := h
    exact h'
  | cons e es ih => exact ⟨h.1, ih h.2⟩

theorem Conducts.split (h : host.Conducts s (es ++ es') s'') :
    ∃ s', host.Conducts s es s' ∧ host.Conducts s' es' s'' := by
  induction es generalizing s with
  | nil => exact ⟨s, rfl, h⟩
  | cons e es ih =>
    obtain ⟨s', h₁, h₂⟩ := ih h.2
    exact ⟨s', ⟨h.1, h₁⟩, h₂⟩

/-- What holds at the beginning and is kept by every exchange holds at the end. -/
theorem Conducts.keeps {I : σ → Prop} (h : host.Conducts s es s') (hs : I s)
    (hstep : ∀ s, ∀ e ∈ es, host.Gives s e → I s → I e.left) : I s' := by
  induction es generalizing s with
  | nil =>
    obtain rfl : s' = s := h
    exact hs
  | cons e es ih =>
    refine ih h.2 (hstep s e (List.mem_cons_self ..) h.1 hs) ?_
    exact fun s e he => hstep s e (List.mem_cons_of_mem _ he)

end Host

/-! ## Protocols -/

/-- Which exchanges a step may have, and how it ends then. -/
abbrev Protocol (σ α : Type) := List (Exchange σ) → Except Fault α → Prop

namespace Action

/-- Every run of a step on the logged host adds exchanges to the log that are in accordance with a
protocol. -/
def Follows (host : Host σ) (a : Action (Logged σ) α) (P : Protocol σ α) : Prop :=
  ∀ w, ∃ es, (runOn a w).2.log = w.log ++ es ∧
    host.Conducts w.actual es (runOn a w).2.actual ∧ P es (runOn a w).1

/-- The exchanges that a run of a step adds to the log. -/
def exchanges (a : Action (Logged σ) α) (w : World (Logged σ)) : List (Exchange σ) :=
  (runOn a w).2.log.drop w.log.length

variable {host : Host σ} {P R : Protocol σ α} {Q : Protocol σ β}

theorem Follows.conducts {a : Action (Logged σ) α} (h : Follows host a P) (w : World (Logged σ)) :
    host.Conducts w.actual (exchanges a w) (runOn a w).2.actual := by
  obtain ⟨es, hlog, hcond, -⟩ := h w
  rw [exchanges, hlog, List.drop_left]
  exact hcond

theorem Follows.holds {a : Action (Logged σ) α} (h : Follows host a P) (w : World (Logged σ)) :
    P (exchanges a w) (runOn a w).1 := by
  obtain ⟨es, hlog, -, hP⟩ := h w
  rw [exchanges, hlog, List.drop_left]
  exact hP

theorem Follows.mono {a : Action (Logged σ) α} (h : Follows host a P)
    (hPR : ∀ es r, P es r → R es r) : Follows host a R := by
  intro w
  obtain ⟨es, hlog, hcond, hP⟩ := h w
  exact ⟨es, hlog, hcond, hPR _ _ hP⟩

/-- A step that says nothing to the host. -/
theorem Follows.silent {a : Action (Logged σ) α}
    (h : ∀ w, (runOn a w).2.outside = w.outside ∧ P [] (runOn a w).1) : Follows host a P := by
  intro w
  obtain ⟨hout, hP⟩ := h w
  refine ⟨[], ?_, ?_, hP⟩
  · rw [World.log, hout, List.append_nil]
    rfl
  · rw [World.actual, World.actual, hout]
    rfl

theorem follows_pure {x : α} (h : P [] (.ok x)) : Follows host (pure x) P :=
  .silent fun _ => ⟨rfl, h⟩

theorem follows_throw {fault : Fault} (h : P [] (.error fault)) : Follows host (throw fault) P :=
  .silent fun _ => ⟨rfl, h⟩

/-- **Sequences.** The exchanges of the second step come behind those of the first; after a fault of
the first step there are no others. -/
theorem Follows.bind {a : Action (Logged σ) α} {f : α → Action (Logged σ) β}
    (ha : Follows host a P)
    (hf : ∀ x, Follows host (f x) fun es' r => ∀ es, P es (.ok x) → Q (es ++ es') r)
    (hfault : ∀ es fault, P es (.error fault) → Q es (.error fault)) :
    Follows host (a >>= f) Q := by
  intro w
  obtain ⟨es, hlog, hcond, hP⟩ := ha w
  rcases hrun : runOn a w with ⟨fault | x, w'⟩
  · rw [hrun] at hlog hcond hP
    rw [runOn_bind_error hrun]
    exact ⟨es, hlog, hcond, hfault _ _ hP⟩
  · rw [hrun] at hlog hcond hP
    rw [runOn_bind_ok hrun]
    obtain ⟨es', hlog', hcond', hQ⟩ := hf x w'
    refine ⟨es ++ es', ?_, hcond.append hcond', hQ es hP⟩
    rw [hlog', hlog, List.append_assoc]

/-- Behind another step, a value that is given at once adds no exchange. -/
theorem follows_pure_after {x : β} {before : List (Exchange σ) → Prop}
    (h : ∀ es, before es → Q es (.ok x)) :
    Follows host (pure x) fun es' r => ∀ es, before es → Q (es ++ es') r := by
  refine follows_pure fun es hbefore => ?_
  rw [List.append_nil]
  exact h es hbefore

theorem Follows.tell_bind {console : Console} {n : Notice} {f : Unit → Action (Logged σ) β}
    (hf : Follows host (f ()) Q) : Follows host (tell console n >>= f) Q :=
  fun w => hf (runOn (tell console n) w).2

theorem Follows.echo_bind {console : Console} {argv : List String}
    {f : Unit → Action (Logged σ) β} (hf : Follows host (f ()) Q) :
    Follows host (echo console argv >>= f) Q :=
  hf.tell_bind

theorem Follows.orFault_bind {x : Except Fault α} {f : α → Action (Logged σ) β}
    (hf : ∀ a, x = .ok a → Follows host (f a) Q)
    (hfault : ∀ fault, x = .error fault → Q [] (.error fault)) :
    Follows host (orFault x >>= f) Q := by
  cases x with
  | ok a => exact hf a rfl
  | error fault => exact follows_throw (hfault fault rfl)

theorem Follows.orRefused_bind {x : Except Refusal α} {f : α → Action (Logged σ) β}
    (hf : ∀ a, x = .ok a → Follows host (f a) Q)
    (hfault : ∀ refusal, x = .error refusal → Q [] (.error (.refused refusal))) :
    Follows host (orRefused x >>= f) Q := by
  cases x with
  | ok a => exact hf a rfl
  | error refusal => exact follows_throw (hfault refusal rfl)

/-- Work on the files is silent, and of what it gives only a property of every result is known. -/
theorem Follows.onFiles_bind {d : Disk α} {f : α → Action (Logged σ) β}
    (hf : ∀ a fs, (d.runOn fs).1 = .ok a → Follows host (f a) Q)
    (hfault : ∀ fault, Q [] (.error fault)) : Follows host (onFiles d >>= f) Q := by
  intro w
  rcases hrun : (d.runOn w.files).1 with fault | a
  · have h : runOn (onFiles d) w = (.error fault, { w with files := (d.runOn w.files).2 }) := by
      rw [runOn_onFiles, hrun]
    rw [runOn_bind_error h]
    exact ⟨[], (List.append_nil _).symm, rfl, hfault fault⟩
  · have h : runOn (onFiles d) w = (.ok a, { w with files := (d.runOn w.files).2 }) := by
      rw [runOn_onFiles, hrun]
    rw [runOn_bind_ok h]
    exact hf a w.files hrun _

/-- Issuing a command is one exchange, and its answer is what the step gives. -/
theorem follows_issue (c : Command) :
    Follows host (issue host.logged c) fun es r =>
      ∃ e, es = [e] ∧ e.command = c ∧ r = e.answer := by
  intro w
  rw [runOn_issue]
  refine ⟨[⟨c, (host.answer c w.files w.actual).1, (host.answer c w.files w.actual).2.2⟩],
    rfl, ⟨⟨w.files, _, rfl⟩, rfl⟩, _, rfl, rfl, rfl⟩

theorem Follows.issue_bind {c : Command}
    {f : Except CommandFailure String → Action (Logged σ) β}
    (hf : ∀ reply, Follows host (f reply) fun es r =>
      ∀ e, e.command = c → e.answer = .ok reply → Q (e :: es) r)
    (hfault : ∀ e fault, e.command = c → e.answer = .error fault → Q [e] (.error fault)) :
    Follows host (issue host.logged c >>= f) Q := by
  refine (follows_issue c).bind (fun reply => (hf reply).mono ?_) ?_
  · rintro es r hQ _ ⟨e, rfl, hc, ha⟩
    exact hQ e hc ha.symm
  · rintro _ fault ⟨e, rfl, hc, ha⟩
    exact hfault e fault hc ha.symm

/-- A caught step ends well, and gives how it would have ended. -/
theorem Follows.caught {a : Action (Logged σ) α} (h : Follows host a P) :
    Follows host (caught a) fun es r => ∃ r', P es r' ∧ r = .ok r' := by
  intro w
  obtain ⟨es, hlog, hcond, hP⟩ := h w
  rw [runOn_caught]
  exact ⟨es, hlog, hcond, _, hP, rfl⟩

end Action

end Shipyard
