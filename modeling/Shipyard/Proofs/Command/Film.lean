import Shipyard.Proofs.Command.Coupling
import Shipyard.Proofs.Command.Exchange

/-!
# Films

A film of a run is its log together with the files: what every command found and what it left.
`Host.filmed` keeps the last picture beside the outside, so the log of a run on it is a film. A step
that never works on the files itself makes a film without cuts (`Action.Uncut`); what is known of
other steps says which work lies between two pictures (`Action.Films`).
-/

namespace Shipyard

variable {σ α β : Type}

/-- Everything outside, with the files around the last command. -/
structure Filmed (σ : Type) where
  /-- the state of everything outside -/
  outside : σ
  /-- the files that the command found -/
  found : FileSystem
  /-- the files that it left -/
  kept : FileSystem

/-- The host that answers in the same way and remembers the files. -/
def Host.filmed (host : Host σ) : Host (Filmed σ) where
  answer c files s :=
    let (answer, kept, outside) := host.answer c files s.outside
    (answer, kept, ⟨outside, files, kept⟩)
  installed := host.installed
  archiver := host.archiver

namespace World

/-- The world before any command. -/
def filmed (w : World σ) : World (Filmed σ) :=
  ⟨w.files, w.transcript, w.issued, ⟨w.outside, w.files, w.files⟩⟩

/-- The world without its film. -/
def unfilmed (w : World (Logged (Filmed σ))) : World σ :=
  ⟨w.files, w.transcript, w.issued, w.outside.outside.outside⟩

end World

/-! ## Pictures -/

namespace Exchange

/-- The files that a command found. -/
def found (e : Exchange (Filmed σ)) : FileSystem := e.left.found

/-- The files that it left. -/
def kept (e : Exchange (Filmed σ)) : FileSystem := e.left.kept

/-- Whether every command found what the one before it left, from some files to others. -/
def Uncut : FileSystem → List (Exchange (Filmed σ)) → FileSystem → Prop
  | fs, [], fs' => fs' = fs
  | fs, e :: es, fs' => e.found = fs ∧ Uncut e.kept es fs'

/-- The files at the end of a film that began with some files. -/
def keptBy : FileSystem → List (Exchange (Filmed σ)) → FileSystem
  | fs, [] => fs
  | _, e :: es => keptBy e.kept es

variable {fs fs' fs'' : FileSystem} {es es' : List (Exchange (Filmed σ))}

theorem Uncut.append (h : Uncut fs es fs') (h' : Uncut fs' es' fs'') :
    Uncut fs (es ++ es') fs'' := by
  induction es generalizing fs with
  | nil =>
    obtain rfl : fs' = fs := h
    exact h'
  | cons e es ih => exact ⟨h.1, ih h.2⟩

theorem Uncut.eq_keptBy (h : Uncut fs es fs') : fs' = keptBy fs es := by
  induction es generalizing fs with
  | nil => exact h
  | cons e es ih => exact ih h.2

/-- What is found at the end was left by the last command, whatever came before it. -/
theorem keptBy_append (h : es' ≠ []) : keptBy fs (es ++ es') = keptBy fs' es' := by
  induction es generalizing fs with
  | nil =>
    obtain ⟨e, rest, rfl⟩ := List.exists_cons_of_ne_nil h
    rfl
  | cons e es ih => exact ih

end Exchange

namespace Action

open Exchange

/-! ## Steps that leave the files to their commands -/

/-- Whether every run of a step makes a film without cuts. -/
def Uncut (a : Action (Logged (Filmed σ)) α) : Prop :=
  ∀ w, ∃ es, (runOn a w).2.log = w.log ++ es ∧ Exchange.Uncut w.files es (runOn a w).2.files

variable {host : Host σ} {a : Action (Logged (Filmed σ)) α}

theorem uncut_pure (x : α) : Uncut (pure x : Action (Logged (Filmed σ)) α) :=
  fun _ => ⟨[], (List.append_nil _).symm, rfl⟩

theorem Uncut.bind {f : α → Action (Logged (Filmed σ)) β} (h : Uncut a) (hf : ∀ x, Uncut (f x)) :
    Uncut (a >>= f) := by
  intro w
  obtain ⟨es, hlog, huncut⟩ := h w
  rcases hrun : runOn a w with ⟨fault | x, w'⟩
  all_goals rw [hrun] at hlog huncut
  · rw [runOn_bind_error hrun]
    exact ⟨es, hlog, huncut⟩
  · rw [runOn_bind_ok hrun]
    obtain ⟨es', hlog', huncut'⟩ := hf x w'
    refine ⟨es ++ es', ?_, huncut.append huncut'⟩
    rw [hlog', hlog, List.append_assoc]

theorem uncut_tell (console : Console) (n : Notice) :
    Uncut (tell console n : Action (Logged (Filmed σ)) Unit) :=
  fun _ => ⟨[], (List.append_nil _).symm, rfl⟩

theorem uncut_echo (console : Console) (argv : List String) :
    Uncut (echo console argv : Action (Logged (Filmed σ)) Unit) :=
  uncut_tell console _

theorem uncut_orFault (r : Except Fault α) : Uncut (orFault r : Action (Logged (Filmed σ)) α) := by
  intro w
  rw [runOn_orFault]
  exact ⟨[], (List.append_nil _).symm, rfl⟩

theorem uncut_orRefused (r : Except Refusal α) :
    Uncut (orRefused r : Action (Logged (Filmed σ)) α) := by
  intro w
  rw [runOn_orRefused]
  exact ⟨[], (List.append_nil _).symm, rfl⟩

theorem uncut_issue (c : Command) : Uncut (issue host.filmed.logged c) := by
  intro w
  rw [runOn_issue]
  exact ⟨_, rfl, rfl, rfl⟩

/-! ## Steps with work on the files -/

/-- What is known of a film: the files at its beginning, its exchanges, how the step ends, and the
files at the end. -/
abbrev Filming (σ α : Type) :=
  FileSystem → List (Exchange (Filmed σ)) → Except Fault α → FileSystem → Prop

/-- Whether something is known of the film of every run of a step. -/
def Films (a : Action (Logged (Filmed σ)) α) (P : Filming σ α) : Prop :=
  ∀ w, ∃ es, (runOn a w).2.log = w.log ++ es ∧ P w.files es (runOn a w).1 (runOn a w).2.files

variable {P P' : Filming σ α} {Q : Filming σ β}

theorem Films.mono (h : Films a P) (hP : ∀ fs es r fs', P fs es r fs' → P' fs es r fs') :
    Films a P' := by
  intro w
  obtain ⟨es, hlog, hP'⟩ := h w
  exact ⟨es, hlog, hP _ _ _ _ hP'⟩

/-- The exchanges of a step without cuts are in accordance with its protocol. -/
theorem Follows.films {R : Protocol (Filmed σ) α} (h : Follows host.filmed a R) (huncut : Uncut a) :
    Films a fun fs es r fs' => R es r ∧ Exchange.Uncut fs es fs' := by
  intro w
  obtain ⟨es, hlog, -, hR⟩ := h w
  obtain ⟨es', hlog', hfilm⟩ := huncut w
  obtain rfl : es = es' := List.append_cancel_left (hlog.symm.trans hlog')
  exact ⟨es, hlog, hR, hfilm⟩

theorem films_pure {x : α} (h : ∀ fs, P fs [] (.ok x) fs) :
    Films (pure x : Action (Logged (Filmed σ)) α) P :=
  fun _ => ⟨[], (List.append_nil _).symm, h _⟩

/-- **Sequences.** The film of the second step begins where that of the first one ends. -/
theorem Films.bind {f : α → Action (Logged (Filmed σ)) β} (h : Films a P)
    (hf : ∀ x, Films (f x) fun fs' es' r fs'' => ∀ fs es, P fs es (.ok x) fs' →
      Q fs (es ++ es') r fs'')
    (hfault : ∀ fs es fault fs', P fs es (.error fault) fs' → Q fs es (.error fault) fs') :
    Films (a >>= f) Q := by
  intro w
  obtain ⟨es, hlog, hP⟩ := h w
  rcases hrun : runOn a w with ⟨fault | x, w'⟩
  all_goals rw [hrun] at hlog hP
  · rw [runOn_bind_error hrun]
    exact ⟨es, hlog, hfault _ _ _ _ hP⟩
  · rw [runOn_bind_ok hrun]
    obtain ⟨es', hlog', hQ⟩ := hf x w'
    refine ⟨es ++ es', ?_, hQ _ _ hP⟩
    rw [hlog', hlog, List.append_assoc]

/-- Behind another step, a value that is given at once adds nothing to the film. -/
theorem films_pure_after {x : β}
    {before : FileSystem → List (Exchange (Filmed σ)) → FileSystem → Prop}
    (h : ∀ fs es fs', before fs es fs' → Q fs es (.ok x) fs') :
    Films (pure x : Action (Logged (Filmed σ)) β) fun fs' es' r fs'' => ∀ fs es,
      before fs es fs' → Q fs (es ++ es') r fs'' := by
  refine films_pure fun fs' fs es hbefore => ?_
  rw [List.append_nil]
  exact h fs es fs' hbefore

theorem Films.tell_bind {console : Console} {n : Notice}
    {f : Unit → Action (Logged (Filmed σ)) β} (hf : Films (f ()) Q) :
    Films (tell console n >>= f) Q :=
  fun w => hf (runOn (tell console n) w).2

/-- Work on the files lies between two pictures. -/
theorem Films.onFiles_bind {d : Disk α} {f : α → Action (Logged (Filmed σ)) β}
    (hf : ∀ x, Films (f x) fun fs' es r fs'' => ∀ fs, d.runOn fs = (.ok x, fs') → Q fs es r fs'')
    (hfault : ∀ fs fault fs', d.runOn fs = (.error fault, fs') → Q fs [] (.error fault) fs') :
    Films (onFiles d >>= f) Q := by
  intro w
  rcases hrun : d.runOn w.files with ⟨fault | x, fs'⟩
  · have h : runOn (onFiles d) w = (.error fault, { w with files := fs' }) := by
      rw [runOn_onFiles, hrun]
    rw [runOn_bind_error h]
    exact ⟨[], (List.append_nil _).symm, hfault _ _ _ hrun⟩
  · have h : runOn (onFiles d) w = (.ok x, { w with files := fs' }) := by
      rw [runOn_onFiles, hrun]
    rw [runOn_bind_ok h]
    obtain ⟨es, hlog, hQ⟩ := hf x { w with files := fs' }
    exact ⟨es, hlog, hQ _ hrun⟩

/-! ## Films of plain runs -/

/-- Whether the second of two worlds is the first one without its film, and the film shows the
commands that were issued behind some others. -/
structure FilmAside (before : List Command) (w : World (Logged (Filmed σ))) (v : World σ) :
    Prop where
  /-- the worlds -/
  same : v = w.unfilmed
  /-- the commands -/
  issued : w.issued = before ++ w.log.map (·.command)

/-- **A film changes nothing.** -/
theorem coupled_filmed (host : Host σ) (before : List Command) :
    Coupled Eq host.filmed.logged host (FilmAside before) where
  installed := rfl
  archiver := rfl
  files := by
    rintro w _ ⟨rfl, -⟩
    rfl
  tells := by
    rintro w _ ⟨rfl, hissued⟩ n
    exact ⟨rfl, hissued⟩
  works := by
    rintro w _ ⟨rfl, hissued⟩ fs
    exact ⟨rfl, hissued⟩
  issues := by
    rintro w _ ⟨rfl, hissued⟩ c c' hlike
    obtain rfl := hlike.eq
    rw [runOn_issue, runOn_issue]
    refine ⟨rfl, rfl, ?_⟩
    show w.issued ++ [c] = before ++ (w.log ++ [(_ : Exchange (Filmed σ))]).map (·.command)
    rw [hissued, List.map_append, List.append_assoc]
    rfl

/-- The film of a run of a step. -/
def film (a : Action (Logged (Filmed σ)) α) (w : World σ) : List (Exchange (Filmed σ)) :=
  exchanges a w.filmed.logged

/-- A film shows the commands that the plain run issues. -/
theorem Alike.issued_eq {b : Action σ α} {w : World σ} (h : Alike (FilmAside w.issued) a b) :
    (runOn b w).2.issued = w.issued ++ (film a w).map (·.command) := by
  obtain ⟨-, hleft⟩ := h w.filmed.logged w ⟨rfl, (List.append_nil _).symm⟩
  rw [hleft.same]
  exact hleft.issued

/-- What is known of a film is known of the plain run. -/
theorem Alike.films {b : Action σ α} {w : World σ} (h : Alike (FilmAside w.issued) a b)
    (hfilms : Films a P) : P w.files (film a w) (runOn b w).1 (runOn b w).2.files := by
  obtain ⟨hsame, hleft⟩ := h w.filmed.logged w ⟨rfl, (List.append_nil _).symm⟩
  obtain ⟨es, hlog, hP⟩ := hfilms w.filmed.logged
  have hes : film a w = es := by
    rw [film, exchanges, hlog, List.drop_left]
  rw [hes, ← hsame, hleft.same]
  exact hP

end Action

end Shipyard
