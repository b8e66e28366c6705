import Shipyard.Proofs.Command.Action

/-!
# Coupled hosts

Two runs of the same step, each on its own host. The commands of one differ from those of the other
at most in their variables, and the hosts do not mind: they give the same answers and keep the
worlds related. Steps on coupled hosts go alike (`Action.Alike`), and like `Pairs` this is proved
along the text of the steps. Here the relation is one of whole worlds, so it can speak of what the
user was told and which commands were issued, and it may compare worlds of different kinds.
-/

namespace Shipyard

variable {σ τ α β : Type}

/-- Commands that differ at most in their variables, and those are related. -/
structure Command.Like (E : Environment → Environment → Prop) (c c' : Command) : Prop where
  /-- the program and its arguments are the same -/
  argv : c.argv = c'.argv
  /-- it runs in the same directory -/
  cwd : c.cwd = c'.cwd
  /-- it may take as long -/
  timeout : c.timeout = c'.timeout
  /-- both get related variables, or both have those of their caller -/
  env : Option.Rel E c.env c'.env

theorem Command.Like.eq {c c' : Command} (h : c.Like Eq c') : c = c' := by
  rcases c with ⟨argv, cwd, env, timeout⟩
  rcases c' with ⟨argv', cwd', env', timeout'⟩
  obtain ⟨hargv, hcwd, htimeout, henv⟩ := h
  have hsame : env = env' := by
    cases henv with
    | some h => rw [h]
    | none => rfl
  simp_all

/-- **Coupled hosts.** Worlds of one and of the other stay related as long as the same is done on
both, commands aside that differ in their variables. -/
structure Coupled (E : Environment → Environment → Prop) (host : Host σ) (host' : Host τ)
    (R : World σ → World τ → Prop) : Prop where
  /-- the same programs are installed -/
  installed : host.installed = host'.installed
  /-- archives are written in the same way -/
  archiver : host.archiver = host'.archiver
  /-- the files are the same -/
  files : ∀ {w w'}, R w w' → w.files = w'.files
  /-- the user is told the same -/
  tells : ∀ {w w'}, R w w' → ∀ n, R { w with transcript := w.transcript ++ [n] }
    { w' with transcript := w'.transcript ++ [n] }
  /-- the files change in the same way -/
  works : ∀ {w w'}, R w w' → ∀ fs, R { w with files := fs } { w' with files := fs }
  /-- commands are answered in the same way -/
  issues : ∀ {w w'}, R w w' → ∀ {c c' : Command}, c.Like E c' →
    (Action.runOn (Action.issue host c) w).1 = (Action.runOn (Action.issue host' c') w').1 ∧
      R (Action.runOn (Action.issue host c) w).2 (Action.runOn (Action.issue host' c') w').2

namespace Action

/-- Whether two steps, from related worlds, end in the same way and leave related worlds. -/
def Alike (R : World σ → World τ → Prop) (a : Action σ α) (b : Action τ α) : Prop :=
  ∀ w w', R w w' → (runOn a w).1 = (runOn b w').1 ∧ R (runOn a w).2 (runOn b w').2

variable {E : Environment → Environment → Prop} {host : Host σ} {host' : Host τ}
  {R : World σ → World τ → Prop} {a : Action σ α} {b : Action τ α}

theorem alike_pure (x : α) : Alike R (pure x) (pure x) := fun _ _ hw => ⟨rfl, hw⟩

theorem alike_throw (fault : Fault) :
    Alike R (throw fault : Action σ α) (throw fault : Action τ α) := fun _ _ hw => ⟨rfl, hw⟩

/-- **Sequences.** The second steps begin with the same value. -/
theorem Alike.bind {f : α → Action σ β} {g : α → Action τ β} (h : Alike R a b)
    (hfg : ∀ x, Alike R (f x) (g x)) : Alike R (a >>= f) (b >>= g) := by
  intro w w' hw
  obtain ⟨hsame, hleft⟩ := h w w' hw
  rw [runOn_bind, runOn_bind]
  rcases ha : runOn a w with ⟨r, v⟩
  rcases hb : runOn b w' with ⟨r', v'⟩
  rw [ha, hb] at hsame hleft
  obtain rfl : r = r' := hsame
  cases r with
  | error fault => exact ⟨rfl, hleft⟩
  | ok x => exact hfg x v v' hleft

theorem Alike.caught (h : Alike R a b) : Alike R (caught a) (caught b) := by
  intro w w' hw
  obtain ⟨hsame, hleft⟩ := h w w' hw
  rw [runOn_caught, runOn_caught, hsame]
  exact ⟨rfl, hleft⟩

theorem alike_orFault (r : Except Fault α) :
    Alike R (orFault r : Action σ α) (orFault r : Action τ α) := by
  intro w w' hw
  rw [runOn_orFault, runOn_orFault]
  exact ⟨rfl, hw⟩

theorem alike_orRefused (r : Except Refusal α) :
    Alike R (orRefused r : Action σ α) (orRefused r : Action τ α) := by
  intro w w' hw
  rw [runOn_orRefused, runOn_orRefused]
  exact ⟨rfl, hw⟩

end Action

namespace Coupled

open Shipyard.Action

variable {E : Environment → Environment → Prop} {host : Host σ} {host' : Host τ}
  {R : World σ → World τ → Prop}

theorem tell (h : Coupled E host host' R) (console : Console) (n : Notice) :
    Alike R (tell console n) (tell console n) :=
  fun _ _ hw => ⟨rfl, h.tells hw _⟩

theorem echo (h : Coupled E host host' R) (console : Console) (argv : List String) :
    Alike R (echo console argv) (echo console argv) :=
  h.tell console _

theorem onFiles (h : Coupled E host host' R) (d : Disk α) : Alike R (onFiles d) (onFiles d) := by
  intro w w' hw
  rw [runOn_onFiles, runOn_onFiles, h.files hw]
  exact ⟨rfl, h.works hw _⟩

theorem issue (h : Coupled E host host' R) {c c' : Command} (hlike : c.Like E c') :
    Alike R (issue host c) (issue host' c') :=
  fun _ _ hw => h.issues hw hlike

end Coupled

end Shipyard
