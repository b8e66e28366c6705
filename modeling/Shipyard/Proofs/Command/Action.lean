import Shipyard.Command.World

/-!
# Running actions

How the pieces that actions are made of run on a world: one equation for each. Later proofs open an
action with these and never look into the monad.
-/

namespace Shipyard.Action

variable {σ α β : Type}

@[simp] theorem runOn_pure (x : α) (w : World σ) : runOn (pure x) w = (.ok x, w) := rfl

@[simp] theorem runOn_throw (fault : Fault) (w : World σ) :
    runOn (throw fault : Action σ α) w = (.error fault, w) := rfl

/-- A sequence stops at the first fault. -/
theorem runOn_bind (a : Action σ α) (f : α → Action σ β) (w : World σ) :
    runOn (a >>= f) w =
      match runOn a w with
      | (.ok x, w') => runOn (f x) w'
      | (.error fault, w') => (.error fault, w') := by
  show (ExceptT.bind a f : ExceptT Fault (StateM (World σ)) β) w = _
  simp only [ExceptT.bind, ExceptT.mk, bind, StateT.bind, runOn, ExceptT.run, StateT.run]
  rcases a w with ⟨_ | x, w'⟩ <;> rfl

theorem runOn_bind_ok {a : Action σ α} {f : α → Action σ β} {w w' : World σ} {x : α}
    (h : runOn a w = (.ok x, w')) : runOn (a >>= f) w = runOn (f x) w' := by
  rw [runOn_bind, h]

theorem runOn_bind_error {a : Action σ α} {f : α → Action σ β} {w w' : World σ} {fault : Fault}
    (h : runOn a w = (.error fault, w')) : runOn (a >>= f) w = (.error fault, w') := by
  rw [runOn_bind, h]

@[simp] theorem runOn_tell (console : Console) (n : Notice) (w : World σ) :
    runOn (tell console n) w =
      (.ok (), { w with transcript := w.transcript ++ [console.deliver n] }) := rfl

@[simp] theorem runOn_orFault (r : Except Fault α) (w : World σ) :
    runOn (orFault r) w = (r, w) := by
  cases r <;> rfl

@[simp] theorem runOn_orRefused (r : Except Refusal α) (w : World σ) :
    runOn (orRefused r) w = (r.mapError .refused, w) := by
  cases r <;> rfl

@[simp] theorem runOn_onFiles (d : Disk α) (w : World σ) :
    runOn (onFiles d) w = ((d.runOn w.files).1, { w with files := (d.runOn w.files).2 }) := by
  have hget : runOn (get : Action σ (World σ)) w = (.ok w, w) := rfl
  rw [onFiles, runOn_bind_ok hget]
  rcases d.runOn w.files with ⟨fault | a, files⟩
  · rfl
  · rfl

/-- Issuing a command adds it to the commands issued and leaves what the host leaves. -/
@[simp] theorem runOn_issue (host : Host σ) (c : Command) (w : World σ) :
    runOn (issue host c) w =
      ((host.answer c w.files w.outside).1,
        { w with
          files := (host.answer c w.files w.outside).2.1
          outside := (host.answer c w.files w.outside).2.2
          issued := w.issued ++ [c] }) := by
  show runOn (orFault (host.answer c w.files w.outside).1) _ = _
  rw [runOn_orFault]

/-- A caught action never faults. -/
@[simp] theorem runOn_caught (a : Action σ α) (w : World σ) :
    runOn (caught a) w = (.ok (runOn a w).1, (runOn a w).2) := by
  unfold caught tryCatch instMonadExceptOfMonadExceptOf
  simp only [tryCatchThe, MonadExceptOf.tryCatch, ExceptT.tryCatch, ExceptT.mk, runOn, ExceptT.run,
    bind, StateT.bind, StateT.run, ExceptT.bind, ExceptT.bindCont, pure, ExceptT.pure]
  rcases a w with ⟨_ | x, w'⟩ <;> rfl

end Shipyard.Action
