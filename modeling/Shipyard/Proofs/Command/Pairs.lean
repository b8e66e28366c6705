import Shipyard.Proofs.Command.Action

/-!
# Pairs of runs

Two steps that run side by side, each on its own world. They begin at worlds that have something to
do with each other, and either both meet the same fault or both give something; what they give and
leave has to do with each other again. Of a world only the files and the outside matter, for nothing
that the user was told and no command that was issued is ever looked at. A pair is proved along the
text of the two steps, one rule for each way in which actions are put together.
-/

namespace Shipyard

variable {σ α β γ δ : Type}

/-- What a step can see of a world: the files and everything outside. -/
abbrev Scene (σ : Type) := FileSystem × σ

/-- The scene of a world. -/
def World.scene (w : World σ) : Scene σ := (w.files, w.outside)

namespace Action

variable {R R' E E' : Scene σ → Scene σ → Prop} {Q Q' : α → β → Scene σ → Scene σ → Prop}
  {P : γ → δ → Scene σ → Scene σ → Prop} {a : Action σ α} {b : Action σ β}

/-- Whether two steps, from scenes with one relation, both give something with another one or both
meet the same fault, with a third. -/
def Pairs (R : Scene σ → Scene σ → Prop) (a : Action σ α) (b : Action σ β)
    (Q : α → β → Scene σ → Scene σ → Prop) (E : Scene σ → Scene σ → Prop) : Prop :=
  ∀ w w' : World σ, R w.scene w'.scene →
    (∃ x y v v', runOn a w = (.ok x, v) ∧ runOn b w' = (.ok y, v') ∧ Q x y v.scene v'.scene) ∨
      ∃ fault v v', runOn a w = (.error fault, v) ∧ runOn b w' = (.error fault, v') ∧
        E v.scene v'.scene

/-- What is given has to do with each other, and the scenes go on as before. -/
def Keeping (R : Scene σ → Scene σ → Prop) (S : α → β → Prop) :
    α → β → Scene σ → Scene σ → Prop :=
  fun x y p q => S x y ∧ R p q

theorem Pairs.mono (h : Pairs R a b Q E) (hR : ∀ p q, R' p q → R p q)
    (hQ : ∀ x y p q, Q x y p q → Q' x y p q) (hE : ∀ p q, E p q → E' p q) :
    Pairs R' a b Q' E' := by
  intro w w' hw
  rcases h w w' (hR _ _ hw) with ⟨x, y, v, v', ha, hb, hpost⟩ | ⟨fault, v, v', ha, hb, hpost⟩
  · exact .inl ⟨x, y, v, v', ha, hb, hQ _ _ _ _ hpost⟩
  · exact .inr ⟨fault, v, v', ha, hb, hE _ _ hpost⟩

/-- The relation behind a fault may say less. -/
theorem Pairs.weaken (h : Pairs R a b Q E) (hE : ∀ p q, E p q → E' p q) : Pairs R a b Q E' :=
  h.mono (fun _ _ h => h) (fun _ _ _ _ h => h) hE

theorem pairs_pure {x : α} {y : β} (h : ∀ p q, R p q → Q x y p q) :
    Pairs R (pure x) (pure y) Q E :=
  fun w w' hw => .inl ⟨x, y, w, w', rfl, rfl, h _ _ hw⟩

theorem pairs_throw {fault : Fault} (h : ∀ p q, R p q → E p q) :
    Pairs R (throw fault : Action σ α) (throw fault : Action σ β) Q E :=
  fun w w' hw => .inr ⟨fault, w, w', rfl, rfl, h _ _ hw⟩

/-- **Sequences.** The second steps begin where the first ones ended. -/
theorem Pairs.bind {f : α → Action σ γ} {g : β → Action σ δ} (h : Pairs R a b Q E)
    (hf : ∀ x y, Pairs (Q x y) (f x) (g y) P E) : Pairs R (a >>= f) (b >>= g) P E := by
  intro w w' hw
  rcases h w w' hw with ⟨x, y, v, v', ha, hb, hpost⟩ | ⟨fault, v, v', ha, hb, hpost⟩
  · rw [runOn_bind_ok ha, runOn_bind_ok hb]
    exact hf x y v v' hpost
  · rw [runOn_bind_error ha, runOn_bind_error hb]
    exact .inr ⟨fault, v, v', rfl, rfl, hpost⟩

/-- Behind steps that keep the relation the second ones need to be paired for fitting values. -/
theorem Pairs.bind_keeping {S : α → β → Prop} {f : α → Action σ γ} {g : β → Action σ δ}
    (h : Pairs R a b (Keeping R S) E) (hf : ∀ x y, S x y → Pairs R (f x) (g y) P E) :
    Pairs R (a >>= f) (b >>= g) P E :=
  h.bind fun x y w w' hw => hf x y hw.1 w w' hw.2

theorem pairs_tell {out out' : Console} {n n' : Notice}
    {Q : Unit → Unit → Scene σ → Scene σ → Prop} (h : ∀ p q, R p q → Q () () p q) :
    Pairs R (tell out n) (tell out' n') Q E :=
  fun _ _ hw => .inl ⟨(), (), _, _, rfl, rfl, h _ _ hw⟩

theorem Pairs.tell_bind {out out' : Console} {n n' : Notice} {f : Unit → Action σ γ}
    {g : Unit → Action σ δ} (h : Pairs R (f ()) (g ()) P E) :
    Pairs R (tell out n >>= f) (tell out' n' >>= g) P E :=
  (pairs_tell (Q := fun _ _ => R) fun _ _ hw => hw).bind fun _ _ => h

theorem Pairs.echo_bind {out out' : Console} {argv argv' : List String} {f : Unit → Action σ γ}
    {g : Unit → Action σ δ} (h : Pairs R (f ()) (g ()) P E) :
    Pairs R (echo out argv >>= f) (echo out' argv' >>= g) P E :=
  h.tell_bind

theorem Pairs.orFault_bind {r : Except Fault α} {f : α → Action σ γ} {g : α → Action σ δ}
    (h : ∀ x, r = .ok x → Pairs R (f x) (g x) P E) (hfault : ∀ p q, R p q → E p q) :
    Pairs R (orFault r >>= f) (orFault r >>= g) P E := by
  cases r with
  | ok x => exact h x rfl
  | error fault => exact pairs_throw hfault

theorem Pairs.orRefused_bind {r : Except Refusal α} {f : α → Action σ γ} {g : α → Action σ δ}
    (h : ∀ x, r = .ok x → Pairs R (f x) (g x) P E) (hfault : ∀ p q, R p q → E p q) :
    Pairs R (orRefused r >>= f) (orRefused r >>= g) P E := by
  cases r with
  | ok x => exact h x rfl
  | error refusal => exact pairs_throw hfault

/-- Work on the files is paired if it gives the same on both. -/
theorem pairs_onFiles {d : Disk α} {Q : α → α → Scene σ → Scene σ → Prop}
    (h : ∀ p q, R p q → (∃ x fs gs, d.runOn p.1 = (.ok x, fs) ∧ d.runOn q.1 = (.ok x, gs) ∧
        Q x x (fs, p.2) (gs, q.2)) ∨
      ∃ fault fs gs, d.runOn p.1 = (.error fault, fs) ∧ d.runOn q.1 = (.error fault, gs) ∧
        E (fs, p.2) (gs, q.2)) : Pairs R (onFiles d) (onFiles d) Q E := by
  intro w w' hw
  rw [runOn_onFiles, runOn_onFiles]
  rcases h _ _ hw with ⟨x, fs, gs, hfs, hgs, hpost⟩ | ⟨fault, fs, gs, hfs, hgs, hpost⟩
  all_goals
    rw [show d.runOn w.files = _ from hfs, show d.runOn w'.files = _ from hgs]
  · exact .inl ⟨x, x, _, _, rfl, rfl, hpost⟩
  · exact .inr ⟨fault, _, _, rfl, rfl, hpost⟩

/-- A command is paired with itself by its two answers. -/
theorem pairs_issue {host : Host σ} {c : Command}
    {Q : Except CommandFailure String → Except CommandFailure String → Scene σ → Scene σ → Prop}
    (h : ∀ p q, R p q → (host.answer c p.1 p.2).1 = (host.answer c q.1 q.2).1 ∧
      (∀ reply, (host.answer c p.1 p.2).1 = .ok reply →
        Q reply reply (host.answer c p.1 p.2).2 (host.answer c q.1 q.2).2) ∧
      ((∃ fault, (host.answer c p.1 p.2).1 = .error fault) →
        E (host.answer c p.1 p.2).2 (host.answer c q.1 q.2).2)) :
    Pairs R (issue host c) (issue host c) Q E := by
  intro w w' hw
  obtain ⟨hsame, hok, herror⟩ := h _ _ hw
  have hrun (w : World σ) : ∃ v, runOn (issue host c) w =
      ((host.answer c w.scene.1 w.scene.2).1, v) ∧
        v.scene = (host.answer c w.scene.1 w.scene.2).2 := by
    rw [runOn_issue]
    exact ⟨_, rfl, rfl⟩
  obtain ⟨v, hv, hleft⟩ := hrun w
  obtain ⟨v', hv', hleft'⟩ := hrun w'
  rw [hv, hv', ← hsame]
  simp only [← hleft, ← hleft'] at hok herror
  rcases hanswer : (host.answer c w.scene.1 w.scene.2).1 with fault | reply
  · exact .inr ⟨fault, v, v', rfl, rfl, herror ⟨fault, hanswer⟩⟩
  · exact .inl ⟨reply, reply, v, v', rfl, rfl, hok reply hanswer⟩

end Action

end Shipyard
