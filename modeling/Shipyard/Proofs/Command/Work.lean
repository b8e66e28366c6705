import Mathlib.Order.Defs.Unbundled
import Shipyard.Proofs.Command.Film

/-!
# Own work

What a step does to the files itself lies between the pictures of its film: before its first
command, between what one command left and what the next one found, and behind the last one. Where
steps follow each other, the last stretch of the first one and the first stretch of the second one
become one, so what is known of every stretch has to be a preorder.
-/

namespace Shipyard

variable {σ α β : Type} {R S : FileSystem → FileSystem → Prop}

/-! ## Stretches -/

namespace Exchange

variable {fs gs hs : FileSystem} {es es' : List (Exchange (Filmed σ))}

/-- Whether every stretch of own work in a film is in accordance with a relation, from the files at
its beginning to those at its end. -/
def Between (R : FileSystem → FileSystem → Prop) :
    FileSystem → List (Exchange (Filmed σ)) → FileSystem → Prop
  | fs, [], fs' => R fs fs'
  | fs, e :: es, fs' => R fs e.found ∧ Between R e.kept es fs'

theorem Between.mono (h : Between R fs es gs) (hRS : ∀ fs gs, R fs gs → S fs gs) :
    Between S fs es gs := by
  induction es generalizing fs with
  | nil => exact hRS _ _ h
  | cons e es ih => exact ⟨hRS _ _ h.1, ih h.2⟩

variable [IsPreorder FileSystem R]

/-- A film without cuts has no own work. -/
theorem Uncut.between (h : Uncut fs es gs) : Between R fs es gs := by
  induction es generalizing fs with
  | nil =>
    obtain rfl : gs = fs := h
    exact refl_of R gs
  | cons e es ih =>
    obtain ⟨rfl, h⟩ := h
    exact ⟨refl_of R _, ih h⟩

theorem Between.append (h : Between R fs es gs) (h' : Between R gs es' hs) :
    Between R fs (es ++ es') hs := by
  induction es generalizing fs with
  | nil =>
    -- the last stretch of the first film and the first one of the second film become one
    cases es' with
    | nil => exact trans_of R h h'
    | cons e es' => exact ⟨trans_of R h h'.1, h'.2⟩
  | cons e es ih => exact ⟨h.1, ih h.2⟩

end Exchange

/-! ## Steps -/

namespace Action

open Exchange

/-- Whether all own work in the runs of a step is in accordance with a relation, and what the step
gives has a property. -/
structure Works (R : FileSystem → FileSystem → Prop) (a : Action (Logged (Filmed σ)) α)
    (P : α → Prop) : Prop where
  /-- the work -/
  films : Films a fun fs es _ fs' => Between R fs es fs'
  /-- what is given -/
  gives : ∀ w x, (runOn a w).1 = .ok x → P x

variable {host : Host σ} {a : Action (Logged (Filmed σ)) α} {P : α → Prop} {Q : β → Prop}
  [IsPreorder FileSystem R]

/-- A step that leaves the files to its commands does no own work. -/
theorem Uncut.works (h : Uncut a) (hP : ∀ x, P x) : Works R a P where
  films w := by
    obtain ⟨es, hlog, huncut⟩ := h w
    exact ⟨es, hlog, huncut.between⟩
  gives _ x _ := hP x

theorem works_pure {x : α} (hP : P x) : Works R (pure x : Action (Logged (Filmed σ)) α) P where
  films := films_pure fun fs => refl_of R fs
  gives := by
    rintro w _ ⟨⟩
    exact hP

/-- **Sequences.** -/
theorem Works.bind {f : α → Action (Logged (Filmed σ)) β} (h : Works R a P)
    (hf : ∀ x, P x → Works R (f x) Q) : Works R (a >>= f) Q where
  films w := by
    obtain ⟨es, hlog, hbetween⟩ := h.films w
    rcases hrun : runOn a w with ⟨fault | x, w'⟩
    all_goals rw [hrun] at hlog hbetween
    · rw [runOn_bind_error hrun]
      exact ⟨es, hlog, hbetween⟩
    · rw [runOn_bind_ok hrun]
      have hx : P x := h.gives w x (congrArg Prod.fst hrun)
      obtain ⟨es', hlog', hbetween'⟩ := (hf x hx).films w'
      refine ⟨es ++ es', ?_, hbetween.append hbetween'⟩
      rw [hlog', hlog, List.append_assoc]
  gives w y hy := by
    rcases hrun : runOn a w with ⟨fault | x, w'⟩
    · rw [runOn_bind_error hrun] at hy
      cases hy
    · rw [runOn_bind_ok hrun] at hy
      exact (hf x (h.gives w x (congrArg Prod.fst hrun))).gives w' y hy

theorem Works.tell_bind {console : Console} {n : Notice}
    {f : Unit → Action (Logged (Filmed σ)) β} (hf : Works R (f ()) Q) :
    Works R (tell console n >>= f) Q :=
  ((uncut_tell console n).works fun _ => trivial).bind fun _ _ => hf

/-- Own work is work on the files. -/
theorem Works.onFiles_bind {d : Disk α} {f : α → Action (Logged (Filmed σ)) β}
    (hd : ∀ fs, R fs (d.runOn fs).2) (hf : ∀ x, Works R (f x) Q) :
    Works R (onFiles d >>= f) Q := by
  refine Works.bind (P := fun _ => True) ⟨fun w => ⟨[], ?_, ?_⟩, fun _ _ _ => trivial⟩
    fun x _ => hf x
  all_goals rw [runOn_onFiles]
  · exact (List.append_nil _).symm
  · exact hd w.files

end Action

end Shipyard
