import Shipyard.Command.Basic

/-!
# Variables

What a variable is in an environment that other variables were added to, and environments that
cannot be told apart as long as some variables are not looked at.
-/

namespace Shipyard.Environment

variable {env env' : Environment} {hidden : List String} {name value value' : String}

theorem find?_cons (key value : String) (rest : Environment) (name : String) :
    find? ((key, value) :: rest) name = if name = key then some value else rest.find? name := by
  by_cases h : name = key
  · subst h
    simp [find?]
  · have hne : (name == key) = false := beq_false_of_ne h
    simp [find?, List.lookup_cons, hne, h]

theorem find?_set (env : Environment) (name value other : String) :
    (env.set name value).find? other = if other = name then some value else env.find? other := by
  induction env with
  | nil => exact find?_cons name value [] other
  | cons entry rest ih =>
    rcases entry with ⟨key, old⟩
    by_cases hkey : key = name
    · subst hkey
      by_cases h : other = key <;> simp [set, find?_cons, h]
    · by_cases h : other = key
      · subst h
        simp [set, find?_cons, hkey]
      · simp [set, find?_cons, hkey, h, ih]

theorem exists_nonempty?_iff {name : String} :
    (∃ value, env.nonempty? name = some value) ↔
      ∃ value, env.find? name = some value ∧ value ≠ "" := by
  simp [nonempty?, Option.filter_eq_some_iff]

/-- The same variables are set, and they have the same values unless they are hidden. -/
def SameBut (hidden : List String) (env env' : Environment) : Prop :=
  ∀ name, (env.find? name).isSome = (env'.find? name).isSome ∧
    (name ∉ hidden → env.find? name = env'.find? name)

theorem SameBut.refl (hidden : List String) (env : Environment) : SameBut hidden env env :=
  fun _ => ⟨rfl, fun _ => rfl⟩

theorem SameBut.mono {hidden' : List String} (h : SameBut hidden env env')
    (hsub : ∀ name ∈ hidden, name ∈ hidden') : SameBut hidden' env env' :=
  fun name => ⟨(h name).1, fun hname => (h name).2 fun hmem => hname (hsub name hmem)⟩

/-- A variable gets the same value in both, or it is hidden. -/
theorem SameBut.set (h : SameBut hidden env env') (hvalue : value = value' ∨ name ∈ hidden) :
    SameBut hidden (env.set name value) (env'.set name value') := by
  intro other
  rw [find?_set, find?_set]
  by_cases hother : other = name
  · subst hother
    simp only [if_true]
    refine ⟨rfl, fun hvisible => ?_⟩
    rw [hvalue.resolve_right hvisible]
  · simp only [hother, if_false]
    exact h other

theorem SameBut.extend (h : SameBut hidden env env') (more : List (String × String)) :
    SameBut hidden (env.extend more) (env'.extend more) := by
  induction more generalizing env env' with
  | nil => exact h
  | cons entry rest ih => exact ih (h.set (.inl rfl))

end Shipyard.Environment
