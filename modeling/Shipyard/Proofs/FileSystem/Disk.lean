import Shipyard.FileSystem.Disk

/-!
# Running computations on files

How the pieces that computations on files are made of run on a file system: one equation for each.
Of a whole computation one often needs to know only little: that it reads and changes nothing
(`Disk.Reads`), or a property of whatever it gives, on all file systems (`Disk.Gives`).
`Disk.Ensures` says the most: from which files it comes to which.
-/

namespace Shipyard.Disk

variable {α β : Type} {d : Disk α} {f : α → Disk β} {P : α → Prop} {Q : β → Prop}

/-! ## Equations -/

@[simp] theorem runOn_pure (a : α) (fs : FileSystem) : runOn (pure a) fs = (.ok a, fs) := rfl

@[simp] theorem runOn_throw (fault : Fault) (fs : FileSystem) :
    runOn (throw fault : Disk α) fs = (.error fault, fs) := rfl

@[simp] theorem runOn_get (fs : FileSystem) : runOn (get : Disk FileSystem) fs = (.ok fs, fs) := rfl

/-- A sequence stops at the first fault. -/
theorem runOn_bind (d : Disk α) (f : α → Disk β) (fs : FileSystem) :
    runOn (d >>= f) fs =
      match runOn d fs with
      | (.ok a, fs') => runOn (f a) fs'
      | (.error fault, fs') => (.error fault, fs') := by
  show (ExceptT.bind d f : ExceptT Fault (StateM FileSystem) β) fs = _
  simp only [ExceptT.bind, ExceptT.mk, bind, StateT.bind, runOn, ExceptT.run, StateT.run]
  rcases d fs with ⟨_ | a, fs'⟩ <;> rfl

theorem runOn_bind_ok {fs fs' : FileSystem} {a : α} (h : runOn d fs = (.ok a, fs')) :
    runOn (d >>= f) fs = runOn (f a) fs' := by
  rw [runOn_bind, h]

theorem runOn_bind_error {fs fs' : FileSystem} {fault : Fault}
    (h : runOn d fs = (.error fault, fs')) : runOn (d >>= f) fs = (.error fault, fs') := by
  rw [runOn_bind, h]

/-- A sequence that gives something has been run to its end. -/
theorem runOn_bind_eq_ok {fs fs' : FileSystem} {b : β} :
    runOn (d >>= f) fs = (.ok b, fs') ↔
      ∃ a fs₁, runOn d fs = (.ok a, fs₁) ∧ runOn (f a) fs₁ = (.ok b, fs') := by
  rw [runOn_bind]
  rcases runOn d fs with ⟨fault | a, fs₁⟩
  · simp
  · constructor
    · exact fun h => ⟨a, fs₁, rfl, h⟩
    · rintro ⟨_, _, ⟨⟩, h⟩
      exact h

@[simp] theorem runOn_query (f : FileSystem → Except Fault α) (fs : FileSystem) :
    runOn (query f) fs = (f fs, fs) := by
  rw [query, runOn_bind_ok (runOn_get fs)]
  rcases h : f fs with fault | a <;> rfl

/-- Of an attempt only a fault that is no error of the operating system remains one. -/
theorem runOn_attempt (d : Disk α) (fs : FileSystem) :
    runOn (attempt d) fs =
      match runOn d fs with
      | (.ok a, fs') => (.ok (.ok a), fs')
      | (.error (.os e), fs') => (.ok (.error e), fs')
      | (.error fault, fs') => (.error fault, fs') := by
  unfold attempt tryCatch instMonadExceptOfMonadExceptOf
  simp only [tryCatchThe, MonadExceptOf.tryCatch, ExceptT.tryCatch, ExceptT.mk, runOn, ExceptT.run,
    bind, StateT.bind, StateT.run, ExceptT.bind, ExceptT.bindCont, pure, ExceptT.pure]
  rcases d fs with ⟨fault | a, fs'⟩
  · cases fault <;> rfl
  · rfl

/-- An attempt that has succeeded. -/
theorem runOn_attempt_eq_ok {fs fs' : FileSystem} {a : α} :
    runOn (attempt d) fs = (.ok (.ok a), fs') ↔ runOn d fs = (.ok a, fs') := by
  rw [runOn_attempt]
  rcases runOn d fs with ⟨fault | a', fs₁⟩
  · cases fault <;> simp
  · simp

/-! ## Reading -/

/-- Whether a computation leaves all files as they are. -/
def Reads (d : Disk α) : Prop := ∀ fs, (d.runOn fs).2 = fs

theorem reads_pure {a : α} : Reads (pure a) := fun _ => rfl

theorem reads_throw {fault : Fault} : Reads (throw fault : Disk α) := fun _ => rfl

theorem reads_query {f : FileSystem → Except Fault α} : Reads (query f) := fun fs => by
  rw [runOn_query]

theorem Reads.bind (hd : Reads d) (hf : ∀ a, Reads (f a)) : Reads (d >>= f) := by
  intro fs
  have hfs := hd fs
  rcases hrun : runOn d fs with ⟨fault | a, fs'⟩
  · rw [runOn_bind_error hrun]
    rwa [hrun] at hfs
  · rw [runOn_bind_ok hrun, hf a]
    rwa [hrun] at hfs

theorem Reads.attempt (hd : Reads d) : Reads (Disk.attempt d) := by
  intro fs
  have hfs := hd fs
  rw [runOn_attempt]
  rcases hrun : runOn d fs with ⟨fault | a, fs'⟩
  · rw [hrun] at hfs
    cases fault <;> exact hfs
  · rw [hrun] at hfs
    exact hfs

theorem reads_pathExists {p : Path} : Reads (pathExists p) :=
  reads_query.bind fun _ => reads_pure

theorem reads_isFile {p : Path} : Reads (isFile p) := by
  refine reads_query.bind fun found => ?_
  split
  · exact reads_pure
  · exact reads_pure

theorem reads_openFile {p : Path} : Reads (openFile p) := by
  refine reads_query.bind fun location => Reads.bind (fun _ => rfl) fun fs => ?_
  split
  · split
    · exact reads_pure
    · exact reads_throw
  · exact reads_throw
  · exact reads_throw

theorem reads_readBytes {p : Path} : Reads (readBytes p) :=
  reads_openFile.bind fun _ => reads_pure

theorem reads_readText {p : Path} : Reads (readText p) := by
  refine reads_readBytes.bind fun content => ?_
  split
  · exact reads_pure
  · exact reads_throw

/-- A computation that changes nothing is known if each of its ends has a description, and one of the
descriptions fits. -/
theorem exists_result {E : Fault → Prop} {fs : FileSystem} (htotal : (∃ fault, E fault) ∨ ∃ a, P a)
    (herror : ∀ fault, E fault → runOn d fs = (.error fault, fs))
    (hok : ∀ a, P a → runOn d fs = (.ok a, fs)) :
    ∃ result, runOn d fs = (result, fs) ∧ (∀ fault, result = .error fault ↔ E fault) ∧
      ∀ a, result = .ok a ↔ P a := by
  rcases htotal with ⟨fault, hE⟩ | ⟨a, hP⟩
  · refine ⟨_, herror fault hE, fun fault' => ⟨?_, fun h => ?_⟩, fun a => ⟨nofun, fun h => ?_⟩⟩
    · rintro ⟨⟩
      exact hE
    · exact congrArg Prod.fst ((herror fault hE).symm.trans (herror fault' h))
    · exact congrArg Prod.fst ((herror fault hE).symm.trans (hok a h))
  · refine ⟨_, hok a hP, fun fault => ⟨nofun, fun h => ?_⟩, fun a' => ⟨?_, fun h => ?_⟩⟩
    · exact congrArg Prod.fst ((hok a hP).symm.trans (herror fault h))
    · rintro ⟨⟩
      exact hP
    · exact congrArg Prod.fst ((hok a hP).symm.trans (hok a' h))

/-! ## Results -/

/-- Whether everything that a computation can give has a property. -/
def Gives (d : Disk α) (P : α → Prop) : Prop := ∀ fs a, (d.runOn fs).1 = .ok a → P a

theorem gives_pure {a : α} (h : P a) : Gives (pure a) P := by
  rintro fs _ ⟨⟩
  exact h

theorem gives_throw {fault : Fault} : Gives (throw fault : Disk α) P := by
  rintro fs _ ⟨⟩

theorem Gives.bind (hd : Gives d P) (hf : ∀ a, P a → Gives (f a) Q) : Gives (d >>= f) Q := by
  intro fs b hb
  rw [runOn_bind] at hb
  rcases hrun : runOn d fs with ⟨_ | a, fs'⟩
  · rw [hrun] at hb
    cases hb
  · rw [hrun] at hb
    exact hf a (hd fs a (by rw [hrun])) fs' b hb

/-- Of what comes first nothing needs to be known. -/
theorem gives_bind (hf : ∀ a, Gives (f a) Q) : Gives (d >>= f) Q :=
  Gives.bind (P := fun _ => True) (fun _ _ _ => trivial) fun a _ => hf a

theorem Gives.attempt (h : Gives d P) : Gives (attempt d) fun r => ∀ a, r = .ok a → P a := by
  rintro fs _ hr a rfl
  refine h fs a ?_
  rw [runOn_attempt] at hr
  rcases hrun : runOn d fs with ⟨fault | b, fs'⟩
  · rw [hrun] at hr
    cases fault <;> cases hr
  · rw [hrun] at hr
    cases hr
    rfl

/-! ## Files before and behind -/

section Ensures

variable {P P' : FileSystem → Prop} {Q Q' : α → FileSystem → Prop} {R : β → FileSystem → Prop}
  {E E' : Fault → FileSystem → Prop}

/-- Whether a computation comes from files with a property to files with another one, which may
depend on what it gives or on its fault. -/
def Ensures (P : FileSystem → Prop) (d : Disk α) (Q : α → FileSystem → Prop)
    (E : Fault → FileSystem → Prop) : Prop :=
  ∀ fs, P fs → match d.runOn fs with
    | (.ok a, fs') => Q a fs'
    | (.error fault, fs') => E fault fs'

theorem Ensures.of_runOn_ok {fs fs' : FileSystem} {a : α} (h : Ensures P d Q E) (hP : P fs)
    (hrun : runOn d fs = (.ok a, fs')) : Q a fs' := by
  have := h fs hP
  rwa [hrun] at this

theorem Ensures.of_runOn_error {fs fs' : FileSystem} {fault : Fault} (h : Ensures P d Q E)
    (hP : P fs) (hrun : runOn d fs = (.error fault, fs')) : E fault fs' := by
  have := h fs hP
  rwa [hrun] at this

/-- What holds in either case holds of the files that are left. -/
theorem Ensures.left {I : FileSystem → Prop} (h : Ensures P d (fun _ => I) fun _ => I)
    {fs : FileSystem} (hP : P fs) : I (runOn d fs).2 := by
  rcases hrun : runOn d fs with ⟨fault | a, fs'⟩
  · exact h.of_runOn_error hP hrun
  · exact h.of_runOn_ok hP hrun

theorem Ensures.mono (h : Ensures P d Q E) (hP : ∀ fs, P' fs → P fs)
    (hQ : ∀ a fs, Q a fs → Q' a fs) (hE : ∀ fault fs, E fault fs → E' fault fs) :
    Ensures P' d Q' E' := by
  intro fs hP'
  rcases hrun : runOn d fs with ⟨fault | a, fs'⟩
  · exact hE _ _ (h.of_runOn_error (hP _ hP') hrun)
  · exact hQ _ _ (h.of_runOn_ok (hP _ hP') hrun)

theorem Ensures.imp (h : Ensures P d Q E) (hQ : ∀ a fs, Q a fs → Q' a fs)
    (hE : ∀ fault fs, E fault fs → E' fault fs) : Ensures P d Q' E' :=
  h.mono (fun _ hP => hP) hQ hE

theorem ensures_exists {ι : Type} {P : ι → FileSystem → Prop} (h : ∀ i, Ensures (P i) d Q E) :
    Ensures (fun fs => ∃ i, P i fs) d Q E :=
  fun fs ⟨i, hi⟩ => h i fs hi

theorem ensures_and {p : Prop} (h : p → Ensures P d Q E) : Ensures (fun fs => p ∧ P fs) d Q E :=
  fun fs ⟨hp, hP⟩ => h hp fs hP

theorem ensures_pure {a : α} (h : ∀ fs, P fs → Q a fs) : Ensures P (pure a) Q E := h

theorem ensures_throw {fault : Fault} (h : ∀ fs, P fs → E fault fs) :
    Ensures P (throw fault : Disk α) Q E := h

theorem Ensures.bind (hd : Ensures P d Q E) (hf : ∀ a, Ensures (Q a) (f a) R E) :
    Ensures P (d >>= f) R E := by
  intro fs hP
  rcases hrun : runOn d fs with ⟨fault | a, fs'⟩
  · rw [runOn_bind_error hrun]
    exact hd.of_runOn_error hP hrun
  · rw [runOn_bind_ok hrun]
    exact hf a fs' (hd.of_runOn_ok hP hrun)

/-- A step that meets no fault adds none. -/
theorem Ensures.bind_total (hd : Ensures P d Q fun _ _ => False)
    (hf : ∀ a, Ensures (Q a) (f a) R E) : Ensures P (d >>= f) R E :=
  (hd.imp (fun _ _ h => h) fun _ _ h => h.elim).bind hf

/-- In an attempt errors of the operating system are values. -/
theorem Ensures.attempt (h : Ensures P d Q E) :
    Ensures P (Disk.attempt d)
      (fun r fs => match r with
        | .ok a => Q a fs
        | .error e => E (.os e) fs) E := by
  intro fs hP
  rw [runOn_attempt]
  rcases hrun : runOn d fs with ⟨fault | a, fs'⟩
  · have hE := h.of_runOn_error hP hrun
    cases fault <;> exact hE
  · exact h.of_runOn_ok hP hrun

/-- An attempt meets no fault if there are only errors of the operating system. -/
theorem Ensures.attempt_of_os {I : FileSystem → Prop}
    (h : Ensures P d Q fun fault fs => (∃ e, fault = .os e) ∧ I fs) :
    Ensures P (Disk.attempt d)
      (fun r fs => match r with
        | .ok a => Q a fs
        | .error _ => I fs) fun _ _ => False := by
  intro fs hP
  rw [runOn_attempt]
  rcases hrun : runOn d fs with ⟨fault | a, fs'⟩
  · obtain ⟨⟨e, rfl⟩, hI⟩ := h.of_runOn_error hP hrun
    exact hI
  · exact h.of_runOn_ok hP hrun

/-- Reading leaves the files as they are. -/
theorem Reads.ensures (h : Reads d) (hP : ∀ fs, P fs → match (d.runOn fs).1 with
    | .ok a => Q a fs
    | .error fault => E fault fs) : Ensures P d Q E := by
  intro fs hPfs
  have hfs := h fs
  have hpost := hP fs hPfs
  rcases hrun : runOn d fs with ⟨fault | a, fs'⟩
  · rw [hrun] at hfs hpost
    obtain rfl : fs' = fs := hfs
    exact hpost
  · rw [hrun] at hfs hpost
    obtain rfl : fs' = fs := hfs
    exact hpost

end Ensures

end Shipyard.Disk
