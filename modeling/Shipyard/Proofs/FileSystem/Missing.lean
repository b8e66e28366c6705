import Mathlib.Data.List.Induction
import Shipyard.Proofs.FileSystem.Directories

/-!
# Making missing directories

To make directories below one that is there nothing can be in the way but a file. So if it fails
although the path may be looked up, a file is in the way; and if what is missing has nothing below
it, then a failure changes nothing.
-/

namespace Shipyard

variable {fs fs' : FileSystem} {p front : Path} {base loc l m : Location} {names : List String}
  {name : String} {depth : Nat} {fault : Fault}

/-! ## Names below a directory -/

namespace Path

/-- The path of names below a directory. -/
def under (dir : Path) (names : List String) : Path := ⟨dir.anchor, dir.parts ++ names⟩

theorem under_concat (dir : Path) (names : List String) (name : String) :
    dir.under (names ++ [name]) = (dir.under names).entry name := by
  rw [under, under, entry, List.append_assoc]

@[simp] theorem parent_entry (dir : Path) (name : String) : (dir.entry name).parent = dir := by
  rw [parent, entry, List.dropLast_concat]

theorem entry_ne (dir : Path) (name : String) : dir ≠ dir.entry name := by
  intro h
  have hlength := congrArg (fun p : Path => p.parts.length) h
  simp [entry] at hlength

theorem hasNull_entry (h : front.hasNull = true) : (front.entry name).hasNull = true := by
  rw [hasNull, entry, List.any_append]
  rw [hasNull] at h
  rw [h, Bool.true_or]

/-- A path that is too long has none below it that is not. -/
theorem long_entry (h : FileSystem.maxPathBytes < front.text.utf8ByteSize) :
    FileSystem.maxPathBytes < (front.entry name).text.utf8ByteSize := by
  obtain ⟨anchor, parts⟩ := front
  by_cases hparts : parts = []
  · subst hparts
    exfalso
    revert h
    cases anchor <;> decide
  · refine Nat.lt_of_lt_of_le h ?_
    have htext : ((⟨anchor, parts⟩ : Path).entry name).text =
        (⟨anchor, parts⟩ : Path).text ++ ("/" ++ name) := by
      cases anchor <;> simp [text, entry, hparts, String.append_assoc,
        String.intercalate_append_of_ne_nil hparts (List.cons_ne_nil name [])]
    rw [htext, String.utf8ByteSize_append]
    exact Nat.le_add_right ..

end Path

namespace FileSystem

/-- Whether names lead down and are not too long. -/
def Plain (names : List String) : Prop :=
  ∀ name ∈ names, name ≠ ".." ∧ name.utf8ByteSize ≤ maxNameBytes

theorem Plain.left {rest : List String} (h : Plain (names ++ rest)) : Plain names :=
  fun name hname => h name (List.mem_append_left _ hname)

theorem foldl_stepLexically (h : Plain names) :
    names.foldl Path.stepLexically loc = loc ++ names := by
  induction names generalizing loc with
  | nil => rw [List.foldl_nil, List.append_nil]
  | cons name rest ih =>
    obtain ⟨hname, hrest⟩ := List.forall_mem_cons.mp h
    rw [List.foldl_cons, ih hrest, Path.stepLexically, if_neg hname.1, List.append_assoc]
    rfl

/-- How a walk down can end: with all directories on its way, or before one that is missing, or at a
file. -/
theorem foldlM_step_cases (fs : FileSystem) (loc : Location) (h : Plain names) :
    names.foldlM fs.step loc = .ok (loc ++ names) ∨
      names.foldlM fs.step loc = .error .noEntry ∧
        (∃ l, loc <+: l ∧ l <+: loc ++ names ∧ l ≠ loc ++ names ∧ fs.node? l = none) ∨
      names.foldlM fs.step loc = .error .notDirectory ∧
        ∃ l f, loc <+: l ∧ l <+: loc ++ names ∧ fs.node? l = some (.file f) := by
  induction names generalizing loc with
  | nil =>
    rw [List.append_nil]
    exact .inl rfl
  | cons name rest ih =>
    obtain ⟨⟨hup, hlong⟩, hrest⟩ := List.forall_mem_cons.mp h
    rw [List.foldlM_cons]
    unfold step
    -- only from a directory the walk goes on
    rcases hnode : fs.node? loc with _ | _ | f
    · exact .inr (.inl ⟨rfl, loc, List.prefix_refl _, List.prefix_append .., by simp, hnode⟩)
    · simp only [hup, if_false, if_neg (Nat.not_lt.mpr hlong)]
      have hdown : loc ++ [name] ++ rest = loc ++ name :: rest := by simp
      have hloc : loc <+: loc ++ [name] := List.prefix_append ..
      rcases ih (loc ++ [name]) hrest with hok | ⟨herror, l, h₁, h₂, h₃, hl⟩ |
        ⟨herror, l, f, h₁, h₂, hl⟩
      all_goals rw [hdown] at *
      · exact .inl hok
      · exact .inr (.inl ⟨herror, l, hloc.trans h₁, h₂, h₃, hl⟩)
      · exact .inr (.inr ⟨herror, l, f, hloc.trans h₁, h₂, hl⟩)
    · exact .inr (.inr ⟨rfl, loc, f, List.prefix_refl _, List.prefix_append .., hnode⟩)

/-- So how a path below a directory can be looked up. -/
theorem Reaches.locate_under (hreaches : fs.Reaches front base) (hplain : Plain names) :
    (front.under names).hasNull = true ∧
        fs.locate (front.under names) = .error (.refused .nullCharacter) ∨
      maxPathBytes < (front.under names).text.utf8ByteSize ∧
        fs.locate (front.under names) = .error (osError .nameTooLong (front.under names)) ∨
      ((front.under names).hasNull = false ∧
          (front.under names).text.utf8ByteSize ≤ maxPathBytes) ∧
        (fs.locate (front.under names) = .ok (base ++ names) ∨
          fs.locate (front.under names) = .error (osError .noEntry (front.under names)) ∧
            (∃ l, base <+: l ∧ l <+: base ++ names ∧ l ≠ base ++ names ∧ fs.node? l = none) ∨
          fs.locate (front.under names) = .error (osError .notDirectory (front.under names)) ∧
            ∃ l f, base <+: l ∧ l <+: base ++ names ∧ fs.node? l = some (.file f)) := by
  have hwalk : (front.under names).parts.foldlM fs.step ((front.under names).start fs.cwd) =
      names.foldlM fs.step base := by
    show (front.parts ++ names).foldlM fs.step (front.start fs.cwd) = _
    rw [List.foldlM_append, hreaches.walk]
    rfl
  unfold FileSystem.locate
  rw [walk_eq, hwalk]
  by_cases hnull : (front.under names).hasNull = true
  · exact .inl ⟨hnull, if_pos hnull⟩
  by_cases hlong : maxPathBytes < (front.under names).text.utf8ByteSize
  · refine .inr (.inl ⟨hlong, ?_⟩)
    rw [if_neg hnull, if_pos hlong]
  rw [if_neg hnull, if_neg hlong]
  refine .inr (.inr ⟨⟨Bool.eq_false_iff.mpr hnull, Nat.le_of_not_lt hlong⟩, ?_⟩)
  rcases foldlM_step_cases fs base hplain with hok | ⟨herror, hmissing⟩ |
    ⟨herror, hfile⟩
  · exact .inl (by rw [hok])
  · exact .inr (.inl ⟨by rw [herror], hmissing⟩)
  · exact .inr (.inr ⟨by rw [herror], hfile⟩)

end FileSystem

/-! ## One directory -/

namespace Disk

open FileSystem

/-- Behind a path that cannot be looked up there is no directory. -/
theorem runOn_isDirectory_of_lost (h : fs.locate p = .error fault) :
    runOn (isDirectory p) fs = (.ok false, fs) ∨ runOn (isDirectory p) fs = (.error fault, fs) := by
  have hfind : fs.find? p = .ok none ∨ fs.find? p = .error fault := by
    rw [FileSystem.locate] at h
    rw [FileSystem.find?]
    by_cases hnull : p.hasNull = true
    · exact .inl (if_pos hnull)
    · rw [if_neg hnull] at h ⊢
      rcases hwalk : fs.walk p with errno | loc
      all_goals
        rw [hwalk] at h
        cases h
      cases errno with
      | noEntry | notDirectory => exact .inl rfl
      | _ => exact .inr rfl
  rw [isDirectory, runOn_bind, Disk.find?, runOn_query]
  rcases hfind with hnone | herror
  · rw [hnone]
    exact .inl rfl
  · rw [herror]
    exact .inr rfl

/-- A directory is made where there is nothing, and nothing is done where there is one. -/
theorem runOn_ensureDirectory (p : Path) (fs : FileSystem) :
    runOn (ensureDirectory p) fs =
      match fs.locate p with
      | .error fault => (.error fault, fs)
      | .ok loc =>
        match fs.node? loc with
        | none => (.ok (), fs.set loc (some .directory))
        | some .directory => (.ok (), fs)
        | some (.file _) => (.error (osError .alreadyExists p), fs) := by
  rw [ensureDirectory, runOn_bind, runOn_attempt, runOn_makeDirectory]
  rcases hlocate : fs.locate p with fault | loc
  · rw [FileRequest.run_of_lost (r := FileRequest.makeDirectory p) hlocate]
    cases fault with
    | os e =>
      dsimp only [FileRequest.makeDirectory, FileRequest.refused]
      rcases runOn_isDirectory_of_lost hlocate with hno | herror
      · rw [runOn_bind_ok hno]
        simp
      · rw [runOn_bind_error herror]
    | _ => rfl
  · rw [FileRequest.run_of_found (r := FileRequest.makeDirectory p) hlocate]
    have hset := fs.set_node? loc
    have hfind := find?_of_locate hlocate
    rcases hnode : fs.node? loc with _ | _ | f
    all_goals
      rw [hnode] at hset hfind
      dsimp only [FileRequest.makeDirectory, osError]
    · rw [hnode]
      rfl
    · have hdir : runOn (isDirectory p) fs = (.ok true, fs) := by
        rw [isDirectory, runOn_bind, Disk.find?, runOn_query, hfind]
        rfl
      rw [hset, runOn_bind_ok hdir, hnode]
      rfl
    · have hdir : runOn (isDirectory p) fs = (.ok false, fs) := by
        rw [isDirectory, runOn_bind, Disk.find?, runOn_query, hfind]
        rfl
      rw [hset, runOn_bind_ok hdir, hnode]
      rfl

/-! ## Missing directories -/

theorem runOn_ensureDirectories_of_ok (h : runOn (ensureDirectory p) fs = (.ok (), fs')) :
    runOn (ensureDirectories depth p) fs = (.ok (), fs') := by
  cases depth with
  | zero => exact h
  | succ depth =>
    rw [ensureDirectories, runOn_bind, runOn_attempt, h]
    rfl

/-- An error stops it, unless it is that something above is missing. -/
theorem runOn_ensureDirectories_of_error (h : runOn (ensureDirectory p) fs = (.error fault, fs))
    (hfault : ∀ e, fault = .os e → e.errno ≠ .noEntry) :
    runOn (ensureDirectories depth p) fs = (.error fault, fs) := by
  cases depth with
  | zero => exact h
  | succ depth =>
    rw [ensureDirectories, runOn_bind, runOn_attempt, h]
    cases fault with
    | os e =>
      dsimp only
      simp [hfault e rfl]
    | _ => rfl

theorem runOn_ensureDirectories_of_noEntry
    (h : runOn (ensureDirectory p) fs = (.error (osError .noEntry p), fs))
    (hparent : p.parent ≠ p) :
    runOn (ensureDirectories (depth + 1) p) fs =
      runOn (ensureDirectories depth p.parent >>= fun _ => ensureDirectory p) fs := by
  rw [ensureDirectories, runOn_bind, runOn_attempt, h]
  simp [osError, hparent]

/-- Whether a path is refused, or a file is on it below a directory. -/
def Blocked (fs : FileSystem) (front : Path) (base : Location) (names : List String) : Prop :=
  (front.under names).hasNull = true ∨ maxPathBytes < (front.under names).text.utf8ByteSize ∨
    ∃ l f, base <+: l ∧ l <+: base ++ names ∧ fs.node? l = some (.file f)

/-- A directory below one that is there is made, or the path is blocked, or something above it is
missing. -/
theorem ensureDirectory_cases (hreaches : fs.Reaches front base) (hplain : Plain names) :
    (∃ fs', runOn (ensureDirectory (front.under names)) fs = (.ok (), fs')) ∨
      Blocked fs front base names ∧ (∃ fault, (∀ e, fault = .os e → e.errno ≠ .noEntry) ∧
        runOn (ensureDirectory (front.under names)) fs = (.error fault, fs)) ∨
      ((front.under names).hasNull = false ∧
          (front.under names).text.utf8ByteSize ≤ maxPathBytes) ∧
        (∃ l, base <+: l ∧ l <+: base ++ names ∧ l ≠ base ++ names ∧ fs.node? l = none) ∧
        runOn (ensureDirectory (front.under names)) fs =
          (.error (osError .noEntry (front.under names)), fs) := by
  have hrun := runOn_ensureDirectory (front.under names) fs
  rcases hreaches.locate_under hplain with ⟨hnull, hlocate⟩ | ⟨hlong, hlocate⟩ |
    ⟨hadmitted, hlocate | ⟨hlocate, hmissing⟩ | ⟨hlocate, hfile⟩⟩
  all_goals
    rw [hlocate] at hrun
    dsimp only at hrun
  · refine .inr (.inl ⟨.inl hnull, _, ?_, hrun⟩)
    rintro e ⟨⟩
  · refine .inr (.inl ⟨.inr (.inl hlong), _, ?_, hrun⟩)
    rintro e ⟨⟩
    nofun
  · rcases hnode : fs.node? (base ++ names) with _ | _ | f
    all_goals rw [hnode] at hrun
    · exact .inl ⟨_, hrun⟩
    · exact .inl ⟨_, hrun⟩
    · refine .inr (.inl ⟨.inr (.inr ⟨_, f, List.prefix_append .., List.prefix_refl _, hnode⟩), _,
        ?_, hrun⟩)
      rintro e ⟨⟩
      nofun
  · exact .inr (.inr ⟨hadmitted, hmissing, hrun⟩)
  · refine .inr (.inl ⟨.inr (.inr hfile), _, ?_, hrun⟩)
    rintro e ⟨⟩
    nofun

/-- **What is in the way.** If directories cannot be made below one that is there, then the path is
blocked. Nothing was changed, if what is missing has no file below it. -/
theorem of_ensureDirectories_error (hreaches : fs.Reaches front base) (hplain : Plain names)
    (hgap : ∀ l m, base <+: l → l <+: m → m <+: base ++ names → fs.node? l = none →
      ∀ f, fs.node? m ≠ some (.file f)) (hdepth : names.length ≤ depth)
    (h : runOn (ensureDirectories depth (front.under names)) fs = (.error fault, fs')) :
    fs' = fs ∧ Blocked fs front base names := by
  induction names using List.reverseRecOn generalizing depth fault fs' with
  | nil =>
    rcases ensureDirectory_cases hreaches hplain with ⟨fs₁, hok⟩ |
      ⟨hblocked, fault', hfault, herror⟩ | ⟨-, ⟨l, h₁, h₂, hne, -⟩, -⟩
    · rw [runOn_ensureDirectories_of_ok hok] at h
      cases h
    · rw [runOn_ensureDirectories_of_error herror hfault] at h
      cases h
      exact ⟨rfl, hblocked⟩
    · rw [List.append_nil] at h₂ hne
      exact absurd (h₂.eq_of_length (Nat.le_antisymm h₂.length_le h₁.length_le)) hne
  | append_singleton names name ih =>
    rcases ensureDirectory_cases hreaches hplain with ⟨fs₁, hok⟩ |
      ⟨hblocked, fault', hfault, herror⟩ | ⟨⟨hnull, hshort⟩, ⟨l, h₁, h₂, hne, hmissing⟩, herror⟩
    · rw [runOn_ensureDirectories_of_ok hok] at h
      cases h
    · rw [runOn_ensureDirectories_of_error herror hfault] at h
      cases h
      exact ⟨rfl, hblocked⟩
    rw [Path.under_concat] at h herror hnull hshort
    obtain ⟨depth, rfl⟩ : ∃ n, depth = n + 1 := by
      rw [List.length_append, List.length_singleton] at hdepth
      exact ⟨depth - 1, by omega⟩
    rw [runOn_ensureDirectories_of_noEntry herror
      (by rw [Path.parent_entry]; exact Path.entry_ne _ _), Path.parent_entry] at h
    rcases habove : runOn (ensureDirectories depth (front.under names)) fs with ⟨fault' | u, fs₁⟩
    -- what is above could not be made
    · rw [runOn_bind_error habove] at h
      cases h
      have hprefix : base ++ names <+: base ++ (names ++ [name]) := by
        rw [← List.append_assoc]
        exact List.prefix_append ..
      obtain ⟨hsame, hnull' | hlong | ⟨m, f, hm₁, hm₂, hfile⟩⟩ := ih hplain.left
        (fun l m hl hm hmn => hgap l m hl hm (hmn.trans hprefix))
        (by rw [List.length_append, List.length_singleton] at hdepth; omega) habove
      · rw [Path.hasNull_entry hnull'] at hnull
        cases hnull
      · exact absurd (Path.long_entry hlong) (Nat.not_lt.mpr hshort)
      · exact ⟨hsame, .inr (.inr ⟨m, f, hm₁, hm₂.trans hprefix, hfile⟩)⟩
    -- it is there now, and nothing is in the way any more
    · exfalso
      rw [runOn_bind_ok habove] at h
      obtain ⟨hgrown, base', hreaches'⟩ :=
        (ensures_ensureDirectories depth (front.under names)).of_runOn_ok (.refl _ fs) habove
      obtain ⟨hup, hfits⟩ := hplain name (by simp)
      have hbase' : base' = base ++ names := by
        rw [hreaches'.eq_place, hgrown.cwd, Path.place_eq]
        show (front.parts ++ names).foldl _ (front.start fs.cwd) = _
        rw [List.foldl_append, ← Path.place_eq, ← hreaches.eq_place,
          foldl_stepLexically hplain.left]
      have hrun := runOn_ensureDirectory ((front.under names).entry name) fs₁
      rw [hreaches'.locate hup ⟨hnull, hshort, hfits⟩, hbase', List.append_assoc, h] at hrun
      rcases hnode : fs₁.node? (base ++ (names ++ [name])) with _ | _ | f
      all_goals
        dsimp only at hrun
        rw [hnode] at hrun
        cases hrun
      exact hgap l _ h₁ h₂ (List.prefix_refl _) hmissing f (hgrown.file_iff.mp hnode)

end Disk

end Shipyard
