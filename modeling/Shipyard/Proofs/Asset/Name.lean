import Shipyard.Asset.Artifact
import Shipyard.Plan.Context
import Shipyard.Proofs.Path
import Shipyard.Proofs.Text.Blank

/-!
# Assets of different targets

The names of the assets of a target end with its architecture and with the endings of its files.
None of these ends is the end of another, so two targets share no asset, whatever the program and
its version are called.
-/

namespace Shipyard

/-! ## Ends of names -/

namespace BuildTarget

/-- The end of the name of an archive, from the architecture on. -/
def archiveTail (target : BuildTarget) : String :=
  "_" ++ target.triple ++ target.exeSuffix ++ target.archiveFormat.suffix

/-- The ends of the names of the assets of a target. -/
def assetTails (target : BuildTarget) : List String :=
  [target.archiveTail, target.archiveTail ++ sidecarSuffix]

theorem archiveName_eq_append (target : BuildTarget) (program version : String) :
    target.archiveName program version = program ++ "_" ++ version ++ target.archiveTail := by
  simp only [archiveName, binaryName, archiveTail, String.append_assoc]

/-- An end of a name is long enough to be one, and is below no other directory. -/
theorem assetTails_plain :
    ∀ target ∈ all, ∀ tail ∈ target.assetTails, '/' ∉ tail.toList ∧ 2 ≤ tail.length := by
  decide

/-- An end has no blanks at its own ends. -/
theorem assetTails_unstripped {target : BuildTarget} {tail : String} (h : target ∈ all)
    (htail : tail ∈ target.assetTails) :
    (∃ c, tail.toList.head? = some c ∧ Text.isBlank c = false) ∧
      ∃ c, tail.toList.getLast? = some c ∧ Text.isBlank c = false := by
  have hall : ∀ target ∈ all, ∀ tail ∈ target.assetTails,
      tail.toList.head?.any (fun c => !Text.isBlank c) = true ∧
        tail.toList.getLast?.any (fun c => !Text.isBlank c) = true := by
    decide
  simpa [Option.any_eq_true] using hall target h tail htail

/-- **No end is the end of another.** -/
theorem eq_of_suffix :
    ∀ target ∈ all, ∀ tail ∈ target.assetTails, ∀ target' ∈ all, ∀ tail' ∈ target'.assetTails,
      tail.toList <:+ tail'.toList → target = target' ∧ tail = tail' := by
  decide

/-- A name has one end at most. -/
theorem eq_of_append_eq {target target' : BuildTarget} {tail tail' front front' : String}
    (ht : target ∈ all) (htail : tail ∈ target.assetTails) (ht' : target' ∈ all)
    (htail' : tail' ∈ target'.assetTails) (h : front ++ tail = front' ++ tail') :
    target = target' ∧ tail = tail' := by
  have hlist : front.toList ++ tail.toList = front'.toList ++ tail'.toList := by
    rw [← String.toList_append, h, String.toList_append]
  have hsuffix : tail.toList <:+ front'.toList ++ tail'.toList := ⟨front.toList, hlist⟩
  rcases List.suffix_or_suffix_of_suffix hsuffix (List.suffix_append ..) with hs | hs
  · exact eq_of_suffix target ht tail htail target' ht' tail' htail' hs
  · obtain ⟨heq, heq'⟩ := eq_of_suffix target' ht' tail' htail' target ht tail htail hs
    exact ⟨heq.symm, heq'.symm⟩

end BuildTarget

/-! ## Names of assets -/

namespace Artifact

/-- The names of the assets of an artifact. -/
def names (a : Artifact) : List String := [a.archiveName, sidecarName a.archiveName]

theorem mem_names {a : Artifact} {name : String} :
    name ∈ a.names ↔ name = a.archiveName ∨ name = sidecarName a.archiveName := by
  simp [names]

/-- An archive with a name has a sidecar. -/
theorem exists_assets_eq_ok {a : Artifact} (h : Path.IsName a.archiveName) :
    ∃ files, a.assets = .ok files := by
  have hparts : a.archive.parts ≠ [] := by
    intro hnil
    exact h.ne_empty (by rw [archiveName, Path.name, hnil]; rfl)
  simp only [assets, sidecar, sidecarPath, Path.withName?, if_neg hparts]
  exact ⟨_, rfl⟩

/-- The assets of an artifact are its archive and the sidecar next to it. -/
theorem eq_pair_of_assets_eq_ok {a : Artifact} {files : List Path} (h : a.assets = .ok files) :
    ∃ sidecar, files = [a.archive, sidecar] ∧ sidecar.name = sidecarName a.archiveName := by
  by_cases hparts : a.archive.parts = []
  · simp only [assets, sidecar, sidecarPath, Path.withName?, if_pos hparts] at h
    cases h
  · simp only [assets, sidecar, sidecarPath, Path.withName?, if_neg hparts] at h
    cases h
    exact ⟨_, rfl, by simp [archiveName, Path.name]⟩

theorem names_of_assets_eq_ok {a : Artifact} {files : List Path} (h : a.assets = .ok files) :
    files.map (·.name) = a.names := by
  obtain ⟨sidecar, rfl, hsidecar⟩ := eq_pair_of_assets_eq_ok h
  simp [names, archiveName, hsidecar]

end Artifact

theorem Path.IsName.sidecarName {name : String} (h : IsName name) : IsName (sidecarName name) := by
  refine ⟨?_, ?_, ?_⟩
  · simp [Shipyard.sidecarName, sidecarSuffix]
  · intro heq
    have hlength := congrArg String.length heq
    have hsuffix : 2 ≤ sidecarSuffix.length := by decide
    have hdot : ".".length = 1 := by decide
    rw [Shipyard.sidecarName, String.length_append, hdot] at hlength
    omega
  · have := h.no_slash
    simp [Shipyard.sidecarName, sidecarSuffix, this]

namespace RunContext

variable {c : RunContext} {target target' : BuildTarget} {name : String}

/-- Where the archive of a target is made. -/
def archivePath (c : RunContext) (target : BuildTarget) : Path :=
  (c.stagingDir target).child
    (target.archiveName c.config.project.binaryName c.event.version)

/-- The names under which a run publishes a target. -/
def assetNames (c : RunContext) (target : BuildTarget) : List String :=
  [(c.archivePath target).name, sidecarName (c.archivePath target).name]

@[simp] theorem mem_assetNames : name ∈ c.assetNames target ↔
    name = (c.archivePath target).name ∨ name = sidecarName (c.archivePath target).name := by
  simp [assetNames]

theorem archivePath_name (h : target ∈ BuildTarget.all) :
    ∃ front, (c.archivePath target).name = front ++ target.archiveTail ∧
      Path.IsName (c.archivePath target).name := by
  obtain ⟨hslash, hlong⟩ :=
    BuildTarget.assetTails_plain target h target.archiveTail (List.mem_cons_self ..)
  have hread := Path.name_ofText_append
    (s := c.config.project.binaryName ++ "_" ++ c.event.version) hslash hlong
  rw [← BuildTarget.archiveName_eq_append] at hread
  obtain ⟨front, hname, hisName, hparts⟩ := hread
  have hchild : (c.archivePath target).name = front ++ target.archiveTail := by
    rw [archivePath, Path.name_child hparts, hname]
  exact ⟨front, hchild, by rw [hchild]; exact hisName⟩

theorem exists_tail_of_mem_assetNames (h : target ∈ BuildTarget.all)
    (hn : name ∈ c.assetNames target) : ∃ front, ∃ tail ∈ target.assetTails, name = front ++ tail := by
  obtain ⟨front, hname, -⟩ := archivePath_name (c := c) h
  rcases mem_assetNames.mp hn with rfl | rfl
  · exact ⟨front, _, List.mem_cons_self .., hname⟩
  · refine ⟨front, _, List.mem_cons_of_mem _ (List.mem_singleton_self _), ?_⟩
    rw [hname, sidecarName, String.append_assoc]

/-- **An asset belongs to one target.** -/
theorem eq_of_mem_assetNames (h : target ∈ BuildTarget.all) (h' : target' ∈ BuildTarget.all)
    (hn : name ∈ c.assetNames target) (hn' : name ∈ c.assetNames target') : target = target' := by
  obtain ⟨front, tail, hmem, heq⟩ := exists_tail_of_mem_assetNames h hn
  obtain ⟨front', tail', hmem', heq'⟩ := exists_tail_of_mem_assetNames h' hn'
  exact (BuildTarget.eq_of_append_eq h hmem h' hmem' (heq ▸ heq')).1

/-- Not even with blanks around its name can it be taken for one of another target. -/
theorem eq_of_strip_mem_assetNames (h : target ∈ BuildTarget.all) (h' : target' ∈ BuildTarget.all)
    (hn : name ∈ c.assetNames target) (hn' : Text.strip name ∈ c.assetNames target') :
    target = target' := by
  obtain ⟨front, tail, hmem, rfl⟩ := exists_tail_of_mem_assetNames h hn
  obtain ⟨front', tail', hmem', heq'⟩ := exists_tail_of_mem_assetNames h' hn'
  obtain ⟨hfirst, hlast⟩ := BuildTarget.assetTails_unstripped h hmem
  obtain ⟨stripped, hstripped⟩ := Text.exists_strip_append hfirst hlast
  exact (BuildTarget.eq_of_append_eq h hmem h' hmem' (hstripped.symm.trans heq')).1

end RunContext

end Shipyard
