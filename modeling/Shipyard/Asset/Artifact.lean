import Shipyard.Asset.Checksum

/-!
# Artifacts and published releases

An artifact is an archive with its checksum; its archive and its sidecar are the assets that are
published. A published release is a number and the set of the names of its assets, kept as an
increasing list, so that two releases with the same names are equal.
-/

namespace Shipyard

/-- An archive that is ready to be published. -/
structure Artifact where
  /-- the name of the program -/
  program : String
  /-- the version of the program -/
  version : String
  /-- the architecture that the program runs on -/
  triple : String
  /-- where the archive is -/
  archive : Path
  /-- the checksum of the archive -/
  checksum : Checksum
  deriving DecidableEq, Repr

namespace Artifact

/-- The name of the archive. -/
def archiveName (a : Artifact) : String := a.archive.name

/-- Where the sidecar is. -/
def sidecar (a : Artifact) : Except Refusal Path := sidecarPath a.archive

/-- Archive and sidecar. -/
def assets (a : Artifact) : Except Refusal (List Path) := do return [a.archive, ← a.sidecar]

/-- The platform of the artifact, or its triple if no built-in target has it. -/
def platform (a : Artifact) : String := (BuildTarget.platformOfTriple? a.triple).getD a.triple

end Artifact

/-! ## Published releases -/

/-- Puts a name into an increasing list of names, unless it is there. -/
def insertName (name : String) : List String → List String
  | [] => [name]
  | other :: rest =>
    if name = other then other :: rest
    else if name < other then name :: other :: rest
    else other :: insertName name rest

theorem mem_insertName {x name : String} {names : List String} :
    x ∈ insertName name names ↔ x = name ∨ x ∈ names := by
  induction names with
  | nil => simp [insertName]
  | cons other rest ih =>
    unfold insertName
    split
    · next h => subst h; simp
    · split
      · simp
      · simp only [List.mem_cons, ih]
        exact ⟨fun h => by rcases h with h | h | h <;> simp [h],
          fun h => by rcases h with h | h | h <;> simp [h]⟩

/-- The increasing list of some names. -/
def nameSet (names : List String) : List String := names.foldr insertName []

/-- A release with the names of its assets. -/
structure PublishedRelease where
  /-- the number of the release -/
  id : Int
  /-- the names of the assets, increasing -/
  assets : List String
  deriving DecidableEq, Repr

namespace PublishedRelease

/-- The release with further assets. Assets of the same name replace each other. -/
def attach (r : PublishedRelease) (names : List String) : PublishedRelease :=
  { r with assets := names.foldr insertName r.assets }

/-- The release with only those assets that are among the given names. -/
def restrict (r : PublishedRelease) (names : List String) : PublishedRelease :=
  { r with assets := r.assets.filter (names.contains ·) }

theorem mem_attach {r : PublishedRelease} {x : String} {names : List String} :
    x ∈ (r.attach names).assets ↔ x ∈ names ∨ x ∈ r.assets := by
  show x ∈ names.foldr insertName r.assets ↔ _
  induction names with
  | nil => simp
  | cons name rest ih => simp only [List.foldr_cons, mem_insertName, ih, List.mem_cons, or_assoc]

end PublishedRelease

end Shipyard
