import Std.Data.ExtTreeMap
import Shipyard.Fault

/-!
# File systems

A file system is a finite map from locations to directories and files, with a current directory. A
location is the list of names from the root; the root itself is always a directory. There are no
links, so `locate` finds the location of a path by walking over its names: every name but the last
must be that of a directory, and `..` goes back.

Two file systems with the same current directory and the same node at every location are equal
(`FileSystem.ext_node?`).
-/

namespace Shipyard

/-- The names from the root to a place in a file system. -/
abbrev Location := List String

/-- A regular file. -/
structure File where
  /-- what it holds -/
  content : Bytes
  /-- its permission bits -/
  mode : Nat
  /-- when it was changed, in seconds -/
  modified : Int
  deriving DecidableEq, Repr

/-- Whether the owner of a file may read it. -/
def File.mayBeRead (f : File) : Bool := f.mode.testBit 8

/-- Whether the owner of a file may write it. -/
def File.mayBeWritten (f : File) : Bool := f.mode.testBit 7

/-- What is at a location. -/
inductive Node where
  | directory
  | file (f : File)
  deriving DecidableEq, Repr

/-- A file system. -/
structure FileSystem where
  /-- the current directory -/
  cwd : Location
  /-- the nodes below the root -/
  nodes : Std.ExtTreeMap Location Node compare
  /-- the root is no entry of the map -/
  root_absent : nodes[([] : Location)]? = none

namespace FileSystem

/-- The file system with nothing but its root. -/
def empty (cwd : Location) : FileSystem := ⟨cwd, ∅, by simp⟩

/-- The node at a location. -/
def node? (fs : FileSystem) (location : Location) : Option Node :=
  if location = [] then some .directory else fs.nodes[location]?

/-- The file system with a node at a location; the root stays what it is. -/
def put (fs : FileSystem) (location : Location) (node : Node) : FileSystem :=
  if h : location = [] then fs
  else
    { fs with
      nodes := fs.nodes.insert location node
      root_absent := by
        have : compare location [] ≠ .eq := fun he => h (Std.LawfulEqOrd.eq_of_compare he)
        simp [Std.ExtTreeMap.getElem?_insert, this, fs.root_absent] }

/-- The file system without the node at a location. -/
def erase (fs : FileSystem) (location : Location) : FileSystem :=
  { fs with
    nodes := fs.nodes.erase location
    root_absent := by
      rw [Std.ExtTreeMap.getElem?_erase, fs.root_absent, ite_self] }

/-- The file system without a location and all below it. -/
def eraseBelow (fs : FileSystem) (location : Location) : FileSystem :=
  { fs with
    nodes := fs.nodes.filter fun place _ => !location.isPrefixOf place
    root_absent := by
      simp [Std.ExtTreeMap.getElem?_filter, fs.root_absent] }

theorem node?_put (fs : FileSystem) {location : Location} (node : Node) (place : Location)
    (h : location ≠ []) :
    (fs.put location node).node? place =
      if place = location then some node else fs.node? place := by
  unfold node? put
  by_cases hp : place = location
  · subst hp
    simp [h]
  · have : compare location place ≠ .eq := fun he => hp (Std.LawfulEqOrd.eq_of_compare he).symm
    simp [Std.ExtTreeMap.getElem?_insert, h, hp, this]

theorem node?_erase (fs : FileSystem) {location : Location} (place : Location)
    (h : location ≠ []) :
    (fs.erase location).node? place = if place = location then none else fs.node? place := by
  unfold node? erase
  by_cases hp : place = location
  · subst hp
    simp [h]
  · have : compare location place ≠ .eq := fun he => hp (Std.LawfulEqOrd.eq_of_compare he).symm
    simp [Std.ExtTreeMap.getElem?_erase, hp, this]

theorem node?_eraseBelow (fs : FileSystem) {location : Location} (place : Location)
    (h : location ≠ []) :
    (fs.eraseBelow location).node? place =
      if location.isPrefixOf place then none else fs.node? place := by
  unfold node? eraseBelow
  by_cases hp : place = []
  · subst hp
    cases location with
    | nil => exact absurd rfl h
    | cons a l => simp [List.isPrefixOf]
  · by_cases hpre : location.isPrefixOf place = true
    · simp [hp, hpre, Std.ExtTreeMap.getElem?_filter]
    · have keep (o : Option Node) : o.filter (fun _ => true) = o := by cases o <;> rfl
      simp [hp, hpre, Std.ExtTreeMap.getElem?_filter, keep]

/-- The current directory and the nodes decide a file system. -/
theorem ext_node? {fs gs : FileSystem} (hcwd : fs.cwd = gs.cwd)
    (h : ∀ place, fs.node? place = gs.node? place) : fs = gs := by
  have hnodes : fs.nodes = gs.nodes := by
    apply Std.ExtTreeMap.ext_getElem?
    intro place
    by_cases hp : place = []
    · subst hp
      rw [fs.root_absent, gs.root_absent]
    · simpa [node?, hp] using h place
  cases fs
  cases gs
  simp_all

/-! ## Walking -/

/-- The most bytes of a name. -/
def maxNameBytes : Nat := 255

/-- The most bytes of a path. -/
def maxPathBytes : Nat := 4095

/-- One step of a walk: the location of a name in a directory. -/
def step (fs : FileSystem) (location : Location) (name : String) : Except Errno Location :=
  match fs.node? location with
  | none => .error .noEntry
  | some (.file _) => .error .notDirectory
  | some .directory =>
    if name = ".." then .ok location.dropLast
    else if maxNameBytes < name.utf8ByteSize then .error .nameTooLong
    else .ok (location ++ [name])

/-- The location of a path, whether there is a node or not. -/
def walk (fs : FileSystem) (p : Path) : Except Errno Location :=
  if maxPathBytes < p.text.utf8ByteSize then .error .nameTooLong
  else p.parts.foldlM fs.step (if p.anchor = .relative then fs.cwd else [])

/-- The error of the operating system for a path. -/
def osError (errno : Errno) (p : Path) : Fault := .os ⟨errno, .path p.text⟩

/-- The location of a path; a null character is refused before anything is looked up. -/
def locate (fs : FileSystem) (p : Path) : Except Fault Location :=
  if p.hasNull then .error (.refused .nullCharacter)
  else
    match fs.walk p with
    | .ok location => .ok location
    | .error errno => .error (osError errno p)

/-- The node behind a path, if there is one. A walk that fails because something is missing or is no
directory finds nothing, and so does a path with a null character; a name that is too long is an
error even here. -/
def find? (fs : FileSystem) (p : Path) : Except Fault (Option Node) :=
  if p.hasNull then .ok none
  else
    match fs.walk p with
    | .ok location => .ok (fs.node? location)
    | .error .noEntry => .ok none
    | .error .notDirectory => .ok none
    | .error errno => .error (osError errno p)

/-- The locations below a directory with their nodes, in the order of their names. -/
def below (fs : FileSystem) (location : Location) : List (Location × Node) :=
  fs.nodes.toList.filter fun entry => location.isPrefixOf entry.1 && entry.1 ≠ location

end FileSystem

end Shipyard
