import Shipyard.Text.Search

/-!
# Paths

A path is an anchor and the names below it. Reading a path drops empty names and `.`, and keeps
`..`, because what `..` means depends on the file system; a path therefore has one written form.
`resolve` is the other view: an absolute path in which every `..` has taken a name away.
-/

namespace Shipyard

/-- Where a path starts. -/
inductive Anchor where
  /-- at the current directory -/
  | relative
  /-- at the root -/
  | root
  /-- at the root, written with exactly two slashes -/
  | doubleRoot
  deriving DecidableEq, Repr

/-- A path in its normal form: no name is empty or `.`. -/
structure Path where
  /-- where it starts -/
  anchor : Anchor
  /-- the names from there on -/
  parts : List String
  deriving DecidableEq, Repr

namespace Path

/-- The names of a text with slashes between them. -/
def partsOf (cs : List Char) : List String :=
  ((Text.splitAt '/' cs).map String.ofList).filter fun name => name ≠ "" && name ≠ "."

/-- The anchor of a text: two slashes at its beginning differ from one and from three. -/
def anchorOf : List Char → Anchor
  | '/' :: '/' :: '/' :: _ => .root
  | '/' :: '/' :: _ => .doubleRoot
  | '/' :: _ => .root
  | _ => .relative

/-- The path that a text stands for. -/
def ofText (s : String) : Path := ⟨anchorOf s.toList, partsOf s.toList⟩

/-- A path as text; the path without names at the current directory is `.`. -/
def text (p : Path) : String :=
  let names := String.intercalate "/" p.parts
  match p.anchor with
  | .relative => if p.parts = [] then "." else names
  | .root => "/" ++ names
  | .doubleRoot => "//" ++ names

instance : ToString Path := ⟨text⟩

/-- The path `q` seen from `p`: an absolute path stands for itself. -/
def join (p q : Path) : Path :=
  match q.anchor with
  | .relative => ⟨p.anchor, p.parts ++ q.parts⟩
  | _ => q

instance : Div Path := ⟨join⟩

/-- The path of a text seen from `p`. -/
def child (p : Path) (s : String) : Path := p / ofText s

/-- The last name, or nothing. -/
def name (p : Path) : String := p.parts.getLastD ""

/-- The path without its last name. -/
def parent (p : Path) : Path := ⟨p.anchor, p.parts.dropLast⟩

/-- The path with another last name; a path without names has none to replace. -/
def withName? (p : Path) (name : String) : Option Path :=
  if p.parts = [] then none else some ⟨p.anchor, p.parts.dropLast ++ [name]⟩

/-- Adds a name to an absolute list of names; `..` takes the last one away. -/
def stepLexically (names : List String) (name : String) : List String :=
  if name = ".." then names.dropLast else names ++ [name]

/-- The absolute path without `..` that `p` stands for at a current directory. -/
def resolve (cwd : List String) (p : Path) : Path :=
  let base := if p.anchor = .relative then cwd else []
  ⟨.root, p.parts.foldl stepLexically base⟩

/-- Whether the text of a path holds the null character, which no file system takes. -/
def hasNull (p : Path) : Bool := p.parts.any fun name => name.toList.contains '\x00'

theorem join_assoc (p q r : Path) : p / q / r = p / (q / r) := by
  show (p.join q).join r = p.join (q.join r)
  rcases r with ⟨_ | _ | _, rs⟩ <;> rcases q with ⟨_ | _ | _, qs⟩ <;> simp [join]

end Path

end Shipyard
