import Shipyard.Text.Utf8

/-!
# Archives

What an archive is made of: one member, in one of two formats. An `Archiver` is whatever turns a
member into bytes and back; it is faithful if the bytes hold exactly the member's name and content.
-/

namespace Shipyard

/-- The formats of an archive. -/
inductive ArchiveFormat where
  /-- a compressed tape archive -/
  | tarGz
  /-- a zip archive -/
  | zip
  deriving DecidableEq, Repr

/-- The end of the name of an archive. -/
def ArchiveFormat.suffix : ArchiveFormat → String
  | tarGz => ".tar.gz"
  | zip => ".zip"

/-- The file that an archive holds. -/
structure Member where
  /-- its name inside the archive -/
  name : String
  /-- what it holds -/
  content : Bytes
  /-- its permission bits -/
  mode : Nat
  /-- when it was changed, in seconds -/
  modified : Int
  deriving DecidableEq, Repr

/-- What writes archives and reads them back. -/
structure Archiver where
  /-- the bytes of an archive with one member -/
  pack : ArchiveFormat → Member → Bytes
  /-- the names and contents of the members of an archive -/
  unpack : ArchiveFormat → Bytes → Option (List (String × Bytes))

/-- An archiver whose archives hold exactly what was put into them. -/
def Archiver.Faithful (archiver : Archiver) : Prop :=
  ∀ format m, archiver.unpack format (archiver.pack format m) = some [(m.name, m.content)]

end Shipyard
