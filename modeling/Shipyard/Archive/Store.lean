import Shipyard.Archive.Tar
import Shipyard.Archive.Zip

/-!
# The archiver of stored members

The archiver that writes both formats without making the content smaller.
-/

namespace Shipyard.Archive

/-- Writes zip archives and compressed tape archives. -/
def storing : Archiver where
  pack
    | .tarGz => Tar.pack
    | .zip => Zip.pack
  unpack
    | .tarGz, bytes => (Tar.entries? bytes).map (·.map fun entry => (entry.name, entry.content))
    | .zip, bytes => (Zip.entries? bytes).map (·.map fun entry => (entry.name, entry.content))

end Shipyard.Archive
