import Shipyard.Plan.Context
import Shipyard.Rehearsal.Script

/-!
# A rehearsed release

One small release that statements about runs are tried on: the tag `v1` with the settings that no
configuration changes, and a script in which every command does what it is for.
-/

namespace Shipyard.Rehearsal

/-- The release of `v1`, with both tokens set. -/
def context : RunContext where
  event := ⟨"v1", "abc"⟩
  config := Config.default
  sourceRoot := ⟨.root, ["r"]⟩
  workDir := ⟨.root, ["r", ".rbr"]⟩
  environ := [("GITHUB_TOKEN", "t"), ("PERSONAL_TOKEN", "p")]

/-- Compilations make the program, and no pull request is open. -/
def script : Script where
  installed := true
  release := .int 1
  pullRequests := .list []
  bumpOutput := ""
  produces := some "replibyte"

/-- No files, and a release without assets; some rules come before the script. -/
def world (rules : List Rule) : World Stage := ⟨FileSystem.empty [], [], [], ⟨[], rules⟩⟩

end Shipyard.Rehearsal
