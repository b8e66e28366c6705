import Shipyard.Archive.Basic
import Shipyard.Text.Search

/-!
# Build targets

A target says for which machine a program is built, with what tools, and in which form it is
published. There are three built-in targets, in a fixed order; the formula waits for the last of
them.
-/

namespace Shipyard

/-- The forms of a checksum sidecar. -/
inductive SidecarFormat where
  /-- the digest alone -/
  | bare
  /-- the digest and the name of the archive -/
  | named
  deriving DecidableEq, Repr

/-- The tools that compile a target. -/
inductive Toolchain where
  /-- a pinned image that runs in a container -/
  | container
  /-- the compiler of this machine with a linker for another one -/
  | crossLinker
  deriving DecidableEq, Repr

/-- A machine that a program is built for, and how. -/
structure BuildTarget where
  /-- the name of the platform -/
  platform : String
  /-- the name of the architecture for the compiler -/
  triple : String
  /-- the tools that compile it -/
  toolchain : Toolchain
  /-- the format of its archive -/
  archiveFormat : ArchiveFormat
  /-- the form of its sidecar, unless a policy says otherwise -/
  sidecarFormat : SidecarFormat
  /-- the end of the name of a program -/
  exeSuffix : String
  /-- variables that are set inside the container -/
  containerEnv : List (String × String)
  deriving DecidableEq, Repr

namespace BuildTarget

/-- Linux, without a shared library. -/
def linux : BuildTarget where
  platform := "linux"
  triple := "x86_64-unknown-linux-musl"
  toolchain := .container
  archiveFormat := .tarGz
  sidecarFormat := .bare
  exeSuffix := ""
  containerEnv := []

/-- Windows, linked on this machine. -/
def windows : BuildTarget where
  platform := "windows"
  triple := "x86_64-pc-windows-gnu"
  toolchain := .crossLinker
  archiveFormat := .zip
  sidecarFormat := .bare
  exeSuffix := ".exe"
  containerEnv := []

/-- macOS; its sidecar also names the archive. -/
def macos : BuildTarget where
  platform := "macos"
  triple := "x86_64-apple-darwin"
  toolchain := .container
  archiveFormat := .zip
  sidecarFormat := .named
  exeSuffix := ""
  containerEnv := [("CC", "o64-clang"), ("CXX", "o64-clang++")]

/-- The built-in targets. -/
def all : List BuildTarget := [linux, windows, macos]

/-- The target whose branch has to be done before the formula is bumped. -/
def formulaGate : BuildTarget := macos

/-- The built-in target of a platform. -/
def ofPlatform? (platform : String) : Option BuildTarget := all.find? (·.platform = platform)

/-- The names of the built-in platforms. -/
def platformNames : List String := all.map (·.platform)

/-- The platform of the built-in target with a given triple. -/
def platformOfTriple? (triple : String) : Option String :=
  (all.find? (·.triple = triple)).map (·.platform)

/-- The platform of the first built-in target whose triple occurs in the name of an archive. -/
def platformOfArchive? (archiveName : String) : Option String :=
  (all.find? fun target => Text.contains archiveName target.triple).map (·.platform)

end BuildTarget

/-- The linker that a build with the compiler of this machine needs. -/
def crossLinker : String := "x86_64-w64-mingw32-gcc"

end Shipyard
