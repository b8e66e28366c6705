import Shipyard.Data.Document
import Shipyard.FileSystem.Disk
import Shipyard.Target

/-!
# Configuration

The settings of a release, read from a TOML file at the root of the source. Every setting has a
default, and each key falls back to its own: a table of the wrong kind, a value of the wrong kind
and a blank text all count as missing. The one key that can be wrong is the policy for sidecars.

Tokens are never part of a configuration; it only names the variables that hold them.
-/

namespace Shipyard

/-- The file that is looked for at the root of the source. -/
def configFileName : String := "release.toml"

/-- Which form the sidecars have. -/
inductive SidecarPolicy where
  /-- each target has its own form -/
  | perTarget
  /-- all carry the digest alone -/
  | bare
  /-- all name the archive -/
  | named
  deriving DecidableEq, Repr

namespace SidecarPolicy

/-- The word for a policy. -/
def word : SidecarPolicy → String
  | perTarget => "per-target"
  | bare => "bare"
  | named => "named"

/-- All policies. -/
def all : List SidecarPolicy := [perTarget, bare, named]

/-- The policy of a word; without a word each target has its own form. -/
def ofWord : Option String → Except Refusal SidecarPolicy
  | none => .ok perTarget
  | some w =>
    match all.find? (·.word = w) with
    | some policy => .ok policy
    | none => .error (.sidecarPolicy w (all.map word))

/-- The form of the sidecar of a target. -/
def formatFor (policy : SidecarPolicy) (target : BuildTarget) : SidecarFormat :=
  match policy with
  | perTarget => target.sidecarFormat
  | bare => .bare
  | named => .named

end SidecarPolicy

/-- The project that is released. -/
structure ProjectConfig where
  /-- the name of the program -/
  binaryName : String := "replibyte"
  /-- the repository that holds the release, with its owner -/
  repo : String := "Qovery/replibyte"
  deriving DecidableEq, Repr

/-- The formula that is bumped. -/
structure FormulaConfig where
  /-- the repository of the tap, with its owner -/
  tap : String := "Qovery/homebrew-replibyte"
  /-- the name of the formula -/
  name : String := "replibyte"
  /-- whether a bump is requested although one is open -/
  force : Bool := false
  deriving DecidableEq, Repr

/-- The names of the variables that hold the tokens. -/
structure SecretsConfig where
  /-- the variable with the token that may upload assets -/
  publishTokenEnv : String := "GITHUB_TOKEN"
  /-- the variable with the token that may open pull requests on the tap -/
  formulaTokenEnv : String := "PERSONAL_TOKEN"
  deriving DecidableEq, Repr

/-- The tools of a build. -/
structure ToolchainConfig where
  /-- the image for builds in a container -/
  builderImage : String := "joseluisq/rust-linux-darwin-builder:1.60.0"
  deriving DecidableEq, Repr

/-- Paths that are seen from the root of the source. -/
structure PathsConfig where
  /-- the directory that all branches work in -/
  workDir : String := ".rbr"
  deriving DecidableEq, Repr

/-- The settings of a release. -/
structure Config where
  /-- the project -/
  project : ProjectConfig := {}
  /-- the formula -/
  formula : FormulaConfig := {}
  /-- the names of the tokens -/
  secrets : SecretsConfig := {}
  /-- the tools -/
  toolchain : ToolchainConfig := {}
  /-- the directories -/
  paths : PathsConfig := {}
  /-- the form of the sidecars -/
  sidecarPolicy : SidecarPolicy := .perTarget
  deriving DecidableEq, Repr

namespace Config

/-- The settings with no key set. -/
def default : Config := {}

/-- The text of a key of one of the tables. -/
def text? (t : Table) (table key : String) : Option String :=
  (t.table? table).bind fun inner => inner.text? key

/-- The settings of a table. -/
def ofTable (t : Table) : Except Refusal Config := do
  let or := fun table key (fallback : String) => (text? t table key).getD fallback
  let sidecarPolicy ← SidecarPolicy.ofWord (text? t "checksums" "sidecar_format")
  return {
    project := {
      binaryName := or "project" "binary_name" default.project.binaryName
      repo := or "project" "repo" default.project.repo }
    formula := {
      tap := or "formula" "tap" default.formula.tap
      name := or "formula" "name" default.formula.name
      force := ((t.table? "formula").bind fun inner => inner.bool? "force").getD false }
    secrets := {
      publishTokenEnv := or "secrets" "publish_token_env" default.secrets.publishTokenEnv
      formulaTokenEnv := or "secrets" "formula_token_env" default.secrets.formulaTokenEnv }
    toolchain := { builderImage := or "toolchain" "builder_image" default.toolchain.builderImage }
    paths := { workDir := or "paths" "work_dir" default.paths.workDir }
    sidecarPolicy }

/-- The settings with another answer to whether a bump is forced, if there is one. -/
def withForce (c : Config) : Option Bool → Config
  | none => c
  | some force => { c with formula := { c.formula with force } }

end Config

/-! ## Files -/

/-- Why there is no configuration. -/
inductive ConfigProblem where
  /-- the file is missing -/
  | notFound
  /-- the file may not be read -/
  | denied
  /-- the file is no TOML -/
  | syntaxError (detail : String)
  /-- the file is no text -/
  | undecodable (fault : Utf8.Fault)
  /-- a setting is wrong -/
  | refused (refusal : Refusal)
  deriving DecidableEq, Repr

/-- A configuration that cannot be read from a file. -/
structure ConfigError where
  /-- why -/
  problem : ConfigProblem
  /-- the file -/
  path : Path
  deriving DecidableEq, Repr

/-- The text of an error. -/
def ConfigError.message (e : ConfigError) : String :=
  match e.problem with
  | .notFound => "Config file not found: " ++ e.path.text
  | .denied => "Permission denied reading: " ++ e.path.text
  | .syntaxError detail => "Invalid TOML syntax: " ++ detail
  | .undecodable fault => "Error reading config: " ++ fault.message
  | .refused refusal => "Invalid config structure: " ++ refusal.message

namespace Config

/-- The table of a TOML file. A missing file, a file that may not be read, bytes that are no text
and a text that is no TOML are values; every other fault stays one. -/
def readTable (path : Path) : Disk (Except ConfigProblem Table) := do
  match ← Disk.attempt (Disk.readBytes path) with
  | .error e =>
    match e.errno with
    | .noEntry => return .error .notFound
    | .accessDenied => return .error .denied
    | _ => throw (.os e)
  | .ok bytes =>
    match Utf8.decode bytes with
    | .error fault => return .error (.undecodable fault)
    | .ok s =>
      match Table.ofToml s with
      | .error fault => throw fault
      | .ok (.error detail) => return .error (.syntaxError detail)
      | .ok (.ok t) => return .ok t

/-- The settings of a file. -/
def load (path : Path) : Disk (Except ConfigError Config) := do
  match ← readTable path with
  | .error problem => return .error ⟨problem, path⟩
  | .ok t =>
    match ofTable t with
    | .ok config => return .ok config
    | .error refusal => return .error ⟨.refused refusal, path⟩

/-- The settings of a file, or the defaults if there is nothing at its path. -/
def loadOrDefault (path : Path) : Disk (Except ConfigError Config) := do
  if ← Disk.pathExists path then load path else return .ok default

end Config

end Shipyard
