import Shipyard.Command.World
import Shipyard.Plan.Context
import Shipyard.Text.Case
import Shipyard.Text.ShellWord

/-!
# Builds

A branch builds its target in a checkout of its own, which is made anew for every build, so that
nothing of an earlier one is seen. Targets of a container are compiled by the pinned image with the
checkout mounted in it; the others by the compiler of this machine, which needs a linker for them.
A build ends with the program at the place where the compiler puts it.
-/

namespace Shipyard

/-- The program of a target. -/
structure BuiltBinary where
  /-- what it was built for -/
  target : BuildTarget
  /-- where it is -/
  path : Path
  deriving DecidableEq, Repr

/-- A command of a build, with the variables that it has besides those of the run. -/
structure BuildCommand where
  /-- the program and its arguments -/
  argv : List String
  /-- further variables -/
  env : List (String × String)
  deriving DecidableEq, Repr

namespace Build

/-- How long a command on the repository may take, in seconds. -/
def checkoutTimeout : Nat := 5 * 60

/-- How long it may take to install the libraries of a target. -/
def libraryTimeout : Nat := 10 * 60

/-- How long a compilation may take. -/
def compileTimeout : Nat := 60 * 60

/-- Where the checkout is mounted in a container. -/
def mountPoint : String := "/root/src"

/-- The command line that compiles a target inside a container. -/
def containerScript (triple : String) : String :=
  "cargo build --release --target " ++ ShellWord.quote triple

/-- The variable that names the linker of a target. -/
def linkerVariable (triple : String) : String :=
  "CARGO_TARGET_" ++ Text.replaceChar (Text.upper triple) '-' '_' ++ "_LINKER"

/-- The commands that compile a target in a checkout. -/
def commands (c : RunContext) (target : BuildTarget) (checkout : Path) : List BuildCommand :=
  match target.toolchain with
  | .container =>
    let flags := target.containerEnv.flatMap fun entry => ["-e", entry.1 ++ "=" ++ entry.2]
    [{ argv := ["docker", "run", "--rm", "--volume", checkout.text ++ ":" ++ mountPoint,
          "--workdir", mountPoint] ++ flags ++
          [c.config.toolchain.builderImage, "sh", "-c", containerScript target.triple]
       env := [] }]
  | .crossLinker =>
    [{ argv := ["rustup", "target", "add", target.triple], env := [] },
     { argv := ["cargo", "build", "--all", "--release", "--target", target.triple]
       env := [(linkerVariable target.triple, crossLinker)] }]

/-- Where the compiler puts the program. -/
def expectedBinary (target : BuildTarget) (checkout : Path) (program : String) : Path :=
  (((checkout.child "target").child target.triple).child "release").child
    (program ++ target.exeSuffix)

/-- A command of a build as it is issued. -/
def BuildCommand.issued (c : RunContext) (checkout : Path) (command : BuildCommand) : Command where
  argv := command.argv
  cwd := checkout
  env := some (c.childEnv command.env)
  timeout := if command.argv.head? = some "rustup" then libraryTimeout else compileTimeout

/-- The commands that check out the source. -/
def checkoutCommands (c : RunContext) (checkout : Path) : List Command :=
  [{ argv := ["git", "clone", "--quiet", "--no-hardlinks", c.sourceRoot.text, checkout.text]
     cwd := checkout.parent
     env := none
     timeout := checkoutTimeout },
   { argv := ["git", "checkout", "--quiet", "--detach", c.event.revision]
     cwd := checkout
     env := none
     timeout := checkoutTimeout }]

/-- The commands that compile a target, as they are issued. -/
def compileCommands (c : RunContext) (target : BuildTarget) (checkout : Path) : List Command :=
  (commands c target checkout).map (BuildCommand.issued c checkout)

variable {σ : Type}

/-- Shows and issues commands up to the first that fails. -/
def issueInOrder (host : Host σ) (out : Console) :
    List Command → Action σ (Except CommandFailure Unit)
  | [] => return .ok ()
  | command :: rest => do
    Action.echo out command.argv
    match ← Action.issue host command with
    | .error failure => return .error failure
    | .ok _ => issueInOrder host out rest

/-- Removes what is left of an earlier checkout and makes the directory above it. -/
def clearCheckout (checkout : Path) : Disk Unit := do
  if ← Disk.pathExists checkout then Disk.removeTree checkout
  Disk.makeDirectories checkout.parent

/-- Checks out the source for a branch. -/
def prepareCheckout (host : Host σ) (c : RunContext) (target : BuildTarget) (out : Console) :
    Action σ (Except BuildFailure Path) := do
  let checkout := c.checkoutDir target
  match ← Action.onFiles (Disk.attempt (clearCheckout checkout)) with
  | .error e =>
    return .error {
      platform := target.platform
      kind := .checkoutFailed
      message := "cannot reset checkout directory: " ++ checkout.text
      hint := some e.message }
  | .ok () =>
    match ← issueInOrder host out (checkoutCommands c checkout) with
    | .error failure =>
      return .error {
        platform := target.platform
        kind := .checkoutFailed
        message := "checkout of " ++ c.event.revision ++ " failed"
        hint := failure.hint
        code := some failure.code }
    | .ok () => return .ok checkout

/-- Compiles a target in its checkout and looks for the program. -/
def compile (host : Host σ) (c : RunContext) (target : BuildTarget) (checkout : Path)
    (out : Console) : Action σ (Except BuildFailure BuiltBinary) := do
  match ← issueInOrder host out (compileCommands c target checkout) with
  | .error failure =>
    return .error {
      platform := target.platform
      kind := .compileFailed
      message := s!"build failed (exit {failure.code})"
      hint := failure.hint
      code := some failure.code }
  | .ok () =>
    let binary := expectedBinary target checkout c.config.project.binaryName
    if ← Action.onFiles (Disk.isFile binary) then return .ok ⟨target, binary⟩
    else
      return .error {
        platform := target.platform
        kind := .outputMissing
        message := "output not found: " ++ binary.text }

/-- Whether a target needs the linker and it is not installed. -/
def lacksLinker (host : Host σ) (target : BuildTarget) : Bool :=
  target.toolchain = .crossLinker && !host.installed crossLinker

/-- Checks out and compiles a target. -/
def run (host : Host σ) (c : RunContext) (target : BuildTarget) (out : Console) :
    Action σ (Except BuildFailure BuiltBinary) := do
  if lacksLinker host target then
    return .error {
      platform := target.platform
      kind := .toolchainMissing
      message := crossLinker ++ ": missing"
      hint := some "Install the cross linker: apt-get install -y g++-mingw-w64-x86-64" }
  else
    match ← prepareCheckout host c target out with
    | .error failure => return .error failure
    | .ok checkout => compile host c target checkout out

end Build

end Shipyard
