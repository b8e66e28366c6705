import Shipyard.CommandLine.Invocation
import Shipyard.Run.Release
import Shipyard.Step.Verification

/-!
# Execution

Carries out what a command line asks for and says how the program ends: with a code, and perhaps a
line of its own besides what the run has told. Nothing is built, packaged or published before the
configuration is read and the event is accepted.
-/

namespace Shipyard.CommandLine

/-- A line of the program itself. -/
structure Echo where
  /-- whether it is about an error -/
  isError : Bool
  /-- the line -/
  message : String
  deriving DecidableEq, Repr

/-- How the program ends. -/
structure Ending where
  /-- the exit code -/
  code : Nat
  /-- the line of the program itself -/
  echo : Option Echo := none
  deriving DecidableEq, Repr

/-- The code of a command line that is used wrongly. -/
def usageCode : Nat := 2

/-- The version of the program. -/
def programVersion : String := "0.1.0"

/-- The directories of users, each with its name. -/
abbrev Homes := List (String × String)

/-- A step of a command that may end the program. -/
abbrev CommandAction (σ : Type) (α : Type) := ExceptT Ending (Action σ) α

namespace CommandAction

variable {σ α : Type}

/-- A step of a run as a step of a command. -/
def act (a : Action σ α) : CommandAction σ α := ExceptT.lift a

/-- Ends the program with a code. -/
def stop (code : ExitCode) : CommandAction σ α := throw { code := code.number }

/-- Ends the program with a line about an error. -/
def stopWith (code : ExitCode) (message : String) : CommandAction σ α :=
  throw { code := code.number, echo := some ⟨true, "error: " ++ message⟩ }

/-- Tells the user notices. -/
def tellAll (notices : List Notice) : CommandAction σ Unit :=
  notices.forM fun n => act (Action.tell Console.plain n)

/-- A value, or the end of the program with the error that there is instead. -/
def orEnd {ε : Type} (asError : ε → ReleaseError) (r : Except ε α) : CommandAction σ α :=
  match r with
  | .ok a => return a
  | .error e => do
    tellAll (asError e).notices
    stop (asError e).exitCode

end CommandAction

open CommandAction

variable {σ : Type}

/-- A path in which a user at the beginning stands for the directory of that user. -/
def expandHome (homes : Homes) (environ : Environment) (p : Path) : Except Fault Path :=
  match p.anchor, p.parts with
  | .relative, first :: rest =>
    match first.toList with
    | '~' :: user =>
      let home :=
        if user = [] then environ.find? "HOME" <|> homes.lookup "root"
        else homes.lookup (String.ofList user)
      match home with
      | some home =>
        let start := Path.ofText (if home = "" then "/" else home)
        if start.text.toList.head? = some '~' then
          .error (.failed "Could not determine home directory.")
        else .ok (start / ⟨.relative, rest⟩)
      | none => .error (.failed "Could not determine home directory.")
    | _ => .ok p
  | _, _ => .ok p

/-- The root of the source and the configuration that a command works with. -/
def prepare (homes : Homes) (environ : Environment) (o : SourceOptions) :
    CommandAction σ (Path × Config) := do
  let source ← act (Action.orFault (expandHome homes environ (Path.ofText o.source)))
  let root ← act (Action.orRefused (RunContext.rootOf (← get).files.cwd source))
  let loaded ← act (Action.onFiles (match o.config with
    | some file => Config.load (Path.ofText file)
    | none => Config.loadOrDefault (root.child configFileName)))
  match loaded with
  | .ok config => return (root, config.withForce o.force)
  | .error e => stopWith .environmentError e.message

/-- The built-in target of a platform. -/
def targetOf (platform : String) : CommandAction σ BuildTarget :=
  match BuildTarget.ofPlatform? platform with
  | some target => return target
  | none =>
    stopWith .userError ("unknown platform '" ++ platform ++ "' (expected: " ++
      String.intercalate ", " BuildTarget.platformNames ++ ")")

/-- The event that a command works with. -/
def loadEvent (o : EventOptions) : CommandAction σ ReleaseEvent := do
  let loaded ← act (Action.onFiles (ReleaseEvent.load (Path.ofText o.event) o.name o.revision))
  let event ← orEnd .event loaded
  tellAll [.info ("release " ++ event.tag ++ " at " ++ event.revision)]
  return event

/-- The context of a command. -/
def contextOf (environ : Environment) (root : Path) (config : Config) (event : ReleaseEvent) :
    CommandAction σ RunContext := do
  act (Action.orRefused (RunContext.create (← get).files.cwd event config root environ))

/-- Runs all targets and reports. -/
def runAll (host : Host σ) (homes : Homes) (environ : Environment) (eventOptions : EventOptions)
    (sourceOptions : SourceOptions) : CommandAction σ ExitCode := do
  let (root, config) ← prepare homes environ sourceOptions
  let event ← loadEvent eventOptions
  let c ← contextOf environ root config event
  let report ← act (Release.run host c BuildTarget.all Console.plain)
  tellAll report.notices
  return report.exitCode

/-- Runs one branch and reports. -/
def runBranch (host : Host σ) (homes : Homes) (environ : Environment) (platform : String)
    (eventOptions : EventOptions) (sourceOptions : SourceOptions) : CommandAction σ ExitCode := do
  let (root, config) ← prepare homes environ sourceOptions
  let target ← targetOf platform
  let event ← loadEvent eventOptions
  let c ← contextOf environ root config event
  let outcome ← act (Branch.run host c target Console.plain)
  tellAll outcome.notices
  return outcome.exitCode

/-- Packages a program. -/
def runPackage (host : Host σ) (homes : Homes) (environ : Environment)
    (platform binary tag out : String) (sourceOptions : SourceOptions) :
    CommandAction σ ExitCode := do
  let (_, config) ← prepare homes environ sourceOptions
  let target ← targetOf platform
  let binary := Path.ofText binary
  if !(← act (Action.onFiles (Disk.isFile binary))) then
    tellAll [.error ("binary not found: " ++ binary.text)]
    stop .userError
  let packaged ← act (Action.onFiles (Packaging.run host.archiver .none ⟨target, binary⟩
    config.project.binaryName tag (Path.ofText out) config.sidecarPolicy))
  let artifact ← orEnd (fun e => .branch (.packaging e)) packaged
  tellAll [.success artifact.archive.text,
    .print ("sha256 " ++ artifact.checksum.digest) .dim]
  return .ok

/-- Verifies an archive. -/
def runVerify (homes : Homes) (environ : Environment) (archive : String) :
    CommandAction σ ExitCode := do
  let _ ← prepare homes environ ⟨".", none, none⟩
  let archive := Path.ofText archive
  let verified ← act (Action.onFiles (Verification.run none archive))
  let checksum ← orEnd (fun e => .branch (.packaging e)) verified
  tellAll [.success (archive.name ++ ": " ++ checksum.digest)]
  return .ok

/-- Bumps the formula. -/
def runBump (host : Host σ) (homes : Homes) (environ : Environment) (tag revision : String)
    (sourceOptions : SourceOptions) : CommandAction σ ExitCode := do
  let (root, config) ← prepare homes environ sourceOptions
  let c ← contextOf environ root config ⟨tag, revision⟩
  let bumped ← act (Formula.bump host c (Formula.requestOf c none) Console.plain)
  match ← orEnd .formula bumped with
  | .skipped _ url => tellAll [.info (withLink "already requested" url)]
  | .submitted _ url => tellAll [.success (withLink "bump requested" url)]
  return .ok

/-- Carries out what a command line asks for. -/
def perform (host : Host σ) (homes : Homes) (environ : Environment) :
    Invocation → CommandAction σ ExitCode
  | .help => return .ok
  | .nothing => return .ok
  | .version => throw { code := ExitCode.ok.number, echo := some ⟨false, programVersion⟩ }
  | .run event source => runAll host homes environ event source
  | .branch platform event source => runBranch host homes environ platform event source
  | .package platform binary tag out source =>
    runPackage host homes environ platform binary tag out source
  | .verify archive => runVerify homes environ archive
  | .bumpFormula tag revision source => runBump host homes environ tag revision source

/-- The program: what it does for a command line, and how it ends. -/
def execute (host : Host σ) (homes : Homes) (environ : Environment) (words : List String) :
    Action σ Ending := do
  match Invocation.ofWords environ words with
  | .error .usage => return { code := usageCode }
  | .error .nullCharacter => throw (.refused .nullCharacter)
  | .ok invocation =>
    match ← (perform host homes environ invocation).run with
    | .ok code => return { code := code.number }
    | .error ending => return ending

end Shipyard.CommandLine
