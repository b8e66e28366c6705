import Shipyard.Archive.Store
import Shipyard.Asset.Artifact
import Shipyard.Command.World
import Shipyard.Data.Json.Writer

/-!
# Rehearsals

A rehearsal is a run without the outside: a script says how commands are answered. A list of rules
comes first; the first rule that applies to a command answers it and is used up by one. Commands
that no rule applies to do what they are for, on the files of the world and on a release that is no
more than a set of names.
-/

namespace Shipyard

/-- How a rule answers. -/
inductive Reply where
  /-- with a fault -/
  | fault (message : String)
  /-- with the end of a program -/
  | exit (code : Int) (output errors : String)
  deriving DecidableEq, Repr

/-- A rule of a script. -/
structure Rule where
  /-- how the command begins -/
  start : List String
  /-- what one of its arguments holds -/
  needle : Option String
  /-- how often the rule can still be used -/
  uses : Nat
  /-- how many of the files that the command names are attached to the release -/
  attach : Nat
  /-- the answer -/
  reply : Reply
  deriving DecidableEq, Repr

/-- What stays the same during a rehearsal. -/
structure Script where
  /-- whether programs are installed -/
  installed : Bool
  /-- the number of the release -/
  release : Value
  /-- the open pull requests -/
  pullRequests : Value
  /-- what a bump writes -/
  bumpOutput : String
  /-- the name of the program that a compilation makes, if it makes one -/
  produces : Option String

/-- What changes during a rehearsal. -/
structure Stage where
  /-- the names of the assets of the release, increasing -/
  assets : List String
  /-- the rules that are left -/
  rules : List Rule
  deriving DecidableEq, Repr

namespace Rehearsal

/-- Whether a rule applies to a command. -/
def applies (argv : List String) (rule : Rule) : Bool :=
  0 < rule.uses && rule.start.isPrefixOf argv &&
    (match rule.needle with
    | none => true
    | some needle => argv.any fun argument => Text.contains argument needle)

/-- The first rule that applies, and the rules with one use of it spent. -/
def firstRule? (argv : List String) : List Rule → Option (Rule × List Rule)
  | [] => none
  | rule :: rest =>
    if applies argv rule then some (rule, { rule with uses := rule.uses - 1 } :: rest)
    else (firstRule? argv rest).map fun (found, rest) => (found, rule :: rest)

/-- The last names of some of the paths that a command names, counted from the fifth word. -/
def namedFiles (count : Nat) (argv : List String) : List String :=
  ((argv.drop 4).take count).map fun argument => (Path.ofText argument).name

/-- The assets with further names. -/
def attach (names assets : List String) : List String := names.foldr insertName assets

/-- The time of all files that a compilation makes. -/
def compiledAt : Int := 1600000000

/-- Makes what a compilation for a triple makes. -/
def compile (produces : String) (cwd : Path) (triple : String) : Disk Unit :=
  let program := produces ++ (if Text.contains triple "windows" then ".exe" else "")
  Disk.placeFile ((((cwd.child "target").child triple).child "release").child program)
    ⟨Utf8.encode ("binary for " ++ triple), 0o755, compiledAt⟩

/-- The description of the release. -/
def describe (release : Value) (assets : List String) : String :=
  Json.write (.table [("databaseId", release),
    ("assets", .list (assets.map fun name => .table [("name", .text name)]))])

/-- What a command does to the files when no rule applies. -/
def perform (script : Script) (c : Command) : Disk Unit :=
  match c.argv with
  | "git" :: "clone" :: rest => Disk.makeDirectories (Path.ofText (rest.getLastD "clone"))
  | program :: rest =>
    if program = "docker" || program = "cargo" then
      match script.produces with
      | none => return ()
      | some produces =>
        match (Text.words (rest.getLastD program)).getLast? with
        | some triple => compile produces c.cwd triple
        | none => throw .noProgram
    else return ()
  | [] => return ()

/-- The output of a command when no rule applies, and the assets that it leaves. -/
def speak (script : Script) (argv : List String) (assets : List String) : String × List String :=
  match argv with
  | "gh" :: "release" :: "upload" :: _ => ("", attach (namedFiles 2 argv) assets)
  | "gh" :: "release" :: "view" :: _ => (describe script.release assets, assets)
  | "gh" :: "release" :: "delete-asset" :: _ :: name :: _ => ("", assets.filter (· ≠ name))
  | "gh" :: "pr" :: "list" :: _ => (Json.write script.pullRequests, assets)
  | "brew" :: _ => (script.bumpOutput, assets)
  | _ => ("", assets)

/-- The answer of a rule. -/
def replyTo (argv : List String) : Reply → Answer
  | .fault message => .error (.failed message)
  | .exit code output errors =>
    if code = 0 then .ok (.ok output) else .ok (.error ⟨argv, code, output, errors⟩)

/-- The answer to a command. -/
def answer (script : Script) (c : Command) (files : FileSystem) (stage : Stage) :
    Answer × FileSystem × Stage :=
  match firstRule? c.argv stage.rules with
  | some (rule, rules) =>
    (replyTo c.argv rule.reply, files,
      ⟨attach (namedFiles rule.attach c.argv) stage.assets, rules⟩)
  | none =>
    match (perform script c).runOn files with
    | (.error fault, files) => (.error fault, files, stage)
    | (.ok (), files) =>
      let (output, assets) := speak script c.argv stage.assets
      (.ok (.ok output), files, { stage with assets })

/-- The surroundings of a rehearsal. -/
def host (script : Script) : Host Stage where
  answer := answer script
  installed := fun _ => script.installed
  archiver := Archive.storing

end Rehearsal

end Shipyard
