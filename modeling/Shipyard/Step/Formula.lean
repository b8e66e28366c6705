import Shipyard.Command.World
import Shipyard.Data.Document
import Shipyard.Plan.Context
import Shipyard.Text.Case
import Shipyard.Text.CharClass

/-!
# Bumps of the formula

After a release the formula of the program is bumped to the new tag by a pull request on its tap.
Unless the bump is forced, the open pull requests are looked through first, and nothing is requested
if one of them mentions the formula and the version in its title.
-/

namespace Shipyard

/-- A bump of a formula. -/
structure FormulaRequest where
  /-- the repository of the tap, with its owner -/
  tap : String
  /-- the name of the formula -/
  formula : String
  /-- the new tag -/
  tag : String
  /-- the commit of the tag -/
  revision : String
  /-- whether it is requested although one is open -/
  force : Bool
  deriving DecidableEq, Repr

/-- How a bump ends that does not fail. -/
inductive FormulaBump where
  /-- it was requested; the link to the pull request is given if it was found -/
  | submitted (request : FormulaRequest) (url : Option String)
  /-- one is open already -/
  | skipped (tag : String) (url : Option String)
  deriving DecidableEq, Repr

namespace Formula

/-- The bump that a run asks for. -/
def requestOf (c : RunContext) (force : Option Bool) : FormulaRequest where
  tap := c.config.formula.tap
  formula := c.config.formula.name
  tag := c.event.tag
  revision := c.event.revision
  force := force.getD c.config.formula.force

/-- The name of a tap, for a repository with its owner. -/
def tapName (repository : String) : String :=
  let (owner, name) := Text.cutAt repository '/'
  Text.lower owner ++ "/" ++ Text.dropStart (Text.lower name) "homebrew-"

/-! ## Titles -/

/-- The characters between the words of a title. -/
def separatesWords (c : Char) : Bool := Text.isBlank c || c = ':'

/-- The words of a title, in lower case. -/
def titleWords (title : String) : List String :=
  (Text.pieces separatesWords (Text.lower title).toList).map String.ofList

/-- The words that stand for a tag in a title: the tag with and without its leading `v`. -/
def versionWords (tag : String) : List String :=
  [Text.lower tag, Text.dropStart (Text.lower tag) "v"]

/-- Whether a title has the name of a formula and a tag among its words. -/
def titleMentions (title formula tag : String) : Bool :=
  let words := titleWords title
  words.contains (Text.lower formula) && (versionWords tag).any (words.contains ·)

/-! ## Links to pull requests -/

/-- How a link begins. -/
def linkStart : List Char := "https://github.com/".toList

/-- What stands between the repository and the number. -/
def linkMiddle : List Char := "/pull/".toList

/-- The number of a pull request at the beginning of a text behind the middle of a link, with the
middle in front of it. -/
def numberBehind? (cs : List Char) : Option (List Char) := do
  let rest ← Text.afterPrefix? linkMiddle cs
  let digits := rest.takeWhile Text.isDecimalDigit
  if digits = [] then none else some (linkMiddle ++ digits)

/-- The longest part of a run of characters that ends in a number behind the middle of a link, with
at least one character in front of the middle. -/
def longestBody? : List Char → Option (List Char)
  | [] => none
  | c :: rest =>
    match longestBody? rest with
    | some body => some (c :: body)
    | none => (numberBehind? rest).map (c :: ·)

/-- The link at the beginning of a text. -/
def linkAt? (cs : List Char) : Option (List Char) := do
  let rest ← Text.afterPrefix? linkStart cs
  let body ← longestBody? (rest.takeWhile fun c => !Text.isBlank c)
  return linkStart ++ body

/-- The first link to a pull request in a text, as long as it can be. -/
def firstLink? : List Char → Option (List Char)
  | [] => none
  | c :: rest =>
    match linkAt? (c :: rest) with
    | some link => some link
    | none => firstLink? rest

/-- The link to a pull request in the output of a bump. -/
def pullRequestUrl? (output : String) : Option String :=
  (firstLink? output.toList).map String.ofList

/-! ## Requests -/

variable {σ : Type}

/-- How long a look at the tap may take, in seconds. -/
def lookupTimeout : Nat := 60

/-- How long a bump may take. -/
def bumpTimeout : Nat := 20 * 60

/-- Asks for the open pull requests on a tap. -/
def listCommand (c : RunContext) (request : FormulaRequest) (token : String) : Command where
  argv := ["gh", "pr", "list", "--repo", request.tap, "--state", "open", "--search",
    request.formula ++ " " ++ Text.dropStart request.tag "v" ++ " in:title", "--json",
    "number,title,url"]
  cwd := c.sourceRoot
  env := some (c.releaseEnv token)
  timeout := lookupTimeout

/-- Requests a bump. -/
def bumpCommand (c : RunContext) (request : FormulaRequest) (token : String) : Command where
  argv := ["brew", "bump-formula-pr", "--no-browse", "--tag=" ++ request.tag,
    "--revision=" ++ request.revision] ++ (if request.force then ["--force"] else []) ++
    [tapName request.tap ++ "/" ++ request.formula]
  cwd := c.sourceRoot
  env := some (c.childEnv [("HOMEBREW_GITHUB_API_TOKEN", token), ("HOMEBREW_NO_AUTO_UPDATE", "1")])
  timeout := bumpTimeout

/-- The link of a pull request that mentions the request, or its title if it has no link. -/
def matching? (request : FormulaRequest) (entry : Value) : Option String := do
  let t ← entry.asTable?
  let title := (t.text? "title").getD ""
  if titleMentions title request.formula request.tag then some ((t.text? "url").getD title)
  else none

/-- The open pull request that already bumps to the tag of a request. -/
def findOpen (host : Host σ) (c : RunContext) (request : FormulaRequest) (token : String) :
    Action σ (Except FormulaFailure (Option String)) := do
  match ← Action.issue host (listCommand c request token) with
  | .error failure =>
    return .error ⟨.lookupFailed, "cannot list open pull requests on " ++ request.tap,
      failure.hint⟩
  | .ok output =>
    match ← Action.orFault (Value.ofJson (if output = "" then "[]" else output)) with
    | .error what => return .error ⟨.lookupFailed, "invalid JSON from gh pr list: " ++ what, none⟩
    | .ok answer => return .ok ((answer.asList?.getD []).findSome? (matching? request))

/-- Requests the bump and looks for its link. -/
def submit (host : Host σ) (c : RunContext) (request : FormulaRequest) (token : String)
    (out : Console) : Action σ (Except FormulaFailure FormulaBump) := do
  let command := bumpCommand c request token
  Action.echo out command.argv
  match ← Action.issue host command with
  | .error failure =>
    return .error ⟨.submitFailed, s!"brew bump-formula-pr failed (exit {failure.code})",
      failure.hint⟩
  | .ok output => return .ok (.submitted request (pullRequestUrl? output))

/-- Bumps the formula, unless a bump is open. -/
def bump (host : Host σ) (c : RunContext) (request : FormulaRequest) (out : Console) :
    Action σ (Except FormulaFailure FormulaBump) := do
  match c.formulaToken? with
  | none =>
    return .error ⟨.authMissing, c.config.secrets.formulaTokenEnv ++ " is not set",
      some "a token with 'public_repo' and 'workflow' scopes is required"⟩
  | some token =>
    if request.force then submit host c request token out
    else
      match ← findOpen host c request token with
      | .error failure => return .error failure
      | .ok (some url) => return .ok (.skipped request.tag (some url))
      | .ok none => submit host c request token out

end Formula

end Shipyard
