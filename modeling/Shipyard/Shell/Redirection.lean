import Shipyard.Shell.Expansion

/-!
# Redirections

Where the streams of a command lead to. The words of all redirections are expanded first; then the
redirections are made one after the other. What a stream led to before is kept at a descriptor that
scripts do not use, and comes back behind the command.
-/

namespace Shipyard.Shell

/-- A redirection whose words are expanded. -/
inductive Redirect where
  /-- to a file -/
  | file (stream : Nat) (use : FileUse) (path : String)
  /-- to where another stream leads, or nowhere -/
  | same (stream : Nat) (other : Option Nat)
  /-- to a text that follows in the script -/
  | document (stream number : Nat)
  deriving DecidableEq, Repr

/-- The stream that a redirection is about. -/
def Redirect.stream : Redirect → Nat
  | file stream _ _ => stream
  | same stream _ => stream
  | document stream _ => stream

/-- The words of a redirection, expanded. -/
def expandRedirection (capture : Capture) : Redirection → Effect Redirect
  | .file stream use path => return .file stream use (← expandText capture .text path)
  | .same stream other => do
    let text ← expandText capture .text other
    match text.toList with
    | ['-'] => return .same stream none
    | [c] => if c.isDigit then return .same stream (some (c.toNat - 48)) else abort "Bad fd number"
    | _ => abort "Bad fd number"
  | .document stream number => return .document stream number

/-- Why a file cannot be opened. -/
def whyUnopened (errno : Errno) (absent : String) : String :=
  if errno = .noEntry || errno = .notDirectory then absent else errno.words

/-- Opens a file to be written anew where no file may be lost by that. -/
def openProtected (path : String) : Unix.Program (Except Errno Nat) := do
  match ← Unix.Program.ask (Unix.statusAt path true) with
  | .error _ => Unix.Program.ask (Unix.openFile path .forCreating)
  | .ok status =>
    if status.kind = .regular then return .error .alreadyExists
    else Unix.Program.ask (Unix.openFile path .forWriting)

/-- Opens what a redirection leads to. A stream that follows another one opens nothing. -/
def openGoal (capture : Capture) : Redirect → Effect Nat
  | .file _ use path => do
    let isProtected := (← get).hasOption 'C'
    let opened ← match use with
      | .reads => ask (Unix.openFile path .forReading)
      | .writes =>
        if isProtected then run (openProtected path) else ask (Unix.openFile path .forWriting)
      | .overwrites => ask (Unix.openFile path .forWriting)
      | .appends => ask (Unix.openFile path .forAppending)
      | .both => ask (Unix.openFile path .forBoth)
    match opened, use with
    | .ok n, _ => return n
    | .error errno, .reads =>
      abort ("cannot open " ++ path ++ ": " ++ whyUnopened errno "No such file")
    | .error errno, _ =>
      abort ("cannot create " ++ path ++ ": " ++ whyUnopened errno "Directory nonexistent")
  | .same stream other => return other.getD stream
  | .document _ number => do
    let text ← expandText capture .document ((← get).documents.getD number [])
    askD 0 (Unix.makeText text)

/-- Where streams led to before, as far as they led anywhere; the latest first. -/
abbrev Kept := List (Nat × Option Nat)

/-- The least descriptor that scripts do not use. -/
def leastOwnDescriptor : Nat := 10

/-- Keeps what a stream leads to, unless it was kept already. -/
def keepStream (kept : Kept) (stream : Nat) : Effect Kept := do
  if (kept.lookup stream).isSome then return kept
  else
    match ← ask (Unix.duplicateAbove stream leastOwnDescriptor) with
    | .ok n =>
      tell (Unix.close stream)
      return (stream, some n) :: kept
    | .error _ => return (stream, none) :: kept

/-- Makes a redirection. -/
def redirect (capture : Capture) (keeps : Bool) (kept : Kept) (r : Redirect) :
    Effect (Kept × Bool) := do
  match ← attempt (openGoal capture r) with
  | .error .failed => return (kept, false)
  | .error halt => throw halt
  | .ok opened =>
    let stream := r.stream
    match r with
    | .same _ other =>
      if other = some stream then return (kept, true)
      else
        let kept ← if keeps then keepStream kept stream else pure kept
        match other with
        | none =>
          tell (Unix.close stream)
          return (kept, true)
        | some other =>
          match ← ask (Unix.duplicateOnto other stream) with
          | .ok () => return (kept, true)
          | .error errno =>
            complain (toString other ++ ": " ++ errno.words)
            return (kept, false)
    | _ =>
      if opened = stream then
        return (if keeps && (kept.lookup stream).isNone then (stream, none) :: kept else kept, true)
      else
        let kept ← if keeps then keepStream kept stream else pure kept
        tell (Unix.duplicateOnto opened stream)
        tell (Unix.close opened)
        return (kept, true)

/-- Makes redirections up to the first one where something is wrong, and tells whether nothing is.
-/
def redirectEach (capture : Capture) (keeps : Bool) : Kept → List Redirect → Effect (Kept × Bool)
  | kept, [] => return (kept, true)
  | kept, r :: rest => do
    let (kept, done) ← redirect capture keeps kept r
    if done then redirectEach capture keeps kept rest else return (kept, false)

/-- Lets a stream lead to where it led before. -/
def restoreStream (stream : Nat) (before : Option Nat) : Effect Unit := do
  match before with
  | none => tell (Unix.close stream)
  | some n =>
    tell (Unix.duplicateOnto n stream)
    tell (Unix.close n)

/-- Lets streams lead to where they led before. -/
def restoreStreams (kept : Kept) : Effect Unit :=
  kept.forM fun (stream, before) => restoreStream stream before

/-- Lets streams lead where they lead now for good. -/
def forgetStreams (kept : Kept) : Effect Unit :=
  kept.forM fun (_, before) =>
    match before with
    | some n => tell (Unix.close n)
    | none => pure ()

/-- Makes redirections for good; something wrong ends the shell. -/
def redirectForGood (capture : Capture) (redirects : List Redirect) : Effect Unit := do
  let (_, done) ← redirectEach capture false [] redirects
  if done then return ()
  else
    finishWith 2
    throw .failed

end Shipyard.Shell
