/-!
# Syntax of shell scripts

The commands of a POSIX shell, and the words they are made of. A word keeps its quotation marks,
because whether a value is quoted decides what becomes of it when the word is expanded.
-/

namespace Shipyard.Shell

/-- What is done with the value of a parameter. -/
inductive ParameterOp where
  /-- it is taken as it is -/
  | value
  /-- its length is taken -/
  | length
  /-- a word stands for it if there is none -/
  | orWord
  /-- a word stands for it if there is one -/
  | thenWord
  /-- a word becomes the value if there is none -/
  | orAssign
  /-- it is an error if there is none -/
  | orFail
  /-- what fits a pattern at one of its ends is cut off -/
  | cut (atEnd longest : Bool)
  /-- there is no such thing -/
  | none
  deriving DecidableEq, Repr

/-- How a file is opened. -/
inductive FileUse where
  /-- it is read -/
  | reads
  /-- it is written anew; one that is there may be protected -/
  | writes
  /-- it is written anew in any case -/
  | overwrites
  /-- it is written at its end -/
  | appends
  /-- it is read and written -/
  | both
  deriving DecidableEq, Repr

mutual

/-- A part of a word. -/
inductive Part where
  /-- a character, which may be escaped -/
  | letter (c : Char) (isEscaped : Bool)
  /-- a quotation mark: quotes begin or end here -/
  | mark
  /-- the value of a parameter; a colon makes an empty value count as none -/
  | parameter (name : String) (op : ParameterOp) (colon : Bool) (operand : List Part)
  /-- the output of a command -/
  | script (body : Option Statement)
  /-- the value of an expression -/
  | arithmetic (expression : List Part)

/-- Where a stream leads to. -/
inductive Redirection where
  /-- to a file -/
  | file (stream : Nat) (use : FileUse) (path : List Part)
  /-- to where another stream leads, or nowhere -/
  | same (stream : Nat) (other : List Part)
  /-- to a text that follows in the script; texts are numbered -/
  | document (stream number : Nat)

/-- A command. The line is where it begins. -/
inductive Statement where
  /-- variables, words and redirections -/
  | simple (line : Nat) (assignments : List (String × List Part)) (words : List (List Part))
      (redirections : List Redirection)
  /-- commands whose outputs are the inputs of the next; it may run on its own -/
  | pipeline (stages : List Statement) (isBackground : Bool)
  /-- a command that runs on its own -/
  | background (line : Nat) (body : Statement) (redirections : List Redirection)
  /-- a command in a shell of its own -/
  | subshell (line : Nat) (body : Option Statement) (redirections : List Redirection)
  /-- a command with redirections -/
  | redirected (line : Nat) (body : Option Statement) (redirections : List Redirection)
  /-- two commands one after the other -/
  | sequence (first second : Statement)
  /-- a command, and another one if it succeeds -/
  | andThen (first second : Statement)
  /-- a command, and another one if it fails -/
  | orElse (first second : Statement)
  /-- a command whose success counts as failure -/
  | negation (body : Statement)
  /-- a choice -/
  | choice (condition yes no : Option Statement)
  /-- a loop that goes on while its condition succeeds, or until it does -/
  | loop (untilTrue : Bool) (condition body : Option Statement)
  /-- a loop over words -/
  | each (line : Nat) (name : String) (words : List (List Part)) (body : Option Statement)
  /-- a choice by patterns -/
  | cases (line : Nat) (word : List Part) (arms : List (List (List Part) × Option Statement))
  /-- a function -/
  | function (line : Nat) (name : String) (body : Statement)

end

instance : Inhabited Statement := ⟨.simple 0 [] [] []⟩

/-- A word. -/
abbrev Word := List Part

end Shipyard.Shell
