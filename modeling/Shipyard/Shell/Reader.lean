import Shipyard.Shell.Syntax
import Shipyard.Text.Search

/-!
# Reading the characters of a script

A `Reader` is a place in a script. Texts that stand for words are put in front of what is left of
the script, and each of them is remembered until it has been read, because a word does not stand for
a text while that very text is being read.
-/

namespace Shipyard.Shell

/-- Why a script cannot be read. -/
inductive SyntaxFault where
  /-- a quoted text has no end -/
  | unterminated
  /-- a substitution has no end -/
  | missingEnd (what : String)
  /-- a substitution between backquotes has no end -/
  | openBackquote
  /-- a function needs a name -/
  | badFunctionName
  /-- a loop over values needs a name -/
  | badLoopVariable
  /-- a token stands where it may not; another one may be needed -/
  | unexpected (token : String) (needed : Option String)
  deriving DecidableEq, Repr

/-- What is wrong with a script. -/
def SyntaxFault.message : SyntaxFault → String
  | unterminated => "Syntax error: Unterminated quoted string"
  | missingEnd what => "Syntax error: Missing '" ++ what ++ "'"
  | openBackquote => "Syntax error: EOF in backquote substitution"
  | badFunctionName => "Syntax error: Bad function name"
  | badLoopVariable => "Syntax error: Bad for loop variable"
  | unexpected token needed =>
    "Syntax error: " ++ token ++ " unexpected" ++
      (match needed with
      | some other => " (expecting " ++ other ++ ")"
      | none => "")

/-! ## Names -/

/-- The first character of a name. -/
def isNameStart (c : Char) : Bool := c.isAlpha || c = '_'

/-- A character of a name. -/
def isNameChar (c : Char) : Bool := c.isAlphanum || c = '_'

/-- Whether a text is a name. -/
def isName (cs : List Char) : Bool :=
  match cs with
  | c :: rest => isNameStart c && rest.all isNameChar
  | [] => false

/-- Blanks between fields and numbers. -/
def isSpace (c : Char) : Bool := c = ' ' || c = '\t' || c = '\n'

/-- The value of decimal digits. -/
def decimalOf (cs : List Char) : Nat := cs.foldl (fun n c => 10 * n + (c.toNat - 48)) 0

/-- The parameters that are written with one special character. -/
def isSpecialParameter (c : Char) : Bool := "@*#?$!-".toList.contains c || c.isDigit

/-! ## Tokens -/

/-- A token. -/
inductive Token where
  | eof
  | newline
  | semicolon
  | ampersand
  | both
  | either
  | pipe
  | opening
  | closing
  | endCase
  | word
  | redirection
  | keyword (name : String)
  deriving DecidableEq, Repr

/-- The words for a token in a message. -/
def Token.words : Token → String
  | eof => "end of file"
  | newline => "newline"
  | semicolon => "\";\""
  | ampersand => "\"&\""
  | both => "\"&&\""
  | either => "\"||\""
  | pipe => "\"|\""
  | opening => "\"(\""
  | closing => "\")\""
  | endCase => "\";;\""
  | word => "word"
  | redirection => "redirection"
  | keyword name => "\"" ++ name ++ "\""

/-- The words that have a meaning of their own. -/
def reservedWords : List String :=
  ["!", "case", "do", "done", "elif", "else", "esac", "fi", "for", "if", "in", "then", "until",
    "while", "\x7b", "\x7d"]

/-- Tokens that end a list of commands. -/
def Token.endsList : Token → Bool
  | eof => true
  | closing => true
  | endCase => true
  | keyword name => ["do", "done", "elif", "else", "esac", "fi", "then", "\x7d"].contains name
  | _ => false

/-! ## Readers -/

/-- A text that stands for a word. -/
structure Source where
  /-- what is left of it -/
  rest : List Char
  /-- the word -/
  name : String
  /-- whether it ends with a blank, so that the next word may stand for a text too -/
  endsBlank : Bool
  deriving Repr

/-- What is looked for in the next token. -/
structure Watch where
  /-- ends of lines are passed over -/
  newlines : Bool
  /-- words with a meaning of their own -/
  keywords : Bool
  /-- words that stand for texts -/
  aliases : Bool
  /-- the word that ends a text that follows -/
  endMark : Bool
  deriving DecidableEq, Repr

namespace Watch

/-- Nothing. -/
def nothing : Watch := ⟨false, false, false, false⟩

/-- What may stand at the beginning of a command. -/
def command : Watch := ⟨false, true, true, false⟩

/-- What may stand at the beginning of a command behind ends of lines. -/
def lines : Watch := ⟨true, true, true, false⟩

/-- What is looked for in two ways. -/
def both (a b : Watch) : Watch :=
  ⟨a.newlines || b.newlines, a.keywords || b.keywords, a.aliases || b.aliases,
    a.endMark || b.endMark⟩

end Watch

/-- What a redirection does, as long as it is not known with what. -/
inductive RedirectionStart where
  /-- it opens a file -/
  | file (stream : Nat) (use : FileUse)
  /-- it follows another stream -/
  | same (stream : Nat)
  /-- it takes a text that follows, with or without the tabulators before its lines -/
  | document (stream : Nat) (strips : Bool)
  deriving DecidableEq, Repr

/-- A text that follows behind the line. -/
structure Expected where
  /-- the line that ends it -/
  stop : String
  /-- whether tabulators before its lines are dropped -/
  strips : Bool
  /-- whether it is taken as it is -/
  isLiteral : Bool
  /-- its number -/
  number : Nat
  deriving Repr

/-- A place in a script. -/
structure Reader where
  /-- the texts that are read first -/
  sources : List Source
  /-- the script from here on -/
  rest : List Char
  /-- the number of the line -/
  line : Nat
  /-- what is looked for in the next token -/
  watch : Watch
  /-- whether the last token is to be read again -/
  isHeld : Bool
  /-- the last token -/
  token : Token
  /-- the last word -/
  word : Word
  /-- whether it has quotes -/
  isQuoted : Bool
  /-- the last redirection -/
  redirection : RedirectionStart
  /-- the texts that follow behind the line -/
  expected : List Expected
  /-- the texts that have been read -/
  documents : Array Word
  /-- the texts that words stand for -/
  aliases : List (String × String)

/-- The beginning of a script. -/
def Reader.ofText (text : List Char) (line : Nat) (documents : Array Word)
    (aliases : List (String × String)) : Reader where
  sources := []
  rest := text
  line := line
  watch := .nothing
  isHeld := false
  token := .eof
  word := []
  isQuoted := false
  redirection := .same 0
  expected := []
  documents := documents
  aliases := aliases

namespace Reader

/-- Leaves texts that have been read. -/
def settleFrom (r : Reader) : List Source → Reader
  | [] => { r with sources := [] }
  | source :: others =>
    if source.rest = [] then
      let watch := { r.watch with aliases := r.watch.aliases || source.endsBlank }
      settleFrom { r with watch } others
    else { r with sources := source :: others }

/-- The reader without texts that have been read. -/
def settle (r : Reader) : Reader :=
  match r.sources with
  | ⟨[], _, _⟩ :: _ => r.settleFrom r.sources
  | _ => r

/-- The next character of a settled reader. -/
def head? (r : Reader) : Option Char :=
  match r.sources with
  | source :: _ => source.rest.head?
  | [] => r.rest.head?

/-- A settled reader behind its next character. -/
def drop (r : Reader) : Reader :=
  let line := if r.head? = some '\n' then r.line + 1 else r.line
  match r.sources with
  | source :: others =>
    { r with line, sources := { source with rest := source.rest.drop 1 } :: others }
  | [] => { r with line, rest := r.rest.drop 1 }

/-- The next character, and the reader at it and behind it. -/
def next (r : Reader) : Option Char × Reader × Reader :=
  let r := r.settle
  (r.head?, r, r.drop)

/-- The next character behind broken lines, and the reader at it and behind it. The fuel bounds how
many broken lines there are. -/
def nextJoined : Nat → Reader → Option Char × Reader × Reader
  | 0, r => r.next
  | fuel + 1, r =>
    match r.next with
    | (some '\\', here, behind) =>
      match behind.next with
      | (some '\n', _, after) => nextJoined fuel after
      | _ => (some '\\', here, behind)
    | other => other

/-- How many characters there are. -/
def size (r : Reader) : Nat :=
  r.sources.foldl (fun n source => n + source.rest.length) r.rest.length

/-- The reader with a text in front that stands for a word. -/
def push (r : Reader) (name text : String) : Reader :=
  let cs := text.toList
  let endsBlank := match cs.getLast? with
    | some c => c = ' ' || c = '\t'
    | none => false
  { r with sources := ⟨cs, name, endsBlank⟩ :: r.sources }

/-- The text that a word stands for, unless it is being read. -/
def alias? (r : Reader) (word : String) : Option String :=
  if r.sources.any (·.name = word) then none else r.aliases.lookup word

end Reader

/-- The text of a word without quotes and substitutions. -/
def plainText? (word : Word) : Option (List Char) :=
  word.mapM fun
    | .letter c false => some c
    | _ => none

/-- The characters of a word, without its quotes. -/
def lettersOf (word : Word) : List Char :=
  word.filterMap fun
    | .letter c _ => some c
    | _ => none

/-- The name and the value of a word that gives a variable its value. -/
def assignmentOf? (word : Word) : Option (String × Word) :=
  let isPlain := fun (part : Part) => match part with
    | .letter c false => isNameChar c
    | _ => false
  let name := lettersOf (word.takeWhile isPlain)
  match word.drop name.length with
  | .letter '=' false :: value => if isName name then some (String.ofList name, value) else none
  | _ => none

end Shipyard.Shell
