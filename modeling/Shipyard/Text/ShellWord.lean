/-!
# Words of a shell command

`ShellWord.quote` writes a text as one word of a POSIX shell: as it is if it holds only plain
characters, else between single quotes, where a single quote is written between double quotes.
`ShellWord.split?` reads a command of plain characters and quotes back into its words, and refuses
everything that a shell would expand or take for an operator.
-/

namespace Shipyard.ShellWord

/-- Characters that mean only themselves in every part of a shell word. -/
def isPlain (c : Char) : Bool := c.isAlphanum || "_@%+=:,./-".toList.contains c

/-- The body of a single-quoted word. -/
def quotedBody (cs : List Char) : List Char :=
  cs.flatMap fun c => if c = '\x27' then ['\x27', '"', '\x27', '"', '\x27'] else [c]

/-- A text as one word of a shell command, on characters. -/
def quoteChars (cs : List Char) : List Char :=
  if cs = [] then ['\x27', '\x27']
  else if cs.all isPlain then cs
  else '\x27' :: quotedBody cs ++ ['\x27']

/-- A text as one word of a shell command. -/
def quote (s : String) : String := String.ofList (quoteChars s.toList)

/-! ## Reading words back -/

/-- Where a reader of shell words stands: between words, in the plain part of one, or inside
quotes. The word read so far is reversed. -/
inductive ReadState where
  /-- between two words -/
  | outside
  /-- inside a word, outside quotes -/
  | plain (word : List Char)
  /-- between single quotes -/
  | single (word : List Char)
  /-- between double quotes -/
  | double (word : List Char)

/-- Characters that keep a meaning between double quotes. -/
def isActiveInDouble (c : Char) : Bool := c = '$' || c = '\x60' || c = '\\'

/-- Reads on from a state; the words read so far are reversed. -/
def splitFrom (found : List (List Char)) : ReadState → List Char → Option (List (List Char))
  | .outside, [] => some found.reverse
  | .plain word, [] => some (word.reverse :: found).reverse
  | .single _, [] => none
  | .double _, [] => none
  | .outside, c :: rest =>
    if c = ' ' then splitFrom found .outside rest
    else if c = '\x27' then splitFrom found (.single []) rest
    else if c = '"' then splitFrom found (.double []) rest
    else if isPlain c then splitFrom found (.plain [c]) rest
    else none
  | .plain word, c :: rest =>
    if c = ' ' then splitFrom (word.reverse :: found) .outside rest
    else if c = '\x27' then splitFrom found (.single word) rest
    else if c = '"' then splitFrom found (.double word) rest
    else if isPlain c then splitFrom found (.plain (c :: word)) rest
    else none
  | .single word, c :: rest =>
    if c = '\x27' then splitFrom found (.plain word) rest
    else splitFrom found (.single (c :: word)) rest
  | .double word, c :: rest =>
    if c = '"' then splitFrom found (.plain word) rest
    else if isActiveInDouble c then none
    else splitFrom found (.double (c :: word)) rest

/-- The words of a command that holds no expansion and no operator outside quotes. -/
def split? (s : String) : Option (List String) :=
  (splitFrom [] .outside s.toList).map (·.map String.ofList)

end Shipyard.ShellWord
