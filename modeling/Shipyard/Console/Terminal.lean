import Shipyard.Console.Layout
import Shipyard.Console.Shortcode

/-!
# Notices on a terminal

How a notice is written to a terminal. With colours, every line of a styled text is set on its own
and reset at its end; without them only the words are left. Messages are shown as they are, apart
from shortcodes, from control characters and from backslashes in front of brackets.
-/

namespace Shipyard.Terminal

/-- How many cells a line has. -/
def width : Nat := 500

/-- The codes that set a style. -/
def codes : Style → String
  | .plain => ""
  | .success => "32"
  | .error => "1;31"
  | .warning => "33"
  | .info => "36"
  | .dim => "2"
  | .bold => "1"
  | .header => "1;34"

/-- A text in a style; an empty text needs none. -/
def styled (color : Bool) (style : Style) (text : String) : String :=
  if !color || style = .plain || text = "" then text
  else "\x1b[" ++ codes style ++ "m" ++ text ++ "\x1b[0m"

/-- Characters that move the cursor or ring the bell; none of them is written. -/
def isControl (c : Char) : Bool := "\x07\x08\x0b\x0c\r".toList.contains c

/-- A part of a text with pictures for its shortcodes and without controls. -/
def shown (cs : List Char) : List Char := (Shortcode.replace cs).filter fun c => !isControl c

/-! ## Messages behind a styled word -/

/-- Whether a character can begin what stands in brackets. -/
def beginsTag (c : Char) : Bool := ('a' ≤ c && c ≤ 'z') || c = '#' || c = '/' || c = '@'

/-- The text up to the first closing bracket, and what comes behind it, if no bracket is opened
before. -/
def closing? : List Char → Option (List Char × List Char)
  | [] => none
  | ']' :: rest => some ([']'], rest)
  | '[' :: _ => none
  | c :: rest => (closing? rest).map fun (inside, after) => (c :: inside, after)

/-- A tag at the beginning of a text, and what comes behind it: brackets around a text that begins
like a tag. -/
def tag? : List Char → Option (List Char × List Char)
  | '[' :: c :: rest =>
    if beginsTag c then (closing? rest).map fun (inside, after) => ('[' :: c :: inside, after)
    else none
  | _ => none

/-- A part between tags, in which a backslash before an opening bracket is left out. -/
def unescaped : List Char → List Char
  | '\\' :: '[' :: rest => '[' :: unescaped rest
  | c :: rest => c :: unescaped rest
  | [] => []

/-- The parts of a message: the texts between tags, the backslashes before each tag, and the tags.
`part` (reversed) is the part in hand; the fuel bounds the length of the message. -/
def partsWith : Nat → List Char → List Char → List (List Char)
  | 0, part, cs => [unescaped (part.reverse ++ cs)]
  | _ + 1, part, [] => [unescaped part.reverse]
  | fuel + 1, part, c :: rest =>
    let (slashes, after) := (c :: rest).span (· = '\\')
    match tag? after, slashes with
    | some (tag, after), _ => unescaped part.reverse :: slashes :: tag :: partsWith fuel [] after
    | none, [] => partsWith fuel (c :: part) rest
    | none, slashes => partsWith fuel (slashes ++ part) after

/-- The parts of a message; a shortcode does not reach from one into another. -/
def parts (cs : List Char) : List (List Char) := partsWith (cs.length + 1) [] cs

/-- How many backslashes a text ends with. -/
def slashesAtEnd (cs : List Char) : Nat := (cs.reverse.takeWhile (· = '\\')).length

/-- A message without an escape at its end: a single backslash there is written twice, so that it
does not escape what follows. -/
def guarded (cs : List Char) : List Char := if slashesAtEnd cs = 1 then cs ++ ['\\'] else cs

/-- A message as it stands behind a styled word. -/
def messageRun (message : String) : Run :=
  ⟨.plain, (parts (guarded message.toList)).flatMap shown⟩

/-- What stands behind a title. -/
def titleEnd : List Char := "[/blue bold]".toList

/-- A title. Of the backslashes at its end every other one is an escape, and one that is left over
escapes what stands behind the title. -/
def titleRun (message : String) : Run :=
  let cs := guarded message.toList
  let n := slashesAtEnd cs
  let rest := if n % 2 = 1 then titleEnd else []
  ⟨.header,
    ((parts (cs.take (cs.length - n))).flatMap shown) ++ List.replicate (n / 2) '\\' ++ rest⟩

/-! ## Notices -/

/-- A line, run by run. -/
def writeLine (color : Bool) (line : List Run) : String :=
  String.join (line.map fun run => styled color run.style (String.ofList run.chars)) ++ "\n"

/-- A text, line by line. -/
def write (color : Bool) (text : List Run) : String :=
  String.join ((Layout.lines width text).map (writeLine color))

/-- A message in a style. The style is put on whole lines. -/
def writeMessage (color : Bool) (style : Style) (message : String) : String :=
  String.join ((Layout.lines width [⟨.plain, shown message.toList⟩]).map fun line =>
    styled color style (String.ofList (Layout.plainText line)) ++ "\n")

/-- A styled word and a message. -/
def labelled (color : Bool) (style : Style) (word message : String) : String :=
  write color [⟨style, word.toList⟩, ⟨.plain, [' ']⟩, messageRun message]

/-- A notice as it is written to a terminal. -/
def render (color : Bool) : Notice → String
  | .print message style => writeMessage color style message
  | .success message => labelled color .success "OK" message
  | .error message => labelled color .error "error:" message
  | .warning message => labelled color .warning "warning:" message
  | .info message => labelled color .info "info:" message
  | .header message => write color [⟨.plain, ['\n']⟩, titleRun message]
  | .newline => "\n"

end Shipyard.Terminal
