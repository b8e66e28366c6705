import Shipyard.Text.Search

/-!
# Notices

What a run tells the user is a list of notices. A notice becomes a record, a line with a style and
with the word that goes with its kind. Branches share one console, so each of them puts its tag in
front of what it says.
-/

namespace Shipyard

/-- The style of a line. -/
inductive Style where
  /-- without a style -/
  | plain
  /-- something was done -/
  | success
  /-- something failed -/
  | error
  /-- something may be wrong -/
  | warning
  /-- something begins -/
  | info
  /-- commands and hints -/
  | dim
  /-- something that stands out -/
  | bold
  /-- the title of a part -/
  | header
  deriving DecidableEq, Repr

namespace Style

/-- The word for a style. -/
def word : Style → String
  | plain => "default"
  | success => "success"
  | error => "error"
  | warning => "warning"
  | info => "info"
  | dim => "dim"
  | bold => "bold"
  | header => "header"

/-- All styles. -/
def all : List Style := [plain, success, error, warning, info, dim, bold, header]

/-- The style of a word. -/
def ofWord? (w : String) : Option Style := all.find? (·.word = w)

end Style

/-- Something that is told to the user. -/
inductive Notice where
  /-- a line in a style -/
  | print (message : String) (style : Style)
  /-- something was done -/
  | success (message : String)
  /-- something failed -/
  | error (message : String)
  /-- something may be wrong -/
  | warning (message : String)
  /-- something begins -/
  | info (message : String)
  /-- the title of a part -/
  | header (message : String)
  /-- an empty line -/
  | newline
  deriving DecidableEq, Repr

/-- A notice as it is recorded. -/
structure Record where
  /-- the style of the line -/
  style : Style
  /-- the text of the line -/
  message : String
  deriving DecidableEq, Repr

namespace Notice

/-- The record of a notice. -/
def record : Notice → Record
  | print message style => ⟨style, message⟩
  | success message => ⟨.success, "OK " ++ message⟩
  | error message => ⟨.error, "error: " ++ message⟩
  | warning message => ⟨.warning, "warning: " ++ message⟩
  | info message => ⟨.info, "info: " ++ message⟩
  | header message => ⟨.header, message⟩
  | newline => ⟨.plain, ""⟩

/-- The notice with another message; an empty line has none. -/
def mapMessage (f : String → String) : Notice → Notice
  | print message style => print (f message) style
  | success message => success (f message)
  | error message => error (f message)
  | warning message => warning (f message)
  | info message => info (f message)
  | header message => header (f message)
  | newline => newline

/-- A tag as it stands in front of a message. -/
def tag (name : String) : String := "[" ++ name ++ "] "

/-- The notice with a tag in front of its message. -/
def tagged (name : String) (n : Notice) : Notice := n.mapMessage (tag name ++ ·)

end Notice

/-- A way to the console: the tags that are put in front of every message, the outermost first. -/
abbrev Console := List String

namespace Console

/-- The console itself. -/
def plain : Console := []

/-- The console with one more tag, which comes behind those that are there. -/
def within (console : Console) (name : String) : Console := console ++ [name]

/-- The notice that arrives at the console. -/
def deliver (console : Console) (n : Notice) : Notice := console.foldr Notice.tagged n

end Console

/-! ## Looking at records -/

namespace Record

/-- The text of all records, one below the other. -/
def textOf (records : List Record) : String := String.intercalate "\n" (records.map (·.message))

/-- Whether there is a record of something that failed. -/
def hasError (records : List Record) : Bool := records.any (·.style = .error)

/-- The records whose message holds a text. -/
def find (records : List Record) (needle : String) : List Record :=
  records.filter fun r => Text.contains r.message needle

end Record

end Shipyard
