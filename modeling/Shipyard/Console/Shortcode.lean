import Shipyard.Console.Shortcode.Table
import Shipyard.Text.Blank
import Shipyard.Text.Case
import Shipyard.Text.CharClass
import Shipyard.Text.Search

/-!
# Shortcodes

A name between two colons stands for a picture. `:name-text:` and `:name-emoji:` ask for one of its
two forms. Names are compared in lower case, and what is no name of a picture is left as it is, both
of its colons included.
-/

namespace Shipyard.Shortcode

/-- The number that hexadecimal digits write. -/
def hexadecimal (s : String) : Nat :=
  s.toList.foldl (fun n c => 16 * n + (Text.hexValue? c).getD 0) 0

/-- The characters of an entry behind its equals sign. -/
def characters (codes : String) : List Char :=
  (Text.splitAt '-' codes.toList).map fun code => Char.ofNat (hexadecimal (String.ofList code))

/-- The entries of the table: names and code points. -/
def table : List (String × String) :=
  (Text.splitAt ' ' shortcodeEntries.toList).map fun entry => Text.cutAt (String.ofList entry) '='

/-- The picture with a name. -/
def picture? (name : String) : Option (List Char) := (table.lookup name).map characters

/-- The ways to ask for a form of a picture, and the character that follows the picture then. -/
def forms : List (String × Char) := [("-emoji", '\ufe0f'), ("-text", '\ufe0e')]

/-- A name and the form that it asks for at its end. A name that only consists of that is still cut.
-/
def formOf (name : String) : String × List Char :=
  match forms.find? fun form => name.endsWith form.1 with
  | some (ending, mark) => (Text.dropEnd name ending, [mark])
  | none => (name, [])

/-- What stands for the text between two colons, if it is the name of a picture. -/
def meaning? (name : List Char) : Option (List Char) :=
  let (base, mark) := formOf (String.ofList name)
  (picture? (Text.lower base)).map (· ++ mark)

/-- The text up to the next colon and the text behind it, if no blank comes first. -/
def nameAt? : List Char → Option (List Char × List Char)
  | [] => none
  | c :: rest =>
    if c = ':' then some ([], rest)
    else if Text.isBlank c then none
    else (nameAt? rest).map fun (name, after) => (c :: name, after)

/-- A text with pictures for its shortcodes. The fuel bounds the length of the text. -/
def replaceWith : Nat → List Char → List Char
  | 0, cs => cs
  | _ + 1, [] => []
  | fuel + 1, c :: rest =>
    if c = ':' then
      match nameAt? rest with
      | some (name, after) =>
        (meaning? name).getD (':' :: name ++ [':']) ++ replaceWith fuel after
      | none => c :: replaceWith fuel rest
    else c :: replaceWith fuel rest

/-- A text with pictures for its shortcodes. -/
def replace (cs : List Char) : List Char := replaceWith cs.length cs

end Shipyard.Shortcode
