import Shipyard.Text.CharClass

/-!
# Blank characters and lines

A character is blank if it is Unicode white space or one of the four ASCII information
separators. `strip` removes blanks at both ends, `words` cuts a text at its blanks, and `runs` and
`pieces` are the two ways of cutting at the maximal runs of any class of separators: `runs` drops
the empty text before a leading or after a trailing separator, `pieces` keeps it.

A line ends at a line feed, a carriage return, the two together, or one of the other eight line
boundaries of Unicode and ASCII. `lines` cuts a text there; a boundary at the end of the text opens
no further line. `unixLines` is the reading of a text file: both forms of the carriage return become
a line feed.
-/

namespace Shipyard.Text

/-- The blank code points. -/
def blankRanges : List CodeRange :=
  [(0x9, 0xD), (0x1C, 0x20), (0x85, 0x85), (0xA0, 0xA0), (0x1680, 0x1680), (0x2000, 0x200A),
    (0x2028, 0x2029), (0x202F, 0x202F), (0x205F, 0x205F), (0x3000, 0x3000)]

/-- White space, and the four separators `U+001C` to `U+001F`. -/
def isBlank (c : Char) : Bool := inRanges blankRanges c.toNat

/-- A text without the blanks at its beginning. -/
def stripLeft (cs : List Char) : List Char := cs.dropWhile isBlank

/-- A text without the blanks at its end. -/
def stripRight (cs : List Char) : List Char := (cs.reverse.dropWhile isBlank).reverse

/-- A text without the blanks at its two ends. -/
def stripBlanks (cs : List Char) : List Char := stripRight (stripLeft cs)

/-- A string without the blanks at its two ends. -/
def strip (s : String) : String := String.ofList (stripBlanks s.toList)

/-- A string without the blanks at its end. -/
def stripEnd (s : String) : String := String.ofList (stripRight s.toList)

/-! ## Cutting at separators -/

/-- Walks over a text with the current piece in hand (reversed); a separator that follows another
one opens no new piece. -/
def piecesFrom (isSep : Char → Bool) (piece : List Char) (inSep : Bool) :
    List Char → List (List Char)
  | [] => [piece.reverse]
  | c :: rest =>
    if isSep c then
      if inSep then piecesFrom isSep piece true rest
      else piece.reverse :: piecesFrom isSep [] true rest
    else piecesFrom isSep (c :: piece) false rest

/-- The pieces between the maximal runs of separators, with an empty piece before a run at the
beginning and after a run at the end. There is always at least one piece. -/
def pieces (isSep : Char → Bool) (cs : List Char) : List (List Char) :=
  piecesFrom isSep [] false cs

/-- The maximal runs of characters that are no separators. -/
def runs (isSep : Char → Bool) (cs : List Char) : List (List Char) :=
  (pieces isSep cs).filter fun piece => !piece.isEmpty

/-- The maximal runs of characters that are not blank. -/
def words (s : String) : List String := (runs isBlank s.toList).map String.ofList

/-! ## Lines -/

/-- The characters that end a line. -/
def isLineBreak (c : Char) : Bool :=
  c.toNat ∈ [0xA, 0xB, 0xC, 0xD, 0x1C, 0x1D, 0x1E, 0x85, 0x2028, 0x2029]

/-- Walks over a text with the current line in hand (reversed). -/
def linesFrom (line : List Char) : List Char → List (List Char)
  | [] => if line.isEmpty then [] else [line.reverse]
  | '\r' :: '\n' :: rest => line.reverse :: linesFrom [] rest
  | c :: rest =>
    if isLineBreak c then line.reverse :: linesFrom [] rest else linesFrom (c :: line) rest

/-- The lines of a text, without their boundaries. -/
def lines (s : String) : List String := (linesFrom [] s.toList).map String.ofList

/-- Walks over a text with the result so far (reversed). -/
def unixNewlinesFrom (done : List Char) : List Char → List Char
  | [] => done.reverse
  | '\r' :: '\n' :: rest => unixNewlinesFrom ('\n' :: done) rest
  | c :: rest => unixNewlinesFrom ((if c = '\r' then '\n' else c) :: done) rest

/-- A text in which every carriage return, with the line feed that may follow it, is one line feed.
-/
def unixLines (s : String) : String := String.ofList (unixNewlinesFrom [] s.toList)

end Shipyard.Text
