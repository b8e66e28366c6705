import Shipyard.Console.Notice
import Shipyard.Text.Blank
import Shipyard.Text.CellWidth

/-!
# Lines on a terminal

A terminal has a width. A text for it is a list of runs, each in one style, and `lines` lays it out:
the text is cut at its line feeds, tabulators become blanks, and a line that does not fit is broken
between two words, or inside a word that is wider than the whole terminal.
-/

namespace Shipyard

/-- Characters in one style. -/
structure Run where
  /-- their style -/
  style : Style
  /-- the characters -/
  chars : List Char
  deriving DecidableEq, Repr

namespace Layout

/-- The characters of runs. -/
def plainText (runs : List Run) : List Char := runs.flatMap (·.chars)

/-! ## Cutting runs -/

/-- The runs of the first `n` characters, and those of the others. -/
def cut (n : Nat) : List Run → List Run × List Run
  | [] => ([], [])
  | run :: rest =>
    if n < run.chars.length then
      ([{ run with chars := run.chars.take n }], { run with chars := run.chars.drop n } :: rest)
    else
      let (before, after) := cut (n - run.chars.length) rest
      (run :: before, after)

/-- Runs cut at positions that are counted from `start`, in rising order. -/
def cutAll (start : Nat) : List Nat → List Run → List (List Run)
  | [], runs => [runs]
  | position :: rest, runs =>
    let (before, after) := cut (position - start) runs
    before :: cutAll position rest after

/-- Other characters in the styles of some runs, position by position. -/
def restyle : List Run → List Char → List Run
  | [], _ => []
  | run :: rest, cs =>
    { run with chars := cs.take run.chars.length } :: restyle rest (cs.drop run.chars.length)

/-- The parts of a run between line feeds, in front of a line and of further lines: the last part
belongs to that line, and every other one is a line of its own. -/
def ontoLines (style : Style) (line : List Run) (further : List (List Run)) :
    List (List Char) → List Run × List (List Run)
  | [] => (line, further)
  | [part] => (⟨style, part⟩ :: line, further)
  | part :: rest =>
    let (line, further) := ontoLines style line further rest
    ([⟨style, part⟩], line :: further)

/-- The lines of runs: the first one, and those behind it. -/
def splitLines : List Run → List Run × List (List Run)
  | [] => ([], [])
  | run :: rest =>
    let (line, further) := splitLines rest
    ontoLines run.style line further (Text.splitAt '\n' run.chars)

/-! ## Tabulators -/

/-- How far apart tabulators stop. -/
def tabWidth : Nat := 8

/-- A run with blanks for its tabulators, cut behind each of them. `column` is where the part of the
line that `part` (reversed) is the beginning of has begun; both go on behind the run. -/
def expandRun (style : Style) (piece : List Char) (column : Nat) (part : List Char) :
    List Char → List Run × Nat × List Char
  | [] => ([⟨style, piece.reverse⟩], column, part)
  | c :: rest =>
    if c = '\t' then
      let reached := column + Text.cellWidth (' ' :: part).reverse
      let padding := (tabWidth - reached % tabWidth) % tabWidth
      let (runs, after) := expandRun style [] (reached + padding) [] rest
      (⟨style, piece.reverse ++ List.replicate (padding + 1) ' '⟩ :: runs, after)
    else expandRun style (c :: piece) column (c :: part) rest

/-- Runs of a line with blanks for their tabulators. -/
def expandFrom (column : Nat) (part : List Char) : List Run → List Run
  | [] => []
  | run :: rest =>
    let (runs, column, part) := expandRun run.style [] column part run.chars
    runs ++ expandFrom column part rest

/-- A line with blanks for its tabulators. -/
def expandTabs (line : List Run) : List Run :=
  if (plainText line).contains '\t' then expandFrom 0 [] line else line

/-! ## Breaking lines -/

/-- The words of a line with the blanks behind them; the first one also has those before it. The
fuel bounds the number of words. -/
def wordsWith : Nat → List Char → List (List Char)
  | 0, _ => []
  | fuel + 1, cs =>
    let (before, cs) := cs.span Text.isBlank
    match cs.span (!Text.isBlank ·) with
    | ([], _) => []
    | (word, cs) =>
      let (after, cs) := cs.span Text.isBlank
      (before ++ word ++ after) :: wordsWith fuel cs

/-- The words of a line with their blanks. -/
def words (cs : List Char) : List (List Char) := wordsWith cs.length cs

/-- Where the pieces of a word begin; the first of them is left out at the beginning of the line. -/
def pieceStarts : Nat → List (List Char) → List Nat
  | _, [] => []
  | start, piece :: rest =>
    let later := pieceStarts (start + piece.length) rest
    if start = 0 then later else start :: later

/-- Where a line is broken. `start` is where the first word begins in the whole line, and `filled`
how many cells the words before it fill in theirs. -/
def breaksFrom (width start filled : Nat) : List (List Char) → List Nat
  | [] => []
  | word :: rest =>
    let needed := Text.cellWidth (Text.stripRight word)
    let next := start + word.length
    if filled + needed ≤ width then
      breaksFrom width next (filled + Text.cellWidth word) rest
    else if needed > width then
      let pieces := Text.chop width word
      pieceStarts start pieces ++
        breaksFrom width next ((pieces.getLast?.map Text.cellWidth).getD 0) rest
    else start :: breaksFrom width next (Text.cellWidth word) rest

/-- Where a line is broken. -/
def breaks (width : Nat) (cs : List Char) : List Nat := breaksFrom width 0 0 (words cs)

/-- A line without the blanks at its end that come behind the first `width` characters. -/
def dropExcessBlanks (width : Nat) (line : List Run) : List Run :=
  let cs := plainText line
  let blanks := (cs.reverse.takeWhile Text.isBlank).length
  (cut (cs.length - min blanks (cs.length - width)) line).1

/-- A line of at most `width` cells. -/
def fit (width : Nat) (line : List Run) : List Run :=
  let cs := plainText line
  if Text.cellWidth cs ≤ width then line
  else restyle line (Text.fitFrom width (Text.clusters cs))

/-- The lines of a text on a terminal that is `width` cells wide. -/
def lines (width : Nat) (text : List Run) : List (List Run) :=
  let (first, further) := splitLines text
  (first :: further).flatMap fun line =>
    let line := expandTabs line
    (cutAll 0 (breaks width (plainText line)) line).map fun part =>
      fit width (dropExcessBlanks width part)

end Layout

end Shipyard
