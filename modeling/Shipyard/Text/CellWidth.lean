import Shipyard.Text.CellWidth.Table

/-!
# Widths on a terminal

A terminal shows a text in cells. Characters that stand together form a cluster, which is never cut:
a character that fills no cell belongs to what comes before it, a joiner binds the character behind
it as well, and a request for a picture widens a narrow character. `clusters` cuts a text into
clusters, and `cellWidth` is the number of cells they fill.
-/

namespace Shipyard.Text

/-- How many cells a character fills on its own. -/
def charWidth (c : Char) : Nat :=
  if 0x20 ≤ c.toNat && c.toNat < 0x7F then 1
  else if inRanges zeroWidthRanges c.toNat then 0
  else if inRanges wideRanges c.toNat then 2
  else 1

/-- The character that joins its neighbours into one picture. -/
def joiner : Char := '\u200d'

/-- The character that asks for the one before it to be shown as a picture. -/
def pictureMark : Char := '\ufe0f'

/-- Whether a character is wide when it is shown as a picture, and narrow otherwise. -/
def isWidened (c : Char) : Bool := inRanges widenedRanges c.toNat

/-- Characters that are shown together. -/
structure Cluster where
  /-- the characters -/
  chars : List Char
  /-- how many cells they fill -/
  width : Nat
  deriving DecidableEq, Repr

/-- The clusters of a text, the last one first, with more characters at the end of the last. -/
def Cluster.extend (cs : List Char) (wider : Nat) : List Cluster → List Cluster
  | [] => [⟨cs, 0⟩]
  | last :: before => ⟨last.chars ++ cs, last.width + wider⟩ :: before

/-- Walks over a text with the clusters so far (the last first), the last character that fills a
cell, as long as it can be widened, and whether the next character is joined to the last cluster. -/
def clustersFrom (done : List Cluster) (filled : Option Char) (joined : Bool) :
    List Char → List Cluster
  | [] => done.reverse
  | c :: rest =>
    if joined then clustersFrom (Cluster.extend [c] 0 done) filled false rest
    else if c = joiner then
      clustersFrom (Cluster.extend [c] 0 done) filled (!done.isEmpty) rest
    else if c = pictureMark && filled.any isWidened then
      clustersFrom (Cluster.extend [c] 1 done) none false rest
    else if charWidth c = 0 then clustersFrom (Cluster.extend [c] 0 done) filled false rest
    else clustersFrom (⟨[c], charWidth c⟩ :: done) (some c) false rest

/-- The clusters of a text. -/
def clusters (cs : List Char) : List Cluster := clustersFrom [] none false cs

/-- How many cells clusters fill. -/
def clustersWidth (cs : List Cluster) : Nat := cs.foldl (fun n c => n + c.width) 0

/-- How many cells a text fills. -/
def cellWidth (cs : List Char) : Nat := clustersWidth (clusters cs)

/-- Walks over clusters with the piece in hand (reversed) and its width. -/
def chopFrom (width : Nat) (piece : List Char) (filled : Nat) : List Cluster → List (List Char)
  | [] => if filled = 0 then [] else [piece.reverse]
  | c :: rest =>
    if filled + c.width > width then
      piece.reverse :: chopFrom width c.chars.reverse c.width rest
    else chopFrom width (c.chars.reverse ++ piece) (filled + c.width) rest

/-- A text in pieces that each fill at most `width` cells, every piece as long as can be. -/
def chop (width : Nat) (cs : List Char) : List (List Char) := chopFrom width [] 0 (clusters cs)

/-- The clusters at the beginning that fill at most `width` cells. If the next one would only be
cut, a blank stands for the part of it that is left. -/
def fitFrom (width : Nat) : List Cluster → List Char
  | [] => []
  | c :: rest =>
    if c.width ≤ width then c.chars ++ fitFrom (width - c.width) rest
    else if width = 0 then [] else [' ']

end Shipyard.Text
