import Shipyard.Text.Case.Table

/-!
# Lower and upper case

The full case mappings of Unicode: a character may map to several, and a capital sigma becomes a
final sigma at the end of a word. `lower` and `upper` map whole strings.
-/

namespace Shipyard.Text

/-- The image of a code point under a run, if the run holds it. -/
def CaseRun.image? (run : CaseRun) (code : Nat) : Option Nat :=
  if run.first ≤ code && code ≤ run.last && (code - run.first) % run.step == 0 then
    some (run.image + (code - run.first))
  else none

/-- The image of a character: several characters, one character, or itself. -/
def mapCase (table : List CaseRun) (expansions : List (Nat × List Nat)) (c : Char) : List Char :=
  match expansions.lookup c.toNat with
  | some codes => codes.map Char.ofNat
  | none => [Char.ofNat ((table.findSome? (·.image? c.toNat)).getD c.toNat)]

/-- The lower-case form of a character on its own. -/
def lowerChar (c : Char) : List Char :=
  if c.toNat < 128 then [c.toLower] else mapCase lowerRuns lowerExpansions c

/-- The upper-case form of a character. -/
def upperChar (c : Char) : List Char :=
  if c.toNat < 128 then [c.toUpper] else mapCase upperRuns upperExpansions c

/-- Whether the first character that is not ignorable has case. -/
def startsCased (cs : List Char) : Bool :=
  match cs.dropWhile fun c => inRanges caseIgnorableRanges c.toNat with
  | [] => false
  | c :: _ => inRanges casedRanges c.toNat

/-- A sigma is final if a cased character comes before it and none after it; `before` is reversed.
-/
def isFinalSigma (before after : List Char) : Bool :=
  startsCased before && !startsCased after

/-- Walks over a text with the characters before (reversed) and the result so far (reversed). -/
def lowerFrom (before done : List Char) : List Char → List Char
  | [] => done.reverse
  | c :: rest =>
    let image :=
      if c = 'Σ' then [if isFinalSigma before rest then 'ς' else 'σ'] else lowerChar c
    lowerFrom (c :: before) (image.reverse ++ done) rest

/-- The lower-case form of a string. -/
def lower (s : String) : String := String.ofList (lowerFrom [] [] s.toList)

/-- The upper-case form of a string. -/
def upper (s : String) : String := String.ofList (s.toList.flatMap upperChar)

end Shipyard.Text
