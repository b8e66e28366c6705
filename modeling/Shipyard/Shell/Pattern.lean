import Shipyard.Text.CharClass
import Shipyard.Text.Search

/-!
# Patterns

The patterns that a shell compares texts with. `Pattern.accepts` is whether all of a text fits.
-/

namespace Shipyard.Shell

open Text (SetMember classNames isOfClass)

/-- A character of an expanded word. A quoted one stands for itself. -/
structure Letter where
  /-- the character -/
  char : Char
  /-- whether it is quoted -/
  isQuoted : Bool
  deriving DecidableEq, Repr

/-- A part of a pattern. -/
inductive PatternPart where
  /-- any text -/
  | anyText
  /-- any character -/
  | anyChar
  /-- one character -/
  | exactly (c : Char)
  /-- a character of a set, or none of it -/
  | oneOf (negated : Bool) (members : List SetMember)
  deriving DecidableEq, Repr

/-- A pattern. -/
abbrev Pattern := List PatternPart

/-- The text of letters. -/
def lettersText (letters : List Letter) : List Char := letters.map (·.char)

/-! ## Sets of characters -/

/-- The class at the beginning of letters behind a bracket, and the letters behind it. -/
def classAt? (letters : List Letter) : Option (String × List Letter) :=
  match letters with
  | ⟨':', false⟩ :: rest =>
    let name := String.ofList (lettersText (rest.takeWhile fun l => l.char ≠ ':'))
    match rest.drop name.length with
    | ⟨':', _⟩ :: ⟨']', _⟩ :: behind =>
      if classNames.contains name then some (name, behind) else none
    | _ => none
  | _ => none

/-- The members of a set up to the bracket that closes it, and the letters behind that. A bracket at
the beginning does not close the set. The fuel bounds how many members there are. -/
def readSet : Nat → Bool → List Letter → Option (List SetMember × List Letter)
  | 0, _, _ => none
  | _ + 1, _, [] => none
  | fuel + 1, isFirst, l :: rest =>
    if l.char = ']' && !l.isQuoted && !isFirst then some ([], rest)
    else
      match (if l.char = '[' && !l.isQuoted then classAt? rest else none) with
      | some (name, behind) =>
        (readSet fuel false behind).map fun (members, behind) => (.ofClass name :: members, behind)
      | none =>
        let (l, rest) := match l, rest with
          | ⟨'\\', false⟩, next :: rest => (next, rest)
          | _, _ => (l, rest)
        match rest with
        | ⟨'-', false⟩ :: last :: behind =>
          if last.char = ']' && !last.isQuoted then
            (readSet fuel false rest).map fun (members, behind) =>
              (.range l.char l.char :: members, behind)
          else
            let (last, behind) := match last, behind with
              | ⟨'\\', false⟩, next :: behind => (next, behind)
              | _, _ => (last, behind)
            (readSet fuel false behind).map fun (members, behind) =>
              (.range l.char last.char :: members, behind)
        | _ =>
          (readSet fuel false rest).map fun (members, behind) =>
            (.range l.char l.char :: members, behind)

/-- The set at the beginning of letters behind a bracket, and the letters behind it. -/
def setAt? (letters : List Letter) : Option (PatternPart × List Letter) :=
  let (negated, inner) := match letters with
    | ⟨'!', false⟩ :: inner => (true, inner)
    | ⟨'^', false⟩ :: inner => (true, inner)
    | _ => (false, letters)
  (readSet (inner.length + 1) true inner).map fun (members, behind) =>
    (.oneOf negated members, behind)

/-! ## Patterns -/

/-- The pattern that letters stand for. The fuel bounds its length. -/
def patternWith : Nat → List Letter → Pattern
  | 0, _ => []
  | _ + 1, [] => []
  | fuel + 1, l :: rest =>
    if l.isQuoted then .exactly l.char :: patternWith fuel rest
    else if l.char = '*' then .anyText :: patternWith fuel rest
    else if l.char = '?' then .anyChar :: patternWith fuel rest
    else if l.char = '\\' then
      match rest with
      | next :: rest => .exactly next.char :: patternWith fuel rest
      | [] => [.exactly '\\']
    else if l.char = '[' then
      match setAt? rest with
      | some (part, behind) => part :: patternWith fuel behind
      | none => .exactly '[' :: patternWith fuel rest
    else .exactly l.char :: patternWith fuel rest

/-- The pattern that letters stand for. -/
def Pattern.ofLetters (letters : List Letter) : Pattern := patternWith (letters.length + 1) letters

/-- Whether one character fits a part of a pattern. -/
def PatternPart.fits (c : Char) : PatternPart → Bool
  | anyText => true
  | anyChar => true
  | exactly d => c = d
  | oneOf negated members => members.any (·.holds c) != negated

/-- Whether all of a text fits a pattern. -/
def Pattern.accepts : Pattern → List Char → Bool
  | [], cs => cs.isEmpty
  | .anyText :: parts, [] => accepts parts []
  | .anyText :: parts, c :: cs => accepts parts (c :: cs) || accepts (.anyText :: parts) cs
  | _ :: _, [] => false
  | part :: parts, c :: cs => part.fits c && accepts parts cs
termination_by parts cs => parts.length + cs.length

/-- Whether letters are a pattern and not just a text. -/
def hasPattern (letters : List Letter) : Bool :=
  letters.any fun l => !l.isQuoted && "*?[".toList.contains l.char

/-- The lengths of the beginnings of a text, in order. -/
def cuts (cs : List Char) : List Nat := List.range (cs.length + 1)

/-- A text without the shortest or longest beginning that fits. -/
def Pattern.cutFront (p : Pattern) (longest : Bool) (cs : List Char) : List Char :=
  let places := if longest then (cuts cs).reverse else cuts cs
  match places.find? fun n => p.accepts (cs.take n) with
  | some n => cs.drop n
  | none => cs

/-- A text without the shortest or longest end that fits. -/
def Pattern.cutBack (p : Pattern) (longest : Bool) (cs : List Char) : List Char :=
  let places := if longest then cuts cs else (cuts cs).reverse
  match places.find? fun n => p.accepts (cs.drop n) with
  | some n => cs.take n
  | none => cs

end Shipyard.Shell
