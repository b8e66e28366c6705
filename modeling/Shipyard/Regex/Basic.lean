import Shipyard.Text.CharClass

/-!
# Regular expressions

What texts a regular expression fits, and which parts of a text its groups stand for. `Regex.ends`
gives the places where a match that begins at a place may end, those first that take more with the
earlier parts of the expression. Of all matches the one that begins first is meant, and of these the
longest one.

Without references to groups, two ways to come to the same place are alike for all that follows, so
only the first one is kept; that bounds the work by the length of the text. With references the
groups are told apart as well.
-/

namespace Shipyard

open Text (SetMember)

/-- What is asked of a place between characters. -/
inductive Regex.Assertion where
  /-- a line begins -/
  | lineStart
  /-- a line ends -/
  | lineEnd
  /-- the text begins -/
  | textStart
  /-- the text ends -/
  | textEnd
  /-- a word begins or ends -/
  | boundary
  /-- no word begins or ends -/
  | noBoundary
  /-- a word begins -/
  | wordStart
  /-- a word ends -/
  | wordEnd
  deriving DecidableEq, Repr

/-- A regular expression. -/
inductive Regex where
  /-- nothing -/
  | empty
  /-- a character of a set, or none of it -/
  | one (negated : Bool) (members : List SetMember)
  /-- a place -/
  | look (a : Regex.Assertion)
  /-- one expression behind another one -/
  | seq (a b : Regex)
  /-- one of two expressions -/
  | either (a b : Regex)
  /-- an expression several times, at least and at most so often -/
  | repeated (a : Regex) (least : Nat) (most : Option Nat)
  /-- a group -/
  | group (n : Nat) (a : Regex)
  /-- the text of a group again -/
  | again (n : Nat)
  deriving Repr

namespace Regex

/-- A text in which expressions are looked for. -/
structure Subject where
  /-- the text -/
  chars : Array Char
  /-- whether large and small letters are alike -/
  folds : Bool
  /-- whether lines begin and end within the text -/
  hasLines : Bool

/-- The places of groups; the latest come first. -/
abbrev Captures := List (Nat × Nat × Nat)

/-- A way to come to a place. -/
structure Thread where
  /-- the place -/
  place : Nat
  /-- the groups -/
  captures : Captures
  deriving DecidableEq, Repr

namespace Subject

/-- Whether two characters are alike. -/
def alike (s : Subject) (a b : Char) : Bool := a = b || (s.folds && a.toLower = b.toLower)

/-- Whether a character belongs to a set. -/
def holds (s : Subject) (members : List SetMember) (c : Char) : Bool :=
  members.any fun m => m.holds c || (s.folds && (m.holds c.toLower || m.holds c.toUpper))

/-- Whether a character of a word stands at a place. -/
def isWordAt (s : Subject) (place : Nat) : Bool :=
  (s.chars[place]?.map fun c => c.isAlphanum || c = '_').getD false

/-- Whether an assertion is true at a place. -/
def asserts (s : Subject) (place : Nat) (a : Assertion) : Bool :=
  let before := 0 < place && s.isWordAt (place - 1)
  let behind := s.isWordAt place
  match a with
  | .lineStart => place = 0 || (s.hasLines && s.chars[place - 1]? = some '\n')
  | .lineEnd => s.chars.size ≤ place || (s.hasLines && s.chars[place]? = some '\n')
  | .textStart => place = 0
  | .textEnd => s.chars.size ≤ place
  | .boundary => before != behind
  | .noBoundary => before == behind
  | .wordStart => !before && behind
  | .wordEnd => before && !behind

/-- Whether the characters at two places are alike, for as many as asked for. -/
def repeats (s : Subject) (source goal : Nat) : Nat → Bool
  | 0 => true
  | n + 1 =>
    match s.chars[source]?, s.chars[goal]? with
    | some a, some b => s.alike a b && repeats s (source + 1) (goal + 1) n
    | _, _ => false

end Subject

/-! ## Ways that were taken -/

/-- The ways that were taken. -/
structure Visited where
  /-- whether groups are told apart -/
  isExact : Bool
  /-- the places -/
  places : Array Bool
  /-- the ways, if groups are told apart -/
  threads : List Thread

namespace Visited

/-- No ways. -/
def none (isExact : Bool) (size : Nat) : Visited :=
  ⟨isExact, if isExact then #[] else Array.replicate (size + 1) false, []⟩

/-- Whether a way was taken. -/
def has (v : Visited) (t : Thread) : Bool :=
  if v.isExact then v.threads.contains t else v.places.getD t.place true

/-- One more way. -/
def add (v : Visited) (t : Thread) : Visited :=
  if v.isExact then { v with threads := t :: v.threads }
  else { v with places := v.places.setIfInBounds t.place true }

/-- The ways that are not like earlier ones. -/
def keepFirst : Visited → List Thread → List Thread
  | _, [] => []
  | v, t :: rest => if v.has t then keepFirst v rest else t :: keepFirst (v.add t) rest

end Visited

/-! ## Matches -/

/-- Whether a regular expression refers to groups. -/
def refers : Regex → Bool
  | again _ => true
  | seq a b => a.refers || b.refers
  | either a b => a.refers || b.refers
  | repeated a _ _ => a.refers
  | group _ a => a.refers
  | _ => false

/-- Where one step after another may lead: the ways with more steps come first, and steps that lead
nowhere else are left out. A way with `true` has yet to be gone on from, and the fuel bounds how
many ways there are. -/
def manySteps (step : Thread → List Thread) :
    Nat → Visited → List (Bool × Thread) → List Thread
  | 0, _, _ => []
  | _ + 1, _, [] => []
  | fuel + 1, v, (false, t) :: agenda => t :: manySteps step fuel v agenda
  | fuel + 1, v, (true, t) :: agenda =>
    if v.has t then manySteps step fuel v agenda
    else
      let inner := (step t).filter fun u => u.place ≠ t.place
      manySteps step fuel (v.add t) (inner.map (true, ·) ++ (false, t) :: agenda)

/-- Where any number of steps may lead. If there is no other one, a step that leads nowhere else
counts as one. -/
def anySteps (step : Thread → List Thread) (fuel : Nat) (unseen : Visited) (t : Thread) :
    List Thread :=
  let (still, moving) := (step t).partition fun u => u.place = t.place
  manySteps step fuel (unseen.add t)
    (moving.map (true, ·) ++ still.map (false, ·) ++ [(false, t)])

/-- Where exactly so many steps may lead. -/
def exactSteps (step : Thread → List Thread) (unseen : Visited) : Nat → List Thread → List Thread
  | 0, threads => threads
  | n + 1, threads => exactSteps step unseen n (unseen.keepFirst (threads.flatMap step))

/-- Where at most so many steps may lead. -/
def fewSteps (step : Thread → List Thread) (unseen : Visited) : Nat → Thread → List Thread
  | 0, t => [t]
  | n + 1, t =>
    unseen.keepFirst ((step t).flatMap (fun u =>
      if u.place = t.place then [u] else fewSteps step unseen n u) ++ [t])

/-- The places where a match may end, given whether groups are told apart. -/
def ends (s : Subject) (isExact : Bool) : Regex → Thread → List Thread
  | empty, t => [t]
  | one negated members, t =>
    match s.chars[t.place]? with
    | some c => if s.holds members c != negated then [{ t with place := t.place + 1 }] else []
    | none => []
  | look a, t => if s.asserts t.place a then [t] else []
  | seq a b, t =>
    (Visited.none isExact s.chars.size).keepFirst ((a.ends s isExact t).flatMap (b.ends s isExact))
  | either a b, t =>
    (Visited.none isExact s.chars.size).keepFirst (a.ends s isExact t ++ b.ends s isExact t)
  | repeated a least most, t =>
    let unseen := Visited.none isExact s.chars.size
    let front := exactSteps (a.ends s isExact) unseen least [t]
    match most with
    | some most =>
      unseen.keepFirst (front.flatMap (fewSteps (a.ends s isExact) unseen (most - least)))
    | none =>
      let fuel := (s.chars.size + 3) * (s.chars.size + 4) * (if isExact then 8 else 1)
      if least = 0 then unseen.keepFirst (anySteps (a.ends s isExact) fuel unseen t)
      else unseen.keepFirst (manySteps (a.ends s isExact) fuel unseen (front.map (true, ·)))
  | group n a, t =>
    (a.ends s isExact t).map fun u => { u with captures := (n, t.place, u.place) :: u.captures }
  | again n, t =>
    match t.captures.lookup n with
    | some (first, stop) =>
      if s.repeats first t.place (stop - first) then
        [{ t with place := t.place + (stop - first) }]
      else []
    | none => []

/-- A match. -/
structure Match where
  /-- where it begins -/
  first : Nat
  /-- where it ends -/
  stop : Nat
  /-- its groups -/
  captures : Captures
  deriving DecidableEq, Repr

/-- The longest match that begins at a place, of those whose beginning and end are as asked for. -/
def matchAt? (r : Regex) (s : Subject) (fits : Nat → Nat → Bool) (place : Nat) : Option Match :=
  let threads := (r.ends s r.refers ⟨place, []⟩).filter fun t => fits place t.place
  let longest := threads.foldl (fun (best? : Option Thread) t =>
    match best? with
    | some best => if best.place < t.place then some t else some best
    | none => some t) none
  longest.map fun t => ⟨place, t.place, t.captures⟩

/-- The first match that begins at one of so many places. -/
def matchFrom? (r : Regex) (s : Subject) (fits : Nat → Nat → Bool) : Nat → Nat → Option Match
  | 0, _ => none
  | n + 1, place =>
    match r.matchAt? s fits place with
    | some found => some found
    | none => matchFrom? r s fits n (place + 1)

/-- The first match from a place on, of those whose beginning and end are as asked for. -/
def findFitting? (r : Regex) (s : Subject) (fits : Nat → Nat → Bool) (place : Nat) : Option Match :=
  r.matchFrom? s fits (s.chars.size + 1 - place) place

/-- The first match from a place on. -/
def find? (r : Regex) (s : Subject) (place : Nat) : Option Match :=
  r.findFitting? s (fun _ _ => true) place

namespace Subject

/-- The text between two places. -/
def part (s : Subject) (first stop : Nat) : List Char := (s.chars.extract first stop).toList

/-- The text of a group of a match; the group zero is all of it. -/
def groupText? (s : Subject) (m : Match) (n : Nat) : Option (List Char) :=
  if n = 0 then some (s.part m.first m.stop)
  else (m.captures.lookup n).map fun (first, stop) => s.part first stop

end Subject

end Regex

end Shipyard
