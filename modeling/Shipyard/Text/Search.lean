/-!
# Searching in texts

Small functions on strings that are stated on lists of characters: prefixes, suffixes, cutting at
the first separator, and containment.
-/

namespace Shipyard.Text

/-- Whether `needle` occurs in `cs` as a contiguous part. -/
def containsChars (needle : List Char) : List Char → Bool
  | [] => needle.isEmpty
  | c :: rest => needle.isPrefixOf (c :: rest) || containsChars needle rest

/-- Whether `needle` occurs in `s`. -/
def contains (s needle : String) : Bool := containsChars needle.toList s.toList

/-- The rest of a list after a beginning, if it begins so. -/
def afterPrefix? (start : List Char) (cs : List Char) : Option (List Char) :=
  if start.isPrefixOf cs then some (cs.drop start.length) else none

/-- A string without a given beginning; the string itself if it begins otherwise. -/
def dropStart (s start : String) : String :=
  match afterPrefix? start.toList s.toList with
  | some rest => String.ofList rest
  | none => s

/-- A string without a given end; the string itself if it ends otherwise. -/
def dropEnd (s stop : String) : String :=
  match afterPrefix? stop.toList.reverse s.toList.reverse with
  | some rest => String.ofList rest.reverse
  | none => s

/-- A string cut at the first occurrence of a character; the second part is empty if there is none.
-/
def cutAt (s : String) (c : Char) : String × String :=
  let cs := s.toList
  (String.ofList (cs.takeWhile (· ≠ c)), String.ofList ((cs.dropWhile (· ≠ c)).drop 1))

/-- A string in which one character stands for another. -/
def replaceChar (s : String) (old new : Char) : String :=
  String.ofList (s.toList.map fun c => if c = old then new else c)

/-- All parts of a text between occurrences of a character. -/
def splitAt (c : Char) (cs : List Char) : List (List Char) :=
  let parts := cs.foldr
    (fun d (acc : List Char × List (List Char)) =>
      if d = c then ([], acc.1 :: acc.2) else (d :: acc.1, acc.2))
    ([], [])
  parts.1 :: parts.2

end Shipyard.Text
