import Shipyard.Text.CharClass
import Shipyard.Utility.Basic

/-!
# Replacing characters

Sets of characters are written as lists with ranges, classes and repetitions. One set is put in the
place of another, character by character; or the characters of a set are left out, or written once
where they come several times in a row.
-/

namespace Shipyard.Utility

open Unix (Program)

/-- A part of a set of characters. -/
inductive SetPart where
  /-- the characters from one to another -/
  | span (first last : Char)
  /-- a class of characters -/
  | named (name : String)
  /-- the same character several times; without a number as often as it is needed -/
  | repeated (c : Char) (count : Nat)
  deriving DecidableEq, Repr

/-- The characters from one to another. -/
def charsFromTo (first last : Char) : List Char :=
  (List.range (last.toNat + 1 - first.toNat)).map fun n => Char.ofNat (first.toNat + n)

/-- All characters. -/
def allCharacters : List Char := charsFromTo '\x00' '\xff'

/-- The characters of a class. -/
def classMembers (name : String) : List Char := allCharacters.filter (Text.isOfClass name)

/-! ## Reading sets -/

/-- A character of a set, and whether it is written with a backslash. -/
abbrev SetCharacter := Char × Bool

/-- The characters of a set with their escapes read. -/
def readEscapes : List Char → List SetCharacter
  | '\\' :: c :: rest =>
    match [('a', '\x07'), ('b', '\x08'), ('f', '\x0c'), ('n', '\n'), ('r', '\r'), ('t', '\t'),
      ('v', '\x0b')].lookup c with
    | some special => (special, true) :: readEscapes rest
    | none =>
      if '0' ≤ c && c ≤ '7' then
        match rest with
        | d :: e :: more =>
          let isOctal := fun (c : Char) => '0' ≤ c && c ≤ '7'
          let digit := fun (c : Char) => c.toNat - 48
          let three := 64 * digit c + 8 * digit d + digit e
          if isOctal d && isOctal e && three < 256 then
            (Char.ofNat three, true) :: readEscapes more
          else if isOctal d then
            (Char.ofNat (8 * digit c + digit d), true) :: readEscapes (e :: more)
          else (Char.ofNat (digit c), true) :: readEscapes (d :: e :: more)
        | [d] =>
          if '0' ≤ d && d ≤ '7' then [(Char.ofNat (8 * (c.toNat - 48) + (d.toNat - 48)), true)]
          else [(Char.ofNat (c.toNat - 48), true), (d, false)]
        | [] => [(Char.ofNat (c.toNat - 48), true)]
      else (c, true) :: readEscapes rest
  | c :: rest => (c, false) :: readEscapes rest
  | [] => []

/-- The text in front of a mark and a closing bracket, and what is behind them. -/
def upToMark (mark : Char) : List SetCharacter → Option (List Char × List SetCharacter)
  | (a, false) :: (']', false) :: rest =>
    if a = mark then some ([], rest)
    else (upToMark mark ((']', false) :: rest)).map fun (name, behind) => (a :: name, behind)
  | (a, _) :: rest => (upToMark mark rest).map fun (name, behind) => (a :: name, behind)
  | [] => none

/-- The number of a repetition, which is octal if it begins with a zero. -/
def repeatCount? (digits : List Char) : Option Nat :=
  let base := if digits.head? = some '0' then 8 else 10
  digits.foldl (fun n? c => do
    let n ← n?
    let d := c.toNat - 48
    if c.isDigit && d < base then some (base * n + d) else none) (some 0)

/-- The parts of a set, or what is wrong with it. The fuel bounds how many there are. -/
def readSetParts : Nat → List SetCharacter → Except String (List SetPart)
  | 0, _ => .ok []
  | _ + 1, [] => .ok []
  | fuel + 1, ('[', false) :: (':', false) :: rest => do
    match upToMark ':' rest with
    | some ([], _) => .error "missing character class name '[::]'"
    | some (name, behind) =>
      if !Text.classNames.contains (String.ofList name) then
        .error ("invalid character class " ++ quotedText (String.ofList name))
      else return .named (String.ofList name) :: (← readSetParts fuel behind)
    | none =>
      return .span '[' '[' :: (← readSetParts fuel ((':', false) :: rest))
  | fuel + 1, ('[', false) :: ('=', false) :: rest => do
    match upToMark '=' rest with
    | some ([], _) => .error "missing equivalence class character '[==]'"
    | some ([c], behind) => return .span c c :: (← readSetParts fuel behind)
    | some (name, _) =>
      .error (String.ofList name ++ ": equivalence class operand must be a single character")
    | none => return .span '[' '[' :: (← readSetParts fuel (('=', false) :: rest))
  | fuel + 1, ('[', false) :: (c, escaped) :: ('*', false) :: rest => do
    let digits := rest.takeWhile (· ≠ (']', false))
    if digits.length = rest.length then
      return .span '[' '[' :: (← readSetParts fuel ((c, escaped) :: ('*', false) :: rest))
    else
      match repeatCount? (digits.map (·.1)) with
      | some n => return .repeated c n :: (← readSetParts fuel (rest.drop (digits.length + 1)))
      | none =>
        .error ("invalid repeat count " ++ quotedText (String.ofList (digits.map (·.1))) ++
          " in [c*n] construct")
  | fuel + 1, (a, _) :: ('-', false) :: (b, _) :: rest => do
    if b < a then
      .error ("range-endpoints of " ++ quotedText (String.ofList [a, '-', b]) ++
        " are in reverse collating sequence order")
    else return .span a b :: (← readSetParts fuel rest)
  | fuel + 1, (a, _) :: rest => do return .span a a :: (← readSetParts fuel rest)

/-- The parts of a set, or what is wrong with it. -/
def setParts (text : String) : Except String (List SetPart) :=
  let cs := readEscapes text.toList
  readSetParts (cs.length + 1) cs

namespace SetPart

/-- The characters of a part, given how many are missing where it can have any number. -/
def members (missing : Nat) : SetPart → List Char
  | span first last => charsFromTo first last
  | named name => classMembers name
  | repeated c 0 => List.replicate missing c
  | repeated c n => List.replicate n c

/-- Whether a part can have any number of characters. -/
def isOpen : SetPart → Bool
  | repeated _ 0 => true
  | _ => false

/-- Whether a part is the class of the large or the small letters. -/
def isLetterCase (p : SetPart) : Bool := p = named "upper" || p = named "lower"

/-- Whether a part is another class. -/
def isOtherClass : SetPart → Bool
  | named name => name ≠ "upper" && name ≠ "lower"
  | _ => false

end SetPart

/-- The characters of a set that should be as long as asked for. -/
def setMembers (wanted : Nat) (parts : List SetPart) : List Char :=
  let missing := wanted - (parts.flatMap (SetPart.members 0)).length
  parts.flatMap (SetPart.members missing)

/-! ## Replacing -/

/-- What happens to characters. -/
structure Replacement where
  /-- the characters that are left out -/
  dropped : Char → Bool
  /-- what a character becomes -/
  image : Char → Char
  /-- the characters that are written once where they come several times in a row -/
  squeezed : Char → Bool

/-- The replaced text, reversed, in front of what was written before, given the character before. -/
def Replacement.apply (r : Replacement) :
    Option Char → List Char → List Char → Option Char × List Char
  | before, done, [] => (before, done)
  | before, done, c :: rest =>
    if r.dropped c then apply r before done rest
    else
      let d := r.image c
      if before = some d && r.squeezed d then apply r before done rest
      else apply r (some d) (d :: done) rest

/-- What characters of one list become when they are replaced by those of another one: the last
place where one stands counts. -/
def imageOf (sources goals : List Char) : Char → Char :=
  let table := (sources.zip goals).foldl
    (fun (table : Array Char) (source, goal) => table.setIfInBounds source.toNat goal)
    allCharacters.toArray
  fun c => table.getD c.toNat c

/-- What is wrong with two sets of which the second one replaces the first, whose characters are
given. -/
def replacingFault? (first second : List SetPart) (sources : List Char) (inverse truncates : Bool) :
    Option String :=
  let cases := fun (parts : List SetPart) =>
    (List.range parts.length).filterMap fun place =>
      if (parts[place]?.map SetPart.isLetterCase).getD false then
        some ((parts.take place).flatMap (SetPart.members 0)).length
      else none
  let goals := setMembers sources.length second
  if second.any SetPart.isOtherClass then
    some ("when translating, the only character classes that may appear in\n" ++
      "string2 are 'upper' and 'lower'")
  else if !inverse && !((cases second).all fun place => (cases first).contains place) then
    some "misaligned [:upper:] and/or [:lower:] construct"
  else if truncates then none
  else if goals = [] then some "when not truncating set1, string2 must be non-empty"
  else if goals.length < sources.length &&
      (second.getLast?.map SetPart.isLetterCase).getD false then
    some ("when translating with string1 longer than string2,\n" ++
      "the latter string must not end with a character class")
  else none

/-- What two sets ask for, or what is wrong with them. -/
def replacementOf (o : Options) (first second? : Option (List SetPart)) :
    Except String Replacement := do
  let parts := first.getD []
  let inverse := o.hasAny ['c', 'C']
  let listed := setMembers 0 parts
  let sources := if inverse then allCharacters.filter fun c => !listed.contains c else listed
  if parts.any SetPart.isOpen then
    .error "the [c*] repeat construct may not appear in string1"
  else if 1 < ((second?.getD []).filter SetPart.isOpen).length then
    .error "only one [c*] repeat construct may appear in string2"
  else if o.has 'd' then
    let squeezed := setMembers 0 (second?.getD [])
    return ⟨sources.contains, id, squeezed.contains⟩
  else
    match second? with
    | none => return ⟨fun _ => false, id, sources.contains⟩
    | some second =>
      if let some message := replacingFault? parts second sources inverse (o.has 't') then
        .error message
      let goals := setMembers sources.length second
      let goals := match goals.getLast? with
        | some last => goals ++ List.replicate (if o.has 't' then 0 else sources.length) last
        | none => []
      return ⟨fun _ => false, imageOf sources goals, fun c => o.has 's' && goals.contains c⟩

/-- What is wrong with the number of sets. -/
def setCountFault? (o : Options) (sets : List String) : Option String :=
  let drops := o.has 'd'
  let squeezes := o.has 's'
  let least := if drops = squeezes then 2 else 1
  let most := if drops && !squeezes then 1 else 2
  if sets.length < least then
    match sets.getLast? with
    | none => some "missing operand"
    | some last =>
      some ("missing operand after " ++ quotedText last ++ "\n" ++
        (if squeezes then "Two strings must be given when both deleting and squeezing repeats."
        else "Two strings must be given when translating."))
  else if most < sets.length then
    some ("extra operand " ++ quotedText (sets.getD most "") ++
      (if sets.length = 2 then
        "\nOnly one string may be given when deleting without squeezing repeats."
      else ""))
  else none

/-- Whether a set ends with a backslash that stands for itself. -/
def endsWithEscape (text : String) : Bool :=
  (text.toList.reverse.takeWhile (· = '\\')).length % 2 = 1

/-- Replaces the characters of the input. -/
def tr : Utility :=
  withLeadingOptions [flag 'c' ["complement"], flag 'C' [], flag 'd' ["delete"],
    flag 's' ["squeeze-repeats"], flag 't' ["truncate-set1"]] 1 fun c o sets => do
    if let some message := setCountFault? o sets then return ← misused c message 1
    for text in sets do
      if endsWithEscape text then
        complain c "warning: an unescaped backslash at end of string is not portable"
    let replacement := do
      let parts ← sets.mapM setParts
      replacementOf o parts[0]? parts[1]?
    match replacement with
    | .error message => failing c message 1
    | .ok r =>
      let result ← Program.readBlocks 0 Program.blockSize (fun before text => do
        let (before, done) := r.apply before [] text.toList
        put c (String.ofList done.reverse)
        return (before, true)) Program.patience none
      match result with
      | .ok _ => return 0
      | .error errno => failing c ("read error: " ++ errno.words) 1

end Shipyard.Utility
