import Shipyard.Utility.Launch

/-!
# Programs on lines in order

Programs that sort lines, leave out lines that come again, and compare sorted lines. The part of a
line that is compared is read once; lines that are alike in all these parts are compared as a whole.
-/

namespace Shipyard.Utility

open Unix (Program)

/-! ## What is compared -/

/-- A number as it is compared. -/
structure Scaled where
  /-- its digits as a whole number -/
  digits : Int
  /-- how many of them are behind the point -/
  places : Nat
  deriving DecidableEq, Repr

/-- How two numbers compare. -/
def Scaled.compare (a b : Scaled) : Ordering :=
  Ord.compare (a.digits * (Nat.pow 10 b.places : Nat)) (b.digits * (Nat.pow 10 a.places : Nat))

/-- The part of a line that is compared. -/
inductive SortValue where
  /-- a text -/
  | text (cs : List Char)
  /-- a number, and the rank of its unit -/
  | number (unit : Int) (n : Scaled)
  /-- a text in which numbers count as such -/
  | version (cs : List Char)
  deriving Repr

/-- The number at the beginning of a text, and the text behind it. -/
def leadingNumber (cs : List Char) : Scaled × List Char :=
  let cs := cs.dropWhile fun c => c = ' ' || c = '\t'
  let (negative, cs) := match cs with
    | '-' :: rest => (true, rest)
    | _ => (false, cs)
  let whole := cs.takeWhile Char.isDigit
  let rest := cs.drop whole.length
  let (fraction, rest) := match rest with
    | '.' :: more => (more.takeWhile Char.isDigit, more.dropWhile Char.isDigit)
    | _ => ([], rest)
  let n : Int := (digitsOf (whole ++ fraction) : Nat)
  (⟨if negative then -n else n, fraction.length⟩, rest)

/-- The number at the beginning of a text, which may have an exponent. -/
def generalNumber (cs : List Char) : Scaled :=
  let cs := cs.dropWhile fun c => c = ' ' || c = '\t'
  let (negative, cs) := match cs with
    | '-' :: rest => (true, rest)
    | '+' :: rest => (false, rest)
    | _ => (false, cs)
  match takeWritten cs with
  | none => ⟨0, 0⟩
  | some (w, _) =>
    let n : Int := (w.digits * Nat.pow 10 (-w.places).toNat : Nat)
    ⟨if negative then -n else n, w.places.toNat⟩

/-- Compares texts in which runs of digits count as numbers. The fuel bounds how many runs there
are. -/
def compareVersions : Nat → List Char → List Char → Ordering
  | 0, a, b => compare a b
  | _ + 1, [], [] => .eq
  | _ + 1, [], _ => .lt
  | _ + 1, _, [] => .gt
  | fuel + 1, a, b =>
    let frontA := a.takeWhile fun c => !c.isDigit
    let frontB := b.takeWhile fun c => !c.isDigit
    match compare frontA frontB with
    | .eq =>
      let (restA, restB) := (a.drop frontA.length, b.drop frontB.length)
      let (digitsA, digitsB) := (restA.takeWhile Char.isDigit, restB.takeWhile Char.isDigit)
      match compare (digitsOf digitsA) (digitsOf digitsB) with
      | .eq => compareVersions fuel (restA.drop digitsA.length) (restB.drop digitsB.length)
      | order => order
    | order => order

/-- How two parts compare. -/
def SortValue.compare : SortValue → SortValue → Ordering
  | text a, text b => Ord.compare a b
  | number unitA a, number unitB b =>
    let signA := a.digits.sign
    let signB := b.digits.sign
    (Ord.compare (unitA * signA) (unitB * signB)).then (a.compare b)
  | version a, version b => compareVersions (a.length + b.length + 1) a b
  | _, _ => .eq

/-! ## Keys -/

/-- The part of lines that is compared, and how. -/
structure SortKey where
  /-- how many fields lie before its beginning, and how many characters behind them -/
  start : Nat × Nat
  /-- how many fields it has, and how many characters behind them, unless it ends with the line -/
  stop : Option (Nat × Nat)
  /-- the letters of its options -/
  letters : List Char
  /-- whether blanks at its beginning are passed over -/
  skipsStart : Bool
  /-- whether blanks at its end are passed over -/
  skipsStop : Bool
  deriving DecidableEq, Repr

/-- Whether a character separates fields by itself. -/
def isFieldBlank (c : Char) : Bool := c = ' ' || c = '\t' || c = '\n'

/-- A text behind fields. -/
def dropFields (separator? : Option Char) : Nat → List Char → List Char
  | 0, cs => cs
  | n + 1, cs =>
    match separator? with
    | some s => dropFields separator? n ((cs.dropWhile (· ≠ s)).drop 1)
    | none =>
      dropFields separator? n ((cs.dropWhile isFieldBlank).dropWhile fun c => !isFieldBlank c)

/-- How many characters fields have, the separator behind the last one not included. -/
def fieldsLength (separator? : Option Char) (n : Nat) (cs : List Char) : Nat :=
  match n with
  | 0 => 0
  | n + 1 =>
    let rest := dropFields separator? n cs
    let behind := match separator? with
      | some s => rest.dropWhile (· ≠ s)
      | none => (rest.dropWhile isFieldBlank).dropWhile fun c => !isFieldBlank c
    cs.length - behind.length

namespace SortKey

/-- The part of a line that a key stands for. -/
def part (k : SortKey) (separator? : Option Char) (line : List Char) : List Char :=
  let front := dropFields separator? k.start.1 line
  let front := if k.skipsStart then front.dropWhile isFieldBlank else front
  let front := front.drop k.start.2
  match k.stop with
  | none => front
  | some (fields, 0) =>
    let stop := fieldsLength separator? (fields + 1) line
    front.take (stop - (line.length - front.length))
  | some (fields, characters) =>
    let behind := dropFields separator? fields line
    let behind := if k.skipsStop then behind.dropWhile isFieldBlank else behind
    let stop := line.length - (behind.drop characters).length
    front.take (stop - (line.length - front.length))

/-- The names of the months. -/
def months : List String :=
  ["JAN", "FEB", "MAR", "APR", "MAY", "JUN", "JUL", "AUG", "SEP", "OCT", "NOV", "DEC"]

/-- What a part of a line is compared as. -/
def value (k : SortKey) (cs : List Char) : SortValue :=
  if k.letters.contains 'n' then .number 0 (leadingNumber cs).1
  else if k.letters.contains 'g' then .number 0 (generalNumber cs)
  else if k.letters.contains 'h' then
    let (n, rest) := leadingNumber cs
    let unit := match rest with
      | c :: _ => ("KMGTPEZY".toList.idxOf? c.toUpper).map (· + 1)
      | [] => none
    .number ((unit.getD 0 : Nat) : Int) n
  else if k.letters.contains 'M' then
    let name := String.ofList (((cs.dropWhile isFieldBlank).take 3).map Char.toUpper)
    .number 0 ⟨(((months.idxOf? name).map (· + 1)).getD 0 : Nat), 0⟩
  else if k.letters.contains 'V' then .version cs
  else
    let cs := if k.letters.contains 'd' then
        cs.filter fun c => c.isAlphanum || isFieldBlank c
      else cs
    let cs := if k.letters.contains 'i' then cs.filter isPrinted else cs
    .text (if k.letters.contains 'f' then cs.map Char.toUpper else cs)

end SortKey

/-- The number at the beginning of a text, and the text behind it. -/
def takeCount (cs : List Char) : Option (Nat × List Char) :=
  let digits := cs.takeWhile Char.isDigit
  if digits = [] then none else some (digitsOf digits, cs.drop digits.length)

/-- The letters of options of keys. -/
def keyLetters : List Char := "bdfgiMhnRrV".toList

/-- The place of a key: a field, and a character in it. -/
def takePlace (cs : List Char) : Option ((Nat × Option Nat) × List Char × List Char) := do
  let (field, rest) ← takeCount cs
  let (character, rest) ← match rest with
    | '.' :: rest => do
      let (n, rest) ← takeCount rest
      some (some n, rest)
    | _ => some (none, rest)
  let letters := rest.takeWhile keyLetters.contains
  return ((field, character), letters, rest.drop letters.length)

/-- The key that a text stands for. -/
def keyOf? (text : String) : Option SortKey := do
  let ((field, character), letters, rest) ← takePlace text.toList
  if field = 0 || character = some 0 then none
  else
    let start := (field - 1, character.getD 1 - 1)
    match rest with
    | [] => return ⟨start, none, letters, letters.contains 'b', false⟩
    | ',' :: rest =>
      let ((field, character), more, rest) ← takePlace rest
      if field = 0 || rest ≠ [] then none
      else
        return ⟨start, some (field - 1, character.getD 0), letters ++ more, letters.contains 'b',
          more.contains 'b'⟩
    | _ => none

/-- The keys of options, with those that count for all lines. -/
def sortKeys (o : Options) : List SortKey :=
  let letters := keyLetters.filter o.has
  let isBlank := letters.contains 'b'
  let ownKeys := (o.values 'k').filterMap keyOf?
  let whole : SortKey := ⟨(0, 0), none, letters, isBlank, isBlank⟩
  if ownKeys = [] then if letters.all (· = 'r') then [] else [whole]
  else
    ownKeys.map fun k =>
      if k.letters = [] && !k.skipsStart && !k.skipsStop then
        { k with letters, skipsStart := isBlank, skipsStop := isBlank }
      else k

/-! ## Sorting -/

/-- A line with the parts that are compared. -/
abbrev Keyed := List Char × List SortValue

/-- How parts of two lines compare. -/
def compareParts : List SortKey → List SortValue → List SortValue → Ordering
  | k :: keys, a :: as, b :: bs =>
    let order := a.compare b
    let order := if k.letters.contains 'r' then order.swap else order
    order.then (compareParts keys as bs)
  | _, _, _ => .eq

/-- How two lines compare; lines that are alike are compared as a whole unless `isStable` says
otherwise. -/
def compareLines (keys : List SortKey) (isStable isReversed : Bool) (a b : Keyed) : Ordering :=
  let last := compare a.1 b.1
  let last := if isReversed then last.swap else last
  if keys = [] then last
  else (compareParts keys a.2 b.2).then (if isStable then .eq else last)

/-- Lines without those that are like the ones right before them. -/
def withoutRepeats (same : Keyed → Keyed → Bool) : List Keyed → List Keyed
  | a :: b :: rest =>
    if same a b then withoutRepeats same (a :: rest) else a :: withoutRepeats same (b :: rest)
  | lines => lines
termination_by lines => lines.length

/-- The first line that is out of order, and its number. -/
def firstDisorder (bad : Keyed → Keyed → Bool) : Nat → List Keyed → Option (Nat × List Char)
  | n, a :: b :: rest =>
    if bad a b then some (n + 1, b.1) else firstDisorder bad (n + 1) (b :: rest)
  | _, _ => none

/-- Sorts lines. -/
def sort : Utility :=
  withOptions (flags "bdfghiMnRrVcCmsuz" ++
    [valued 'k' ["key"], valued 't' ["field-separator"], valued 'o' ["output"],
      named 'b' ["ignore-leading-blanks"] .without, named 'd' ["dictionary-order"] .without,
      named 'f' ["ignore-case"] .without, named 'n' ["numeric-sort"] .without,
      named 'g' ["general-numeric-sort"] .without, named 'h' ["human-numeric-sort"] .without,
      named 'V' ["version-sort"] .without, named 'r' ["reverse"] .without,
      named 'u' ["unique"] .without, named 's' ["stable"] .without,
      named 'c' ["check"] .optional, named 'm' ["merge"] .without,
      named 'z' ["zero-terminated"] .without, valued 'S' ["buffer-size"],
      valued 'T' ["temporary-directory"], named 'p' ["parallel"] .required]) 2 fun c o paths => do
    let wrongKey? := (o.values 'k').find? fun text => (keyOf? text).isNone
    let separator? := match (o.value? 't').map String.toList with
      | some ['\\', '0'] => some '\x00'
      | some (s :: _) => some s
      | _ => none
    let tabLength := ((o.value? 't').map String.length).getD 1
    if let some text := wrongKey? then
      failing c ("invalid number at field start: invalid count at start of " ++ quotedText text) 2
    else if tabLength = 0 then failing c "empty tab" 2
    else if 1 < tabLength && o.value? 't' ≠ some "\\0" then
      failing c ("multi-character tab " ++ quotedText ((o.value? 't').getD "")) 2
    else
      let stop := if o.has 'z' then '\x00' else '\n'
      let contents ← (inputsOf paths).mapM fun path => do
        match ← contentOf path with
        | .ok text => return text
        | .error errno =>
          complain c ("cannot read: " ++ fileFault path errno)
          Program.exit 2
      let lines := contents.flatMap fun text => (linesOf stop text).1.map String.toList
      let keys := sortKeys o
      let keyed := lines.map fun line => (line, keys.map fun k => k.value (k.part separator? line))
      let isReversed := o.has 'r'
      let order := compareLines keys (o.hasAny ['s', 'u']) isReversed
      if o.hasAny ['c', 'C'] then
        let bad := fun (a b : Keyed) => order a b = .gt || (o.has 'u' && order a b = .eq)
        match firstDisorder bad 1 keyed with
        | none => return 0
        | some (n, line) =>
          if o.has 'c' then
            complain c (paths.headD "-" ++ ":" ++ toString n ++ ": disorder: " ++
              String.ofList line)
          return 1
      else
        let sorted := keyed.mergeSort fun a b => order a b ≠ .gt
        let sorted := if o.has 'u' then withoutRepeats (fun a b => order a b = .eq) sorted
          else sorted
        let text := unlines stop (sorted.map fun line => String.ofList line.1)
        match o.value? 'o' with
        | none =>
          put c text
          return 0
        | some path =>
          match ← writeFile path text false with
          | .ok () => return 0
          | .error errno => failing c ("open failed: " ++ fileFault path errno) 2

/-! ## Lines that come again -/

/-- Runs of lines that are alike. -/
def runsOf (key : List Char → List Char) : List (List Char) → List (List (List Char))
  | [] => []
  | line :: rest =>
    match runsOf key rest with
    | (first :: run) :: others =>
      if key line = key first then (line :: first :: run) :: others
      else [line] :: (first :: run) :: others
    | others => [line] :: others

/-- Leaves out lines that come again. -/
def uniq : Utility :=
  withOptions [flag 'c' ["count"], flag 'd' ["repeated"], flag 'D' [], flag 'u' ["unique"],
    flag 'i' ["ignore-case"], valued 'f' ["skip-fields"], valued 's' ["skip-chars"],
    valued 'w' ["check-chars"], flag 'z' ["zero-terminated"]] 1 fun c o paths => do
    if 2 < paths.length then misused c ("extra operand " ++ quotedText (paths.getD 2 "")) 1
    else
      let stop := if o.has 'z' then '\x00' else '\n'
      let path := paths.headD "-"
      match ← contentOf path with
      | .error errno => failing c (fileFault path errno) 1
      | .ok text =>
        let number := fun (letter : Char) => (o.value? letter).bind String.toNat?
        let key := fun (line : List Char) =>
          let rest := dropFields none ((number 'f').getD 0) line
          let rest := rest.drop ((number 's').getD 0)
          let rest := match number 'w' with
            | some n => rest.take n
            | none => rest
          if o.has 'i' then rest.map Char.toLower else rest
        let runs := runsOf key ((linesOf stop text).1.map String.toList)
        let wanted := runs.filter fun run =>
          (!o.hasAny ['d', 'D'] || 1 < run.length) && (!o.has 'u' || run.length = 1)
        let lines := wanted.flatMap fun run =>
          let shown := if o.has 'D' then run else run.take 1
          shown.map fun line =>
            (if o.has 'c' then padFront 7 (toString run.length) ++ " " else "") ++
              String.ofList line
        let output := unlines stop lines
        match paths[1]? with
        | none => do
          put c output
          return 0
        | some goal =>
          match ← writeFile goal output false with
          | .ok () => return 0
          | .error errno => failing c (fileFault goal errno) 1

/-- The lines that two sorted lists have alone or in common, with the column of each. -/
def commonLines : List String → List String → List (Nat × String)
  | [], bs => bs.map fun b => (2, b)
  | as, [] => as.map fun a => (1, a)
  | a :: as, b :: bs =>
    match compare a b with
    | .eq => (3, a) :: commonLines as bs
    | .lt => (1, a) :: commonLines as (b :: bs)
    | .gt => (2, b) :: commonLines (a :: as) bs
termination_by as bs => as.length + bs.length

/-- Compares two sorted files line by line. -/
def comm : Utility :=
  withOptions (flags "123" ++ [named 'n' ["nocheck-order"] .without,
    named 'd' ["output-delimiter"] .required]) 1 fun c o paths => do
    match paths with
    | [first, second] =>
      match ← contentOf first, ← contentOf second with
      | .ok a, .ok b =>
        let separator := (o.value? 'd').getD "\t"
        let columns := ['1', '2', '3'].filter fun column => !o.has column
        let rows := (commonLines (linesOf '\n' a).1 (linesOf '\n' b).1).filterMap
          fun (column, line) =>
            (columns.idxOf? (Char.ofNat (48 + column))).map fun place =>
              String.join (List.replicate place separator) ++ line
        put c (unlines '\n' rows)
        return 0
      | .error errno, _ => failing c (fileFault first errno) 1
      | _, .error errno => failing c (fileFault second errno) 1
    | [] => misused c "missing operand" 1
    | [first] => misused c ("missing operand after " ++ quotedText first) 1
    | _ :: _ :: third :: _ => misused c ("extra operand " ++ quotedText third) 1

end Shipyard.Utility
