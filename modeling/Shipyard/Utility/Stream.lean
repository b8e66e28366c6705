import Shipyard.Utility.Basic

/-!
# Programs on streams

Programs that pass on what they read: all of it, its beginning, its end, or numbers about it. They
read block by block, so that they work on what has no end.
-/

namespace Shipyard.Utility

open Unix (Program)

/-! ## Passing on -/

/-- How what is read is shown. -/
structure Display where
  /-- whether lines are numbered -/
  numbers : Bool
  /-- whether only lines that are not empty are numbered -/
  skipsEmpty : Bool
  /-- whether several empty lines become one -/
  squeezes : Bool
  /-- whether the ends of lines are marked -/
  marksEnds : Bool
  /-- whether tabulators are shown -/
  showsTabs : Bool
  /-- whether characters that are not printed are shown -/
  showsOthers : Bool
  deriving DecidableEq, Repr

/-- Where the showing of a text stands. -/
structure DisplayPlace where
  /-- the number of the line before -/
  number : Nat
  /-- whether a line begins here -/
  atStart : Bool
  /-- how many empty lines came before -/
  empties : Nat
  deriving DecidableEq, Repr

/-- A character that is not printed, as it is shown. -/
def caretText (c : Char) : List Char :=
  let n := c.toNat
  let low := fun (n : Nat) =>
    if n < 32 then ['^', Char.ofNat (n + 64)] else if n = 127 then ['^', '?'] else [Char.ofNat n]
  if n < 128 then low n else 'M' :: '-' :: low (n - 128)

namespace Display

/-- Whether a text is shown as it is. -/
def isPlain (d : Display) : Bool :=
  !(d.numbers || d.squeezes || d.marksEnds || d.showsTabs || d.showsOthers)

/-- A character as it is shown. -/
def character (d : Display) (c : Char) : List Char :=
  if c = '\t' then if d.showsTabs then ['^', 'I'] else [c]
  else if d.showsOthers then caretText c else [c]

/-- A text as it is shown, reversed, in front of what was shown before. -/
def shown (d : Display) : DisplayPlace → List Char → List Char → DisplayPlace × List Char
  | place, done, [] => (place, done)
  | place, done, c :: rest =>
    let isEmptyLine := place.atStart && c = '\n'
    let empties := if isEmptyLine then place.empties + 1
      else if place.atStart then 0
      else place.empties
    if isEmptyLine && d.squeezes && 1 < empties then shown d { place with empties } done rest
    else
      let numbered := place.atStart && d.numbers && !(d.skipsEmpty && isEmptyLine)
      let number := if numbered then place.number + 1 else place.number
      let digits := toString number
      let front := if numbered then
          List.replicate (6 - digits.length) ' ' ++ digits.toList ++ ['\t']
        else []
      let own := if c = '\n' then if d.marksEnds then ['$', c] else [c] else d.character c
      shown d ⟨number, c = '\n', empties⟩ (own.reverse ++ front.reverse ++ done) rest

end Display

/-- Passes files on one after the other, and tells whether all of them could be read. -/
def passFiles (c : Call) (d : Display) : DisplayPlace → List String → Program Bool
  | _, [] => return true
  | place, path :: rest => do
    match ← openToRead path with
    | .error errno =>
      complain c (fileFault path errno)
      discard (passFiles c d place rest)
      return false
    | .ok descriptor =>
      let result ← Program.readBlocks descriptor Program.blockSize (fun place text => do
        if d.isPlain then
          put c text
          return (place, true)
        else
          let (place, done) := d.shown place [] text.toList
          put c (String.ofList done.reverse)
          return (place, true)) Program.patience place
      closeRead path descriptor
      match result with
      | .ok place => passFiles c d place rest
      | .error errno =>
        complain c (fileFault path errno)
        discard (passFiles c d place rest)
        return false

/-- Passes files on. -/
def cat : Utility :=
  withOptions [flag 'A' ["show-all"], flag 'b' ["number-nonblank"], flag 'e' [],
    flag 'E' ["show-ends"], flag 'n' ["number"], flag 's' ["squeeze-blank"], flag 't' [],
    flag 'T' ["show-tabs"], flag 'u' [], flag 'v' ["show-nonprinting"]] 1 fun c o paths => do
    let d : Display :=
      { numbers := o.has 'n' || o.has 'b'
        skipsEmpty := o.has 'b'
        squeezes := o.has 's'
        marksEnds := o.hasAny ['A', 'e', 'E']
        showsTabs := o.hasAny ['A', 't', 'T']
        showsOthers := o.hasAny ['A', 'e', 't', 'v'] }
    return if ← passFiles c d ⟨0, true, 0⟩ (inputsOf paths) then 0 else 1

/-- Writes a text to several places, and gives those where that was possible. -/
def writeToAll (c : Call) (text : String) :
    List (String × Nat) → Program (List (String × Nat) × Bool)
  | [] => return ([], true)
  | (path, descriptor) :: rest => do
    match ← Program.write descriptor text with
    | .ok () =>
      let (others, done) ← writeToAll c text rest
      return ((path, descriptor) :: others, done)
    | .error errno =>
      complain c (fileFault path errno)
      return ((← writeToAll c text rest).1, false)

/-- Opens files to write them, and tells whether all of them could be opened. -/
def openAll (c : Call) (how : Unix.OpenHow) : List String → Program (List (String × Nat) × Bool)
  | [] => return ([], true)
  | path :: rest => do
    match ← Program.ask (Unix.openFile path how) with
    | .ok descriptor =>
      let (others, done) ← openAll c how rest
      return ((path, descriptor) :: others, done)
    | .error errno =>
      complain c (fileFault path errno)
      return ((← openAll c how rest).1, false)

/-- Copies the input to the output and to files. -/
def tee : Utility :=
  withOptions [flag 'a' ["append"], flag 'i' ["ignore-interrupts"], flag 'p' []] 1
    fun c o paths => do
    if o.has 'i' then Program.request (Unix.dispose 2 .ignored)
    let (files, opened) ← openAll c (if o.has 'a' then .forAppending else .forWriting) paths
    let places := ("standard output", 1) :: files
    let result ← Program.readBlocks 0 Program.blockSize (fun (places, done) text => do
      let (places, own) ← writeToAll c text places
      return ((places, done && own), places ≠ [])) Program.patience (places, opened)
    match result with
    | .ok (_, true) => return 0
    | .ok (_, false) => return 1
    | .error errno => failing c ("read error: " ++ errno.words) 1

/-- Writes the same line again and again. -/
def repeatLine (text : String) : Nat → Program Nat
  | 0 => Program.diverge
  | fuel + 1 => do
    match ← Program.write 1 text with
    | .ok () => repeatLine text fuel
    | .error errno =>
      say ("yes: standard output: " ++ errno.words ++ "\n")
      return 1

/-- Writes a line again and again. -/
def yes : Utility :=
  withOptions [] 1 fun _ _ words => do
    let line := (if words = [] then "y" else String.intercalate " " words) ++ "\n"
    let copies := 1 + 8192 / line.length
    repeatLine (String.join (List.replicate copies line)) Program.patience

/-! ## Beginnings and ends -/

/-- What is asked for of a text. -/
structure Excerpt where
  /-- whether bytes are counted and not lines -/
  countsBytes : Bool
  /-- how many -/
  count : Nat
  /-- whether the count is that of what is left out -/
  isRest : Bool
  /-- the end of a line -/
  stop : Char
  deriving DecidableEq, Repr

/-- The first lines of a text, with how many characters they have. The latest character comes first.
-/
def takeLines (stop : Char) : Nat → List Char → List Char → List Char
  | 0, done, _ => done
  | _, done, [] => done
  | n + 1, done, c :: rest =>
    if c = stop then takeLines stop n (c :: done) rest else takeLines stop (n + 1) (c :: done) rest

/-- How many lines end in a text. -/
def endsIn (stop : Char) (text : String) : Nat :=
  text.toList.foldl (fun n c => if c = stop then n + 1 else n) 0

namespace Excerpt

/-- The beginning of a text: a part of it, or all but its end. -/
def beginning (e : Excerpt) (text : String) : String :=
  let cs := text.toList
  if e.countsBytes then
    String.ofList (if e.isRest then cs.take (cs.length - e.count) else cs.take e.count)
  else
    let lines := endsIn e.stop text + (if cs.getLast?.all (· = e.stop) then 0 else 1)
    let wanted := if e.isRest then lines - e.count else e.count
    String.ofList (takeLines e.stop wanted [] cs).reverse

/-- The end of a text: a part of it, or all from a place on. -/
def ending (e : Excerpt) (text : String) : String :=
  let cs := text.toList
  if e.countsBytes then
    String.ofList (cs.drop (if e.isRest then e.count - 1 else cs.length - e.count))
  else
    let lines := endsIn e.stop text + (if cs.getLast?.all (· = e.stop) then 0 else 1)
    let dropped := if e.isRest then e.count - 1 else lines - e.count
    String.ofList (cs.drop (takeLines e.stop dropped [] cs).length)

end Excerpt

/-- Writes the beginning of what a descriptor leads to, and reads no more than needed. -/
def passBeginning (c : Call) (e : Excerpt) (descriptor : Nat) :
    Program (Except Errno Unit) := do
  if e.isRest then
    match ← Program.readAll descriptor with
    | .ok text =>
      put c (e.beginning text)
      return .ok ()
    | .error errno => return .error errno
  else if e.count = 0 then return .ok ()
  else
    let result ← Program.readBlocks descriptor 8192 (fun (left : Nat) text => do
      let part := Excerpt.beginning { e with count := left } text
      put c part
      let used := if e.countsBytes then part.length else endsIn e.stop part
      if left ≤ used && part.length < text.length then
        let excess : Int := (text.length - part.length : Nat)
        Program.request (Unix.moveBy descriptor (-excess))
      return (left - used, used < left)) Program.patience e.count
    return result.map fun _ => ()

/-- The line in front of a file when there are several. -/
def fileHeader (isFirst : Bool) (path : String) : String :=
  (if isFirst then "" else "\n") ++ "==> " ++ (if path = "-" then "standard input" else path) ++
    " <==\n"

/-- Does something with each of several files, with a line in front of it if that is asked for, and
tells whether nothing was wrong. -/
def underHeaders (c : Call) (withHeaders : Bool)
    (use : Nat → Program (Except Errno Unit)) : Bool → List String → Program Bool
  | _, [] => return true
  | isFirst, path :: rest => do
    match ← openToRead path with
    | .error errno =>
      complain c ("cannot open " ++ quotedAlways path ++ " for reading: " ++ errno.words)
      discard (underHeaders c withHeaders use isFirst rest)
      return false
    | .ok descriptor =>
      if withHeaders then put c (fileHeader isFirst path)
      let result ← use descriptor
      closeRead path descriptor
      match result with
      | .ok () => underHeaders c withHeaders use false rest
      | .error errno =>
        complain c ("error reading " ++ quotedAlways path ++ ": " ++ errno.words)
        discard (underHeaders c withHeaders use false rest)
        return false

/-- The options of programs that write a part of files. -/
def excerptOptions : List OptionSpec :=
  [valued 'n' ["lines"], valued 'c' ["bytes"], flag 'q' ["quiet", "silent"], flag 'v' ["verbose"],
    flag 'z' ["zero-terminated"]]

/-- What is asked for of files by options, where a sign has a meaning of its own; or what is wrong.
-/
def excerptOf (o : Options) (sign : Char) : Except String Excerpt := do
  let stop := if o.has 'z' then '\x00' else '\n'
  match (o.filter fun entry => entry.1 = 'n' || entry.1 = 'c').getLast? with
  | none => .ok ⟨false, 10, false, stop⟩
  | some (letter, value) =>
    let countsBytes := letter = 'c'
    let text := value.getD ""
    let cs := text.toList
    let isRest := cs.head? = some sign
    let plain := if isRest || cs.head? = some '-' || cs.head? = some '+' then cs.drop 1 else cs
    match amount? (String.ofList plain) with
    | some count => .ok ⟨countsBytes, count, isRest, stop⟩
    | none =>
      .error ("invalid number of " ++ (if countsBytes then "bytes" else "lines") ++ ": " ++
        quotedAlways text)

/-- Arguments in which a number behind a dash is written as an option. -/
def withNumberOption (arguments : List String) : List String :=
  match arguments with
  | first :: rest =>
    match first.toList with
    | '-' :: c :: more =>
      if c.isDigit then
        let digits := (c :: more).takeWhile Char.isDigit
        let letters := (c :: more).drop digits.length
        let kind := if letters.contains 'c' then "-c" else "-n"
        let flags := letters.filter fun l => l = 'q' || l = 'v'
        kind :: String.ofList digits ::
          (if flags = [] then rest else String.ofList ('-' :: flags) :: rest)
      else arguments
    | _ => arguments
  | [] => []

/-- Whether the files have lines in front of them. -/
def withHeaders (o : Options) (paths : List String) : Bool :=
  match o.last? ['q', 'v'] with
  | some 'q' => false
  | some _ => true
  | none => 1 < paths.length

/-- Writes the beginning of files. -/
def head : Utility := fun c =>
  withOptions excerptOptions 1 (fun c o paths =>
    match excerptOf o '-' with
    | .error message => failing c message 1
    | .ok e => do
      let done ← underHeaders c (withHeaders o paths) (passBeginning c e) true (inputsOf paths)
      return if done then 0 else 1) { c with arguments := withNumberOption c.arguments }

/-- Writes the end of what a descriptor leads to. -/
def passEnding (c : Call) (e : Excerpt) (descriptor : Nat) : Program (Except Errno Unit) := do
  match ← Program.readAll descriptor with
  | .ok text =>
    put c (e.ending text)
    return .ok ()
  | .error errno => return .error errno

/-- Arguments in which a number behind a plus sign is written as an option. -/
def withPlusOption (arguments : List String) : List String :=
  match arguments with
  | first :: rest =>
    match first.toList with
    | '+' :: c :: more =>
      if (c :: more).all Char.isDigit then "-n" :: first :: rest else arguments
    | _ => withNumberOption arguments
  | [] => []

/-- Writes the end of files. -/
def tail : Utility := fun c =>
  withOptions (excerptOptions ++ [flag 'f' ["follow"], flag 'F' []]) 1 (fun c o paths =>
    match excerptOf o '+' with
    | .error message => failing c message 1
    | .ok e => do
      let done ← underHeaders c (withHeaders o paths) (passEnding c e) true (inputsOf paths)
      if o.hasAny ['f', 'F'] && paths ≠ [] then Program.diverge
      return if done then 0 else 1) { c with arguments := withPlusOption c.arguments }

/-! ## Counting -/

/-- What is counted of a text. -/
structure Counts where
  /-- ends of lines -/
  lines : Nat
  /-- words -/
  words : Nat
  /-- bytes -/
  bytes : Nat
  /-- the length of the longest line -/
  widest : Nat
  deriving DecidableEq, Repr

/-- Whether a character is a blank. -/
def isBlank (c : Char) : Bool := c = ' ' || ('\t' ≤ c && c ≤ '\r')

/-- Counts further characters, given whether a word is under way and how long the line is. -/
def countChars : Counts → Bool → Nat → List Char → Counts
  | counts, _, width, [] => { counts with widest := max counts.widest width }
  | counts, inWord, width, c :: rest =>
    let counts := { counts with bytes := counts.bytes + 1 }
    if isBlank c then
      if c = '\n' || c = '\r' || c = '\x0c' then
        let lines := if c = '\n' then counts.lines + 1 else counts.lines
        countChars { counts with lines, widest := max counts.widest width } false 0 rest
      else
        let width := if c = '\t' then width + 8 - width % 8
          else if c = ' ' then width + 1
          else width
        countChars counts false width rest
    else
      let words := if inWord then counts.words else counts.words + 1
      countChars { counts with words } true (if isPrinted c then width + 1 else width) rest

/-- Counts of two texts together. -/
def Counts.add (a b : Counts) : Counts :=
  ⟨a.lines + b.lines, a.words + b.words, a.bytes + b.bytes, max a.widest b.widest⟩

/-- The line that tells counts, with a name if there is one. -/
def countLine (wanted : List Char) (width : Nat) (counts : Counts) (name? : Option String) :
    String :=
  let numbers := wanted.map fun letter =>
    match letter with
    | 'l' => counts.lines
    | 'w' => counts.words
    | 'L' => counts.widest
    | _ => counts.bytes
  String.intercalate " " (numbers.map fun n => padFront width (toString n)) ++
    (match name? with
    | some name => " " ++ name
    | none => "") ++ "\n"

/-- The width of the counts of files. -/
def countWidth (wanted : List Char) (paths : List String) : Program Nat := do
  if paths.length ≤ 1 && wanted.length = 1 then return 1
  else
    let statuses ← (inputsOf paths).mapM fun path =>
      if path = "-" then Program.ask (Unix.statusOpen 0)
      else Program.ask (Unix.statusAt path true)
    let known := statuses.filterMap Except.toOption
    let isFirstKnown := (statuses.head?.map fun s => s.isOk).getD false
    let regular := known.filter (·.kind = .regular)
    let total := regular.foldl (fun n status => n + status.size) 0
    let least := if regular.length < known.length then 7 else 1
    return if isFirstKnown then max least (toString total).length else 1

/-- Counts lines, words and bytes. -/
def wc : Utility :=
  withOptions [flag 'c' ["bytes"], flag 'm' ["chars"], flag 'l' ["lines"], flag 'w' ["words"],
    flag 'L' ["max-line-length"]] 1 fun c o paths => do
    let asked := ['l', 'w', 'm', 'c', 'L'].filter o.has
    let wanted := if asked = [] then ['l', 'w', 'c'] else asked
    let width ← countWidth wanted paths
    let counted ← (inputsOf paths).mapM fun path => do
      match ← contentOf path with
      | .ok text =>
        let counts := countChars ⟨0, 0, 0, 0⟩ false 0 text.toList
        put c (countLine wanted width counts (if paths = [] then none else some path))
        return (counts, true)
      | .error errno =>
        complain c (fileFault path errno)
        if errno = .isDirectory then put c (countLine wanted width ⟨0, 0, 0, 0⟩ (some path))
        return (⟨0, 0, 0, 0⟩, false)
    if 1 < paths.length then
      let total := (counted.map (·.1)).foldl Counts.add ⟨0, 0, 0, 0⟩
      put c (countLine wanted width total (some "total"))
    return if counted.all (·.2) then 0 else 1

/-! ## Reversing and numbering -/

/-- The lines of a text with their ends. -/
def linesWithEnds (text : String) : List String :=
  let (lines, hasEnd) := linesOf '\n' text
  if hasEnd then lines.map (·.push '\n')
  else lines.dropLast.map (·.push '\n') ++ lines.getLast?.toList

/-- Writes the lines of files, the last one first. -/
def tac : Utility :=
  withOptions [] 1 fun c _ paths => do
    let done ← forContents c
      (fun path errno =>
        "failed to open " ++ quotedAlways path ++ " for reading: " ++ errno.words)
      (fun _ text => put c (String.join (linesWithEnds text).reverse)) (inputsOf paths)
    return if done then 0 else 1

/-- Writes the lines of files, each with its last character first. -/
def rev : Utility :=
  withOptions [] 1 fun c _ paths => do
    let done ← forContents c
      (fun path errno => "cannot open " ++ path ++ ": " ++ errno.words)
      (fun _ text => do
        let (lines, hasEnd) := linesOf '\n' text
        let lines := lines.map fun line => String.ofList line.toList.reverse
        let joined := String.intercalate "\n" lines
        put c (if hasEnd then joined ++ "\n" else joined)) (inputsOf paths)
    return if done then 0 else 1

/-- Numbers the lines of a text. -/
def numberLines (all : Bool) (width : Nat) (separator : String) : Nat → List String → List String
  | _, [] => []
  | n, line :: rest =>
    if all || line ≠ "" then
      (padFront width (toString n) ++ separator ++ line) ::
        numberLines all width separator (n + 1) rest
    else
      (String.ofList (List.replicate (width + separator.length) ' ') ++ line) ::
        numberLines all width separator n rest

/-- Numbers the lines of files. -/
def nl : Utility :=
  withOptions [valued 'b' ["body-numbering"], valued 'w' ["number-width"],
    valued 's' ["number-separator"], valued 'v' ["starting-line-number"]] 1 fun c o paths => do
    let (text, done) ← joinedContents c fileFault (inputsOf paths)
    let (lines, _) := linesOf '\n' text
    let start := ((o.value? 'v').bind String.toNat?).getD 1
    let width := ((o.value? 'w').bind String.toNat?).getD 6
    let separator := (o.value? 's').getD "\t"
    let numbered := numberLines (o.value? 'b' = some "a") width separator start lines
    put c (unlines '\n' numbered)
    return if done then 0 else 1

end Shipyard.Utility
