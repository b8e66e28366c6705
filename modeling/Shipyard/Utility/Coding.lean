import Shipyard.Digest.Sha256
import Shipyard.Utility.Launch
import Shipyard.Utility.Stream

/-!
# Bytes as text

Programs that write bytes as letters or numbers, that tell digests of them, and that tell where two
files differ.
-/

namespace Shipyard.Utility

open Unix (Program)

/-! ## Bytes as letters -/

/-- The letters that stand for six bits each. -/
def sixBitLetters : List Char :=
  "ABCDEFGHIJKLMNOPQRSTUVWXYZabcdefghijklmnopqrstuvwxyz0123456789+/".toList

/-- The letter of six bits. -/
def sixBitLetter (n : Nat) : Char := (sixBitLetters[n]?).getD '='

/-- Bytes as letters: four for three bytes. -/
def lettersOf : List Nat → List Char
  | a :: b :: c :: rest =>
    sixBitLetter (a / 4) :: sixBitLetter (a % 4 * 16 + b / 16) ::
      sixBitLetter (b % 16 * 4 + c / 64) :: sixBitLetter (c % 64) :: lettersOf rest
  | [a, b] =>
    [sixBitLetter (a / 4), sixBitLetter (a % 4 * 16 + b / 16), sixBitLetter (b % 16 * 4), '=']
  | [a] => [sixBitLetter (a / 4), sixBitLetter (a % 4 * 16), '=', '=']
  | [] => []

/-- The bytes that letters stand for, and whether all letters made sense. -/
def bytesOfLetters : List Char → List Char × Bool
  | a :: b :: c :: d :: rest =>
    match sixBitLetters.idxOf? a, sixBitLetters.idxOf? b, sixBitLetters.idxOf? c,
        sixBitLetters.idxOf? d with
    | some m, some n, some o, some p =>
      let (more, isWhole) := bytesOfLetters rest
      (Char.ofNat (m * 4 + n / 16) :: Char.ofNat (n % 16 * 16 + o / 4) ::
        Char.ofNat (o % 4 * 64 + p) :: more, isWhole)
    | some m, some n, some o, none =>
      if d = '=' then
        let (more, isWhole) := bytesOfLetters rest
        (Char.ofNat (m * 4 + n / 16) :: Char.ofNat (n % 16 * 16 + o / 4) :: more, isWhole)
      else ([Char.ofNat (m * 4 + n / 16), Char.ofNat (n % 16 * 16 + o / 4)], false)
    | some m, some n, none, _ =>
      if c = '=' && d = '=' then
        let (more, isWhole) := bytesOfLetters rest
        (Char.ofNat (m * 4 + n / 16) :: more, isWhole)
      else ([Char.ofNat (m * 4 + n / 16)], false)
    | _, _, _, _ => ([], false)
  | [a, b, c] =>
    match sixBitLetters.idxOf? a, sixBitLetters.idxOf? b, sixBitLetters.idxOf? c with
    | some m, some n, some o =>
      ([Char.ofNat (m * 4 + n / 16), Char.ofNat (n % 16 * 16 + o / 4)], false)
    | some m, some n, none => ([Char.ofNat (m * 4 + n / 16)], false)
    | _, _, _ => ([], false)
  | [a, b] =>
    match sixBitLetters.idxOf? a, sixBitLetters.idxOf? b with
    | some m, some n => ([Char.ofNat (m * 4 + n / 16)], false)
    | _, _ => ([], false)
  | [_] => ([], false)
  | [] => ([], true)

/-- Writes bytes as letters, or the other way round. -/
def base64 : Utility :=
  withOptions [flag 'd' ["decode"], flag 'i' ["ignore-garbage"], valued 'w' ["wrap"]] 1
    fun c o paths => do
    let width := (o.value? 'w').getD "76"
    if 1 < paths.length then misused c ("extra operand " ++ quotedText (paths.getD 1 "")) 1
    else if width.toNat?.isNone then failing c ("invalid wrap size: " ++ quotedText width) 1
    else
      let path := paths.headD "-"
      match ← contentOf path with
      | .error errno => failing c (fileFault path errno) 1
      | .ok text =>
        let cs := text.toList
        if o.has 'd' then
          let letters := cs.filter fun c => c ≠ '\n' &&
            (!o.has 'i' || sixBitLetters.contains c || c = '=')
          let (bytes, isWhole) := bytesOfLetters letters
          put c (String.ofList bytes)
          if isWhole then return 0 else failing c "invalid input" 1
        else
          let letters := lettersOf (cs.map Char.toNat)
          let width := (width.toNat?).getD 76
          if width = 0 then put c (String.ofList letters)
          else put c (unlines '\n' ((chunks width (letters.length + 1) letters).map String.ofList))
          return 0

/-! ## Bytes as numbers -/

/-- How bytes are written. -/
structure DumpForm where
  /-- the letter of the form -/
  letter : Char
  /-- how many bytes belong together -/
  size : Nat
  /-- whether they are written as characters as well -/
  withText : Bool
  deriving DecidableEq, Repr

namespace DumpForm

/-- How wide a number is. -/
def width (f : DumpForm) : Nat :=
  match f.letter with
  | 'o' => [(1, 3), (2, 6), (4, 11)].lookup f.size |>.getD 22
  | 'x' => 2 * f.size
  | 'u' => [(1, 3), (2, 5), (4, 10)].lookup f.size |>.getD 20
  | 'd' => [(1, 4), (2, 6), (4, 11)].lookup f.size |>.getD 20
  | _ => 3

/-- A number with zeros in front. -/
def zeroFilled (width base n : Nat) : String :=
  let digits := Nat.toDigits base n
  String.ofList (List.replicate (width - digits.length) '0' ++ digits)

/-- A character as it is written. -/
def character (c : Char) : String :=
  match [('\x00', "\\0"), ('\x07', "\\a"), ('\x08', "\\b"), ('\t', "\\t"), ('\n', "\\n"),
    ('\x0b', "\\v"), ('\x0c', "\\f"), ('\r', "\\r")].lookup c with
  | some text => text
  | none => if isPrinted c then String.ofList [c] else zeroFilled 3 8 c.toNat

/-- The names of characters that are not printed. -/
def characterNames : List String :=
  ["nul", "soh", "stx", "etx", "eot", "enq", "ack", "bel", "bs", "ht", "nl", "vt", "ff", "cr", "so",
    "si", "dle", "dc1", "dc2", "dc3", "dc4", "nak", "syn", "etb", "can", "em", "sub", "esc", "fs",
    "gs", "rs", "us", "sp"]

/-- Bytes that belong together, the lowest one first. -/
def item (f : DumpForm) (cs : List Char) : String :=
  let n := cs.foldr (fun c n => 256 * n + c.toNat) 0
  match f.letter with
  | 'o' => zeroFilled f.width 8 n
  | 'x' => zeroFilled f.width 16 n
  | 'd' =>
    let half := Nat.pow 2 (8 * f.size - 1)
    if half ≤ n then "-" ++ toString (2 * half - n) else toString n
  | 'u' => toString n
  | 'a' =>
    let low := n % 128
    if low = 127 then "del" else (characterNames[low]?).getD (String.ofList [Char.ofNat low])
  | _ => character (Char.ofNat n)

/-- A block of bytes, with `wide` columns for each number. -/
def line (f : DumpForm) (wide perLine : Nat) (cs : List Char) : String :=
  let groups := chunks f.size (cs.length + 1) cs
  let text := String.join (groups.map fun group => padFront wide (f.item group))
  if f.withText then
    let missing := (perLine / f.size - groups.length) * wide
    let shown := cs.map fun c => if isPrinted c then c else '.'
    text ++ String.ofList (List.replicate missing ' ') ++ "  >" ++ String.ofList shown ++ "<"
  else text

/-- The form of a text, and the text behind it. -/
def read? (cs : List Char) : Option (DumpForm × List Char) :=
  match cs with
  | letter :: rest =>
    if letter = 'a' || letter = 'c' then
      match rest with
      | 'z' :: rest => some (⟨letter, 1, true⟩, rest)
      | _ => some (⟨letter, 1, false⟩, rest)
    else if "oxud".toList.contains letter then
      let digits := rest.takeWhile Char.isDigit
      let behind := rest.drop digits.length
      let (size, behind) := match digits, behind with
        | [], 'C' :: more => (1, more)
        | [], 'S' :: more => (2, more)
        | [], 'I' :: more => (4, more)
        | [], 'L' :: more => (8, more)
        | [], more => (4, more)
        | digits, more => (digitsOf digits, more)
      if !([1, 2, 4, 8].contains size) then none
      else
        match behind with
        | 'z' :: rest => some (⟨letter, size, true⟩, rest)
        | _ => some (⟨letter, size, false⟩, behind)
    else none
  | [] => none

/-- The forms of a text, or the character that makes no sense. The fuel bounds how many there are.
-/
def readAll : Nat → List Char → Except Char (List DumpForm)
  | 0, _ => .ok []
  | _ + 1, [] => .ok []
  | fuel + 1, cs =>
    match read? cs with
    | some (form, rest) => (readAll fuel rest).map (form :: ·)
    | none => .error (cs.headD ' ')

end DumpForm

/-- The forms that options ask for, or what is wrong with them. -/
def dumpForms : Options → Except String (List DumpForm)
  | [] => .ok []
  | (letter, value) :: rest => do
    let own ← match letter with
      | 't' =>
        let text := value.getD ""
        match DumpForm.readAll (text.length + 1) text.toList with
        | .ok forms => .ok forms
        | .error wrong =>
          .error ("invalid character " ++ quotedText (String.ofList [wrong]) ++
            " in type string " ++ quotedText text)
      | 'a' => .ok [⟨'a', 1, false⟩]
      | 'b' => .ok [⟨'o', 1, false⟩]
      | 'c' => .ok [⟨'c', 1, false⟩]
      | 'd' => .ok [⟨'u', 2, false⟩]
      | 'i' => .ok [⟨'d', 4, false⟩]
      | 'l' => .ok [⟨'d', 8, false⟩]
      | 'o' => .ok [⟨'o', 2, false⟩]
      | 's' => .ok [⟨'d', 2, false⟩]
      | 'x' => .ok [⟨'x', 2, false⟩]
      | 'h' => .ok [⟨'x', 2, false⟩]
      | _ => .ok []
    return own ++ (← dumpForms rest)

/-- The lines for blocks of bytes. A block that is like the one before is left out, with a mark for
all of them, if `skips` says so. -/
def dumpLines (address : Nat → String) (forms : List DumpForm) (perLine : Nat) (skips : Bool) :
    Nat → Option (List Char) → Bool → List (List Char) → List String
  | offset, _, _, [] => if address offset = "" then [] else [address offset]
  | offset, before, isMarked, block :: rest =>
    let next := offset + block.length
    if skips && before = some block && block.length = perLine then
      let others := dumpLines address forms perLine skips next before true rest
      if isMarked then others else "*" :: others
    else
      let wide := (forms.map fun f => (f.width + 1, f.size)).foldl (fun n (w, size) =>
        max n (w * perLine / size)) 0
      let texts := forms.map fun f => f.line (wide * f.size / perLine) perLine block
      let blank := String.ofList (List.replicate (address offset).length ' ')
      let shown := (texts.take 1).map (address offset ++ ·) ++ (texts.drop 1).map (blank ++ ·)
      shown ++ dumpLines address forms perLine skips next (some block) false rest

/-- Writes bytes as numbers. -/
def od : Utility :=
  withOptions (flags "abcdhilosvx" ++ [valued 'A' ["address-radix"], valued 't' ["format"],
    valued 'N' ["read-bytes"], valued 'j' ["skip-bytes"], ⟨'w', ["width"], .optional, true⟩,
    named 'v' ["output-duplicates"] .without]) 1 fun c o paths => do
    match dumpForms o with
    | .error message => failing c message 1
    | .ok given =>
      let forms := if given = [] then [⟨'o', 2, false⟩] else given
      let (text, done) ← joinedContents c fileFault (inputsOf paths)
      if !done && text = "" then return 1
      let start := ((o.value? 'j').bind amount?).getD 0
      let cs := text.toList.drop start
      let cs := match (o.value? 'N').bind amount? with
        | some n => cs.take n
        | none => cs
      let perLine := if o.has 'w' then ((o.value? 'w').bind String.toNat?).getD 32 else 16
      let address := fun (n : Nat) =>
        match ((o.value? 'A').getD "o").toList.head? with
        | some 'n' => ""
        | some 'd' => DumpForm.zeroFilled 7 10 n
        | some 'x' => DumpForm.zeroFilled 6 16 n
        | _ => DumpForm.zeroFilled 7 8 n
      let blocks := chunks (max perLine 1) (cs.length + 1) cs
      let lines := dumpLines address forms perLine (!o.has 'v') start none false blocks
      put c (unlines '\n' lines)
      return if done then 0 else 1

/-! ## Digests -/

/-- The digest of a text. -/
def digestOf (text : String) : String :=
  Sha256.digest (text.toList.map fun c => UInt8.ofNat c.toNat)

/-- Compares the digests of a list with those of the files it names, and tells how many differ. -/
def checkDigests (c : Call) (path : String) : List String → Program Nat
  | [] => return 0
  | line :: rest => do
    let digest := (line.take 64).toString
    let file := (line.drop 66).toString
    let own ← match ← contentOf file with
      | .ok text =>
        let fits := digestOf text = digest
        putLine c (file ++ ": " ++ if fits then "OK" else "FAILED")
        pure (if fits then 0 else 1)
      | .error errno =>
        complain c (fileFault file errno)
        putLine c (file ++ ": FAILED open or read")
        pure 1
    return own + (← checkDigests c path rest)

/-- Tells the digests of files. -/
def sha256sum : Utility :=
  withOptions [flag 'b' ["binary"], flag 't' ["text"], flag 'c' ["check"],
    named 'g' ["tag"] .without] 1 fun c o paths => do
    if o.has 'c' then
      let done ← forContents c fileFault (fun path text => do
        let wrong ← checkDigests c path (linesOf '\n' text).1
        if 0 < wrong then
          complain c ("WARNING: " ++ toString wrong ++ " computed checksum" ++
            (if wrong = 1 then "" else "s") ++ " did NOT match")
          Program.exit 1) (inputsOf paths)
      return if done then 0 else 1
    else
      let done ← forContents c fileFault (fun path text =>
        if o.has 'g' then putLine c ("SHA256 (" ++ path ++ ") = " ++ digestOf text)
        else putLine c (digestOf text ++ (if o.has 'b' then " *" else "  ") ++ path))
        (inputsOf paths)
      return if done then 0 else 1

/-! ## Differences -/

/-- The places where two texts differ, with the characters there. -/
def differences : Nat → List Char → List Char → List (Nat × Char × Char)
  | place, a :: as, b :: bs =>
    if a = b then differences (place + 1) as bs
    else (place, a, b) :: differences (place + 1) as bs
  | _, _, _ => []

/-- Tells where two files differ. -/
def cmp : Utility :=
  withOptions [flag 's' ["quiet", "silent"], flag 'l' ["verbose"], flag 'b' ["print-bytes"]] 2
    fun c o paths => do
    match paths with
    | [] => misused c ("missing operand after " ++ quotedText c.name) 2
    | first :: others =>
      let second := others.headD "-"
      match ← contentOf first, ← contentOf second with
      | .error errno, _ => failing c (first ++ ": " ++ errno.words) 2
      | _, .error errno => failing c (second ++ ": " ++ errno.words) 2
      | .ok a, .ok b =>
        let (as, bs) := (a.toList, b.toList)
        let found := differences 0 as bs
        if as = bs then return 0
        else if o.has 's' then return 1
        else
          let octal := fun (c : Char) => padFront 3 (String.ofList (Nat.toDigits 8 c.toNat))
          let width := (toString (max as.length bs.length)).length
          if o.has 'l' then
            put c (unlines '\n' (found.map fun (place, a, b) =>
              padFront width (toString (place + 1)) ++ " " ++ octal a ++ " " ++ octal b))
          match if o.has 'l' then none else found.head? with
          | some (place, _, _) =>
            let line := ((as.take place).filter (· = '\n')).length + 1
            putLine c (first ++ " " ++ second ++ " differ: char " ++ toString (place + 1) ++
              ", line " ++ toString line)
            return 1
          | none =>
            if as.length = bs.length then return 1
            else
              let (short, path) := if as.length < bs.length then (as, first) else (bs, second)
              let lines := (short.filter (· = '\n')).length
              let isWhole := short.getLast? = some '\n'
              let lineText := if o.has 'l' then "" else
                ", " ++ (if isWhole then "line " ++ toString lines
                  else "in line " ++ toString (lines + 1))
              complain c ("EOF on " ++ path ++ (if short = [] then " which is empty"
                else " after byte " ++ toString short.length ++ lineText))
              return 1

end Shipyard.Utility
