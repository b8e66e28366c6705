import Shipyard.Decimal.Places
import Shipyard.Shell.Arithmetic

/-!
# Formatted output of shell scripts

What `echo` and `printf` write. Escapes stand for characters; a directive of a format takes the next
argument, and a format that takes arguments is used again until there are no more of them.
-/

namespace Shipyard.Shell

/-! ## Escapes -/

/-- Which escapes there are. -/
inductive Escapes where
  /-- those of a format inside the shell -/
  | format
  /-- those of a text: octal numbers may begin with a zero more, and `\c` ends the output -/
  | text
  /-- those of a format of the program -/
  | program
  deriving DecidableEq, Repr

/-- The character of a letter behind a backslash. -/
def escapedChar? (c : Char) : Option Char :=
  [('a', '\x07'), ('b', '\x08'), ('e', '\x1b'), ('f', '\x0c'), ('n', '\n'), ('r', '\r'),
    ('t', '\t'), ('v', '\x0b'), ('\\', '\\')].lookup c

/-- Whether a character is a digit in base eight. -/
def isOctal (c : Char) : Bool := '0' ≤ c && c ≤ '7'

/-- At most three octal digits at the beginning of a text. -/
def octalDigits (cs : List Char) : List Char := (cs.take 3).takeWhile isOctal

/-- The character of a byte, given the digits of its number. -/
def byteChar (base : Nat) (digits : List Char) : Char := Char.ofNat (digitsValue base digits % 256)

/-- The escape behind a backslash: its characters or the end of the output, and how long it is. -/
def escapeAt (escapes : Escapes) (cs : List Char) : Option (List Char) × Nat :=
  match cs with
  | [] => (some ['\\'], 0)
  | c :: rest =>
    if escapes = .text && c = '0' then
      let digits := octalDigits rest
      (some [byteChar 8 digits], 1 + digits.length)
    else if isOctal c then
      let digits := octalDigits cs
      (some [byteChar 8 digits], digits.length)
    else if c = 'c' && escapes ≠ .format then (none, 1)
    else if c = 'x' && escapes = .program then
      let digits := (rest.take 2).takeWhile fun d => (Text.hexValue? d).isSome
      if digits = [] then (some ['\\', 'x'], 1) else (some [byteChar 16 digits], 1 + digits.length)
    else if c = '"' && escapes = .program then (some ['"'], 1)
    else
      match escapedChar? c with
      | some d => (some [d], 1)
      | none => (some ['\\', c], 1)

/-- A text with its escapes replaced, and whether it ends the output. -/
def unescape (escapes : Escapes) : Nat → List Char → List Char × Bool
  | 0, _ => ([], false)
  | fuel + 1, cs =>
    let text := cs.takeWhile (· ≠ '\\')
    match cs.drop text.length with
    | [] => (text, false)
    | _ :: behind =>
      match escapeAt escapes behind with
      | (none, _) => (text, true)
      | (some chars, n) =>
        let (rest, stops) := unescape escapes fuel (behind.drop n)
        (text ++ chars ++ rest, stops)

/-- A text with its escapes replaced, and whether it ends the output. -/
def unescaped (escapes : Escapes) (s : String) : String × Bool :=
  let cs := s.toList
  let (text, stops) := unescape escapes (cs.length + 1) cs
  (String.ofList text, stops)

/-! ## Echo -/

/-- What `echo` writes. -/
def echoText (arguments : List String) : String :=
  let (isOpen, words) := match arguments with
    | "-n" :: words => (true, words)
    | _ => (false, arguments)
  let (text, stops) := unescaped .text (String.intercalate " " words)
  if isOpen || stops then text else text ++ "\n"

/-! ## Formats -/

/-- A width or a precision. -/
inductive Measure where
  /-- a number -/
  | fixed (n : Nat)
  /-- the number of the next argument -/
  | argument
  deriving DecidableEq, Repr

/-- A part of a format. -/
inductive FormatPart where
  /-- a text -/
  | text (s : String)
  /-- an argument is written -/
  | directive (flags : List Char) (width precision : Option Measure) (kind : Char)
  /-- the output ends -/
  | stop
  /-- a directive that does not exist -/
  | unknown (text : String)
  /-- a directive without a letter -/
  | cutOff
  deriving DecidableEq, Repr

/-- The measure at the beginning of a text, and the rest. -/
def readMeasure (cs : List Char) : Option Measure × List Char :=
  match cs with
  | '*' :: rest => (some .argument, rest)
  | _ =>
    let digits := cs.takeWhile Char.isDigit
    (if digits = [] then none else some (.fixed (digitsValue 10 digits)), cs.drop digits.length)

/-- The directive behind a percent sign, and the rest. -/
def readDirective (cs : List Char) : FormatPart × List Char :=
  let flags := cs.takeWhile fun c => "-+ #0".toList.contains c
  let (width, rest) := readMeasure (cs.drop flags.length)
  let (precision, rest) := match rest with
    | '.' :: rest =>
      let (precision, rest) := readMeasure rest
      (some (precision.getD (.fixed 0)), rest)
    | _ => (none, rest)
  match rest with
  | [] => (.cutOff, [])
  | kind :: rest =>
    if "diouxXcsbeEfFgGaA".toList.contains kind then (.directive flags width precision kind, rest)
    else (.unknown (String.ofList ['%', kind]), rest)

/-- The parts of a format. -/
def readFormat (escapes : Escapes) : Nat → List Char → List FormatPart
  | 0, _ => []
  | _, [] => []
  | fuel + 1, '\\' :: cs =>
    match escapeAt escapes cs with
    | (none, _) => [.stop]
    | (some chars, n) => .text (String.ofList chars) :: readFormat escapes fuel (cs.drop n)
  | fuel + 1, '%' :: '%' :: cs => .text "%" :: readFormat escapes fuel cs
  | fuel + 1, '%' :: cs =>
    let (part, rest) := readDirective cs
    part :: readFormat escapes fuel rest
  | fuel + 1, cs =>
    let text := cs.takeWhile fun c => c ≠ '\\' && c ≠ '%'
    .text (String.ofList text) :: readFormat escapes fuel (cs.drop text.length)

/-- What is wrong with a format or its arguments. -/
inductive FormatFault where
  /-- an argument is no number -/
  | noNumber (argument : String)
  /-- only the beginning of an argument is a number -/
  | partNumber (argument : String)
  /-- a number is too great -/
  | outOfRange (argument : String)
  /-- a directive does not exist -/
  | unknown (directive : String)
  /-- a directive has no letter -/
  | cutOff
  deriving DecidableEq, Repr

/-- What the shell says of a fault. -/
def FormatFault.message : FormatFault → String
  | noNumber argument => argument ++ ": expected numeric value"
  | partNumber argument => argument ++ ": not completely converted"
  | outOfRange argument => argument ++ ": Numerical result out of range"
  | unknown directive => directive ++ ": invalid directive"
  | cutOff => "missing format character"

/-- What is written with a format so far. -/
structure Formatted where
  /-- the output -/
  output : String
  /-- what is wrong with arguments or with the format, in order -/
  faults : List FormatFault
  /-- the code -/
  code : Nat
  /-- the arguments that are left -/
  arguments : List String
  /-- whether an argument was asked for -/
  isHungry : Bool
  /-- whether the output is at its end -/
  isDone : Bool

namespace Formatted

/-- With more output. -/
def write (f : Formatted) (s : String) : Formatted := { f with output := f.output ++ s }

/-- With something wrong. -/
def complain (f : Formatted) (fault : FormatFault) : Formatted :=
  { f with faults := f.faults ++ [fault], code := 1 }

/-- Without its next argument, which it gives if there is one. -/
def next (f : Formatted) : Option String × Formatted :=
  (f.arguments.head?, { f with arguments := f.arguments.drop 1, isHungry := true })

/-- The least and the greatest number of a directive. -/
def rangeOf (isSigned : Bool) : Int × Int :=
  if isSigned then (-9223372036854775808, 9223372036854775807)
  else (-18446744073709551615, 18446744073709551615)

/-- The number of an argument, and whether all of it is one. -/
def numberOf (f : Formatted) (isSigned : Bool) (argument : String) : Int × Formatted :=
  match argument.toList with
  | [] => (0, f)
  | '"' :: c :: _ => (c.toNat, f)
  | '\x27' :: c :: _ => (c.toNat, f)
  | cs =>
    let cs := cs.dropWhile isSpace
    let (negative, cs) := match cs with
      | '-' :: rest => (true, rest)
      | '+' :: rest => (false, rest)
      | _ => (false, cs)
    let (n, rest) := readNatural cs
    let value : Int := if negative then -(n : Int) else n
    let (least, greatest) := rangeOf isSigned
    if !((cs.headD ' ').isDigit) then (0, f.complain (.noNumber argument))
    else if rest ≠ [] then (value, f.complain (.partNumber argument))
    else if value < least then (least, f.complain (.outOfRange argument))
    else if greatest < value then (greatest, f.complain (.outOfRange argument))
    else (value, f)

/-- The number with a point that an argument is, and whether all of it is one. -/
def realOf (f : Formatted) (argument : String) : Binary64 × Formatted :=
  match argument.toList with
  | [] => (.finite false 0 0, f)
  | '"' :: c :: _ => (.finite false c.toNat 0, f)
  | '\x27' :: c :: _ => (.finite false c.toNat 0, f)
  | cs =>
    match Binary64.ofText? (cs.dropWhile isSpace) with
    | none => (.finite false 0 0, f.complain (.noNumber argument))
    | some r =>
      (r.value,
        if r.rest ≠ [] then f.complain (.partNumber argument)
        else if r.isOutside then f.complain (.outOfRange argument)
        else f)

/-- The number that a measure stands for. -/
def measure (f : Formatted) : Option Measure → Option Int × Formatted
  | none => (none, f)
  | some (.fixed n) => (some n, f)
  | some .argument =>
    let (argument, f) := f.next
    let (n, f) := f.numberOf true (argument.getD "")
    (some n, f)

end Formatted

/-- A text with blanks or zeros up to a width. -/
def padded (flags : List Char) (zeros : Bool) (width : Int) (sign body : String) : String :=
  let fill := fun (c : Char) =>
    String.ofList (List.replicate (width.natAbs - (sign.length + body.length)) c)
  if flags.contains '-' || width < 0 then sign ++ body ++ fill ' '
  else if zeros then sign ++ fill '0' ++ body
  else fill ' ' ++ sign ++ body

/-- The digits of a number, at least as many as the precision says. -/
def digitsText (base : Nat) (precision : Option Int) (n : Nat) : String :=
  let digits := Nat.toDigits base n
  String.ofList (List.replicate ((precision.getD 1).toNat - digits.length) '0' ++ digits)

/-- How many numbers there are without a sign. -/
def unsignedCount : Int := 18446744073709551616

/-- The sign in front of a number. -/
def signText (flags : List Char) (negative : Bool) : String :=
  if negative then "-"
  else if flags.contains '+' then "+"
  else if flags.contains ' ' then " "
  else ""

/-- A number as a directive writes it: its sign or mark, and its digits. -/
def numberText (flags : List Char) (precision : Option Int) (kind : Char) (value : Int) :
    String × String :=
  if kind = 'd' || kind = 'i' then
    (signText flags (value < 0), digitsText 10 precision value.natAbs)
  else
    let n := (value % unsignedCount).toNat
    let marked := flags.contains '#' && n ≠ 0
    if kind = 'o' then (if marked then "0" else "", digitsText 8 precision n)
    else if kind = 'x' then (if marked then "0x" else "", digitsText 16 precision n)
    else if kind = 'X' then
      let digits := (digitsText 16 precision n).toList.map Char.toUpper
      (if marked then "0X" else "", String.ofList digits)
    else ("", digitsText 10 precision n)

/-- A number with a point as a directive writes it: its sign, its digits, and whether zeros may
stand in front of them. -/
def realText (flags : List Char) (precision : Option Int) (kind : Char) (x : Binary64) :
    String × String × Bool :=
  let isCapital := kind.isUpper
  let cased := fun (cs : List Char) =>
    String.ofList (if isCapital then cs.map Char.toUpper else cs)
  let places := match precision with
    | some n => if n < 0 then 6 else n.toNat
    | none => 6
  let pointed := flags.contains '#'
  match x with
  | .nan => (signText flags false, cased "nan".toList, false)
  | .infinite negative => (signText flags negative, cased "inf".toList, false)
  | .finite negative mantissa exponent =>
    let (num, den) := Binary64.quotientOf mantissa exponent
    if kind.toLower = 'a' then
      let places? := match precision with
        | some n => if n < 0 then none else some n.toNat
        | none => none
      (signText flags negative ++ (if isCapital then "0X" else "0x"),
        cased (Binary64.hexText mantissa exponent places? pointed), true)
    else
      let body := match kind.toLower with
        | 'f' => Binary64.fixedText num den places pointed
        | 'e' => Binary64.exponentialText num den places pointed
        | _ => Binary64.generalText num den places pointed
      (signText flags negative, cased body, true)

/-- Writes one part of a format. -/
def writePart (f : Formatted) (part : FormatPart) : Formatted :=
  if f.isDone then f
  else
    match part with
    | .text s => f.write s
    | .stop => { f with isDone := true }
    | .unknown text => { f.complain (.unknown text) with isDone := true, code := 2 }
    | .cutOff => { f.complain .cutOff with isDone := true, code := 2 }
    | .directive flags width precision kind =>
      let (width, f) := f.measure width
      let (precision, f) := f.measure precision
      let (argument, f) := f.next
      let argument := argument.getD ""
      let width := width.getD 0
      let cut := fun (s : String) => match precision with
        | some n => if n < 0 then s else String.ofList (s.toList.take n.toNat)
        | none => s
      if kind = 's' then f.write (padded flags false width "" (cut argument))
      else if kind = 'b' then
        let (text, stops) := unescaped .text argument
        { f.write (padded flags false width "" (cut text)) with isDone := stops }
      else if kind = 'c' then
        f.write (padded flags false width "" (String.ofList [argument.toList.headD '\x00']))
      else if "eEfFgGaA".toList.contains kind then
        let (x, f) := f.realOf argument
        let (sign, body, fills) := realText flags precision kind x
        f.write (padded flags (fills && flags.contains '0') width sign body)
      else
        let (value, f) := f.numberOf (kind = 'd' || kind = 'i') argument
        let (sign, digits) := numberText flags precision kind value
        let zeros := flags.contains '0' && !flags.contains '-' && precision = none
        f.write (padded flags zeros width sign digits)

/-- Writes a format again and again while arguments are left. -/
def writeFormat (parts : List FormatPart) : Nat → Formatted → Formatted
  | 0, f => f
  | fuel + 1, f =>
    let f := parts.foldl writePart f
    if f.isDone || !f.isHungry || f.arguments = [] then f else writeFormat parts fuel f

/-- What a format and its arguments write. -/
def formatted (escapes : Escapes) (format : String) (arguments : List String) : Formatted :=
  let cs := format.toList
  writeFormat (readFormat escapes (cs.length + 1) cs) (arguments.length + 1)
    ⟨"", [], 0, arguments, false, false⟩

end Shipyard.Shell
