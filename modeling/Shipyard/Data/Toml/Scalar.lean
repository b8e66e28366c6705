import Shipyard.Data.Json.Reader
import Shipyard.Text.Blank

/-!
# Scalars of TOML

Keys, strings, numbers, dates and times. Each reader takes the text from where the thing begins and
gives its value and the text behind it.
-/

namespace Shipyard.Toml

/-- Why a text is refused. -/
inductive Fault where
  /-- the text is no TOML -/
  | malformed
  /-- an integer has more digits than are converted -/
  | hugeInteger (digits : Nat)
  /-- lists and inline tables are nested too deep -/
  | tooDeep
  deriving DecidableEq, Repr

/-- A reader of something at the beginning of a text. -/
abbrev Reading (α : Type) := Except Fault (α × List Char)

/-- The refusal of a text that is no TOML. -/
def refuse {α : Type} : Except Fault α := .error .malformed

/-- Blanks inside a line. -/
def isSpace (c : Char) : Bool := c = ' ' || c = '\t'

/-- The text behind the blanks of a line. -/
def skipSpace (cs : List Char) : List Char := cs.dropWhile isSpace

/-- Control characters, which may stand nowhere but for tabs and ends of lines. -/
def isControl (c : Char) : Bool := (c.toNat < 0x20 && c ≠ '\t') || c.toNat = 0x7F

/-- Characters of a key without quotes. -/
def isBareKey (c : Char) : Bool := c.isAlphanum || c = '-' || c = '_'

/-! ## Strings -/

/-- Reads a number of hexadecimal digits as the code of a character. -/
def readCode (count : Nat) (cs : List Char) : Reading Char :=
  let digits := cs.take count
  if digits.length < count then refuse
  else
    match digits.mapM Text.hexValue? with
    | none => refuse
    | some values =>
      let code := values.foldl (fun n d => n * 16 + d) 0
      if code < 0xD800 || (0xE000 ≤ code && code < 0x110000) then
        .ok (Char.ofNat code, cs.drop count)
      else refuse

/-- Reads an escape behind its backslash. In a string of several lines a backslash at the end of a
line takes the white space that follows away, and gives no character. -/
def readEscape (multiline : Bool) (cs : List Char) : Reading (Option Char) :=
  match cs with
  | [] => refuse
  | c :: rest =>
    if multiline && (isSpace c || c = '\n') then
      let afterSpace := if c = '\n' then cs else skipSpace rest
      match afterSpace with
      | [] => .ok (none, [])
      | '\n' :: more => .ok (none, more.dropWhile fun d => isSpace d || d = '\n')
      | _ => refuse
    else if c = 'u' then (readCode 4 rest).map fun r => (some r.1, r.2)
    else if c = 'U' then (readCode 8 rest).map fun r => (some r.1, r.2)
    else if c = '/' then refuse
    else
      match Json.simpleEscape? c with
      | some d => .ok (some d, rest)
      | none => refuse

/-- Reads a string with escapes behind its opening quotes; the characters so far are reversed. -/
def readBasic (multiline : Bool) : Nat → List Char → List Char → Reading (List Char)
  | 0, _, _ => refuse
  | fuel + 1, done, cs =>
    match cs with
    | [] => refuse
    | '\\' :: rest =>
      match readEscape multiline rest with
      | .error e => .error e
      | .ok (some c, after) => readBasic multiline fuel (c :: done) after
      | .ok (none, after) => readBasic multiline fuel done after
    | '"' :: rest =>
      if !multiline then .ok (done.reverse, rest)
      else
        match rest with
        | '"' :: '"' :: after => .ok (done.reverse, after)
        | _ => readBasic multiline fuel ('"' :: done) rest
    | c :: rest =>
      if isControl c && !(multiline && c = '\n') then refuse
      else readBasic multiline fuel (c :: done) rest

/-- Reads a string without escapes on one line behind its opening quote. -/
def readLiteral (cs : List Char) : Reading (List Char) :=
  let body := cs.takeWhile (· ≠ '\x27')
  match cs.dropWhile (· ≠ '\x27') with
  | [] => refuse
  | _ :: after => if body.any isControl then refuse else .ok (body, after)

/-- The text before three single quotes, reversed, and the text behind them. -/
def untilTripleQuote (done : List Char) : List Char → Option (List Char × List Char)
  | [] => none
  | '\x27' :: '\x27' :: '\x27' :: after => some (done, after)
  | c :: rest => untilTripleQuote (c :: done) rest

/-- Up to two quotes may stand before the three that close a string of several lines. -/
def extraQuotes (quote : Char) (body cs : List Char) : List Char × List Char :=
  match cs with
  | a :: b :: rest =>
    if a = quote && b = quote then (body ++ [quote, quote], rest)
    else if a = quote then (body ++ [quote], b :: rest)
    else (body, cs)
  | [a] => if a = quote then (body ++ [quote], []) else (body, cs)
  | [] => (body, cs)

/-- A line feed right behind the opening quotes does not belong to the string. -/
def skipFirstNewline : List Char → List Char
  | '\n' :: rest => rest
  | cs => cs

/-- Reads a string of any of the four kinds, from its first quote on. -/
def readString (cs : List Char) : Reading (List Char) :=
  match cs with
  | '"' :: '"' :: '"' :: rest =>
    (readBasic true (rest.length + 1) [] (skipFirstNewline rest)).map fun r =>
      extraQuotes '"' r.1 r.2
  | '"' :: rest => readBasic false (rest.length + 1) [] rest
  | '\x27' :: '\x27' :: '\x27' :: rest =>
    match untilTripleQuote [] (skipFirstNewline rest) with
    | none => refuse
    | some (body, after) =>
      if body.any fun c => isControl c && c ≠ '\n' then refuse
      else .ok (extraQuotes '\x27' body.reverse after)
  | '\x27' :: rest => readLiteral rest
  | _ => refuse

/-! ## Keys -/

/-- Reads one part of a key. -/
def readKeyPart (cs : List Char) : Reading String :=
  match cs with
  | '"' :: rest => (readBasic false (rest.length + 1) [] rest).map fun r => (String.ofList r.1, r.2)
  | '\x27' :: rest => (readLiteral rest).map fun r => (String.ofList r.1, r.2)
  | _ =>
    let part := cs.takeWhile isBareKey
    if part = [] then refuse else .ok (String.ofList part, cs.dropWhile isBareKey)

/-- Reads the parts of a key with a point between two; the parts so far are reversed. Blanks behind
the key are skipped. -/
def readKeyFrom : Nat → List String → List Char → Reading (List String)
  | 0, _, _ => refuse
  | fuel + 1, done, cs =>
    match readKeyPart cs with
    | .error e => .error e
    | .ok (part, after) =>
      match skipSpace after with
      | '.' :: rest => readKeyFrom fuel (part :: done) (skipSpace rest)
      | rest => .ok ((part :: done).reverse, rest)

/-- Reads a key. -/
def readKey (cs : List Char) : Reading (List String) := readKeyFrom (cs.length + 1) [] cs

/-! ## Numbers, dates and times -/

/-- The digits at the beginning of a text, where one underscore may stand between two digits; the
digits so far are reversed. -/
def digitsFrom (isDigit : Char → Bool) (done : List Char) : List Char → List Char × List Char
  | '_' :: c :: rest =>
    if isDigit c && !done.isEmpty then digitsFrom isDigit (c :: done) rest
    else (done.reverse, '_' :: c :: rest)
  | c :: rest =>
    if isDigit c then digitsFrom isDigit (c :: done) rest else (done.reverse, c :: rest)
  | [] => (done.reverse, [])

/-- Reads a number in one of the three bases that are marked by a letter. -/
def readMarked? (cs : List Char) : Option (Int × List Char) :=
  match cs with
  | '0' :: mark :: rest =>
    let base :=
      if mark = 'x' then 16 else if mark = 'b' then 2 else if mark = 'o' then 8 else 0
    let isDigit := fun c => ((Text.hexValue? c).getD 16) < base
    let (digits, after) := digitsFrom isDigit [] rest
    if digits = [] then none
    else some (digits.foldl (fun n d => n * base + (Text.hexValue? d).getD 0) 0, after)
  | _ => none

/-- Reads the digits behind a mark such as the point, if at least one follows. -/
def digitsBehind (cs : List Char) : Option (List Char × List Char) :=
  let (digits, after) := digitsFrom Text.isAsciiDigit [] cs
  if digits = [] then none else some (digits, after)

/-- Reads a decimal number, with a fraction and an exponent if they are there. -/
def readDecimal? (cs : List Char) : Option (Except Fault Value × List Char) :=
  let (negative, body) :=
    match cs with
    | '+' :: rest => (false, rest)
    | '-' :: rest => (true, rest)
    | _ => (false, cs)
  let (whole, rest) :=
    match body with
    | '0' :: rest => (['0'], rest)
    | _ => digitsFrom Text.isAsciiDigit [] body
  if whole = [] then none
  else
    let fraction? :=
      match rest with
      | '.' :: more => digitsBehind more
      | _ => none
    let (fraction, rest) := fraction?.getD ([], rest)
    let exponent? :=
      match rest with
      | e :: more =>
        if e = 'e' || e = 'E' then
          match more with
          | '+' :: digits => (digitsBehind digits).map fun r => (Json.exponentValue false r.1, r.2)
          | '-' :: digits => (digitsBehind digits).map fun r => (Json.exponentValue true r.1, r.2)
          | digits => (digitsBehind digits).map fun r => (Json.exponentValue false r.1, r.2)
        else none
      | [] => none
    match exponent?, fraction with
    | none, [] =>
      if Json.maxDigits < whole.length then some (.error (.hugeInteger whole.length), rest)
      else
        let n : Int := Json.natOfDigits whole
        some (.ok (.int (if negative then -n else n)), rest)
    | exponent?, _ =>
      let (shift, rest) := exponent?.getD (0, rest)
      let digits := Json.natOfDigits (whole ++ fraction)
      some (.ok (.float (Binary64.ofDecimal negative digits (shift - fraction.length))), rest)

/-- The value of two digits at the beginning of a text. -/
def twoDigits? : List Char → Option (Nat × List Char)
  | a :: b :: rest =>
    if Text.isAsciiDigit a && Text.isAsciiDigit b then some (Json.natOfDigits [a, b], rest)
    else none
  | _ => none

/-- Reads two digits of a limited value. -/
def twoDigitsIn? (low high : Nat) (cs : List Char) : Option (Nat × List Char) :=
  (twoDigits? cs).filter fun r => low ≤ r.1 && r.1 ≤ high

/-- The text behind a given character. -/
def behind? (c : Char) : List Char → Option (List Char)
  | d :: rest => if d = c then some rest else none
  | [] => none

/-- The text behind a time of day. -/
def behindTime? (cs : List Char) : Option (List Char) := do
  let (_, cs) ← twoDigitsIn? 0 23 cs
  let (_, cs) ← twoDigitsIn? 0 59 (← behind? ':' cs)
  let (_, cs) ← twoDigitsIn? 0 59 (← behind? ':' cs)
  match cs with
  | '.' :: d :: more =>
    return if Text.isAsciiDigit d then more.dropWhile Text.isAsciiDigit else cs
  | _ => return cs

/-- The text behind the distance of a time from the universal one, if one is there. -/
def behindOffset (cs : List Char) : List Char :=
  match cs with
  | c :: rest =>
    if c = 'Z' || c = 'z' then rest
    else if c = '+' || c = '-' then
      ((do
        let (_, more) ← twoDigitsIn? 0 23 rest
        let (_, more) ← twoDigitsIn? 0 59 (← behind? ':' more)
        return more) : Option (List Char)).getD cs
    else cs
  | [] => cs

/-- The number of days of a month. -/
def daysOfMonth (year month : Nat) : Nat :=
  if month = 2 then
    if year % 4 = 0 && (year % 100 ≠ 0 || year % 400 = 0) then 29 else 28
  else if month = 4 || month = 6 || month = 9 || month = 11 then 30
  else 31

/-- The text behind a date, with a time of day if one follows, and whether there is such a day. -/
def behindDate? (cs : List Char) : Option (Bool × List Char) := do
  let (century, cs) ← twoDigits? cs
  let (ofCentury, cs) ← twoDigits? cs
  let (month, cs) ← twoDigitsIn? 1 12 (← behind? '-' cs)
  let (day, cs) ← twoDigitsIn? 1 31 (← behind? '-' cs)
  let year := century * 100 + ofCentury
  let exists? := 1 ≤ year && day ≤ daysOfMonth year month
  match cs with
  | c :: rest =>
    if c = 'T' || c = 't' || c = ' ' then
      match behindTime? rest with
      | some after => return (exists?, behindOffset after)
      | none => return (exists?, cs)
    else return (exists?, cs)
  | [] => return (exists?, cs)

/-- The words that are values, each with its value. -/
def wordValues : List (String × Value) :=
  [("inf", .float (.infinite false)), ("nan", .float .nan), ("-inf", .float (.infinite true)),
    ("+inf", .float (.infinite false)), ("-nan", .float .nan), ("+nan", .float .nan)]

/-- Reads a value that begins with none of the signs of a string, a list or a table. -/
def readScalar (cs : List Char) : Reading Value :=
  if "true".toList.isPrefixOf cs then .ok (.bool true, cs.drop 4)
  else if "false".toList.isPrefixOf cs then .ok (.bool false, cs.drop 5)
  else
    match behindDate? cs with
    | some (exists?, after) => if exists? then .ok (.moment, after) else refuse
    | none =>
      match behindTime? cs with
      | some after => .ok (.moment, after)
      | none =>
        match readMarked? cs with
        | some (n, after) => .ok (.int n, after)
        | none =>
          match readDecimal? cs with
          | some (.ok v, after) => .ok (v, after)
          | some (.error e, _) => .error e
          | none =>
            match wordValues.find? fun word => word.1.toList.isPrefixOf cs with
            | some (word, v) => .ok (v, cs.drop word.length)
            | none => refuse

end Shipyard.Toml
