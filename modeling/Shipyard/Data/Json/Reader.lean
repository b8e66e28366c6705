import Shipyard.Data.Value
import Shipyard.Text.CharClass

/-!
# Reading JSON

`Json.read` turns a text into a `Value`. It accepts `NaN`, `Infinity` and `-Infinity`; of equal keys
the last one counts; a number without a point and without an exponent is an integer. A text that is
no JSON is refused with a reason and a place, counted in characters. Two things are refused that are
JSON: an integer of more than 4300 digits, and nesting deeper than `maxDepth`.
-/

namespace Shipyard.Json

/-- Why a text is no JSON. -/
inductive Reason where
  | expectingValue
  | extraData
  | expectingComma
  | expectingColon
  | expectingName
  | unterminatedString
  | controlCharacter
  | badEscape
  | badUnicodeEscape
  | byteOrderMark
  deriving DecidableEq, Repr

/-- The words for a reason. -/
def Reason.message : Reason → String
  | expectingValue => "Expecting value"
  | extraData => "Extra data"
  | expectingComma => "Expecting ',' delimiter"
  | expectingColon => "Expecting ':' delimiter"
  | expectingName => "Expecting property name enclosed in double quotes"
  | unterminatedString => "Unterminated string starting at"
  | controlCharacter => "Invalid control character at"
  | badEscape => "Invalid \\escape"
  | badUnicodeEscape => "Invalid \\uXXXX escape"
  | byteOrderMark => "Unexpected UTF-8 BOM (decode using utf-8-sig)"

/-- What holds other values. -/
inductive Container where
  | list
  | table
  deriving DecidableEq, Repr

/-- Why a text is refused. -/
inductive Fault where
  /-- the text is no JSON: the reason and the place -/
  | malformed (reason : Reason) (position : Nat)
  /-- an integer has more digits than are converted -/
  | hugeInteger (digits : Nat)
  /-- lists and tables are nested too deep, the innermost being such a one -/
  | tooDeep (innermost : Container)
  deriving DecidableEq, Repr

/-- The most digits of an integer. -/
def maxDigits : Nat := 4300

/-- The deepest nesting of lists and tables. -/
def maxDepth : Nat := 980

/-- The rest of a text and the number of characters before it. -/
structure Cursor where
  /-- how many characters were read -/
  position : Nat
  /-- the characters that are left -/
  rest : List Char

namespace Cursor

/-- The cursor behind the next character, which is the first of `rest`. -/
def next (c : Cursor) : Cursor := ⟨c.position + 1, c.rest.drop 1⟩

/-- The cursor behind a number of characters. -/
def skip (c : Cursor) (n : Nat) : Cursor := ⟨c.position + n, c.rest.drop n⟩

/-- White space of JSON. -/
def isSpace (c : Char) : Bool := c = ' ' || c = '\t' || c = '\n' || c = '\r'

/-- The cursor behind the white space. -/
def skipSpace (c : Cursor) : Cursor :=
  let after := c.rest.dropWhile isSpace
  ⟨c.position + (c.rest.takeWhile isSpace).length, after⟩

/-- A refusal at the place of a cursor. -/
def refuse {α : Type} (c : Cursor) (reason : Reason) : Except Fault α :=
  .error (.malformed reason c.position)

end Cursor

/-! ## Strings -/

/-- The value of four hexadecimal digits at the beginning of a text. -/
def fourHex? (cs : List Char) : Option Nat :=
  match cs with
  | a :: b :: c :: d :: _ => do
    let a ← Text.hexValue? a
    let b ← Text.hexValue? b
    let c ← Text.hexValue? c
    let d ← Text.hexValue? d
    return ((a * 16 + b) * 16 + c) * 16 + d
  | _ => none

/-- The character of a one-letter escape. -/
def simpleEscape? (c : Char) : Option Char :=
  if c = '"' then some '"'
  else if c = '\\' then some '\\'
  else if c = '/' then some '/'
  else if c = 'b' then some '\x08'
  else if c = 'f' then some '\x0c'
  else if c = 'n' then some '\n'
  else if c = 'r' then some '\r'
  else if c = 't' then some '\t'
  else none

/-- The character for the number of a Unicode escape; half a surrogate pair is shown as the
replacement character. -/
def charOfCode (code : Nat) : Char :=
  if 0xD800 ≤ code && code ≤ 0xDFFF then '\uFFFD' else Char.ofNat code

/-- Reads the four digits of a Unicode escape, whose `u` is at the cursor, and a second escape
behind it if the two are a surrogate pair. At least one character has to follow the digits. -/
def readUnicodeEscape (c : Cursor) : Except Fault (Char × Cursor) :=
  let digits := c.rest.drop 1
  if (digits.drop 4).isEmpty then c.refuse .badUnicodeEscape
  else
    match fourHex? digits with
    | none => c.refuse .badUnicodeEscape
    | some high =>
      let after := c.skip 5
      match after.rest with
      | '\\' :: 'u' :: more =>
        if 0xD800 ≤ high && high ≤ 0xDBFF && !(more.drop 4).isEmpty then
          match fourHex? more with
          | none => (after.skip 1).refuse .badUnicodeEscape
          | some low =>
            if 0xDC00 ≤ low && low ≤ 0xDFFF then
              .ok (Char.ofNat (0x10000 + (high - 0xD800) * 0x400 + (low - 0xDC00)), after.skip 6)
            else .ok (charOfCode high, after)
        else .ok (charOfCode high, after)
      | _ => .ok (charOfCode high, after)

/-- Reads the body of a string behind its opening quote, which is at position `opening`; the
characters read so far are reversed. -/
def readString (opening : Nat) : Nat → List Char → Cursor → Except Fault (String × Cursor)
  | 0, _, _ => .error (.malformed .unterminatedString opening)
  | fuel + 1, done, c =>
    match c.rest with
    | [] => .error (.malformed .unterminatedString opening)
    | '"' :: _ => .ok (String.ofList done.reverse, c.next)
    | '\\' :: [] => .error (.malformed .unterminatedString opening)
    | '\\' :: 'u' :: _ => do
      let (ch, after) ← readUnicodeEscape c.next
      readString opening fuel (ch :: done) after
    | '\\' :: letter :: _ =>
      match simpleEscape? letter with
      | some ch => readString opening fuel (ch :: done) (c.skip 2)
      | none => c.refuse .badEscape
    | ch :: _ =>
      if ch.toNat < 0x20 then c.refuse .controlCharacter
      else readString opening fuel (ch :: done) c.next

/-! ## Numbers -/

/-- The number that a list of decimal digits stands for. -/
def natOfDigits (digits : List Char) : Nat :=
  digits.foldl (fun n d => n * 10 + (d.toNat - 48)) 0

/-- The digits of the fraction behind a point, if at least one follows it. -/
def fractionOf (cs : List Char) : List Char :=
  match cs with
  | '.' :: rest => rest.takeWhile Text.isAsciiDigit
  | _ => []

/-- The sign and the digits of an exponent, with the length of the whole, if the text begins with
one. -/
def exponentOf? (cs : List Char) : Option (Bool × List Char × Nat) :=
  match cs with
  | e :: rest =>
    if e = 'e' || e = 'E' then
      let (negative, signLength, rest) :=
        match rest with
        | '+' :: more => (false, 1, more)
        | '-' :: more => (true, 1, more)
        | _ => (false, 0, rest)
      let digits := rest.takeWhile Text.isAsciiDigit
      if digits = [] then none else some (negative, digits, 1 + signLength + digits.length)
    else none
  | [] => none

/-- An exponent of ten, cut off far outside the range of the binary numbers. -/
def exponentValue (negative : Bool) (digits : List Char) : Int :=
  let digits := digits.dropWhile (· = '0')
  let size : Int := if 12 < digits.length then 1000000000000 else natOfDigits digits
  if negative then -size else size

/-- Reads a number whose sign, if any, was read; `start` is where the number begins. -/
def readDigits (start : Cursor) (negative : Bool) (c : Cursor) : Except Fault (Value × Cursor) :=
  let whole :=
    match c.rest with
    | '0' :: _ => ['0']
    | cs => cs.takeWhile Text.isAsciiDigit
  if whole = [] then start.refuse .expectingValue
  else
    let c := c.skip whole.length
    let fraction := fractionOf c.rest
    let c := if fraction = [] then c else c.skip (1 + fraction.length)
    match exponentOf? c.rest, fraction with
    | none, [] =>
      if maxDigits < whole.length then .error (.hugeInteger whole.length)
      else
        let n : Int := natOfDigits whole
        .ok (.int (if negative then -n else n), c)
    | exponent?, _ =>
      let (shift, c) :=
        match exponent? with
        | some (down, digits, length) => (exponentValue down digits, c.skip length)
        | none => (0, c)
      let digits := natOfDigits (whole ++ fraction)
      let x := Binary64.ofDecimal negative digits (shift - fraction.length)
      .ok (.float x, c)

/-- Reads a number, or the two words that begin with a minus sign. -/
def readNumber (c : Cursor) : Except Fault (Value × Cursor) :=
  match c.rest with
  | '-' :: rest =>
    if "Infinity".toList.isPrefixOf rest then .ok (.float (.infinite true), c.skip 9)
    else readDigits c true c.next
  | _ => readDigits c false c

/-- The words that are values, each with its value. -/
def wordValues : List (String × Value) :=
  [("null", .null), ("true", .bool true), ("false", .bool false), ("NaN", .float .nan),
    ("Infinity", .float (.infinite false))]

/-- Reads a value that is neither a string nor a list nor a table. -/
def readScalar (c : Cursor) : Except Fault (Value × Cursor) :=
  match wordValues.find? fun word => word.1.toList.isPrefixOf c.rest with
  | some (word, value) => .ok (value, c.skip word.length)
  | none => readNumber c

/-! ## Values -/

mutual

/-- Reads a value inside `depth` lists and tables. The fuel bounds the number of steps. -/
def readValue : Nat → Nat → Cursor → Except Fault (Value × Cursor)
  | 0, _, c => c.refuse .expectingValue
  | fuel + 1, depth, c =>
    match c.rest with
    | '"' :: _ => do
      let (s, after) ← readString c.position c.rest.length [] c.next
      return (.text s, after)
    | '[' :: _ =>
      if maxDepth ≤ depth then .error (.tooDeep .list)
      else
        let inner := c.next.skipSpace
        match inner.rest with
        | ']' :: _ => .ok (.list [], inner.next)
        | _ => readItems fuel (depth + 1) [] inner
    | '\x7b' :: _ =>
      if maxDepth ≤ depth then .error (.tooDeep .table)
      else
        let inner := c.next.skipSpace
        match inner.rest with
        | '\x7d' :: _ => .ok (.table [], inner.next)
        | _ => readFields fuel (depth + 1) [] inner
    | _ => readScalar c

/-- Reads the items of a list, the ones read so far reversed. -/
def readItems : Nat → Nat → List Value → Cursor → Except Fault (Value × Cursor)
  | 0, _, _, c => c.refuse .expectingValue
  | fuel + 1, depth, done, c =>
    match readValue fuel depth c with
    | .error e => .error e
    | .ok (v, after) =>
      let after := after.skipSpace
      match after.rest with
      | ']' :: _ => .ok (.list (v :: done).reverse, after.next)
      | ',' :: _ => readItems fuel depth (v :: done) after.next.skipSpace
      | _ => after.refuse .expectingComma

/-- Reads the fields of a table into the ones read so far. -/
def readFields : Nat → Nat → Table → Cursor → Except Fault (Value × Cursor)
  | 0, _, _, c => c.refuse .expectingName
  | fuel + 1, depth, done, c =>
    match c.rest with
    | '"' :: _ =>
      match readString c.position c.rest.length [] c.next with
      | .error e => .error e
      | .ok (key, afterKey) =>
        let afterKey := afterKey.skipSpace
        match afterKey.rest with
        | ':' :: _ =>
          match readValue fuel depth afterKey.next.skipSpace with
          | .error e => .error e
          | .ok (v, after) =>
            let after := after.skipSpace
            let done := Table.insert done key v
            match after.rest with
            | '\x7d' :: _ => .ok (.table done, after.next)
            | ',' :: _ => readFields fuel depth done after.next.skipSpace
            | _ => after.refuse .expectingComma
        | _ => afterKey.refuse .expectingColon
    | _ => c.refuse .expectingName

end

/-- The value that a text stands for. -/
def read (s : String) : Except Fault Value :=
  let cs := s.toList
  match cs with
  | '\uFEFF' :: _ => .error (.malformed .byteOrderMark 0)
  | _ => do
    let (v, c) ← readValue (2 * cs.length + 2) 0 (Cursor.skipSpace ⟨0, cs⟩)
    let c := c.skipSpace
    if c.rest = [] then return v else c.refuse .extraData

/-! ## Messages -/

/-- The line and the column of a position, both counted from one. -/
def lineAndColumn (s : String) (position : Nat) : Nat × Nat :=
  let before := s.toList.take position
  (before.count '\n' + 1, (before.reverse.takeWhile (· ≠ '\n')).length + 1)

/-- What is wrong with a text that is no JSON, and where. -/
def describe (s : String) (reason : Reason) (position : Nat) : String :=
  let (line, column) := lineAndColumn s position
  s!"{reason.message}: line {line} column {column} (char {position})"

/-- The words for an integer with too many digits. -/
def hugeIntegerMessage (digits : Nat) : String :=
  s!"Exceeds the limit ({maxDigits} digits) for integer string conversion: value has {digits} " ++
    "digits; use sys.set_int_max_str_digits() to increase the limit"

/-- The words for a document that is nested too deep. -/
def tooDeepMessage : Container → String
  | .list => "maximum recursion depth exceeded while decoding a JSON array from a unicode string"
  | .table => "maximum recursion depth exceeded while decoding a JSON object from a unicode string"

end Shipyard.Json
