import Shipyard.Decimal.Binary64
import Shipyard.Text.CharClass

/-!
# Decimals with a number of places

A binary64 number rounded to a number of decimal places, with or without an exponent. The rounding
is exact: to the nearest decimal, and a tie goes to the even digit. `Binary64.ofText?` reads a
number at the beginning of a text.
-/

namespace Shipyard.Binary64

/-- A positive number as a quotient. -/
def quotientOf (mantissa : Nat) (exponent : Int) : Nat × Nat :=
  if 0 ≤ exponent then (mantissa * Nat.pow 2 exponent.toNat, 1)
  else (mantissa, Nat.pow 2 (-exponent).toNat)

/-- A quotient times a power of ten, rounded. -/
def roundedAt (num den : Nat) (power : Int) : Nat :=
  if 0 ≤ power then roundQuotient (num * Nat.pow 10 power.toNat) den
  else roundQuotient num (den * Nat.pow 10 (-power).toNat)

/-- Digits with zeros in front of them up to a length. -/
def zeroFilled (length : Nat) (digits : List Char) : List Char :=
  List.replicate (length - digits.length) '0' ++ digits

/-- A quotient with so many places behind the point. The point stands there in any case if `pointed`
says so. -/
def fixedText (num den places : Nat) (pointed : Bool) : List Char :=
  let digits := zeroFilled (places + 1) (Nat.toDigits 10 (roundedAt num den places))
  let whole := digits.take (digits.length - places)
  if places = 0 && !pointed then whole else whole ++ '.' :: digits.drop (digits.length - places)

/-- The power of ten of the first digit of a positive quotient. -/
def leadingPower (num den : Nat) : Int :=
  let guess := ((Nat.log2 num : Int) - (Nat.log2 den : Int)) * 30103 / 100000
  let isAbove := fun (power : Int) =>
    if 0 ≤ power then num < den * Nat.pow 10 power.toNat
    else num * Nat.pow 10 (-power).toNat < den
  (([guess - 1, guess, guess + 1, guess + 2].find? isAbove).getD (guess + 3)) - 1

/-- The digits of a quotient, one more than `places`, and the power of ten of the first one. -/
def leadingDigits (num den places : Nat) : List Char × Int :=
  if num = 0 then (List.replicate (places + 1) '0', 0)
  else
    let power := leadingPower num den
    let digits := Nat.toDigits 10 (roundedAt num den (places - power))
    if digits.length ≤ places + 1 then (digits, power)
    else (digits.take (places + 1), power + 1)

/-- An exponent of at least two digits. -/
def exponentText (power : Int) : List Char :=
  'e' :: (if power < 0 then '-' else '+') :: zeroFilled 2 (Nat.toDigits 10 power.natAbs)

/-- A quotient with one digit before the point and so many behind it, and an exponent. -/
def exponentialText (num den places : Nat) (pointed : Bool) : List Char :=
  let (digits, power) := leadingDigits num den places
  let point := if places = 0 && !pointed then [] else ['.']
  digits.take 1 ++ point ++ digits.drop 1 ++ exponentText power

/-- A text without zeros at its end behind a point, and without the point if nothing follows it. -/
def withoutZeros (cs : List Char) : List Char :=
  if cs.contains '.' then
    match cs.reverse.dropWhile (· = '0') with
    | '.' :: rest => rest.reverse
    | rest => rest.reverse
  else cs

/-- A quotient with so many digits, in the shorter of the two ways. Zeros at the end are kept if
`pointed` says so. -/
def generalText (num den digits : Nat) (pointed : Bool) : List Char :=
  let digits := max digits 1
  let (own, power) := leadingDigits num den (digits - 1)
  if -4 ≤ power && power < digits then
    let text := fixedText num den (digits - 1 - power).toNat pointed
    if pointed then text else withoutZeros text
  else
    let fraction := own.drop 1
    let mantissa := own.take 1 ++ (if fraction = [] && !pointed then [] else '.' :: fraction)
    (if pointed then mantissa else withoutZeros mantissa) ++ exponentText power

/-- A number in hexadecimal with a binary exponent: one digit in front of the point, and as many
behind it as asked for, or else as many as there are. -/
def hexText (mantissa : Nat) (exponent : Int) (places? : Option Nat) (pointed : Bool) :
    List Char :=
  -- the number is `units` times two to the power of `power - 52`
  let height : Int := (mantissa.log2 : Nat)
  let power := if mantissa = 0 then 0 else max (exponent + height) (-1022)
  let units := mantissa * Nat.pow 2 (exponent - power + 52).toNat
  let places := places?.getD 13
  let digits := if 13 ≤ places then units * Nat.pow 16 (places - 13)
    else roundQuotient units (Nat.pow 16 (13 - places))
  let whole := digits / Nat.pow 16 places
  let fraction := zeroFilled places (Nat.toDigits 16 (digits % Nat.pow 16 places))
  let fraction := if places = 0 then []
    else if places?.isSome then fraction
    else (fraction.reverse.dropWhile (· = '0')).reverse
  let point := if fraction ≠ [] || pointed then ['.'] else []
  let sign := if power < 0 then ['p', '-'] else ['p', '+']
  Nat.toDigits 16 whole ++ point ++ fraction ++ sign ++ Nat.toDigits 10 power.natAbs

/-! ## Reading -/

/-- The digits of an exponent at the beginning of a text, with its sign, and the text behind it. -/
def exponentAt? (cs : List Char) : Option (Int × List Char) :=
  let (negative, cs) := match cs with
    | '-' :: rest => (true, rest)
    | '+' :: rest => (false, rest)
    | _ => (false, cs)
  let digits := cs.takeWhile Char.isDigit
  if digits = [] then none
  else
    let size : Nat := digits.foldl (fun n c => min 100000 (10 * n + (c.toNat - 48))) 0
    some (if negative then -(size : Int) else size, cs.drop digits.length)

/-- What is read at the beginning of a text. -/
structure Reading where
  /-- the number -/
  value : Binary64
  /-- the number that is written is too great for the format, or so small that digits of it are
  lost -/
  isOutside : Bool
  /-- the text behind it -/
  rest : List Char

/-- Whether the nearest number of the format is no picture of the quotient `num / den`: it is
infinite, or smaller than the numbers with all digits and not the quotient itself. -/
def isLost (num den : Nat) : Binary64 → Bool
  | .infinite _ => true
  | .nan => false
  | .finite _ mantissa exponent =>
    let (top, bottom) := quotientOf mantissa exponent
    mantissa < Nat.pow 2 52 && top * den != num * bottom

/-- Reads digits of a base, with or without a point among them, and an exponent behind one of the
letters: a power of `root`, of which one digit takes `weight`. -/
def numberAt? (isDigit : Char → Bool) (base root weight : Nat) (letters : List Char)
    (negative : Bool) (cs : List Char) : Option Reading :=
  let whole := cs.takeWhile isDigit
  let (fraction, rest) := match cs.drop whole.length with
    | '.' :: rest => (rest.takeWhile isDigit, rest.dropWhile isDigit)
    | rest => ([], rest)
  if whole = [] && fraction = [] then none
  else
    let exponent := match rest with
      | c :: behind => if letters.contains c then exponentAt? behind else none
      | [] => none
    let (power, rest) := exponent.getD (0, rest)
    let values := (whole ++ fraction).filterMap Text.hexValue?
    let digits : Nat := values.foldl (fun n value => base * n + value) 0
    let power : Int := power - weight * fraction.length
    let num := digits * Nat.pow root power.toNat
    let den := Nat.pow root (-power).toNat
    if digits = 0 then some ⟨.finite negative 0 leastExponent, false, rest⟩
    else
      let x := if root = 10 then ofDecimal negative digits power else ofQuotient negative num den
      some ⟨x, isLost num den x, rest⟩

/-- The text behind `nan`, and behind the word in parentheses that may follow it. -/
def behindNan (cs : List Char) : List Char :=
  match cs with
  | '(' :: inner =>
    match inner.dropWhile fun c => c.isAlphanum || c = '_' with
    | ')' :: rest => rest
    | _ => cs
  | _ => cs

/-- The number at the beginning of a text: decimal, or hexadecimal behind `0x`, or a word for what
is no finite number. -/
def ofText? (cs : List Char) : Option Reading :=
  let (negative, cs) := match cs with
    | '-' :: rest => (true, rest)
    | '+' :: rest => (false, rest)
    | _ => (false, cs)
  let lower := (cs.take 8).map Char.toLower
  if "infinity".toList.isPrefixOf lower then some ⟨.infinite negative, false, cs.drop 8⟩
  else if "inf".toList.isPrefixOf lower then some ⟨.infinite negative, false, cs.drop 3⟩
  else if "nan".toList.isPrefixOf lower then some ⟨.nan, false, behindNan (cs.drop 3)⟩
  else
    let isHexDigit := fun c => (Text.hexValue? c).isSome
    let hexadecimal :=
      if "0x".toList.isPrefixOf lower then
        numberAt? isHexDigit 16 2 4 ['p', 'P'] negative (cs.drop 2)
      else none
    hexadecimal <|> numberAt? Char.isDigit 10 10 1 ['e', 'E'] negative cs

end Shipyard.Binary64
