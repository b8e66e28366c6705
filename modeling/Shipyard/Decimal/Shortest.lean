import Shipyard.Decimal.Binary64

/-!
# Shortest decimals

Of all decimals that read back as a given binary64 number, `shortestDigits` takes one with the
fewest digits, and of those the nearest to the number. The numbers that read back form an interval
around the number; its ends belong to it if the mantissa is even. On the decimals with a given
number of digits it is enough to look at the two neighbours of the number.

`Binary64.text` writes the digits: without an exponent from `0.0001` up to `10 ^ 16`, and always
with a point or an exponent.
-/

namespace Shipyard.Binary64

/-- A positive number, and the ends of the interval of the decimals that read back as it, over one
denominator. -/
structure Interval where
  /-- the number -/
  value : Nat
  /-- the lower end -/
  low : Nat
  /-- the upper end -/
  high : Nat
  /-- the denominator of the three -/
  den : Nat
  /-- whether the ends belong to the interval -/
  closed : Bool

/-- The interval of `mantissa * 2 ^ exponent`. Below a power of two the gap is half as wide. -/
def intervalOf (mantissa : Nat) (exponent : Int) : Interval :=
  let narrow := mantissa == Nat.pow 2 52 && decide (leastExponent < exponent)
  let lowStep := if narrow then 1 else 2
  let up := if 0 ≤ exponent then Nat.pow 2 exponent.toNat else 1
  let down := if 0 ≤ exponent then 1 else Nat.pow 2 (-exponent).toNat
  ⟨4 * mantissa * up, (4 * mantissa - lowStep) * up, (4 * mantissa + 2) * up, 4 * down,
    mantissa % 2 == 0⟩

/-- Whether `num / den` lies in an interval. -/
def Interval.holds (interval : Interval) (num den : Nat) : Bool :=
  let point := num * interval.den
  let low := interval.low * den
  let high := interval.high * den
  if interval.closed then low ≤ point && point ≤ high else low < point && point < high

/-- A natural number times a power of ten, as a quotient. -/
def timesTen (n : Nat) (power : Int) : Nat × Nat :=
  if 0 ≤ power then (n * Nat.pow 10 power.toNat, 1) else (n, Nat.pow 10 (-power).toNat)

/-- How far a quotient lies from the number of an interval, over the common denominator
`den * interval.den`. -/
def Interval.distance (interval : Interval) (num den : Nat) : Nat :=
  let a := num * interval.den
  let b := interval.value * den
  (a - b) + (b - a)

/-- The decimal `n * 10 ^ power` nearest to the number of the interval that lies in it, if one of
the two neighbours of the number does. -/
def Interval.neighbour? (interval : Interval) (power : Int) : Option Nat :=
  let below :=
    if 0 ≤ power then interval.value / (interval.den * Nat.pow 10 power.toNat)
    else interval.value * Nat.pow 10 (-power).toNat / interval.den
  let lowQ := timesTen below power
  let highQ := timesTen (below + 1) power
  let lowIn := interval.holds lowQ.1 lowQ.2
  let highIn := interval.holds highQ.1 highQ.2
  let lowDistance := interval.distance lowQ.1 lowQ.2
  let highDistance := interval.distance highQ.1 highQ.2
  if lowIn && highIn then
    if lowDistance < highDistance then some below
    else if highDistance < lowDistance then some (below + 1)
    else some (below + below % 2)
  else if lowIn then some below
  else if highIn then some (below + 1)
  else none

/-- Whether `10 ^ power` is greater than the number of the interval. -/
def Interval.below (interval : Interval) (power : Int) : Bool :=
  let bound := timesTen 1 power
  interval.value * bound.2 < bound.1 * interval.den

/-- The number of places before the decimal point: the least power of ten above the number. -/
def Interval.magnitude (interval : Interval) : Int :=
  let guess := ((Nat.log2 interval.value : Int) - (Nat.log2 interval.den : Int)) * 30103 / 100000
  (([guess - 1, guess, guess + 1, guess + 2].find? interval.below).getD (guess + 2))

/-- The first count of digits, from the given one on, for which a neighbour reads back. -/
def Interval.search (interval : Interval) (magnitude : Int) : Nat → Nat → Nat × Int
  | 0, _ => (0, 0)
  | fuel + 1, count =>
    let power := magnitude - count
    match interval.neighbour? power with
    | some n => (n, power)
    | none => interval.search magnitude fuel (count + 1)

/-- The digits of the shortest decimal that reads back as `mantissa * 2 ^ exponent`, without zeros
at their end, and the place of the point: `0.d₁d₂… * 10 ^ place`. -/
def shortestDigits (mantissa : Nat) (exponent : Int) : List Char × Int :=
  let interval := intervalOf mantissa exponent
  let (n, power) := interval.search interval.magnitude 17 1
  let digits := (toString n).toList
  ((digits.reverse.dropWhile (· = '0')).reverse, power + digits.length)

/-- Digits with a point at the given place and no exponent. -/
def positional (digits : List Char) (place : Int) : List Char :=
  if place ≤ 0 then '0' :: '.' :: List.replicate (-place).toNat '0' ++ digits
  else
    let whole := digits.take place.toNat
    let zeros := List.replicate (place.toNat - digits.length) '0'
    let fraction := digits.drop place.toNat
    whole ++ zeros ++ '.' :: (if fraction = [] then ['0'] else fraction)

/-- Digits with an exponent of at least two digits. -/
def scientific (digits : List Char) (place : Int) : List Char :=
  let exponent := place - 1
  let size := (toString exponent.natAbs).toList
  let size := if size.length < 2 then '0' :: size else size
  let fraction := digits.drop 1
  digits.take 1 ++ (if fraction = [] then [] else '.' :: fraction) ++
    'e' :: (if exponent < 0 then '-' else '+') :: size

/-- A number as text. -/
def text : Binary64 → String
  | nan => "nan"
  | infinite negative => if negative then "-inf" else "inf"
  | finite negative mantissa exponent =>
    let body :=
      if mantissa = 0 then ['0', '.', '0']
      else
        let (digits, place) := shortestDigits mantissa exponent
        if -4 < place && place ≤ 16 then positional digits place else scientific digits place
    String.ofList (if negative then '-' :: body else body)

end Shipyard.Binary64
