/-!
# Binary numbers of 64 bits

A number of the IEEE format binary64, in exact arithmetic: a sign, a mantissa below `2 ^ 53` and an
exponent of two, or an infinity, or no number. `Binary64.ofDecimal` reads a decimal: it rounds to
the nearest number of the format, and a tie goes to the even mantissa.
-/

namespace Shipyard

/-- A binary64 number. -/
inductive Binary64 where
  /-- `mantissa * 2 ^ exponent`, negated if `negative` -/
  | finite (negative : Bool) (mantissa : Nat) (exponent : Int)
  /-- beyond the greatest finite number -/
  | infinite (negative : Bool)
  /-- no number -/
  | nan
  deriving DecidableEq, Repr

namespace Binary64

/-- The exponent of the smallest numbers. -/
def leastExponent : Int := -1074

/-- The greatest exponent of a finite number. -/
def greatestExponent : Int := 971

/-- A quotient rounded to the nearest integer; a tie goes to the even one. -/
def roundQuotient (num den : Nat) : Nat :=
  let whole := num / den
  let twice := 2 * (num % den)
  if twice < den then whole
  else if den < twice then whole + 1
  else whole + whole % 2

/-- The quotient `num / (den * 2 ^ exponent)` as a pair of naturals. -/
def scaled (num den : Nat) (exponent : Int) : Nat × Nat :=
  if 0 ≤ exponent then (num, den * Nat.pow 2 exponent.toNat)
  else (num * Nat.pow 2 (-exponent).toNat, den)

/-- The binary64 number nearest to the positive quotient `num / den`. -/
def ofQuotient (negative : Bool) (num den : Nat) : Binary64 :=
  let guess : Int := (Nat.log2 num : Int) - (Nat.log2 den : Int) - 52
  let low := scaled num den guess
  let exponent := if low.1 < low.2 * Nat.pow 2 52 then guess - 1 else guess
  let exponent := max exponent leastExponent
  let quotient := scaled num den exponent
  let mantissa := roundQuotient quotient.1 quotient.2
  let (mantissa, exponent) :=
    if mantissa = Nat.pow 2 53 then (Nat.pow 2 52, exponent + 1) else (mantissa, exponent)
  if greatestExponent < exponent then .infinite negative
  else if mantissa = 0 then .finite negative 0 leastExponent
  else .finite negative mantissa exponent

/-- The number nearest to `digits * 10 ^ exponent`, negated if asked for. -/
def ofDecimal (negative : Bool) (digits : Nat) (exponent : Int) : Binary64 :=
  let places : Int := (toString digits).length
  if digits = 0 then .finite negative 0 leastExponent
  else if 310 < places + exponent then .infinite negative
  else if places + exponent < -330 then .finite negative 0 leastExponent
  else if 0 ≤ exponent then ofQuotient negative (digits * Nat.pow 10 exponent.toNat) 1
  else ofQuotient negative digits (Nat.pow 10 (-exponent).toNat)

end Binary64

end Shipyard
