/-!
# Calendar

The date and the time of day of a number of seconds since the beginning of 1970, without leap
seconds. Days are counted in eras of 400 years that begin in March.
-/

namespace Shipyard

/-- A date with a time of day. -/
structure Moment where
  year : Int
  month : Nat
  day : Nat
  hour : Nat
  minute : Nat
  second : Nat
  deriving DecidableEq, Repr

namespace Moment

/-- The days from the beginning of March of the year 0 to the beginning of 1970. -/
def epochDay : Int := 719468

/-- The days of an era. -/
def daysOfEra : Int := 146097

/-- The moment of a number of seconds since the beginning of 1970. -/
def ofSeconds (seconds : Int) : Moment :=
  let days := seconds.fdiv 86400 + epochDay
  let second := (seconds.fmod 86400).toNat
  let era := days.fdiv daysOfEra
  let dayOfEra := (days.fmod daysOfEra).toNat
  let yearOfEra := (dayOfEra - dayOfEra / 1460 + dayOfEra / 36524 - dayOfEra / 146096) / 365
  let dayOfYear := dayOfEra - (365 * yearOfEra + yearOfEra / 4 - yearOfEra / 100)
  let monthFromMarch := (5 * dayOfYear + 2) / 153
  let day := dayOfYear - (153 * monthFromMarch + 2) / 5 + 1
  let month := if monthFromMarch < 10 then monthFromMarch + 3 else monthFromMarch - 9
  let year := era * 400 + yearOfEra + (if month ≤ 2 then 1 else 0)
  ⟨year, month, day, second / 3600, second / 60 % 60, second % 60⟩

end Moment

end Shipyard
