import SeriesRender.Decimal.Numeral

/-!
# Dates and times of day

The Gregorian calendar, continued in both directions, and the written form of an instant,
`2021-03-04 05:06:07`. Years have four digits, and a sign when they have more or are negative.
-/

namespace SeriesRender.Calendar

/-- A day of the calendar. -/
structure Date where
  year : Int
  month : Nat
  day : Nat
  deriving DecidableEq, Repr

/-- The date `days` days after 1 January 1970. A cycle of 400 years, beginning on 1 March, has
146097 days; counted from March, a leap day is the last of its year. -/
def Date.ofDays (days : Int) : Date :=
  let shifted := days + 719468
  let cycle := shifted / 146097
  let dayOfCycle := (shifted % 146097).toNat
  let yearOfCycle :=
    (dayOfCycle - dayOfCycle / 1460 + dayOfCycle / 36524 - dayOfCycle / 146096) / 365
  let dayOfYear := dayOfCycle - (365 * yearOfCycle + yearOfCycle / 4 - yearOfCycle / 100)
  let march := (5 * dayOfYear + 2) / 153
  let month := if march < 10 then march + 3 else march - 9
  ⟨yearOfCycle + cycle * 400 + (if month ≤ 2 then 1 else 0), month,
    dayOfYear - (153 * march + 2) / 5 + 1⟩

/-- Digits padded with zeros to a width. -/
def padded (width n : Nat) : List Char :=
  let digits := Decimal.digitChars n
  List.replicate (width - digits.length) '0' ++ digits

/-- A year in four digits, with a sign if that is not enough or it is before the first one. -/
def yearChars (year : Int) : List Char :=
  if 0 ≤ year ∧ year ≤ 9999 then padded 4 year.natAbs
  else (if year < 0 then '-' else '+') :: padded 4 year.natAbs

/-- The first year that has a written form. -/
def leastYear : Int := -262143

/-- The last year that has a written form. -/
def greatestYear : Int := 262142

/-- Seconds of a day. -/
def daySeconds : Int := 86400

/-- The written form of an instant, if its year has one. -/
def chars? (timestamp : Int) : Option (List Char) :=
  let date := Date.ofDays (timestamp / daySeconds)
  let second := (timestamp % daySeconds).toNat
  if date.year < leastYear ∨ greatestYear < date.year then none
  else
    some (yearChars date.year ++ '-' :: (padded 2 date.month ++ '-' :: (padded 2 date.day ++
      ' ' :: (padded 2 (second / 3600) ++ ':' :: (padded 2 (second / 60 % 60) ++
        ':' :: padded 2 (second % 60))))))

end SeriesRender.Calendar
