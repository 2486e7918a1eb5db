import SeriesRender.Decimal.Numeral
import SeriesRender.Duration
import SeriesRender.Text.Blank

/-!
# Durations as text

A duration is written as a series of numbers with units, `1h 30m`. `Duration.read?` takes any
number of them, in any order and with blanks anywhere but inside a unit; `Duration.chars` writes
each unit once, the greatest first. `Duration.decimalChars` writes one number instead, in the
greatest of the units from seconds to nanoseconds that the duration reaches.
-/

namespace SeriesRender.Duration

/-! ## Reading -/

/-- The nanoseconds of a minute. -/
def minute : Duration := 60 * second

/-- The nanoseconds of an hour. -/
def hour : Duration := 60 * minute

/-- The nanoseconds of a day. -/
def day : Duration := 24 * hour

/-- A twelfth of a year, rounded to hundredths of a day. -/
def month : Duration := 2630016 * second

/-- The year of 365 days and a quarter. -/
def year : Duration := 31557600 * second

/-- The nanoseconds of a microsecond. -/
def microsecond : Duration := 1000

/-- The duration that a unit stands for. -/
def unit? (name : String) : Option Duration :=
  match name with
  | "nanos" | "nsec" | "ns" => some 1
  | "usec" | "us" => some microsecond
  | "millis" | "msec" | "ms" => some millisecond
  | "seconds" | "second" | "secs" | "sec" | "s" => some second
  | "minutes" | "minute" | "mins" | "min" | "m" => some minute
  | "hours" | "hour" | "hrs" | "hr" | "h" => some hour
  | "days" | "day" | "d" => some day
  | "weeks" | "week" | "w" => some (7 * day)
  | "months" | "month" | "M" => some month
  | "years" | "year" | "y" => some year
  | _ => none

/-- Numbers are read into 64 bits. -/
def numberBound : Nat := 0x10000000000000000

/-- Add `n` times a unit to a duration. The parts below a second, and the seconds, must each stay
below the bound of numbers. -/
def add? (total : Duration) (n : Nat) (unit : Duration) : Option Duration :=
  let below := if unit < second then n * unit + total % second else total % second
  let whole := if unit < second then 0 else n * unit / second
  if below < numberBound ∧ whole < numberBound ∧ total + n * unit < numberBound * second then
    some (total + n * unit)
  else none

/-- Where in the text of a duration a reader is. -/
inductive ReadState
  | between
  | number (n : Nat)
  /-- After the number, within a unit whose letters so far are given in reverse. -/
  | unit (n : Nat) (letters : List Char)

/-- The value of a digit. -/
def digitValue (c : Char) : Nat :=
  c.toNat - '0'.toNat

/-- Add what a number and a unit stand for to the total, which is none at the start. -/
def addUnit? (total : Option Duration) (n : Nat) (letters : List Char) : Option Duration :=
  (unit? (String.ofList letters.reverse)).bind fun u => add? (total.getD 0) n u

/-- Read on from a state, with the sum of the parts before, if there are any. -/
def readFrom : ReadState → Option Duration → List Char → Option Duration
  | .between, total, [] => total
  | .number _, _, [] => none
  | .unit n letters, total, [] => addUnit? total n letters
  | .between, total, c :: cs =>
    if c.isDigit then readFrom (.number (digitValue c)) total cs
    else if Text.isBlank c then readFrom .between total cs
    else none
  | .number n, total, c :: cs =>
    if c.isDigit then
      let m := 10 * n + digitValue c
      if m < numberBound then readFrom (.number m) total cs else none
    else if Text.isBlank c then readFrom (.number n) total cs
    else if c.isAlpha then readFrom (.unit n [c]) total cs
    else none
  | .unit n letters, total, c :: cs =>
    if c.isAlpha then readFrom (.unit n (c :: letters)) total cs
    else
      match addUnit? total n letters with
      | none => none
      | some sum =>
        if c.isDigit then readFrom (.number (digitValue c)) (some sum) cs
        else if Text.isBlank c then readFrom .between (some sum) cs
        else none

/-- The duration that a text stands for. -/
def read? (cs : List Char) : Option Duration :=
  readFrom .between none cs

/-! ## Writing -/

/-- The units that are written, the greatest first, and how many of each are over when the greater
ones are taken away; the word of a calendar unit takes an `s` from two on. -/
def parts (d : Duration) : List (Nat × String × Bool) :=
  [(d / year, "year", true), (d % year / month, "month", true),
    (d % year % month / day, "day", true), (d % year % month % day / hour, "h", false),
    (d % year % month % day % hour / minute, "m", false),
    (d % year % month % day % minute / second, "s", false),
    (d % second / millisecond, "ms", false), (d % millisecond / microsecond, "us", false),
    (d % microsecond, "ns", false)]

/-- A number and its unit, which some words have a plural of. -/
def partChars (n : Nat) (word : String) (plural : Bool) : List Char :=
  Decimal.digitChars n ++ word.toList ++ (if plural && 1 < n then ['s'] else [])

/-- A duration in units. -/
def chars (d : Duration) : List Char :=
  if d = 0 then ['0', 's']
  else [' '].intercalate
    ((d.parts.filter (0 < ·.1)).map fun (n, word, plural) => partChars n word plural)

/-- The duration as a text. -/
def text (d : Duration) : String :=
  String.ofList d.chars

/-- The number `whole + rest / 10^places`, without zeros at its end. -/
def fractionChars (whole rest places : Nat) : List Char :=
  let digits := Decimal.digitChars rest
  let fraction := List.replicate (places - digits.length) '0' ++ digits
  let kept := (fraction.reverse.dropWhile (· = '0')).reverse
  Decimal.digitChars whole ++ (if rest = 0 then [] else '.' :: kept)

/-- A duration as one number with a unit. -/
def decimalChars (d : Duration) : List Char :=
  if second ≤ d then fractionChars (d / second) (d % second) 9 ++ ['s']
  else if millisecond ≤ d then fractionChars (d / millisecond) (d % millisecond) 6 ++ ['m', 's']
  else if microsecond ≤ d then fractionChars (d / microsecond) (d % microsecond) 3 ++ ['µ', 's']
  else Decimal.digitChars d ++ ['n', 's']

end SeriesRender.Duration
