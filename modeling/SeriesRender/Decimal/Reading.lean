import SeriesRender.Decimal.Binary64

/-!
# Reading numbers

`readFloat?` reads a decimal number with an optional sign, point and exponent, or one of the
words for infinity and NaN in any case, and rounds it correctly. `readInt?` reads a decimal
integer with an optional sign, `readNat?` one without; they do not bound the value.
-/

namespace SeriesRender.Decimal

/-- The value of a digit string, continued from `n`. -/
def digitsValue (n : Nat) : List Char → Nat
  | [] => n
  | c :: cs => digitsValue (10 * n + (c.toNat - '0'.toNat)) cs

/-- A non-empty string of ASCII digits. -/
def readNat? (cs : List Char) : Option Nat :=
  if cs.isEmpty then none
  else if cs.all Char.isDigit then some (digitsValue 0 cs)
  else none

/-- An optional sign and the rest. -/
def readSign : List Char → Bool × List Char
  | '-' :: cs => (true, cs)
  | '+' :: cs => (false, cs)
  | cs => (false, cs)

/-- An optional sign before a non-empty string of ASCII digits. -/
def readInt? (cs : List Char) : Option Int :=
  match readSign cs with
  | (negative, digits) =>
    (readNat? digits).map fun n => if negative then -(n : Int) else n

/-- The parts of a decimal number : digits before and after the point, and the exponent. -/
structure Parts where
  whole : List Char
  fraction : List Char
  exponent : Int

/-- An optional exponent that fills the text. -/
def readExponent? : List Char → Option Int
  | [] => some 0
  | c :: cs => if c = 'e' ∨ c = 'E' then readInt? cs else none

/-- Digits, an optional point with digits, and an optional exponent; one of the two groups of
digits may be empty. -/
def readParts? (cs : List Char) : Option Parts :=
  let whole := cs.takeWhile Char.isDigit
  let rest := cs.dropWhile Char.isDigit
  let (fraction, rest) :=
    match rest with
    | '.' :: r => (r.takeWhile Char.isDigit, r.dropWhile Char.isDigit)
    | r => ([], r)
  if whole.isEmpty && fraction.isEmpty then none
  else (readExponent? rest).map fun e => ⟨whole, fraction, e⟩

/-- The float nearest to `n · 10^e`. Beyond the range of floats on either side no power of ten
is computed. -/
def nearest (n : Nat) (e : Int) : Float :=
  let size := (Nat.repr n).length + e
  if n = 0 ∨ size < -330 then 0.0
  else if 310 < size then 1.0 / 0.0
  else Float.ofScientific n (e < 0) e.natAbs

/-- The float nearest to the number that is written. -/
def Parts.value (p : Parts) : Float :=
  nearest (digitsValue (digitsValue 0 p.whole) p.fraction) (p.exponent - p.fraction.length)

/-- The words for numbers that are not finite. -/
def readWord? (cs : List Char) : Option Float :=
  let word := String.ofList (cs.map Char.toLower)
  if word = "inf" ∨ word = "infinity" then some (1.0 / 0.0)
  else if word = "nan" then some (0.0 / 0.0)
  else none

/-- A float, correctly rounded. A number too large for a float is infinite. -/
def readFloat? (cs : List Char) : Option Float :=
  match readSign cs with
  | (negative, magnitude) =>
    ((readWord? magnitude).or ((readParts? magnitude).map Parts.value)).map fun x =>
      if negative then -x else x

end SeriesRender.Decimal
