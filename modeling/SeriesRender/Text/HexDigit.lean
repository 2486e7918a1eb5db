/-!
# Hexadecimal digits

Digits in either case, and the character whose number they give.
-/

namespace SeriesRender.Text

/-- The value of a hexadecimal digit. -/
def hexDigit? (c : Char) : Option Nat :=
  if c.isDigit then some (c.toNat - '0'.toNat)
  else if 'a' ≤ c ∧ c ≤ 'f' then some (c.toNat - 'a'.toNat + 10)
  else if 'A' ≤ c ∧ c ≤ 'F' then some (c.toNat - 'A'.toNat + 10)
  else none

/-- Whether the character is a digit to base sixteen. -/
def isHexDigit (c : Char) : Bool :=
  (hexDigit? c).isSome

/-- The number that digits give; what is not a digit is skipped. -/
def hexValue (digits : List Char) : Nat :=
  (digits.filterMap hexDigit?).foldl (16 * · + ·) 0

/-- The character whose number digits give, if there is one. -/
def charOfHex? (digits : List Char) : Option Char :=
  let n := hexValue digits
  if n.isValidChar then some (Char.ofNat n) else none

end SeriesRender.Text
