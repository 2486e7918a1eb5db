import SeriesRender.Decimal.Shortest

/-!
# Numerals

How a float is written. `plain` writes the shortest decimal that reads back, always in
positional notation. `scientific` writes the same digits with an exponent when the decimal
point would stand far from them, as data formats do, and has no text for what is not finite.
`places` writes a fixed number of places, a half going to the even neighbour.
-/

namespace SeriesRender.Decimal

/-- The digits of `n`, as characters. -/
def digitChars (n : Nat) : List Char :=
  (Nat.repr n).toList

/-- Digits with a decimal point after the first `point` of them; zeros fill the gap on either
side, and a number below one starts with a zero. -/
def positional (digits : List Char) (point : Int) : List Char :=
  if point ≤ 0 then '0' :: '.' :: (List.replicate (-point).toNat '0' ++ digits)
  else if digits.length ≤ point.toNat then
    digits ++ List.replicate (point.toNat - digits.length) '0'
  else digits.take point.toNat ++ '.' :: digits.drop point.toNat

/-- A text behind a minus sign, if there is to be one. -/
def signed (negative : Bool) (cs : List Char) : List Char :=
  if negative then '-' :: cs else cs

/-- The shortest decimal in positional notation, without a point for a whole number. A zero
keeps its sign. -/
def plainChars (x : Float) : List Char :=
  match Binary64.ofFloat x with
  | .nan => ['N', 'a', 'N']
  | .infinite negative => signed negative ['i', 'n', 'f']
  | .finite negative m q =>
    if m = 0 then signed negative ['0']
    else
      let d := shortest .up m q
      let digits := digitChars d.digits
      signed negative (positional digits (digits.length + d.exponent))

/-- The shortest decimal as a text, without an exponent. -/
def plain (x : Float) : String :=
  String.ofList (plainChars x)

/-- A layout for numbers in a data format : positional notation, with a fraction on every whole
number, while the decimal point stands after position `above` and at most after position `upTo`
of the digits, and otherwise one digit before the point and a signed exponent. -/
structure Layout where
  tie : Tie
  above : Int
  upTo : Int

/-- Numbers in JSON bodies. -/
def Layout.json : Layout := ⟨.toEven, -5, 16⟩

/-- An exponent, always with a sign. -/
def Layout.exponentChars (e : Int) : List Char :=
  'e' :: (if e < 0 then '-' else '+') :: digitChars e.natAbs

/-- Digits with a point if their number is neither too great nor too small, and else with an
exponent. -/
def Layout.digits (l : Layout) (digits : List Char) (exponent : Int) : List Char :=
  let point := digits.length + exponent
  if l.above < point ∧ point ≤ l.upTo then
    if 0 ≤ exponent then positional digits point ++ ['.', '0'] else positional digits point
  else
    match digits with
    | [] => []
    | [d] => d :: exponentChars (point - 1)
    | d :: ds => d :: '.' :: (ds ++ exponentChars (point - 1))

/-- The number in the layout, or `none` for what is not finite. -/
def Layout.chars? (l : Layout) (x : Float) : Option (List Char) :=
  match Binary64.ofFloat x with
  | .nan => none
  | .infinite _ => none
  | .finite negative m q =>
    if m = 0 then some (signed negative ['0', '.', '0'])
    else
      let d := shortest l.tie m q
      some (signed negative (l.digits (digitChars d.digits) d.exponent))

/-- The exact value rounded to `n` places, `n` being at least one. -/
def placesChars (n : Nat) (x : Float) : List Char :=
  match Binary64.ofFloat x with
  | .nan => ['N', 'a', 'N']
  | .infinite negative => signed negative ['i', 'n', 'f']
  | .finite negative m q =>
    let units := ((Ratio.scaled m q).inUnits (-n)).round .toEven
    let fraction := digitChars (units % Nat.pow 10 n)
    signed negative (digitChars (units / Nat.pow 10 n) ++
      '.' :: (List.replicate (n - fraction.length) '0' ++ fraction))

end SeriesRender.Decimal
