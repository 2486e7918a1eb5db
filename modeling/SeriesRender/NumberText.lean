import SeriesRender.Decimal.Numeral

/-!
# Numbers as text

A sample is written for machines, in full, or for people, to two places with a suffix for
thousands, millions and so on.
-/

namespace SeriesRender

/-- For whom a number is written. -/
inductive NumberStyle
  | machine
  | human
  deriving DecidableEq, Repr

namespace NumberStyle

/-- The limits from which on a number is scaled down, with their suffixes. -/
def scales : List (Float × Char) :=
  [(1e15, 'P'), (1e12, 'T'), (1e9, 'G'), (1e6, 'M'), (1e3, 'K')]

/-- A fraction without the zeros at its end, nor the point if nothing is left after it. -/
def trimFraction (cs : List Char) : List Char :=
  if '.' ∈ cs then
    match cs.reverse.dropWhile (· = '0') with
    | '.' :: rest => rest.reverse
    | rest => rest.reverse
  else cs

/-- Two places at most, and no sign on a zero. -/
def short (x : Float) : List Char :=
  let cs := trimFraction (Decimal.placesChars 2 x)
  if cs = ['-', '0'] then ['0'] else cs

/-- A number in a style : with the digits it needs, or scaled and rounded for a reader. -/
def chars : NumberStyle → Float → List Char
  | machine, x => Decimal.plainChars x
  | human, x =>
    match scales.find? fun (limit, _) => limit ≤ x.abs with
    | some (limit, suffix) => short (x / limit) ++ [suffix]
    | none => short x

/-- The same as a text. -/
def format (style : NumberStyle) (x : Float) : String :=
  String.ofList (style.chars x)

end NumberStyle

end SeriesRender
