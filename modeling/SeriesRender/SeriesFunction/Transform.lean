import SeriesRender.Series
import SeriesRender.Target.Expr

/-!
# Transforming each series

A transform maps the samples of every series on its own, on the same grid. The result is named
after the call, with the series' name in place of its argument (`derivedName`).
-/

namespace SeriesRender

open Target

/-- The ways to change the samples of a series. -/
inductive Transform
  | scale (factor : Float)
  | offset (amount : Float)
  | absolute
  | derivative
  /-- A drop is a gap, or, given the greatest value of the counter, a wrap around it. -/
  | nonNegativeDerivative (greatest : Option Float)
  /-- Missing samples become `value`. -/
  | transformNull (value : Float)

namespace Transform

/-- The differences between consecutive samples that are not missing, `previous` being the last
one seen. A negative difference is what `onDrop` makes of the two samples. -/
def deltas (onDrop : Float → Float → Option Float) (previous : Option Float) :
    List (Option Float) → List (Option Float)
  | [] => []
  | none :: rest => none :: deltas onDrop previous rest
  | some current :: rest =>
    (previous.bind fun previous =>
      if current - previous < 0.0 then onDrop previous current else some (current - previous)) ::
      deltas onDrop (some current) rest

/-- The increase of a counter that dropped from `previous` to `current`. -/
def wrapped (greatest : Option Float) (previous current : Float) : Option Float :=
  (greatest.map fun m => m - previous + current + 1.0).filter fun d => decide (0.0 ≤ d)

/-- The changed samples, one for each. -/
def samples : Transform → List (Option Float) → List (Option Float)
  | scale factor, xs => xs.map (·.map (· * factor))
  | offset amount, xs => xs.map (·.map (· + amount))
  | absolute, xs => xs.map (·.map Float.abs)
  | derivative, xs => deltas (fun previous current => some (current - previous)) none xs
  | nonNegativeDerivative greatest, xs => deltas (wrapped greatest) none xs
  | transformNull value, xs => xs.map fun x => some (x.getD value)

end Transform

/-- A comma and the text of each argument that is not a series. -/
def literalChars (args : List Expr) : List Char :=
  (args.filter (·.kind ≠ .series)).flatMap fun e => ',' :: e.chars

/-- The name of a transformed series. -/
def derivedName (function : String) (args : List Expr) (series : String) : String :=
  String.ofList (function.toList ++ '(' :: (series.toList ++ (literalChars args ++ [')'])))

/-- Transform each series for a call of `function`. -/
def Transform.apply (t : Transform) (function : String) (args : List Expr)
    (inputs : List Series) : List Series :=
  inputs.map fun s =>
    { s with name := derivedName function args s.name, samples := t.samples s.samples }

end SeriesRender
