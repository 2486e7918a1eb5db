import SeriesRender.Regex.Parser
import SeriesRender.Series

/-!
# Filtering series

A filter keeps some of its series, in order, and changes none of them.
-/

namespace SeriesRender

/-- The number of a series that a threshold is compared with. -/
inductive Level
  | current
  | average
  deriving DecidableEq, Repr

/-- Which side of the threshold is kept. -/
inductive Side
  | above
  | below
  deriving DecidableEq, Repr

/-- The ways to choose some of several series. -/
inductive Filter
  | threshold (level : Level) (side : Side) (value : Float)
  /-- Keep the series whose names the expression matches, or the others. -/
  | name (keepMatches : Bool) (regex : Regex)
  | limit (count : Float)

namespace Filter

/-- The number that a series is judged by, if it has a sample. -/
def levelOf : Level → Series → Option Float
  | .current, s => s.lastPresent?
  | .average, s => mean? s.present

/-- A series without samples has no level, and stays on no side. -/
def passes (level : Level) (side : Side) (value : Float) (s : Series) : Bool :=
  match levelOf level s with
  | none => false
  | some x =>
    match side with
    | .above => value < x
    | .below => x ≤ value

/-- The whole number nearest to a float towards zero, at most `2^64 - 1`. -/
def countOf (x : Float) : Nat :=
  x.toUInt64.toNat

/-- The series that pass, in order. -/
def apply : Filter → List Series → List Series
  | threshold level side value, inputs => inputs.filter (passes level side value)
  | name keepMatches regex, inputs =>
    inputs.filter fun s => regex.isMatch s.name.toList == keepMatches
  | limit count, inputs => inputs.take (countOf count)

end Filter

end SeriesRender
