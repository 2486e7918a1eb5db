import SeriesRender.Decimal.Binary64

/-!
# Durations

A duration is a whole number of nanoseconds; instants of the service's clock are durations since
its start. `Duration.ofSeconds?` rounds a float to the nearest nanosecond, `Duration.seconds` goes
back, adding up the whole seconds and the rest as floats.
-/

namespace SeriesRender

/-- A number of nanoseconds. -/
abbrev Duration := Nat

namespace Duration

/-- The nanoseconds of a second. -/
def second : Duration := 1000000000

/-- The nanoseconds of a millisecond. -/
def millisecond : Duration := 1000000

/-- The number of seconds that no duration reaches. -/
def secondsBound : Nat := 0x10000000000000000

/-- A number of milliseconds. -/
def ofMillis (n : Nat) : Duration := n * millisecond

/-- A number of seconds. -/
def ofWholeSeconds (n : Nat) : Duration := n * second

/-- The whole seconds of a duration. -/
def wholeSeconds (d : Duration) : Nat := d / second

/-- The nearest duration, a tie going to the even neighbour; none for a negative number, for one
out of bounds or for what is not a number. -/
def ofSeconds? (x : Float) : Option Duration :=
  match Decimal.Binary64.ofFloat x with
  | .finite negative m q =>
    let r := Decimal.Ratio.scaled m q
    if (negative ∧ m ≠ 0) ∨ secondsBound * r.den ≤ r.num then none
    else some ((r.inUnits (-9)).round .toEven)
  | _ => none

/-- The seconds of a duration, as the sum of two floats. -/
def seconds (d : Duration) : Float :=
  Float.ofNat (d / second) + Float.ofNat (d % second) / 1e9

end Duration

end SeriesRender
