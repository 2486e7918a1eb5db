import SeriesRender.Series
import SeriesRender.SeriesFunction.Error

/-!
# Combining series slot by slot

A reducer turns the samples that several series have in one slot into one sample. `combine`
applies it to every slot of aligned series; no series at all is no data, and combines to none. The
interval of aligned series needs room, however many samples they have.
-/

namespace SeriesRender

/-- How the samples of a slot are combined. -/
inductive Reducer
  | average
  | sum
  | max
  | min
  | diff
  | range
  deriving DecidableEq, Repr

namespace Reducer

/-- The samples with zeros for the missing ones. -/
def filled (column : List (Option Float)) : List Float :=
  column.map (·.getD 0.0)

/-- The samples that are not missing. -/
def present (column : List (Option Float)) : List Float :=
  column.filterMap id

/-- The combined sample of a slot. An average counts missing samples as zeros, so it is never
missing; the others are missing only where all samples are. A difference takes the first sample
less the sum of the others. -/
def apply : Reducer → List (Option Float) → Option Float
  | average, column => some (total (filled column) / Float.ofNat column.length)
  | sum, column => reduce (· + ·) (present column)
  | max, column => reduce greater (present column)
  | min, column => reduce lesser (present column)
  | diff, column =>
    if column.all Option.isNone then none
    else some (((filled column).head?.getD 0.0) - total (filled column).tail)
  | range, column =>
    match reduce greater (present column), reduce lesser (present column) with
    | some high, some low => some (high - low)
    | _, _ => none

end Reducer

/-- The samples of several series in slot `i`. -/
def column (inputs : List Series) (i : Nat) : List (Option Float) :=
  inputs.map fun s => s.samples[i]?.getD none

/-- Combine aligned series into one, named `name`, for a call of `function`. -/
def combine (function name : String) (r : Reducer) (inputs : List Series) :
    Except EvalError (List Series) :=
  match inputs with
  | [] => .ok []
  | first :: _ =>
    if areAligned inputs then do
      let _ ← (Series.room first.start first.stop first.step).mapError .crashed
      return [⟨name, first.start, first.stop, first.step,
        (List.range first.samples.length).map fun i => r.apply (column inputs i)⟩]
    else .error (.notAligned function)

end SeriesRender
