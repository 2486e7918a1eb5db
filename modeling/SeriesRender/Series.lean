import SeriesRender.Timestamp

/-!
# Time series

A series is a named run of samples over the interval from `start` (included) to `stop`
(excluded), one sample every `step` seconds. A missing sample is not a zero. Series that are to
be combined slot by slot must be aligned : they share the interval, the step and the number of
samples (`areAligned`).

Two things can be beyond the machine (`Overflow`). A series that is made for an interval needs room
for all its samples (`Series.room`), and the instants of samples are found in numbers of 64 bits
(`Series.instant`). What was at work then crashes.
-/

namespace SeriesRender

/-- What is beyond the machine when it makes a series or looks for the instant of a sample. -/
inductive Overflow
  /-- There is no room for so many samples. -/
  | capacity
  /-- The offset of the sample from the start of its series has more than 64 bits. -/
  | product
  /-- The start and the offset add up to more than 64 bits. -/
  | sum
  deriving DecidableEq, Repr

/-- What is said by what crashes. -/
def Overflow.message : Overflow → String
  | capacity => "capacity overflow"
  | product => "attempt to multiply with overflow"
  | sum => "attempt to add with overflow"

/-- A run of samples, one for each step from the start on. The samples can be fewer or more than the
steps up to the stop. -/
structure Series where
  name : String
  start : Int
  stop : Int
  step : Int
  samples : List (Option Float)

namespace Series

/-- How many steps cover the interval; none if the step or the interval is empty. -/
def slotCount (start stop step : Int) : Nat :=
  if step ≤ 0 ∨ stop ≤ start then 0 else ((stop - start + step - 1) / step).toNat

/-- How many samples there can be : each takes 16 bytes, and sizes are signed numbers of 64 bits. -/
def maxSlots : Nat := 0x7FFFFFFFFFFFFFF

/-- The number of steps that cover the interval, if there is room for as many samples. -/
def room (start stop step : Int) : Except Overflow Nat :=
  if slotCount start stop step ≤ maxSlots then .ok (slotCount start stop step)
  else .error .capacity

/-- A series with every sample missing. -/
def blank (name : String) (start stop step : Int) : Except Overflow Series := do
  let count ← room start stop step
  return ⟨name, start, stop, step, List.replicate count none⟩

/-- The instant of sample `i`. Its offset from the start is found first. -/
def instant (start step : Int) (i : Nat) : Except Overflow Int :=
  if Timestamp.fits (i * step) then
    if Timestamp.fits (start + i * step) then .ok (start + i * step) else .error .sum
  else .error .product

/-- The instants of the first samples. -/
def instants (start step : Int) (count : Nat) : Except Overflow (List Int) :=
  (List.range count).mapM (instant start step)

/-- The instant of every sample. -/
def timestamps (s : Series) : Except Overflow (List Int) :=
  instants s.start s.step s.samples.length

/-- The series under another name. -/
def rename (s : Series) (name : String) : Series :=
  { s with name }

/-- The samples that are not missing. -/
def present (s : Series) : List Float :=
  s.samples.filterMap id

/-- The last sample that is not missing. -/
def lastPresent? (s : Series) : Option Float :=
  s.present.getLast?

/-- What series must share to be combined : interval, step and number of samples. -/
def grid (s : Series) : Int × Int × Int × Nat :=
  (s.start, s.stop, s.step, s.samples.length)

end Series

/-- Whether all series share the grid of the first. -/
def areAligned : List Series → Bool
  | [] => true
  | s :: rest => rest.all fun t => t.grid = s.grid

/-! ## Statistics of samples -/

/-- The operation applied from the first number on; none for no numbers. -/
def reduce (op : Float → Float → Float) : List Float → Option Float
  | [] => none
  | x :: xs => some (xs.foldl op x)

/-- The sum, added up from negative zero, which leaves every number as it is. -/
def total (xs : List Float) : Float :=
  xs.foldl (· + ·) (-0.0)

/-- The greater of two numbers; a NaN loses to any number. -/
def greater (x y : Float) : Float :=
  if x.isNaN then y else if y.isNaN then x else if x < y then y else x

/-- The lesser of two numbers; a NaN loses to any number. -/
def lesser (x y : Float) : Float :=
  if x.isNaN then y else if y.isNaN then x else if y < x then y else x

/-- The sum, added up from zero, divided by the count; none for no numbers. -/
def mean? (xs : List Float) : Option Float :=
  if xs.isEmpty then none else some (xs.foldl (· + ·) 0.0 / Float.ofNat xs.length)

end SeriesRender
