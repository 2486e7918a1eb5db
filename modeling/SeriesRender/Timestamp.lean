import SeriesRender.Decimal.Binary64

/-!
# Timestamps

Instants are whole seconds since the epoch, in signed 64-bit integers. Arithmetic is exact;
`Timestamp.checked` refuses a result that does not fit.
-/

namespace SeriesRender.Timestamp

/-- The least instant. -/
def least : Int := -0x8000000000000000

/-- The greatest instant. -/
def greatest : Int := 0x7FFFFFFFFFFFFFFF

/-- Whether an integer is an instant. -/
def fits (n : Int) : Bool :=
  least ≤ n && n ≤ greatest

/-- An instant fits if it lies between the least and the greatest one. -/
theorem fits_iff {n : Int} : fits n = true ↔ least ≤ n ∧ n ≤ greatest := by
  simp [fits]

/-- The integer, if it is an instant. -/
def checked (n : Int) : Option Int :=
  if fits n then some n else none

/-- What has been checked is the number itself, and it fits. -/
theorem checked_eq_some_iff {n m : Int} : checked n = some m ↔ fits n = true ∧ n = m := by
  unfold checked
  split <;> simp_all

/-- The instant nearest to the whole part of a float; a NaN counts as zero. -/
def ofFloat (x : Float) : Int :=
  Decimal.wholePart x

end SeriesRender.Timestamp
