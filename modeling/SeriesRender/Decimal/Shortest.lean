import SeriesRender.Decimal.Binary64

/-!
# The fewest digits that read back

Every real nearer to a float than to its neighbours reads as that float. `shortest` finds the
decimal with the fewest digits among them, and of those the nearest to the float : for one
digit, two digits and so on it looks at the two neighbours of the value on the decimal grid
with that many digits, and takes the first grid that has a hit.
-/

namespace SeriesRender.Decimal

/-- The number of decimal digits of `n`. -/
def digitCount (n : Nat) : Nat :=
  (Nat.repr n).length

/-- The exponent `k` with `10^(k-1) ≤ r < 10^k`, for a positive `r`. -/
def Ratio.magnitude (r : Ratio) : Int :=
  if r.den ≤ r.num then digitCount (r.num / r.den)
  else 1 - digitCount ((r.den - 1) / r.num)

/-- The reals that read as one float, around its value. The ends belong to it when `closed`. -/
structure Basin where
  low : Ratio
  value : Ratio
  high : Ratio
  closed : Bool

/-- The basin of `m · 2^q`. Below a power of two the neighbour is half as far. -/
def Basin.of (m : Nat) (q : Int) : Basin where
  low := .scaled (if m = hiddenBit ∧ q ≠ -1074 then 4 * m - 1 else 4 * m - 2) (q - 2)
  value := .scaled (4 * m) (q - 2)
  high := .scaled (4 * m + 2) (q - 2)
  closed := m % 2 = 0

/-- Whether `n · 10^e` lies in the basin. -/
def Basin.holds (b : Basin) (n : Nat) (e : Int) : Bool :=
  let low := b.low.inUnits e
  let high := b.high.inUnits e
  if b.closed then low.num ≤ n * low.den && n * high.den ≤ high.num
  else low.num < n * low.den && n * high.den < high.num

/-- The decimal `digits · 10^exponent`. -/
structure Scientific where
  digits : Nat
  exponent : Int
  deriving Repr, DecidableEq

/-- The nearest hit among the value's two neighbours on the grid of step `10^e`. -/
def Basin.onGrid? (b : Basin) (tie : Tie) (e : Int) : Option Scientific :=
  let v := b.value.inUnits e
  let d := v.num / v.den
  match b.holds d e, b.holds (d + 1) e with
  | true, true => some ⟨v.round tie, e⟩
  | true, false => some ⟨d, e⟩
  | false, true => some ⟨d + 1, e⟩
  | false, false => none

/-- Move factors of ten from the digits to the exponent, at most `fuel` of them. -/
def Scientific.dropZeros (fuel : Nat) (d : Scientific) : Scientific :=
  match fuel with
  | 0 => d
  | fuel + 1 =>
    if d.digits ≠ 0 ∧ d.digits % 10 = 0 then dropZeros fuel ⟨d.digits / 10, d.exponent + 1⟩ else d

/-- The shortest decimal that reads as `m · 2^q`, for positive `m`; seventeen digits always
suffice. -/
def shortest (tie : Tie) (m : Nat) (q : Int) : Scientific :=
  let b := Basin.of m q
  let k := b.value.magnitude
  let found := (List.range 17).findSome? fun n => b.onGrid? tie (k - (n + 1 : Nat))
  (found.getD ⟨b.value.num, 0⟩).dropZeros 17

end SeriesRender.Decimal
