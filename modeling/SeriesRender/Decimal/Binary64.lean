/-!
# The number a binary64 stands for

`Binary64.ofFloat` reads a float's bits : a finite one is `±m · 2^q` for natural `m` and an
integer `q`. All decimal text is made from this exact value, in natural numbers.
-/

namespace SeriesRender.Decimal

/-- A float as the number it stands for. -/
inductive Binary64
  | nan
  | infinite (negative : Bool)
  /-- The value `±m · 2^q`. -/
  | finite (negative : Bool) (m : Nat) (q : Int)
  deriving Repr, DecidableEq

/-- The value of the leading bit that is not written, bit 52. -/
def hiddenBit : Nat := 0x10000000000000

/-- The value of bit 63. -/
def signBit : Nat := 0x8000000000000000

namespace Binary64

/-- Bits 0 to 51 are the fraction, 52 to 62 the biased exponent, 63 the sign. The exponent 0
has no implicit leading bit, 2047 stands for what is not finite. -/
def ofBits (bits : Nat) : Binary64 :=
  let fraction : Nat := bits % hiddenBit
  let exponent : Nat := bits / hiddenBit % 2048
  let negative := decide (bits / signBit % 2 = 1)
  if exponent = 2047 then (if fraction = 0 then .infinite negative else .nan)
  else if exponent = 0 then .finite negative fraction (-1074)
  else .finite negative (hiddenBit + fraction) ((exponent : Int) - (1075 : Int))

/-- The parts of a float. -/
def ofFloat (x : Float) : Binary64 :=
  ofBits x.toBits.toNat

end Binary64

/-- A non-negative rational, by its numerator and its denominator. -/
structure Ratio where
  num : Nat
  den : Nat
  deriving Repr

/-- The value `n · 2^q`. -/
def Ratio.scaled (n : Nat) (q : Int) : Ratio :=
  match q with
  | .ofNat e => ⟨n * Nat.pow 2 e, 1⟩
  | .negSucc e => ⟨n, Nat.pow 2 (e + 1)⟩

/-- The whole part of a float as a signed integer of 64 bits, or the one nearest to it; a NaN counts
as zero. -/
def wholePart (x : Float) : Int :=
  match Binary64.ofFloat x with
  | .nan => 0
  | .infinite negative => if negative then -0x8000000000000000 else 0x7FFFFFFFFFFFFFFF
  | .finite negative m q =>
    let r := Ratio.scaled m q
    let whole : Int := r.num / r.den
    if negative then max (-0x8000000000000000) (-whole) else min 0x7FFFFFFFFFFFFFFF whole

/-- Whether a float is a whole number. -/
def isWhole (x : Float) : Bool :=
  match Binary64.ofFloat x with
  | .finite _ m q =>
    let r := Ratio.scaled m q
    r.num % r.den == 0
  | _ => false

/-- The value `r / 10^e`. -/
def Ratio.inUnits (r : Ratio) (e : Int) : Ratio :=
  match e with
  | .ofNat k => ⟨r.num, r.den * Nat.pow 10 k⟩
  | .negSucc k => ⟨r.num * Nat.pow 10 (k + 1), r.den⟩

/-- Which neighbour a value halfway between two takes. -/
inductive Tie
  | toEven
  | up
  deriving DecidableEq, Repr

/-- The natural number nearest to `r`, a tie going as `tie` says. -/
def Ratio.round (tie : Tie) (r : Ratio) : Nat :=
  let d := r.num / r.den
  let twice := 2 * (r.num % r.den)
  if twice < r.den then d
  else if r.den < twice then d + 1
  else
    match tie with
    | .up => d + 1
    | .toEven => if d % 2 = 0 then d else d + 1

end SeriesRender.Decimal
