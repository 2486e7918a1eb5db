import Mathlib.Algebra.Order.Ring.Int
import Mathlib.Order.Interval.Basic
import SeriesRender.Proofs.Basic
import SeriesRender.Series

/-!
# Room and instants

A series can be made if there is room for its samples (`Series.blank_eq_ok_iff`). The instants of
samples can be found if all their offsets from the start fit, and all sums with the start
(`Series.instants_eq_ok_iff`). A series whose samples all have instants is `Series.Dated`, and an
interval for which nothing of this fails is `Series.Representable`.

The samples of an interval stand at the whole steps from its start that lie before its stop
(`Series.lt_slotCount_iff`), so sums fit where the ends of the interval do (`Series.sumsFit`).
Offsets are another matter : an interval may span twice the greatest instant, and only adding the
start, which is negative then, brings the sum back. All offsets fit if and only if the last one does
(`Series.offsetsFit_iff`), so two numbers say what goes wrong with an interval, if anything
(`Series.overflow?`).
-/

namespace SeriesRender.Series

open Timestamp

variable {start stop step : Int} {overflow : Overflow}

/-! ## Room -/

/-- There is room for a series of at most `maxSlots` slots. -/
theorem room_eq_ok_iff {count : Nat} : room start stop step = .ok count ↔
    slotCount start stop step ≤ maxSlots ∧ slotCount start stop step = count := by
  unfold room
  by_cases h : slotCount start stop step ≤ maxSlots
  · simp [h]
  · simp [h]

/-- A series of more slots exceeds the capacity, and nothing else can go wrong. -/
theorem room_eq_error_iff : room start stop step = .error overflow ↔
    maxSlots < slotCount start stop step ∧ overflow = .capacity := by
  unfold room
  by_cases h : slotCount start stop step ≤ maxSlots
  · simp [h]
  · simp [h, Nat.lt_of_not_le h, eq_comm]

/-- An empty series is made if there is room for its slots, all of them without a sample. -/
theorem blank_eq_ok_iff {name : String} {a : Series} : blank name start stop step = .ok a ↔
    slotCount start stop step ≤ maxSlots ∧
      a = ⟨name, start, stop, step, List.replicate (slotCount start stop step) none⟩ := by
  rw [blank, bind_eq_ok_iff]
  constructor
  · rintro ⟨count, hroom, ha⟩
    obtain ⟨hle, rfl⟩ := room_eq_ok_iff.1 hroom
    exact ⟨hle, (Except.ok.inj ha).symm⟩
  · rintro ⟨hle, rfl⟩
    exact ⟨_, room_eq_ok_iff.2 ⟨hle, rfl⟩, rfl⟩

/-! ## Instants -/

/-- The offset of each of the first samples fits, which is added to the start. -/
def OffsetsFit (step : Int) (count : Nat) : Prop :=
  ∀ i < count, fits (i * step) = true

/-- So does the sum. -/
def SumsFit (start step : Int) (count : Nat) : Prop :=
  ∀ i < count, fits (start + i * step) = true

instance (step : Int) (count : Nat) : Decidable (OffsetsFit step count) :=
  inferInstanceAs (Decidable (∀ i < count, fits (i * step) = true))

instance (start step : Int) (count : Nat) : Decidable (SumsFit start step count) :=
  inferInstanceAs (Decidable (∀ i < count, fits (start + i * step) = true))

/-- An instant is computed if the product and then the sum fit. -/
theorem instant_eq_ok_iff {i : Nat} {t : Int} : instant start step i = .ok t ↔
    (fits (i * step) = true ∧ fits (start + i * step) = true) ∧ start + i * step = t := by
  unfold instant
  by_cases hoffset : fits (i * step) = true
  · by_cases hsum : fits (start + i * step) = true
    · simp [hoffset, hsum]
    · simp [hoffset, hsum]
  · simp [hoffset]

/-- Where the sum fits, it is the offset that does not. -/
theorem instant_eq_error_iff {i : Nat} (hsum : fits (start + i * step) = true) :
    instant start step i = .error overflow ↔ fits (i * step) ≠ true ∧ overflow = .product := by
  unfold instant
  by_cases hoffset : fits (i * step) = true
  · simp [hoffset, hsum]
  · simp [hoffset, eq_comm]

/-- Instants are found if all offsets and all sums fit. -/
theorem instants_eq_ok_iff {count : Nat} {ts : List Int} : instants start step count = .ok ts ↔
    (OffsetsFit step count ∧ SumsFit start step count) ∧
      (List.range count).map (fun i : Nat => start + i * step) = ts := by
  rw [instants, mapM_eq_ok_iff_map fun i t => instant_eq_ok_iff]
  simp only [List.mem_range, forall_and, OffsetsFit, SumsFit]

/-- Where all sums fit, instants are missed for an offset only. -/
theorem not_offsetsFit_of_instants {count : Nat} (hsums : SumsFit start step count)
    (h : instants start step count = .error overflow) :
    ¬OffsetsFit step count ∧ overflow = .product := by
  obtain ⟨before, i, after, hrange, -, hi⟩ := mapM_eq_error_iff.1 h
  have hmem : i < count := List.mem_range.1 (hrange ▸ by simp)
  obtain ⟨hoffset, rfl⟩ := (instant_eq_error_iff (hsums i hmem)).1 hi
  exact ⟨fun hall => hoffset (hall i hmem), rfl⟩

/-- Where all sums fit, only a product can be too large. -/
theorem instants_eq_error_iff {count : Nat} (hsums : SumsFit start step count) :
    instants start step count = .error overflow ↔
      ¬OffsetsFit step count ∧ overflow = .product := by
  refine ⟨not_offsetsFit_of_instants hsums, ?_⟩
  rintro ⟨hoffsets, rfl⟩
  cases h : instants start step count with
  | ok ts => exact absurd (instants_eq_ok_iff.1 h).1.1 hoffsets
  | error other => rw [(not_offsetsFit_of_instants hsums h).2]

/-- Where the samples of a series stand, whether or not their instants can be found. -/
def wholeSteps (a : Series) : List Int :=
  (List.range a.samples.length).map fun i : Nat => a.start + i * a.step

/-- The instant of every sample can be found. -/
def Dated (a : Series) : Prop :=
  OffsetsFit a.step a.samples.length ∧ SumsFit a.start a.step a.samples.length

/-- The timestamps of a dated series are its whole steps, and no other series has any. -/
theorem timestamps_eq_ok_iff {a : Series} {ts : List Int} :
    a.timestamps = .ok ts ↔ a.Dated ∧ a.wholeSteps = ts :=
  instants_eq_ok_iff

/-- Where all sums fit, a series that is not dated has an offset that is too large. -/
theorem timestamps_eq_error_iff {a : Series} (hsums : SumsFit a.start a.step a.samples.length) :
    a.timestamps = .error overflow ↔ ¬OffsetsFit a.step a.samples.length ∧ overflow = .product :=
  instants_eq_error_iff hsums

/-! ## The steps of an interval -/

/-- A sample for each step that starts before the stop. -/
theorem lt_slotCount_iff (hstep : 0 < step) {i : Nat} :
    i < slotCount start stop step ↔ start + i * step < stop := by
  have hnonneg : 0 ≤ (i : Int) * step := Int.mul_nonneg (Int.natCast_nonneg i) hstep.le
  unfold slotCount
  split
  · omega
  · have hsucc : ((i : Int) + 1) * step = i * step + step := by rw [Int.add_mul, Int.one_mul]
    rw [Int.lt_toNat, Int.lt_iff_add_one_le, Int.le_ediv_iff_mul_le hstep]
    omega

/-- A sum lies between the ends of its interval. -/
theorem sumsFit (hstep : 0 < step) (hstart : fits start = true) (hstop : fits stop = true) :
    SumsFit start step (slotCount start stop step) := by
  intro i hi
  have hnonneg : 0 ≤ (i : Int) * step := Int.mul_nonneg (Int.natCast_nonneg i) hstep.le
  have hlt := (lt_slotCount_iff hstep).1 hi
  rw [fits_iff] at hstart hstop ⊢
  omega

/-- How far the last step before the stop is from the start. -/
def lastOffset (start stop step : Int) : Int :=
  (stop - start - 1) / step * step

/-- All offsets fit if the last one does. -/
theorem offsetsFit_iff (hstep : 0 < step) :
    OffsetsFit step (slotCount start stop step) ↔ lastOffset start stop step ≤ greatest := by
  unfold OffsetsFit lastOffset
  have hlast := Int.ediv_mul_le (stop - start - 1) hstep.ne'
  constructor
  · intro h
    -- the last sample stands at this offset, unless the interval is empty
    by_cases hlt : start < stop
    · have hnonneg : 0 ≤ (stop - start - 1) / step := Int.ediv_nonneg (by omega) hstep.le
      have hfits := h ((stop - start - 1) / step).toNat <| (lt_slotCount_iff hstep).2 <| by
        rw [Int.toNat_of_nonneg hnonneg]
        omega
      rw [Int.toNat_of_nonneg hnonneg] at hfits
      exact (fits_iff.1 hfits).2
    · unfold greatest
      omega
  · intro h i hi
    have hlt := (lt_slotCount_iff hstep).1 hi
    have hle : (i : Int) ≤ (stop - start - 1) / step := Int.le_ediv_of_mul_le hstep (by omega)
    have hmul := Int.mul_le_mul_of_nonneg_right hle hstep.le
    have hnonneg : 0 ≤ (i : Int) * step := Int.mul_nonneg (Int.natCast_nonneg i) hstep.le
    refine fits_iff.2 ⟨?_, by omega⟩
    unfold least
    omega

/-- There is room for a series over the interval, and each of its samples has an instant. -/
structure Representable (start stop step : Int) : Prop where
  room : slotCount start stop step ≤ maxSlots
  offsets : OffsetsFit step (slotCount start stop step)
  sums : SumsFit start step (slotCount start stop step)

/-- What goes wrong with a series over an interval whose ends fit. -/
def overflow? (start stop step : Int) : Option Overflow :=
  if maxSlots < slotCount start stop step then some .capacity
  else if greatest < lastOffset start stop step then some .product
  else none

/-- Nothing overflows in an interval with few enough slots and a last offset that fits. -/
theorem overflow?_eq_none_iff : overflow? start stop step = none ↔
    slotCount start stop step ≤ maxSlots ∧ lastOffset start stop step ≤ greatest := by
  unfold overflow?
  split
  · next h => simp [Nat.not_le_of_lt h]
  · next h =>
    split
    · next h' => simp [Int.not_le_of_gt h']
    · next h' => simp [Nat.le_of_not_lt h, Int.not_lt.1 h']

/-- The capacity is asked for first, so too many slots come before offsets that are too large. -/
theorem overflow?_eq_some_iff (hstep : 0 < step) : overflow? start stop step = some overflow ↔
    (maxSlots < slotCount start stop step ∧ overflow = .capacity) ∨
      slotCount start stop step ≤ maxSlots ∧
        ¬OffsetsFit step (slotCount start stop step) ∧ overflow = .product := by
  rw [offsetsFit_iff hstep]
  unfold overflow?
  split
  · next h => simp [h, Nat.not_le_of_lt h, eq_comm]
  · next h =>
    split
    · next h' => simp [h, Nat.le_of_not_lt h, h', eq_comm]
    · next h' => simp [h, h']

theorem representable_iff (hstep : 0 < step) (hstart : fits start = true)
    (hstop : fits stop = true) :
    Representable start stop step ↔ overflow? start stop step = none := by
  rw [overflow?_eq_none_iff, ← offsetsFit_iff hstep]
  exact ⟨fun h => ⟨h.room, h.offsets⟩, fun h => ⟨h.1, h.2, sumsFit hstep hstart hstop⟩⟩

end SeriesRender.Series
