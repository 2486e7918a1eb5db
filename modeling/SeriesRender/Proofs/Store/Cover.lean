import Mathlib.Algebra.Order.Field.Rat
import Mathlib.Algebra.Order.Floor.Ring
import Mathlib.Data.Rat.Floor
import SeriesRender.Proofs.Store.History

/-!
# The slots that cover a range

A store answers on whole slots, and `IsLeastCover` says which ones, by order alone : from the
greatest slot up to the start of the range on, to the least slot behind it that is not before the
end. Every range has one such cover (`exists_isLeastCover`, `IsLeastCover.unique`), and `bounds?`
finds it unless one of its ends is no instant (`IsLeastCover.bounds?_eq`).

A cover is longer than its range by less than two steps, so a series on it has at most one sample
more than the range has steps (`IsLeastCover.slotCount_le`), and just one where the range is empty.
-/

namespace SeriesRender.MemoryStore

open Timestamp

/-- The slots from `first` to `last` are the fewest that cover the instants from `start` to `stop`,
one slot at least. -/
structure IsLeastCover (step start stop first last : Int) : Prop where
  isGreatest : IsGreatest {slot | step ∣ slot ∧ slot ≤ start} first
  isLeast : IsLeast {slot | step ∣ slot ∧ stop ≤ slot ∧ first < slot} last

variable {step start stop first last : Int}

/-! ## Multiples of the step -/

/-- The slot of an instant is the greatest up to it. -/
theorem isGreatest_sub_emod (hstep : 0 < step) (t : Int) :
    IsGreatest {slot | step ∣ slot ∧ slot ≤ t} (t - t % step) := by
  have hnonneg := Int.emod_nonneg t hstep.ne'
  have hlt := Int.emod_lt_of_pos t hstep
  refine ⟨⟨Int.dvd_self_sub_emod, by omega⟩, fun slot ⟨hdvd, hle⟩ => ?_⟩
  -- a slot above this one would be a whole step above it
  by_contra h
  have := Int.le_of_dvd (by omega) (Int.dvd_sub hdvd (Int.dvd_self_sub_emod (x := t) (m := step)))
  omega

/-- Rounding up gives the least slot from an instant on. -/
theorem isLeast_add_emod (hstep : 0 < step) (t : Int) :
    IsLeast {slot | step ∣ slot ∧ t ≤ slot} (t + (step - t % step) % step) := by
  have hnonneg := Int.emod_nonneg (step - t % step) hstep.ne'
  have hlt := Int.emod_lt_of_pos (step - t % step) hstep
  refine ⟨⟨dvd_add_emod step t, by omega⟩, fun slot ⟨hdvd, hle⟩ => ?_⟩
  by_contra h
  have := Int.le_of_dvd (by omega) (Int.dvd_sub (dvd_add_emod step t) hdvd)
  omega

/-! ## The least cover -/

namespace IsLeastCover

variable {first' last' : Int}

theorem unique (h : IsLeastCover step start stop first last)
    (h' : IsLeastCover step start stop first' last') : first = first' ∧ last = last' := by
  obtain rfl := h.isGreatest.unique h'.isGreatest
  exact ⟨rfl, h.isLeast.unique h'.isLeast⟩

theorem lt (h : IsLeastCover step start stop first last) : first < last :=
  h.isLeast.1.2.2

theorem dvd_sub (h : IsLeastCover step start stop first last) : step ∣ last - first :=
  Int.dvd_sub h.isLeast.1.1 h.isGreatest.1.1

/-- The range starts within the first slot. -/
theorem start_lt (hstep : 0 < step) (h : IsLeastCover step start stop first last) :
    start < first + step := by
  have heq := h.isGreatest.unique (isGreatest_sub_emod hstep start)
  have := Int.emod_lt_of_pos start hstep
  omega

end IsLeastCover

/-- The cover rounds the start down and the end up, and has one slot if that leaves none. -/
theorem isLeastCover_floor_ceil (hstep : 0 < step) (start stop : Int) :
    let floor := start - start % step
    let ceil := stop + (step - stop % step) % step
    IsLeastCover step start stop floor (if ceil ≤ floor then floor + step else ceil) := by
  intro floor ceil
  have hfloor : IsGreatest {slot | step ∣ slot ∧ slot ≤ start} floor :=
    isGreatest_sub_emod hstep start
  have hceil : IsLeast {slot | step ∣ slot ∧ stop ≤ slot} ceil := isLeast_add_emod hstep stop
  refine ⟨hfloor, ?_⟩
  split
  · next hle =>
    have hstop : stop ≤ ceil := hceil.1.2
    refine ⟨⟨Int.dvd_add hfloor.1.1 (Int.dvd_refl step), by omega, by omega⟩, ?_⟩
    rintro slot ⟨hdvd, -, hlt⟩
    have := Int.le_of_dvd (by omega) (Int.dvd_sub hdvd hfloor.1.1)
    omega
  · next hlt =>
    refine ⟨⟨hceil.1.1, hceil.1.2, by omega⟩, fun slot ⟨hdvd, hle, _⟩ => ?_⟩
    exact hceil.2 ⟨hdvd, hle⟩

theorem exists_isLeastCover (hstep : 0 < step) (start stop : Int) :
    ∃ first last, IsLeastCover step start stop first last :=
  ⟨_, _, isLeastCover_floor_ceil hstep start stop⟩

/-- Three results are checked on the way to the bounds. -/
theorem bounds?_eq_ite (step start stop : Int) :
    let floor := start - start % step
    let ceil := stop + (step - stop % step) % step
    let last := if ceil ≤ floor then floor + step else ceil
    bounds? step start stop =
      if fits floor = true ∧ fits ceil = true ∧ fits last = true then some (floor, last)
      else none := by
  unfold bounds? slot? checked
  generalize start - start % step = floor
  generalize stop + (step - stop % step) % step = ceil
  by_cases hf : fits floor = true
  · by_cases hc : fits ceil = true
    · by_cases hle : ceil ≤ floor
      · by_cases hl : fits (floor + step) = true <;> simp [hf, hc, hle, hl]
      · simp [hf, hc, hle]
    · simp [hf, hc]
  · simp [hf]

/-- The bounds of a range that ends at an instant are its least cover, if the ends of that are
instants too. -/
theorem IsLeastCover.bounds?_eq (hstep : 0 < step) (hstop : least ≤ stop)
    (h : IsLeastCover step start stop first last) : bounds? step start stop =
      if fits first = true ∧ fits last = true then some (first, last) else none := by
  obtain ⟨rfl, rfl⟩ := h.unique (isLeastCover_floor_ceil hstep start stop)
  have hceil := (isLeast_add_emod hstep stop).1.2
  rw [bounds?_eq_ite]
  refine if_congr (and_congr_right fun hf => and_iff_right_of_imp fun hl => ?_) rfl rfl
  -- an end that is given up for one slot lies between two instants
  split at hl
  · rw [fits_iff] at hf ⊢
    omega
  · exact hl

/-- Bounds that are given are the least cover, whatever the end of the range. -/
theorem isLeastCover_of_bounds? (hstep : 0 < step)
    (h : bounds? step start stop = some (first, last)) :
    IsLeastCover step start stop first last ∧ fits first = true ∧ fits last = true := by
  rw [bounds?_eq_ite] at h
  obtain ⟨hfits, h⟩ := Option.ite_none_right_eq_some.1 h
  obtain ⟨rfl, rfl⟩ := Prod.mk.inj (Option.some.inj h)
  exact ⟨isLeastCover_floor_ceil hstep start stop, hfits.1, hfits.2.2⟩

/-! ## How many slots -/

/-- A cover has one slot more than the steps that the range takes, at most. -/
theorem IsLeastCover.slotCount_le (hstep : 0 < step)
    (h : IsLeastCover step start stop first last) {n : Int} (hn : 0 ≤ n)
    (hrange : stop - start ≤ n * step) : (Series.slotCount first last step : Int) ≤ n + 1 := by
  have hstart := h.start_lt hstep
  have hmul : (n + 1) * step = n * step + step := by rw [Int.add_mul, Int.one_mul]
  have hpos : 0 ≤ n * step := Int.mul_nonneg hn hstep.le
  have hlast : last ≤ first + (n + 1) * step := by
    refine h.isLeast.2 ⟨Int.dvd_add h.isGreatest.1.1 (Int.dvd_mul_left _ _), ?_, ?_⟩ <;> omega
  rw [slotCount_of_dvd hstep h.lt h.dvd_sub]
  exact Int.ediv_le_of_le_mul hstep (by omega)

theorem IsLeastCover.slotCount_pos (hstep : 0 < step)
    (h : IsLeastCover step start stop first last) : 0 < Series.slotCount first last step := by
  have hlt := h.lt
  have hle := Int.le_of_dvd (by omega) h.dvd_sub
  have hcount := slotCount_of_dvd hstep hlt h.dvd_sub
  have hdiv : 1 ≤ (last - first) / step := Int.le_ediv_of_mul_le hstep (by omega)
  omega

/-- An empty range is covered by one slot. -/
theorem IsLeastCover.slotCount_of_le (hstep : 0 < step)
    (h : IsLeastCover step start stop first last) (hle : stop ≤ start) :
    Series.slotCount first last step = 1 := by
  have hpos := h.slotCount_pos hstep
  have hcount := h.slotCount_le hstep (n := 0) (Int.le_refl 0) (by omega)
  omega

/-- A range of `span` seconds at most takes a step for each started one of them. -/
theorem IsLeastCover.slotCount_le_ceil (hstep : 0 < step)
    (h : IsLeastCover step start stop first last) {span : Int} (hspan : 0 ≤ span)
    (hrange : stop - start ≤ span) :
    (Series.slotCount first last step : Int) ≤ ⌈(span : ℚ) / step⌉ + 1 := by
  have hpos : (0 : ℚ) < step := Int.cast_pos.2 hstep
  have hceil : (span : ℚ) ≤ ⌈(span : ℚ) / step⌉ * step :=
    (div_le_iff₀ hpos).1 (Int.le_ceil _)
  have hmul : span ≤ ⌈(span : ℚ) / step⌉ * step := by exact_mod_cast hceil
  have hnonneg : 0 ≤ ⌈(span : ℚ) / step⌉ :=
    Int.ceil_nonneg (div_nonneg (Int.cast_nonneg hspan) hpos.le)
  exact h.slotCount_le hstep hnonneg (Int.le_trans hrange hmul)

end SeriesRender.MemoryStore
