import SeriesRender.Proofs.Store.Cover

/-!
# The instants of samples

The instants of a series that covers an interval are those of the interval, and they fit where its
ends do. Arithmetic in 64 bits would find them, wrapped around where it has to be
(`Series.OnInterval`). But the offset of a sample from the start has to fit as well, so the instants
are found if and only if the last offset fits, and likewise the slots of a store over the bounds of
a range (`timestamps_blank_fetch`).
-/

namespace SeriesRender

open Timestamp

namespace Series

/-- The samples stand at the instants of the interval that are whole steps from its start. These
fit, and 64 bits would hold every sum, but to be found they must not be too far from the start. -/
structure OnInterval (a : Series) : Prop where
  ascending : a.wholeSteps.Pairwise (· < ·)
  mem_iff : ∀ t, t ∈ a.wholeSteps ↔ a.start ≤ t ∧ t < a.stop ∧ a.step ∣ t - a.start
  sum : ∀ i < a.samples.length, a.wholeSteps[i]? = some (a.start + i * a.step) ∧
    fits (a.start + i * a.step) = true ∧
    (Int64.ofInt a.start + Int64.ofInt i * Int64.ofInt a.step).toInt = a.start + i * a.step
  timestamps : a.timestamps =
    if lastOffset a.start a.stop a.step ≤ greatest then .ok a.wholeSteps else .error .product

/-- A sum that fits is right in 64 bits, whatever is wrapped around on the way. -/
theorem toInt_add_mul {start step i : Int} (h : fits (start + i * step) = true) :
    (Int64.ofInt start + Int64.ofInt i * Int64.ofInt step).toInt = start + i * step := by
  obtain ⟨hle, hge⟩ := fits_iff.1 h
  rw [← Int64.ofInt_mul, ← Int64.ofInt_add]
  exact Int64.toInt_ofInt_of_le hle (Int.lt_add_one_of_le hge)

variable {a : Series}

/-- The whole steps are the instants of the samples. -/
theorem mem_wholeSteps_iff {t : Int} :
    t ∈ a.wholeSteps ↔ ∃ i < a.samples.length, a.start + i * a.step = t := by
  simp [wholeSteps]

/-- The instants are found if and only if the last offset fits. -/
theorem timestamps_eq_ite (hstep : 0 < a.step) (hstart : fits a.start = true)
    (hstop : fits a.stop = true) (hlength : a.samples.length = slotCount a.start a.stop a.step) :
    a.timestamps =
      if lastOffset a.start a.stop a.step ≤ greatest then .ok a.wholeSteps
      else .error .product := by
  have hsums := sumsFit hstep hstart hstop
  rw [← hlength] at hsums
  have hoffsets : OffsetsFit a.step a.samples.length ↔
      lastOffset a.start a.stop a.step ≤ greatest := by
    rw [hlength, offsetsFit_iff hstep]
  split
  · next hle => exact timestamps_eq_ok_iff.2 ⟨⟨hoffsets.2 hle, hsums⟩, rfl⟩
  · next hgt => exact (timestamps_eq_error_iff hsums).2 ⟨mt hoffsets.1 hgt, rfl⟩

/-- A series with a sample for each slot lies on its interval. -/
theorem onInterval (hstep : 0 < a.step) (hstart : fits a.start = true)
    (hstop : fits a.stop = true) (hlength : a.samples.length = slotCount a.start a.stop a.step) :
    a.OnInterval := by
  constructor
  case ascending =>
    refine List.pairwise_map.2 (List.pairwise_lt_range.imp fun {i j} hij => ?_)
    have := Int.mul_lt_mul_of_pos_right (Int.ofNat_lt.2 hij) hstep
    omega
  case mem_iff =>
    intro t
    rw [mem_wholeSteps_iff, hlength]
    constructor
    · rintro ⟨i, hi, rfl⟩
      have hnonneg : 0 ≤ (i : Int) * a.step := Int.mul_nonneg (Int.natCast_nonneg i) hstep.le
      refine ⟨by omega, (lt_slotCount_iff hstep).1 hi, ?_⟩
      rw [add_sub_cancel_left]
      exact Int.dvd_mul_left _ _
    · rintro ⟨hle, hlt, n, hn⟩
      have hnonneg : 0 ≤ n := Int.nonneg_of_mul_nonneg_right (by omega) hstep
      lift n to Nat using hnonneg
      have hmul := Int.mul_comm a.step n
      exact ⟨n, (lt_slotCount_iff hstep).2 (by omega), by omega⟩
  case sum =>
    intro i hi
    have hfits := sumsFit hstep hstart hstop i (hlength ▸ hi)
    refine ⟨?_, hfits, toInt_add_mul hfits⟩
    simp [wholeSteps, hi]
  case timestamps => exact timestamps_eq_ite hstep hstart hstop hlength

end Series

open MemoryStore

/-- A blank series of which there is room for all samples has the instants of its interval. A store
looks for the values of the paths that match at the instants of the bounds. It crashes if there is
such a path and these are too many, or too far from the first one. -/
theorem timestamps_blank_fetch {start stop step : Int} (hstep : 1 ≤ step)
    (hstart : fits start = true) (hstop : fits stop = true) :
    (∀ name,
      (Series.maxSlots < Series.slotCount start stop step ∧
        Series.blank name start stop step = .error .capacity) ∨
      ∃ a, Series.blank name start stop step = .ok a ∧ a.OnInterval ∧
        a.start = start ∧ a.stop = stop ∧ a.step = step) ∧
    ∀ s : MemoryStore, s.step = step → ∀ tenant pattern regex first last,
      matcher pattern = .ok regex → bounds? step start stop = some (first, last) →
        (∀ path slots, (path, slots) ∈ s.matching tenant regex →
          let a := seriesOver step (first, last) path slots
          a.samples = a.wholeSteps.map (fun t => (s.slotsAt tenant path)[t]?) ∧ a.OnInterval) ∧
        (∀ overflow, s.fetch tenant pattern start stop = .error (.crashed overflow) ↔
          s.matching tenant regex ≠ [] ∧ Series.overflow? first last step = some overflow) ∧
        ((s.matching tenant regex ≠ [] → Series.overflow? first last step = none) →
          s.fetch tenant pattern start stop = .ok ((s.matching tenant regex).map
            fun (path, slots) => seriesOver step (first, last) path slots)) := by
  constructor
  · intro name
    by_cases hroom : Series.slotCount start stop step ≤ Series.maxSlots
    · exact Or.inr ⟨_, Series.blank_eq_ok_iff.2 ⟨hroom, rfl⟩,
        Series.onInterval hstep hstart hstop List.length_replicate, rfl, rfl, rfl⟩
    · have hlt := Nat.lt_of_not_le hroom
      refine Or.inl ⟨hlt, bind_eq_error_iff.2 (Or.inl ?_)⟩
      exact Series.room_eq_error_iff.2 ⟨hlt, rfl⟩
  · rintro s rfl tenant pattern regex first last hregex hbounds
    obtain ⟨-, hfirst, hlast⟩ := isLeastCover_of_bounds? s.step_pos hbounds
    refine ⟨fun path slots hpath => ?_,
      fun overflow => fetch_eq_crashed_iff hregex hbounds hfirst hlast, fun hfits => ?_⟩
    · obtain ⟨-, -, rfl⟩ := mem_matching_iff.1 hpath
      refine ⟨?_, Series.onInterval s.step_pos hfirst hlast ?_⟩
      · simp [seriesOver, Series.wholeSteps]
      · simp [seriesOver]
    · refine fetch_eq_ok_iff.2 ⟨regex, (first, last), hregex, hbounds, fun hne => ?_, rfl⟩
      exact (Series.representable_iff s.step_pos hfirst hlast).2 (hfits hne)

/-- A quarter of all the seconds between two instants. -/
def quarter : Int := 0x4000000000000000

/-- A store with one value, at the epoch, and few slots. -/
def sparseStore : MemoryStore :=
  (empty quarter).write "acme" "a" 0 7.0

/-- The widest interval has three instants for the greatest step, and the last one is too far from
the first. So is the epoch from the first of the slots that cover three quarters of all instants. -/
theorem timestamps_blank_fetch_widest :
    let widest : Series := ⟨"a", least, greatest, greatest, [none, none, none]⟩
    (1 ≤ greatest ∧ 1 ≤ quarter ∧ fits least = true ∧ fits greatest = true ∧
      fits quarter = true) ∧
    (Series.blank "a" least greatest greatest = .ok widest ∧ widest.OnInterval ∧
      widest.wholeSteps = [least, -1, greatest - 1] ∧ widest.timestamps = .error .product) ∧
    sparseStore.fetch "acme" "a" least quarter = .error (.crashed .product) := by
  intro widest
  have hfits : 1 ≤ greatest ∧ 1 ≤ quarter ∧ fits least = true ∧ fits greatest = true ∧
      fits quarter = true := by
    decide
  obtain ⟨hgreatest, hquarter, hleast, hwide, hquarterFits⟩ := hfits
  have hblank : Series.blank "a" least greatest greatest = .ok widest := rfl
  obtain ⟨-, herror⟩ | ⟨a, ha, hon, -⟩ := (timestamps_blank_fetch hgreatest hleast hwide).1 "a"
  · cases hblank.symm.trans herror
  obtain rfl := Except.ok.inj (hblank.symm.trans ha)
  refine ⟨⟨hgreatest, hquarter, hleast, hwide, hquarterFits⟩,
    ⟨hblank, hon, rfl, hon.timestamps.trans (if_neg (by decide))⟩, ?_⟩
  obtain ⟨regex, hregex, hmatch⟩ := exists_matcher_letter
  have hbounds : bounds? quarter least quarter = some (least, quarter) := by decide
  have hpath : "a" ∈ sparseStore.pathsOf "acme" := mem_pathsOf_write.2 (Or.inr ⟨rfl, rfl⟩)
  have hmatching := List.ne_nil_of_mem (mem_matching_iff.2 ⟨hmatch, hpath, rfl⟩)
  obtain ⟨-, hcrashed, -⟩ := (timestamps_blank_fetch hquarter hleast hquarterFits).2 sparseStore rfl
    "acme" "a" regex least quarter hregex hbounds
  exact (hcrashed .product).2 ⟨hmatching, by decide⟩

/-- So a sample's instant may fit though its offset does not, and then it is not found. -/
theorem exists_offset_not_fits :
    (∃ (start stop step : Int) (a : Series) (i : Nat), 1 ≤ step ∧ fits start = true ∧
      fits stop = true ∧ Series.blank "a" start stop step = .ok a ∧ i < a.samples.length ∧
      fits (start + i * step) = true ∧ fits (i * step) = false ∧
      a.timestamps = .error .product) ∧
    ∃ (s : MemoryStore) (start stop first last : Int) (i : Nat), fits start = true ∧
      fits stop = true ∧ bounds? s.step start stop = some (first, last) ∧
      i < Series.slotCount first last s.step ∧
      fits (first + i * s.step) = true ∧ fits (i * s.step) = false ∧
      s.fetch "acme" "a" start stop = .error (.crashed .product) := by
  constructor
  · exact ⟨least, greatest, greatest, ⟨"a", least, greatest, greatest, [none, none, none]⟩, 2,
      by decide, by decide, by decide, rfl, by decide, by decide, by decide, rfl⟩
  · refine ⟨sparseStore, least, quarter, least, quarter, 2, by decide, by decide, by decide,
      by decide, by decide, by decide, ?_⟩
    have hpaths : (sparseStore.pathsOf "acme").toList = [("a", (∅ : Slots).insert 0 7.0)] := rfl
    have hbounds : bounds? sparseStore.step least quarter = some (least, quarter) := by decide
    rw [fetch_of_toList_pathsOf hpaths exists_matcher_letter hbounds]
    rfl

end SeriesRender
