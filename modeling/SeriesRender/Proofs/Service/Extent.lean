import SeriesRender.Proofs.Service.InternalErrors
import SeriesRender.Proofs.Service.Rejection
import SeriesRender.Proofs.Store.Cover

/-!
# How long fetched series are

The series that a store in memory answers with lie on the least cover of the range they are asked
for (`MemoryStore.exists_isLeastCover_of_fetch`), so their length is bounded by the range. A service
asks for no other range than that of the request, and only after the range has passed the check
(`Service.exists_admits_of_mem_calls`). So the widest range that the settings allow bounds the
series that are built for any request (`bounds_fetch_serve`).
-/

namespace SeriesRender

open MemoryStore

/-- What is fetched covers the interval with a sample for each slot. -/
theorem MemoryStore.exists_isLeastCover_of_fetch {s : MemoryStore} {tenant pattern : String}
    {start stop : Int} {result : List Series}
    (h : s.fetch tenant pattern start stop = .ok result) :
    ∃ first last, IsLeastCover s.step start stop first last ∧
      ∀ a ∈ result, a.samples.length = Series.slotCount first last s.step := by
  obtain ⟨regex, ⟨first, last⟩, -, hbounds, -, rfl⟩ := fetch_eq_ok_iff.1 h
  refine ⟨first, last, (isLeastCover_of_bounds? s.step_pos hbounds).1, fun a ha => ?_⟩
  obtain ⟨⟨path, slots⟩, -, rfl⟩ := List.mem_map.1 ha
  simp [seriesOver]

namespace Service

variable {s : Service}

/-- What is asked of the store has the tenant and the interval of the request. -/
theorem of_mem_calls_work {p : Parameters} {evaluation : Trace Response} {call : Turns × StoreCall}
    (h : call ∈ (s.work p evaluation).1.calls) :
    call.2.tenant = p.tenant ∧ call.2.start = p.start ∧ call.2.stop = p.stop := by
  rw [run_work] at h
  cases hl : s.pool.lease? s.now s.deadline evaluation.duration with
  | none =>
    rw [hl] at h
    cases h
  | some l =>
    rw [hl] at h
    obtain ⟨⟨turns, f⟩, -, rfl⟩ := List.mem_map.1 h
    exact ⟨rfl, rfl, rfl⟩

/-- A request that asks a store for anything has passed the check, and asks for its own range. -/
theorem admits_of_mem_calls_render {p : Parameters} {call : Turns × StoreCall}
    (h : call ∈ (s.render p).1.calls) : s.settings.render.Admits p ∧
      call.2.tenant = p.tenant ∧ call.2.start = p.start ∧ call.2.stop = p.stop := by
  cases hc : s.settings.render.check p with
  | error e =>
    rw [render, hc] at h
    cases h
  | ok targets =>
    rw [s.render_of_check hc] at h
    split at h
    · cases h
    · exact ⟨⟨targets, hc⟩, of_mem_calls_work h⟩

/-- Whatever is asked of a store is asked for one of the requests that passed the check. -/
theorem exists_admits_of_mem_calls {requests : List Parameters} {call : StoreCall}
    (h : call ∈ (s.serve requests).2.1) : ∃ p ∈ requests, s.settings.render.Admits p ∧
      call.tenant = p.tenant ∧ call.start = p.start ∧ call.stop = p.stop := by
  change call ∈ callsInOrder (s.renderAll requests).1 at h
  obtain ⟨made, hmade, rfl⟩ := List.mem_map.1 h
  obtain ⟨run, hrun, hmade⟩ := List.mem_flatMap.1 (List.mem_mergeSort.1 hmade)
  obtain ⟨p, hp, t, hsettings, -, rfl⟩ := s.exists_render_of_mem_renderAll hrun
  obtain ⟨hadmits, hcall⟩ := admits_of_mem_calls_render hmade
  exact ⟨p, hp, hsettings ▸ hadmits, hcall⟩

end Service

/-- The bounds of a range are its least cover, if the ends of that are instants. A series that is
fetched has one sample if the range is empty, and otherwise one more than the range has started
steps, at most. So a range that passes a check against a limit leads to no more samples than the
limit has started steps and one, and this holds for all that is fetched for any requests, the limit
being that of the settings. -/
theorem bounds_fetch_serve {step : Int} (hstep : 1 ≤ step) (start : Int) {stop : Int}
    (hstop : Timestamp.least ≤ stop) :
    (∃ first last, IsLeastCover step start stop first last) ∧
    (∀ first last, bounds? step start stop = some (first, last) ↔
      IsLeastCover step start stop first last ∧
        Timestamp.fits first = true ∧ Timestamp.fits last = true) ∧
    (∀ s : MemoryStore, s.step = step → ∀ tenant pattern result,
      s.fetch tenant pattern start stop = .ok result → ∀ a ∈ result,
        (stop ≤ start → a.samples.length = 1) ∧
        (start < stop →
          (a.samples.length : Int) ≤ ⌈((stop - start : Int) : ℚ) / step⌉ + 1) ∧
        ∀ (p : Parameters) (limit : Nat), p.start = start → p.stop = stop →
          p.checkRange limit = .ok () → (a.samples.length : Int) ≤ ⌈(limit : ℚ) / step⌉ + 1) ∧
    ∀ (s : Service) (store : MemoryStore), s.backend = .memory store → store.step = step →
      ∀ requests, ∀ call ∈ (s.serve requests).2.1, ∀ result,
        store.fetch call.tenant call.pattern call.start call.stop = .ok result → ∀ a ∈ result,
          (a.samples.length : Int) ≤
            ⌈(s.settings.render.maxRange.wholeSeconds : ℚ) / step⌉ + 1 := by
  have hpos : 0 < step := hstep
  have hlimit : ∀ {s : MemoryStore} {tenant pattern result} {p : Parameters} {limit : Nat},
      s.step = step → p.checkRange limit = .ok () →
      s.fetch tenant pattern p.start p.stop = .ok result → ∀ a ∈ result,
        (a.samples.length : Int) ≤ ⌈(limit : ℚ) / step⌉ + 1 := by
    rintro s tenant pattern result p limit rfl hrange h a ha
    obtain ⟨first, last, hcover, hlength⟩ := exists_isLeastCover_of_fetch h
    rw [hlength a ha]
    exact_mod_cast hcover.slotCount_le_ceil hpos (Int.natCast_nonneg limit)
      (Parameters.checkRange_eq_ok_iff.1 hrange)
  refine ⟨exists_isLeastCover hpos start stop, fun first last => ⟨?_, ?_⟩, ?_, ?_⟩
  · exact isLeastCover_of_bounds? hpos
  · rintro ⟨hcover, hfits⟩
    rw [hcover.bounds?_eq hpos hstop, if_pos hfits]
  · rintro s rfl tenant pattern result h a ha
    obtain ⟨first, last, hcover, hlength⟩ := exists_isLeastCover_of_fetch h
    rw [hlength a ha]
    refine ⟨hcover.slotCount_of_le hpos, fun hlt => ?_, ?_⟩
    · exact hcover.slotCount_le_ceil hpos (by omega) (Int.le_refl _)
    · rintro p limit rfl rfl hrange
      rw [← hlength a ha]
      exact hlimit rfl hrange h a ha
  · intro s store _ hstore requests call hcall result h a ha
    obtain ⟨p, -, ⟨targets, hc⟩, -, hstart, hstop⟩ := Service.exists_admits_of_mem_calls hcall
    rw [hstart, hstop] at h
    exact hlimit hstore (RenderSettings.check_eq_ok_iff.1 hc).1 h a ha

/-- A range of 62 seconds around the epoch is covered by three slots of a minute : one more than the
minutes that it starts. -/
theorem bounds_fetch_serve_minutes : (1 : Int) ≤ 60 ∧ Timestamp.least ≤ 61 ∧
    IsLeastCover 60 (-1) 61 (-60) 120 ∧
    ((empty 60).write "acme" "a" 0 7.0).fetch "acme" "a" (-1) 61 =
      .ok [⟨"a", -60, 120, 60, [none, some 7.0, none]⟩] ∧
    (3 : Int) ≤ ⌈((61 - -1 : Int) : ℚ) / (60 : Int)⌉ + 1 := by
  have hfetch : ((empty 60).write "acme" "a" 0 7.0).fetch "acme" "a" (-1) 61 =
      .ok [⟨"a", -60, 120, 60, [none, some 7.0, none]⟩] := by
    have hpaths : (((empty 60).write "acme" "a" 0 7.0).pathsOf "acme").toList =
        [("a", (∅ : Slots).insert 0 7.0)] := rfl
    rw [fetch_of_toList_pathsOf hpaths exists_matcher_letter rfl]
    rfl
  obtain ⟨-, hbounds, hlength, -⟩ :=
    bounds_fetch_serve (by decide : (1 : Int) ≤ 60) (-1) (by decide : Timestamp.least ≤ 61)
  exact ⟨by decide, by decide, ((hbounds (-60) 120).1 rfl).1, hfetch,
    (hlength _ rfl _ _ _ hfetch _ (List.mem_singleton.2 rfl)).2.1 (by decide)⟩

end SeriesRender
