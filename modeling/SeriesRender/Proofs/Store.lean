import SeriesRender.Proofs.Series
import SeriesRender.Store.Memory

/-!
# Writing to the store in memory

A point can be written when it has a slot; `insert_eq_ok_iff` says which store that gives.
`pathsOf_write` says what a write does to the paths of every tenant, and `slotsAt_write` what it
does to the values at every path. `fetch_eq_ok_iff` says which series a store answers with, and that
it crashes over a range that is not `Series.Representable` if there is a series to make;
`fetch_eq_crashed_iff` says how.
-/

namespace SeriesRender.MemoryStore

variable {s t : MemoryStore} {tenant path : String} {timestamp : Int} {value : Float}

/-- The paths that a tenant has. -/
def pathsOf (s : MemoryStore) (tenant : String) : Paths :=
  s.tenants[tenant]?.getD ∅

/-- A point is inserted if its timestamp has a slot. -/
theorem insert_eq_ok_iff : s.insert tenant path timestamp value = .ok t ↔
    ∃ slot, slot? s.step timestamp = some slot ∧ t = s.write tenant path slot value := by
  unfold insert
  cases slot? s.step timestamp with
  | none => simp
  | some slot => simp [eq_comm]

@[simp] theorem step_write (s : MemoryStore) (tenant path : String) (slot : Int) (value : Float) :
    (s.write tenant path slot value).step = s.step := rfl

theorem slotsAt_eq (s : MemoryStore) (tenant path : String) :
    s.slotsAt tenant path = ((s.pathsOf tenant)[path]?).getD ∅ := rfl

/-- A point is written for one tenant only. -/
theorem pathsOf_write (s : MemoryStore) (tenant path other : String) (slot : Int) (value : Float) :
    (s.write tenant path slot value).pathsOf other =
      if tenant = other then
        (s.pathsOf tenant).insert path ((s.slotsAt tenant path).insert slot value)
      else s.pathsOf other := by
  unfold write pathsOf slotsAt
  dsimp only
  rw [Std.TreeMap.getElem?_insert]
  by_cases ht : tenant = other <;> simp [ht]

/-- Writing adds the path that is written to, and takes none away. -/
theorem mem_pathsOf_write {other name : String} {slot : Int} :
    name ∈ (s.write tenant path slot value).pathsOf other ↔
      name ∈ s.pathsOf other ∨ tenant = other ∧ path = name := by
  rw [pathsOf_write]
  by_cases ht : tenant = other
  · subst ht
    simp [or_comm]
  · simp [ht]

/-- Writing changes one slot of one path. -/
theorem slotsAt_write (s : MemoryStore) (tenant path other name : String) (slot : Int)
    (value : Float) : (s.write tenant path slot value).slotsAt other name =
      if tenant = other ∧ path = name then (s.slotsAt tenant path).insert slot value
      else s.slotsAt other name := by
  rw [slotsAt_eq, pathsOf_write]
  by_cases ht : tenant = other
  · subst ht
    by_cases hp : path = name
    · subst hp
      simp
    · simp [Std.TreeMap.getElem?_insert, hp, slotsAt_eq]
  · simp [ht, slotsAt_eq]

/-! ## Reading -/

/-- The paths that match, in their order, with the values at each. -/
def matching (s : MemoryStore) (tenant : String) (regex : Regex) : List (String × Slots) :=
  (s.pathsOf tenant).toList.filter fun (path, _) => regex.isMatch path.toList

/-- A selector finds the paths of the tenant that its pattern matches, with their slots. -/
theorem mem_matching_iff {tenant path : String} {regex : Regex} {slots : Slots} :
    (path, slots) ∈ s.matching tenant regex ↔
      regex.isMatch path.toList = true ∧ path ∈ s.pathsOf tenant ∧
        s.slotsAt tenant path = slots := by
  rw [matching, List.mem_filter, Std.TreeMap.mem_toList_iff_getElem?_eq_some, slotsAt_eq,
    Std.TreeMap.mem_iff_isSome_getElem?]
  cases (s.pathsOf tenant)[path]? <;> simp [and_comm]

/-- The series of a path over a range whose slots can all be found. -/
def seriesOver (step : Int) (range : Int × Int) (path : String) (slots : Slots) : Series :=
  ⟨path, range.1, range.2, step,
    (List.range (Series.slotCount range.1 range.2 step)).map fun i : Nat =>
      slots[range.1 + i * step]?⟩

section

variable {step : Int} {range : Int × Int} {slots : Slots} {overflow : Overflow}

/-- A series is made from the slots if all of its instants can be represented. -/
theorem seriesOf_eq_ok_iff {a : Series} : seriesOf step range path slots = .ok a ↔
    Series.Representable range.1 range.2 step ∧ seriesOver step range path slots = a := by
  rw [seriesOf, bind_eq_ok_iff]
  constructor
  · rintro ⟨count, hroom, h⟩
    obtain ⟨hle, rfl⟩ := Series.room_eq_ok_iff.1 hroom
    obtain ⟨ts, hts, h⟩ := bind_eq_ok_iff.1 h
    obtain ⟨⟨hoffsets, hsums⟩, rfl⟩ := Series.instants_eq_ok_iff.1 hts
    obtain rfl := Except.ok.inj h
    refine ⟨⟨hle, hoffsets, hsums⟩, ?_⟩
    rw [List.map_map]
    rfl
  · rintro ⟨h, rfl⟩
    refine ⟨_, Series.room_eq_ok_iff.2 ⟨h.room, rfl⟩, bind_eq_ok_iff.2
      ⟨_, Series.instants_eq_ok_iff.2 ⟨⟨h.offsets, h.sums⟩, rfl⟩, ?_⟩⟩
    rw [List.map_map]
    rfl

/-- Whether a series can be made does not depend on its path, nor on the values there. -/
theorem seriesOf_eq_error_iff (hstep : 0 < step) (hfirst : Timestamp.fits range.1 = true)
    (hlast : Timestamp.fits range.2 = true) : seriesOf step range path slots = .error overflow ↔
      Series.overflow? range.1 range.2 step = some overflow := by
  rw [seriesOf, bind_eq_error_iff, Series.room_eq_error_iff, Series.overflow?_eq_some_iff hstep]
  refine or_congr_right ?_
  rw [← Series.instants_eq_error_iff (Series.sumsFit hstep hfirst hlast)]
  constructor
  · rintro ⟨count, hroom, h⟩
    obtain ⟨hle, rfl⟩ := Series.room_eq_ok_iff.1 hroom
    exact ⟨hle, (bind_eq_error_iff.1 h).resolve_right fun ⟨ts, hts⟩ => by cases hts.2⟩
  · rintro ⟨hle, h⟩
    exact ⟨_, Series.room_eq_ok_iff.2 ⟨hle, rfl⟩, bind_eq_error_iff.2 (Or.inl h)⟩

end

section

variable {pattern : String} {start stop : Int} {range : Int × Int}

/-- Within the bounds of a range, the series of the paths that match are made one by one. -/
theorem fetch_eq_mapM {regex : Regex} (hregex : matcher pattern = .ok regex)
    (hbounds : bounds? s.step start stop = some range) :
    s.fetch tenant pattern start stop = (s.matching tenant regex).mapM fun (path, slots) =>
      (seriesOf s.step range path slots).mapError .crashed := by
  rw [fetch, hregex, hbounds]
  rfl

/-- A store answers with the series of the paths that match. If there is one, all slots of the range
have to be found. -/
theorem fetch_eq_ok_iff {result : List Series} :
    s.fetch tenant pattern start stop = .ok result ↔
      ∃ regex range, matcher pattern = .ok regex ∧ bounds? s.step start stop = some range ∧
        (s.matching tenant regex ≠ [] → Series.Representable range.1 range.2 s.step) ∧
        (s.matching tenant regex).map (fun (path, slots) => seriesOver s.step range path slots) =
          result := by
  have hseries : ∀ (range : Int × Int) (entry : String × Slots) (a : Series),
      ((seriesOf s.step range entry.1 entry.2).mapError .crashed : Except StoreError Series) =
        .ok a ↔ Series.Representable range.1 range.2 s.step ∧
          seriesOver s.step range entry.1 entry.2 = a := fun range entry a => by
    rw [mapError_eq_ok_iff, seriesOf_eq_ok_iff]
  constructor
  · intro h
    obtain ⟨regex, hregex, h⟩ := bind_eq_ok_iff.1 h
    cases hbounds : bounds? s.step start stop with
    | none =>
      rw [hbounds] at h
      cases h
    | some range =>
      rw [hbounds] at h
      obtain ⟨hall, hmap⟩ := (mapM_eq_ok_iff_map (hseries range)).1 h
      exact ⟨regex, range, hregex, rfl, fun hne =>
        (List.exists_mem_of_ne_nil _ hne).elim hall, hmap⟩
  · rintro ⟨regex, range, hregex, hbounds, hall, hmap⟩
    rw [fetch_eq_mapM hregex hbounds]
    exact (mapM_eq_ok_iff_map (hseries range)).2
      ⟨fun entry hentry => hall (List.ne_nil_of_mem hentry), hmap⟩

/-- If there is one, the store crashes over a range that is too wide. -/
theorem fetch_eq_crashed_iff {regex : Regex} {overflow : Overflow}
    (hregex : matcher pattern = .ok regex) (hbounds : bounds? s.step start stop = some range)
    (hfirst : Timestamp.fits range.1 = true) (hlast : Timestamp.fits range.2 = true) :
    s.fetch tenant pattern start stop = .error (.crashed overflow) ↔
      s.matching tenant regex ≠ [] ∧
        Series.overflow? range.1 range.2 s.step = some overflow := by
  have hseries : ∀ entry : String × Slots, ((seriesOf s.step range entry.1 entry.2).mapError
      .crashed : Except StoreError Series) = .error (.crashed overflow) ↔
        Series.overflow? range.1 range.2 s.step = some overflow := fun (path, slots) => by
    simp only [mapError_eq_error_iff, seriesOf_eq_error_iff s.step_pos hfirst hlast,
      StoreError.crashed.injEq, exists_eq_right]
  rw [fetch_eq_mapM hregex hbounds, mapM_eq_error_iff]
  constructor
  · rintro ⟨before, entry, after, hmatching, -, h⟩
    exact ⟨by simp [hmatching], (hseries entry).1 h⟩
  · rintro ⟨hne, h⟩
    obtain ⟨entry, rest, hmatching⟩ := List.exists_cons_of_ne_nil hne
    exact ⟨[], entry, rest, hmatching, List.forall_mem_nil _, (hseries entry).2 h⟩

/-- A tenant whose only path matches gets its series. -/
theorem fetch_of_toList_pathsOf {slots : Slots}
    (hpaths : (s.pathsOf tenant).toList = [(path, slots)])
    (hmatch : ∃ regex, matcher pattern = .ok regex ∧ regex.isMatch path.toList = true)
    (hbounds : bounds? s.step start stop = some range) :
    s.fetch tenant pattern start stop =
      ((seriesOf s.step range path slots).mapError .crashed).map fun a => [a] := by
  obtain ⟨regex, hregex, hmatch⟩ := hmatch
  have hmatching : s.matching tenant regex = [(path, slots)] := by
    simp [matching, hpaths, hmatch]
  rw [fetch_eq_mapM hregex hbounds, hmatching, List.mapM_cons, List.mapM_nil]
  dsimp only
  cases seriesOf s.step range path slots <;> rfl

end

theorem exists_matcher_letter :
    ∃ regex, matcher "a" = .ok regex ∧ regex.isMatch "a".toList = true := by
  have h : ((matcher "a").toOption.map fun r => r.isMatch "a".toList) = some true := by
    decide +kernel
  obtain ⟨regex, hregex, hmatch⟩ := Option.map_eq_some_iff.1 h
  exact ⟨regex, toOption_eq_some_iff.1 hregex, hmatch⟩

end SeriesRender.MemoryStore
