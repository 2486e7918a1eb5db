import Mathlib.Data.List.Sort
import Mathlib.Data.String.Basic
import SeriesRender.Proofs.Store

/-!
# What a store remembers

A store keeps a value for each slot, and a series is read slot by slot. What it answers can be told
from the points that were inserted, without slots : `latest` is the last value that was inserted
between two instants, and `Reports` says that series are those of the paths that points were
inserted at, with `latest` for their samples. `represents_insertEach` follows the store through a
history of insertions, some of which may fail, and `fetch_insertEach` says that the series which it
answers with are just the ones that report what was inserted. It has no answer if there are any to
report over a range whose slots cannot all be found (`Series.Representable`).
-/

namespace SeriesRender

/-! ## Insertions -/

/-- A point to insert for a tenant. -/
structure Insertion where
  tenant : String
  path : String
  timestamp : Int
  value : Float

/-- The value of the last insertion at a tenant's path between two instants. -/
def latest (done : List Insertion) (tenant path : String) (start stop : Int) : Option Float :=
  let there := done.filter fun i =>
    i.tenant = tenant ∧ i.path = path ∧ start ≤ i.timestamp ∧ i.timestamp < stop
  there.getLast?.map (·.value)

theorem latest_append_singleton (done : List Insertion) (i : Insertion) (tenant path : String)
    (start stop : Int) : latest (done ++ [i]) tenant path start stop =
      (if i.tenant = tenant ∧ i.path = path ∧ start ≤ i.timestamp ∧ i.timestamp < stop
        then some i.value else none).or (latest done tenant path start stop) := by
  unfold latest
  dsimp only
  rw [List.filter_append, List.getLast?_append]
  by_cases h : i.tenant = tenant ∧ i.path = path ∧ start ≤ i.timestamp ∧ i.timestamp < stop
  · rw [if_pos h, List.filter_cons_of_pos (by simpa using h)]
    rfl
  · rw [if_neg h, List.filter_cons_of_neg (by simpa using h)]
    rfl

namespace MemoryStore

/-! ## Slots -/

variable {step start stop first last slot timestamp : Int}

/-- The slot of an instant is the one that it lies in. -/
theorem slot_eq_iff (hstep : 0 < step) (hslot : step ∣ slot) :
    timestamp - timestamp % step = slot ↔ slot ≤ timestamp ∧ timestamp < slot + step := by
  obtain ⟨n, rfl⟩ := hslot
  have hlow := Int.emod_nonneg timestamp hstep.ne'
  have hhigh := Int.emod_lt_of_pos timestamp hstep
  constructor
  · intro h
    omega
  · rintro ⟨hle, hlt⟩
    have hmod : (timestamp - step * n) % step = timestamp - step * n :=
      Int.emod_eq_of_lt (by omega) (by omega)
    rw [Int.sub_mul_emod_self_left] at hmod
    omega

/-- A slot is a multiple of the resolution. -/
theorem dvd_of_slot? (h : slot? step timestamp = some slot) : step ∣ slot := by
  obtain ⟨-, rfl⟩ := Timestamp.checked_eq_some_iff.1 h
  exact Int.dvd_self_sub_emod

/-- Rounding up gives a multiple of the resolution. -/
theorem dvd_add_emod (step stop : Int) : step ∣ stop + (step - stop % step) % step := by
  rw [Int.dvd_iff_emod_eq_zero, Int.add_emod_emod, ← Int.add_sub_assoc, Int.sub_emod_emod,
    Int.add_comm stop, Int.add_sub_cancel, Int.emod_self]

/-- The bounds of a range are slots, and there is one between them. -/
theorem dvd_of_bounds? (hstep : 0 < step) (h : bounds? step start stop = some (first, last)) :
    step ∣ first ∧ step ∣ last ∧ first < last := by
  simp only [bounds?, Option.bind_eq_bind, Option.bind_eq_some_iff] at h
  obtain ⟨f, hf, l, hl, h⟩ := h
  have hdvd := dvd_of_slot? hf
  obtain ⟨-, rfl⟩ := Timestamp.checked_eq_some_iff.1 hl
  split at h
  · obtain ⟨l, hl, h⟩ := Option.bind_eq_some_iff.1 h
    obtain ⟨rfl, rfl⟩ := Prod.mk.inj (Option.some.inj h)
    obtain ⟨-, rfl⟩ := Timestamp.checked_eq_some_iff.1 hl
    exact ⟨hdvd, Int.dvd_add hdvd (Int.dvd_refl step), by omega⟩
  · obtain ⟨rfl, rfl⟩ := Prod.mk.inj (Option.some.inj h)
    exact ⟨hdvd, dvd_add_emod step stop, by omega⟩

/-- A cover has as many slots as it is steps long. -/
theorem slotCount_of_dvd (hstep : 0 < step) (hlt : first < last) (hdvd : step ∣ last - first) :
    (Series.slotCount first last step : Int) = (last - first) / step := by
  obtain ⟨n, hn⟩ := hdvd
  have hpos : 0 < step * n := by omega
  have hn0 : 0 ≤ n := (Int.pos_of_mul_pos_right hpos hstep).le
  have hcover : (step * n + step - 1) / step = n := by
    rw [Int.add_sub_assoc, Int.mul_add_ediv_left _ _ hstep.ne',
      Int.ediv_eq_zero_of_lt (by omega) (by omega), Int.add_zero]
  rw [Series.slotCount, if_neg (by omega), hn, hcover, Int.mul_ediv_cancel_left _ hstep.ne',
    Int.toNat_of_nonneg hn0]

/-! ## A history of insertions -/

/-- Insert points one after the other : those that were inserted, and the store in the end. A point
that cannot be inserted leaves the store as it is. -/
def insertEach (s : MemoryStore) : List Insertion → List Insertion × MemoryStore
  | [] => ([], s)
  | i :: rest =>
    match s.insert i.tenant i.path i.timestamp i.value with
    | .ok t => ((t.insertEach rest).1.cons i, (t.insertEach rest).2)
    | .error _ => s.insertEach rest

/-- Just the points with a slot are inserted. -/
theorem fst_insertEach (s : MemoryStore) (history : List Insertion) : (s.insertEach history).1 =
    history.filter fun i => (slot? s.step i.timestamp).isSome := by
  induction history generalizing s with
  | nil => rfl
  | cons i rest ih =>
    rw [insertEach, insert]
    cases hslot : slot? s.step i.timestamp with
    | none =>
      rw [List.filter_cons_of_neg (by simp [hslot])]
      exact ih s
    | some slot =>
      rw [List.filter_cons_of_pos (by simp [hslot])]
      exact congrArg (List.cons i) (ih _)

theorem step_insertEach (s : MemoryStore) (history : List Insertion) :
    (s.insertEach history).2.step = s.step := by
  induction history generalizing s with
  | nil => rfl
  | cons i rest ih =>
    rw [insertEach]
    cases hi : s.insert i.tenant i.path i.timestamp i.value with
    | error e => exact ih s
    | ok t =>
      obtain ⟨slot, -, rfl⟩ := insert_eq_ok_iff.1 hi
      exact ih _

/-- The store holds what was inserted. -/
structure Represents (s : MemoryStore) (done : List Insertion) : Prop where
  mem_paths : ∀ tenant path,
    path ∈ s.pathsOf tenant ↔ ∃ i ∈ done, i.tenant = tenant ∧ i.path = path
  value_at : ∀ tenant path slot, s.step ∣ slot →
    (s.slotsAt tenant path)[slot]? = latest done tenant path slot (slot + s.step)

variable {s t : MemoryStore} {done : List Insertion}

/-- An empty store represents no insertions. -/
theorem represents_empty (step : Int) : (empty step).Represents [] where
  mem_paths tenant path := by
    simp [pathsOf, empty]
  value_at tenant path slot _ := by
    simp [slotsAt, empty, latest]

/-- One more insertion is represented if it is accepted. -/
theorem represents_insert {i : Insertion} (h : s.Represents done)
    (hi : s.insert i.tenant i.path i.timestamp i.value = .ok t) : t.Represents (done ++ [i]) := by
  obtain ⟨slot, hslot, rfl⟩ := insert_eq_ok_iff.1 hi
  obtain ⟨-, rfl⟩ := Timestamp.checked_eq_some_iff.1 hslot
  constructor
  · intro tenant path
    rw [mem_pathsOf_write, h.mem_paths]
    simp [or_and_right, exists_or]
  · intro tenant path k hk
    have hin : i.timestamp - i.timestamp % s.step = k ↔
        k ≤ i.timestamp ∧ i.timestamp < k + s.step := slot_eq_iff s.step_pos hk
    rw [step_write, latest_append_singleton, slotsAt_write, ← h.value_at tenant path k hk]
    simp only [← hin]
    by_cases hpath : i.tenant = tenant ∧ i.path = path
    · obtain ⟨rfl, rfl⟩ := hpath
      rw [if_pos ⟨rfl, rfl⟩, Std.TreeMap.getElem?_insert]
      by_cases heq : i.timestamp - i.timestamp % s.step = k <;> simp [heq]
    · rw [if_neg hpath, if_neg fun h => hpath ⟨h.1, h.2.1⟩]
      rfl

theorem represents_insertEach (h : s.Represents done) (history : List Insertion) :
    (s.insertEach history).2.Represents (done ++ (s.insertEach history).1) := by
  induction history generalizing s done with
  | nil => rwa [insertEach, List.append_nil]
  | cons i rest ih =>
    rw [insertEach]
    cases hi : s.insert i.tenant i.path i.timestamp i.value with
    | error e => exact ih h
    | ok t =>
      dsimp only
      rw [List.append_cons]
      exact ih (represents_insert h hi)

/-! ## Reading -/

/-- Series are those of a tenant's paths which match and which something was inserted at, in
ascending order, over a range of slots, and their samples are the values last inserted. -/
structure Reports (done : List Insertion) (tenant : String) (regex : Regex)
    (step first last : Int) (result : List Series) : Prop where
  ascending : (result.map Series.name).Pairwise (· < ·)
  mem_names : ∀ path, path ∈ result.map Series.name ↔
    regex.isMatch path.toList = true ∧ ∃ i ∈ done, i.tenant = tenant ∧ i.path = path
  range : ∀ s ∈ result, s.start = first ∧ s.stop = last ∧ s.step = step
  length_samples : ∀ s ∈ result, (s.samples.length : Int) = (last - first) / step
  sample : ∀ s ∈ result, ∀ (i : Nat) (hi : i < s.samples.length), s.samples[i] =
    latest done tenant s.name (first + i * step) (first + (i + 1) * step)

namespace Reports

variable {tenant : String} {regex : Regex} {step first last : Int} {result result' : List Series}

/-- The series of a report are told apart by their names. -/
theorem eq_of_name (h : Reports done tenant regex step first last result)
    (h' : Reports done tenant regex step first last result') {a b : Series} (ha : a ∈ result)
    (hb : b ∈ result') (hname : a.name = b.name) : a = b := by
  obtain ⟨hstart, hstop, hstep⟩ := h.range a ha
  obtain ⟨hstart', hstop', hstep'⟩ := h'.range b hb
  have hlength : a.samples.length = b.samples.length :=
    Int.ofNat.inj ((h.length_samples a ha).trans (h'.length_samples b hb).symm)
  have hsamples : a.samples = b.samples := by
    refine List.ext_getElem hlength fun i hi hi' => ?_
    rw [h.sample a ha i hi, h'.sample b hb i hi', hname]
  cases a
  cases b
  rw [Series.mk.injEq]
  exact ⟨hname, hstart.trans hstart'.symm, hstop.trans hstop'.symm, hstep.trans hstep'.symm,
    hsamples⟩

/-- There is one report. -/
theorem unique (h : Reports done tenant regex step first last result)
    (h' : Reports done tenant regex step first last result') : result = result' := by
  have hnames : result.map Series.name = result'.map Series.name :=
    h.ascending.eq_of_mem_iff h'.ascending fun path => (h.mem_names path).trans
      (h'.mem_names path).symm
  have hlength : result.length = result'.length := by
    simpa using congrArg List.length hnames
  refine List.ext_getElem hlength fun i hi hi' => ?_
  refine h.eq_of_name h' (List.getElem_mem hi) (List.getElem_mem hi') ?_
  rw [← List.getElem_map Series.name, ← List.getElem_map Series.name]
  exact List.getElem_of_eq hnames (by simpa using hi)

end Reports

/-- A selector finds paths in ascending order. -/
theorem pairwise_matching (s : MemoryStore) (tenant : String) (regex : Regex) :
    ((s.matching tenant regex).map Prod.fst).Pairwise (· < ·) := by
  rw [List.pairwise_map]
  refine List.Pairwise.filter _ (Std.TreeMap.ordered_keys_toList.imp fun h => ?_)
  exact compare_lt_iff_lt.1 h

/-- What a selector finds, over a cover, is a report of the insertions that are represented. -/
theorem reports_matching (h : s.Represents done) (tenant : String) (regex : Regex)
    {first last : Int} (hfirst : s.step ∣ first) (hlast : s.step ∣ last) (hlt : first < last) :
    Reports done tenant regex s.step first last ((s.matching tenant regex).map
      fun (path, slots) => seriesOver s.step (first, last) path slots) where
  ascending := by
    rw [List.map_map]
    exact s.pairwise_matching tenant regex
  mem_names path := by
    rw [← h.mem_paths, List.map_map]
    simp [mem_matching_iff, seriesOver]
  range a ha := by
    obtain ⟨⟨path, slots⟩, -, rfl⟩ := List.mem_map.1 ha
    exact ⟨rfl, rfl, rfl⟩
  length_samples a ha := by
    obtain ⟨⟨path, slots⟩, -, rfl⟩ := List.mem_map.1 ha
    rw [← slotCount_of_dvd s.step_pos hlt (Int.dvd_sub hlast hfirst)]
    simp [seriesOver]
  sample a ha i hi := by
    obtain ⟨⟨path, slots⟩, hmem, rfl⟩ := List.mem_map.1 ha
    obtain ⟨-, -, rfl⟩ := mem_matching_iff.1 hmem
    have hslot : s.step ∣ first + i * s.step := Int.dvd_add hfirst (Int.dvd_mul_left _ _)
    rw [Int.add_mul, Int.one_mul, ← Int.add_assoc]
    simpa [seriesOver] using h.value_at tenant path _ hslot

/-- A store answers just with the series that report what it holds, if there are any over a range
whose slots can all be found. -/
theorem fetch_iff_reports (h : s.Represents done) (tenant pattern : String) (start stop : Int)
    (result : List Series) : s.fetch tenant pattern start stop = .ok result ↔
      ∃ regex first last, matcher pattern = .ok regex ∧
        bounds? s.step start stop = some (first, last) ∧
        (result ≠ [] → Series.Representable first last s.step) ∧
        Reports done tenant regex s.step first last result := by
  have hreports : ∀ regex first last, bounds? s.step start stop = some (first, last) →
      Reports done tenant regex s.step first last ((s.matching tenant regex).map
        fun (path, slots) => seriesOver s.step (first, last) path slots) := by
    intro regex first last hbounds
    obtain ⟨hfirst, hlast, hlt⟩ := dvd_of_bounds? s.step_pos hbounds
    exact reports_matching h tenant regex hfirst hlast hlt
  rw [fetch_eq_ok_iff]
  constructor
  · rintro ⟨regex, ⟨first, last⟩, hregex, hbounds, hwide, rfl⟩
    refine ⟨regex, first, last, hregex, hbounds, fun hne => hwide ?_,
      hreports regex first last hbounds⟩
    exact fun hnil => hne (List.map_eq_nil_iff.2 hnil)
  · rintro ⟨regex, first, last, hregex, hbounds, hwide, hresult⟩
    obtain rfl := hresult.unique (hreports regex first last hbounds)
    refine ⟨regex, (first, last), hregex, hbounds, fun hne => hwide ?_, rfl⟩
    exact fun hnil => hne (List.map_eq_nil_iff.1 hnil)

/-- Of a history of insertions, just the points with a slot are inserted, and the store answers just
with the series that report them, if there are any over a range whose slots can all be found. -/
theorem fetch_insertEach {step : Int} (hstep : 1 ≤ step) (history : List Insertion)
    (tenant pattern : String) (start stop : Int) (result : List Series) :
    ((empty step).insertEach history).1 =
        history.filter (fun i => (slot? step i.timestamp).isSome) ∧
      (((empty step).insertEach history).2.fetch tenant pattern start stop = .ok result ↔
        ∃ regex first last, matcher pattern = .ok regex ∧
          bounds? step start stop = some (first, last) ∧
          (result ≠ [] → Series.Representable first last step) ∧
          Reports ((empty step).insertEach history).1 tenant regex step first last result) := by
  have hempty : (empty step).step = step := Int.max_eq_left hstep
  have hdone := fst_insertEach (empty step) history
  have hfetch := fetch_iff_reports (represents_insertEach (represents_empty step) history)
    tenant pattern start stop result
  rw [hempty] at hdone
  rw [step_insertEach, hempty, List.nil_append] at hfetch
  exact ⟨hdone, hfetch⟩

/-- Points of two tenants; the last one has no slot. -/
def twoTenants : List Insertion :=
  [⟨"acme", "a", 0, 1.0⟩, ⟨"other", "a", 0, 2.0⟩, ⟨"acme", "a", 59, 3.0⟩, ⟨"acme", "a", -1, 4.0⟩,
    ⟨"acme", "a", Timestamp.least, 5.0⟩]

/-- The last value in a slot counts, an instant before the epoch has its slot below, and the point
without a slot and the other tenant's point do not show. -/
theorem fetch_insertEach_twoTenants : (1 : Int) ≤ 60 ∧
    ((empty 60).insertEach twoTenants).2.fetch "acme" "a" (-1) 60 =
      .ok [⟨"a", -60, 60, 60, [some 4.0, some 3.0]⟩] := by
  have hmatch : ((matcher "a").toOption.map fun r => r.isMatch "a".toList) = some true := by
    decide +kernel
  obtain ⟨regex, hregex, hmatch⟩ := Option.map_eq_some_iff.1 hmatch
  have hdone : ((empty 60).insertEach twoTenants).1 = twoTenants.take 4 := rfl
  refine ⟨by decide, (fetch_insertEach (by decide) twoTenants "acme" "a" (-1) 60 _).2.2
    ⟨regex, -60, 60, toOption_eq_some_iff.1 hregex, rfl, fun _ => ?_, ?_⟩⟩
  · exact (Series.representable_iff (by decide) (by decide) (by decide)).2 (by decide)
  rw [hdone]
  constructor
  case ascending => exact List.pairwise_singleton _ _
  case mem_names =>
    intro path
    have hpath : (∃ i ∈ twoTenants.take 4, i.tenant = "acme" ∧ i.path = path) ↔ "a" = path := by
      simp [twoTenants]
    rw [hpath, List.map_singleton, List.mem_singleton]
    constructor
    · rintro rfl
      exact ⟨hmatch, rfl⟩
    · rintro ⟨-, rfl⟩
      rfl
  case range => simp
  case length_samples => simp
  case sample =>
    intro s hs i hi
    obtain rfl := List.mem_singleton.1 hs
    match i, hi with
    | 0, _ => rfl
    | 1, _ => rfl

end MemoryStore

end SeriesRender
