import SeriesRender.Proofs.Store
import SeriesRender.Service.Ingest

/-!
# A tenant's share of a store

What a store holds for a tenant is its step and the tenant's paths, `MemoryStore.shareOf`. A fetch
for a tenant depends on nothing else (`fetch_congr`), and neither does a write (`ingest_congr`). A
write for another tenant leaves the share as it is (`shareOf_ingest_of_ne`).
-/

namespace SeriesRender.MemoryStore

variable {s t : MemoryStore} {tenant other : String}

/-- The step, and the paths of a tenant. -/
def shareOf (s : MemoryStore) (tenant : String) : Int × Paths :=
  (s.step, s.pathsOf tenant)

/-- What a tenant fetches depends on its share only. -/
theorem fetch_congr (h : s.shareOf tenant = t.shareOf tenant) (pattern : String)
    (start stop : Int) : s.fetch tenant pattern start stop = t.fetch tenant pattern start stop := by
  obtain ⟨hstep, hpaths⟩ := Prod.mk.inj h
  unfold pathsOf at hpaths
  rw [fetch, fetch, hstep, hpaths]

theorem shareOf_write_of_ne (h : tenant ≠ other) (s : MemoryStore) (path : String) (slot : Int)
    (value : Float) : (s.write tenant path slot value).shareOf other = s.shareOf other := by
  rw [shareOf, pathsOf_write, if_neg h, step_write, shareOf]

/-- What writing does to the share of its tenant depends on this share only. -/
theorem shareOf_write_congr (h : s.shareOf tenant = t.shareOf tenant) (path : String) (slot : Int)
    (value : Float) : (s.write tenant path slot value).shareOf tenant =
      (t.write tenant path slot value).shareOf tenant := by
  obtain ⟨hstep, hpaths⟩ := Prod.mk.inj h
  rw [shareOf, shareOf, pathsOf_write, pathsOf_write, if_pos rfl, if_pos rfl, slotsAt_eq,
    slotsAt_eq, step_write, step_write, hstep, hpaths]

/-! ## Writing points -/

theorem shareOf_insertAll_of_ne (h : tenant ≠ other) (s : MemoryStore) (points : List Point) :
    (s.insertAll tenant points).2.shareOf other = s.shareOf other := by
  induction points generalizing s with
  | nil => rfl
  | cons p ps ih =>
    rw [insertAll]
    cases hp : s.insert tenant p.path p.timestamp p.value with
    | error e => rfl
    | ok t =>
      obtain ⟨slot, -, rfl⟩ := insert_eq_ok_iff.1 hp
      exact (ih _).trans (shareOf_write_of_ne h s p.path slot p.value)

theorem insertAll_congr (h : s.shareOf tenant = t.shareOf tenant) (points : List Point) :
    (s.insertAll tenant points).1 = (t.insertAll tenant points).1 ∧
      (s.insertAll tenant points).2.shareOf tenant =
        (t.insertAll tenant points).2.shareOf tenant := by
  induction points generalizing s t with
  | nil => exact ⟨rfl, h⟩
  | cons p ps ih =>
    have hstep : s.step = t.step := congrArg Prod.fst h
    rw [insertAll, insertAll, insert, insert, hstep]
    cases slot? t.step p.timestamp with
    | none => exact ⟨rfl, h⟩
    | some slot => exact ih (shareOf_write_congr h p.path slot p.value)

theorem shareOf_ingest_of_ne (h : tenant ≠ other) (s : MemoryStore) (text : String) :
    (s.ingest tenant text).2.shareOf other = s.shareOf other := by
  unfold ingest
  cases Point.ofText text with
  | error e => rfl
  | ok points => exact shareOf_insertAll_of_ne h s points

/-- The answer to a body of points, and the share after it, depend on the tenant's share only. -/
theorem ingest_congr (h : s.shareOf tenant = t.shareOf tenant) (text : String) :
    (s.ingest tenant text).1 = (t.ingest tenant text).1 ∧
      (s.ingest tenant text).2.shareOf tenant = (t.ingest tenant text).2.shareOf tenant := by
  unfold ingest
  cases Point.ofText text with
  | error e => exact ⟨rfl, h⟩
  | ok points => exact insertAll_congr h points

end SeriesRender.MemoryStore
