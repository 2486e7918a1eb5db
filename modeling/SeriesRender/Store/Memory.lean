import SeriesRender.Series
import SeriesRender.Store.Error
import SeriesRender.Timestamp
import Std.Data.TreeMap

/-!
# A store in memory

The store keeps one value for each slot of each path of each tenant, a slot being a multiple of
`step`. `insert` truncates the timestamp to its slot, and the last write to a slot wins. `fetch`
answers with one series for each path that matches the pattern, in the order of the paths, on the
smallest range of whole slots that covers the request (`bounds?`). It crashes if the slots of a path
are too many, or the instant of one of them cannot be found.
-/

namespace SeriesRender

/-- The values of a path by slot. -/
abbrev Slots := Std.TreeMap Int Float

/-- The paths of a tenant. -/
abbrev Paths := Std.TreeMap String Slots

/-- A store : the values of each tenant's paths, and how far slots are apart. -/
structure MemoryStore where
  step : Int
  tenants : Std.TreeMap String Paths
  step_pos : 0 < step

namespace MemoryStore

/-- An empty store; a step below one second counts as one. -/
def empty (step : Int) : MemoryStore :=
  ⟨max step 1, ∅, by omega⟩

/-- The slot that an instant falls into, if it is an instant itself. -/
def slot? (step timestamp : Int) : Option Int :=
  Timestamp.checked (timestamp - timestamp % step)

/-- The values at a tenant's path. -/
def slotsAt (s : MemoryStore) (tenant path : String) : Slots :=
  ((s.tenants[tenant]?.getD ∅)[path]?).getD ∅

/-- Write a value to a slot. -/
def write (s : MemoryStore) (tenant path : String) (slot : Int) (value : Float) : MemoryStore :=
  let paths := s.tenants[tenant]?.getD ∅
  let slots := paths[path]?.getD ∅
  { s with tenants := s.tenants.insert tenant (paths.insert path (slots.insert slot value)) }

/-- Store a point at the slot of its timestamp. -/
def insert (s : MemoryStore) (tenant path : String) (timestamp : Int) (value : Float) :
    Except StoreError MemoryStore :=
  match slot? s.step timestamp with
  | none => .error (.invalidRange timestamp timestamp)
  | some slot => .ok (s.write tenant path slot value)

/-- The smallest range of whole slots that covers a range, and that is not empty. -/
def bounds? (step start stop : Int) : Option (Int × Int) := do
  let first ← slot? step start
  let last ← Timestamp.checked (stop + (step - stop % step) % step)
  let last ← if last ≤ first then Timestamp.checked (first + step) else some last
  return (first, last)

/-- The series of one path over a range of whole slots. -/
def seriesOf (step : Int) (range : Int × Int) (path : String) (slots : Slots) :
    Except Overflow Series := do
  let count ← Series.room range.1 range.2 step
  let instants ← Series.instants range.1 step count
  return ⟨path, range.1, range.2, step, instants.map fun t => slots[t]?⟩

/-- The series of a tenant that match a pattern. -/
def fetch (s : MemoryStore) (tenant pattern : String) (start stop : Int) :
    Except StoreError (List Series) := do
  let regex ← matcher pattern
  match bounds? s.step start stop with
  | none => .error (.invalidRange start stop)
  | some range =>
    let paths := (s.tenants[tenant]?.getD ∅).toList
    (paths.filter fun (path, _) => regex.isMatch path.toList).mapM fun (path, slots) =>
      (seriesOf s.step range path slots).mapError .crashed

end MemoryStore

end SeriesRender
