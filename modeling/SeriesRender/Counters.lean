import SeriesRender.Duration
import Std.Data.TreeMap

/-!
# Counters

For every tenant the service counts requests, the time that they were to wait, and those that ran
out of time. All of this is kept in 64 bits, the time in whole microseconds. `Counters.drain` hands
the counts out and forgets every tenant; a `Reporter` does so once in every period.
-/

namespace SeriesRender

/-- What is counted for one tenant. A single long wait can take the time past 64 bits, so it wraps
around. The other two go up by one for each request : they would need `2 ^ 64` of them, which are
almost six centuries of one in every nanosecond, and are counted without a bound here. -/
structure TenantCounts where
  requests : Nat
  throttledMicros : UInt64
  timedOut : Nat
  deriving DecidableEq, Repr

namespace TenantCounts

/-- Nothing has been counted. -/
def zero : TenantCounts := ⟨0, 0, 0⟩

/-- The waiting time in seconds. -/
def throttleTime (c : TenantCounts) : Float :=
  c.throttledMicros.toFloat / 1e6

end TenantCounts

/-- The counts of all tenants that have any. -/
abbrev Counters := Std.TreeMap String TenantCounts

namespace Counters

/-- The counts of a tenant. -/
def get (counters : Counters) (tenant : String) : TenantCounts :=
  counters[tenant]?.getD .zero

/-- Change the counts of a tenant, who is listed from then on. -/
def update (c : Counters) (tenant : String) (f : TenantCounts → TenantCounts) : Counters :=
  c.insert tenant (f (c.get tenant))

/-- Count a request. -/
def countRequest (c : Counters) (tenant : String) : Counters :=
  c.update tenant fun t => { t with requests := t.requests + 1 }

/-- Count a request that ran out of time. -/
def countTimeout (c : Counters) (tenant : String) : Counters :=
  c.update tenant fun t => { t with timedOut := t.timedOut + 1 }

/-- The microseconds that stand for a waiting time : the nearest number, and the greatest there
is for what is beyond it. -/
def micros (seconds : Float) : UInt64 :=
  (seconds * 1e6).round.toUInt64

/-- Add a waiting time; one that is not positive is not counted. -/
def addThrottleTime (c : Counters) (tenant : String) (seconds : Float) : Counters :=
  if 0.0 < seconds then
    c.update tenant fun t => { t with throttledMicros := t.throttledMicros + micros seconds }
  else c

/-- The counts so far, and no counts. -/
def drain (c : Counters) : Counters × Counters :=
  (c, ∅)

end Counters

/-! ## Periodic reports -/

/-- A task that drains the counters at the end of every period since its start. -/
structure Reporter where
  start : Duration
  period : Duration

namespace Reporter

/-- A reporter that starts at `now`; a period below a millisecond counts as one. -/
def launch (now period : Duration) : Reporter :=
  ⟨now, max period Duration.millisecond⟩

/-- How many periods have ended before an instant. -/
def periodsBefore (r : Reporter) (t : Duration) : Nat :=
  (t - r.start - 1) / r.period

/-- Whether a period ends at `t₁` or later but before `t₂`. -/
def reportsBetween (r : Reporter) (t₁ t₂ : Duration) : Bool :=
  r.periodsBefore t₁ < r.periodsBefore t₂

/-- The counters after time has passed; of the instants in between the first one counts and the
last one does not. -/
def pass (reporters : List Reporter) (t₁ t₂ : Duration) (c : Counters) : Counters :=
  if reporters.any (·.reportsBetween t₁ t₂) then c.drain.2 else c

end Reporter

end SeriesRender
