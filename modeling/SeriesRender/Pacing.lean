import SeriesRender.Duration
import Std.Data.TreeMap

/-!
# Pacing

Every tenant has a rate, and is granted one request for each interval of `1 / rate` seconds. A
request that comes early is given the tenant's next free slot, and `Pacer.reserve` answers with
the time until then. Slots that have passed are forgotten : they no longer delay anyone.
-/

namespace SeriesRender

/-- How often tenants may ask. -/
structure RateLimits where
  enabled : Bool
  /-- Whether a request that comes early is refused, rather than only counted. -/
  enforced : Bool
  /-- Requests per second of a tenant without a rate of its own. -/
  defaultRate : Float
  rates : Std.TreeMap String Float
  /-- Tenants without a limit. -/
  exempt : List String

namespace RateLimits

/-- Limits that are switched off, with twenty requests per second for everyone. -/
def standard : RateLimits := ⟨false, false, 20.0, ∅, []⟩

/-- The rate of a tenant, unless it is exempt. -/
def rate? (l : RateLimits) (tenant : String) : Option Float :=
  if tenant ∈ l.exempt then none else some (l.rates[tenant]?.getD l.defaultRate)

/-- The interval between two slots of a tenant, if it is limited at all. -/
def interval? (l : RateLimits) (tenant : String) : Option Duration :=
  if l.enabled then
    (l.rate? tenant).bind fun rate => if 0.0 < rate then Duration.ofSeconds? (1.0 / rate) else none
  else none

/-- Whether early requests are refused. -/
def refuses (l : RateLimits) : Bool :=
  l.enabled && l.enforced

end RateLimits

/-- The next free slot of every tenant that has to wait for one. -/
structure Pacer where
  pending : Std.TreeMap String Duration

namespace Pacer

/-- Nobody has asked for anything. -/
def empty : Pacer := ⟨∅⟩

/-- The instant that no slot reaches. -/
def horizon : Duration := 0x8000000000000000 * Duration.second

/-- Only the slots after `now`. -/
def prune (p : Pacer) (now : Duration) : Pacer :=
  ⟨p.pending.filter fun _ slot => now < slot⟩

/-- The first slot of a tenant that is not before `now`. -/
def slot (p : Pacer) (now : Duration) (tenant : String) : Duration :=
  max now (p.pending[tenant]?.getD now)

/-- Reserve the tenant's next slot; the answer is the time until then. Without a slot within the
horizon there is no wait, and nothing is reserved. -/
def reserve (p : Pacer) (limits : RateLimits) (now : Duration) (tenant : String) :
    Duration × Pacer :=
  match limits.interval? tenant with
  | none => (0, p)
  | some interval =>
    let slot := p.slot now tenant
    if slot + interval < horizon then
      (slot - now, ⟨(p.prune now).pending.insert tenant (slot + interval)⟩)
    else (0, p.prune now)

end Pacer

end SeriesRender
