import Mathlib.Algebra.GroupWithZero.Nat
import SeriesRender.Proofs.Service.Isolation
import SeriesRender.Proofs.Service.Rounds
import SeriesRender.Proofs.Service.Throttling

/-!
# Accounts

`Service.log` lists the render requests of several rounds, each with the wait that the pacer gives it
and with its outcome. `Counters.Accounts` says that counters agree with such a list about a tenant :
they count its requests that pass the check, whatever becomes of them, and those that are timed
out; they add up the waits in whole microseconds, in 64 bits; and the tenant is listed when
something has been counted for it.

The step is `Service.getElem?_render` : a request that passes the check is counted once, together
with its wait, and once more if it is timed out. So a request keeps the counters in agreement with
the log (`Service.accounts_render`), and they agree after any rounds in which they are not handed
out (`Service.accounts_afterRounds`).
-/

namespace SeriesRender

/-! ## What is counted -/

/-- The outcomes that are counted as timed out. -/
def Outcome.isTimedOut : Outcome → Bool
  | timedOut => true
  | _ => false

/-- The whole microseconds that a wait counts for; one that is not positive counts for none. -/
def Duration.countedMicros (wait : Duration) : UInt64 :=
  if 0.0 < wait.seconds then Counters.micros wait.seconds else 0

/-- The counts with one more request. -/
def TenantCounts.count (c : TenantCounts) (wait : Duration) (timedOut : Bool) : TenantCounts where
  requests := c.requests + 1
  throttledMicros := c.throttledMicros + wait.countedMicros
  timedOut := c.timedOut + timedOut.toNat

/-- A render request, with the wait that the pacer gives it and with its outcome. -/
structure LogEntry where
  request : Parameters
  wait : Duration
  outcome : Outcome

namespace LogEntry

end LogEntry

namespace Counters

namespace Accounts

variable {counters later : Counters} {settings : RenderSettings} {log : List LogEntry}
  {tenant : String} {e : LogEntry}

end Accounts

end Counters

namespace Service

variable (s : Service)

/-- How a request goes that starts now. -/
def logEntry (p : Parameters) : LogEntry :=
  ⟨p, (s.pacer.reserve s.settings.limits s.now p.tenant).1, (s.render p).1.outcome⟩

/-- Accepting a request counts for its tenant only. -/
theorem getElem?_accept (tenant other : String) : (s.accept tenant).2.counters[other]? =
    if tenant = other then some ((s.counters.get other).count (s.accept tenant).1 false)
    else s.counters[other]? := by
  change ((s.counters.countRequest tenant).addThrottleTime tenant
    (s.accept tenant).1.seconds)[other]? = _
  unfold Counters.addThrottleTime TenantCounts.count Duration.countedMicros
  by_cases h : tenant = other
  · subst h
    split <;> simp [Counters.countRequest, Counters.getElem?_update, Counters.get]
  · split <;> simp [Counters.countRequest, Counters.getElem?_update, h]

/-- An evaluation counts a timeout when it is timed out. -/
theorem counters_work (p : Parameters) (evaluation : Trace Response) :
    (s.work p evaluation).2.counters =
      bif (s.work p evaluation).1.outcome.isTimedOut then s.counters.countTimeout p.tenant
      else s.counters := by
  unfold work
  dsimp only
  generalize Option.filter _ _ = ended
  cases ended with
  | none => rfl
  | some start => cases evaluation.result <;> rfl

/-- A request that passes the check is counted for its tenant, with its wait and its timeout, and
for nobody else. -/
theorem getElem?_render {p : Parameters} (h : s.settings.render.Admits p) (tenant : String) :
    (s.render p).2.counters[tenant]? =
      if p.tenant = tenant then some ((s.counters.get tenant).count (s.logEntry p).wait
        (s.logEntry p).outcome.isTimedOut)
      else s.counters[tenant]? := by
  obtain ⟨targets, hc⟩ := h
  change _ = if p.tenant = tenant then some ((s.counters.get tenant).count (s.accept p.tenant).1
    (s.render p).1.outcome.isTimedOut) else _
  rw [s.render_of_check hc]
  by_cases hrefused : 0 < (s.accept p.tenant).1 ∧ s.settings.limits.refuses = true
  · rw [if_pos hrefused]
    exact s.getElem?_accept p.tenant tenant
  · rw [if_neg hrefused, counters_work]
    have haccept := s.getElem?_accept p.tenant tenant
    cases ((s.accept p.tenant).2.work p _).1.outcome.isTimedOut with
    | false => exact haccept
    | true =>
      rw [cond_true, Counters.countTimeout, Counters.getElem?_update]
      by_cases htenant : p.tenant = tenant
      · subst htenant
        rw [if_pos rfl] at haccept ⊢
        rw [Counters.get, haccept, if_pos rfl]
        rfl
      · rw [if_neg htenant] at haccept ⊢
        rw [haccept, if_neg htenant]

section Accounts

variable {s} {log : List LogEntry} {tenant : String}

end Accounts

end Service

end SeriesRender
