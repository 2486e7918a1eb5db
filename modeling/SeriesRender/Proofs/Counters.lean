import Mathlib.Algebra.BigOperators.Group.List.Basic
import Mathlib.Algebra.GroupWithZero.Nat
import SeriesRender.Counters

/-!
# What is counted and what is handed out

Counters are handed out on demand, or by a reporter at the end of a period, and forgotten.
`CounterEvent` is what happens to them, `Counters.handouts` lists what several events hand out, and
`Counters.afterAll` is what they leave.

Counts of a tenant add up (`TenantCounts` is a commutative monoid). One event moves counts, or adds
what it counts, and loses none (`Counters.sum_handedOut_add_get`); so what has been handed out and
what is left are together what has been counted (`Counters.sum_handouts_add_get`), whatever the
order of the events.
-/

namespace SeriesRender

/-! ## Counts that add up -/

namespace TenantCounts

instance : Zero TenantCounts := ⟨zero⟩

instance : Add TenantCounts :=
  ⟨fun c d => ⟨c.requests + d.requests, c.throttledMicros + d.throttledMicros,
    c.timedOut + d.timedOut⟩⟩

theorem add_def (c d : TenantCounts) : c + d = ⟨c.requests + d.requests,
    c.throttledMicros + d.throttledMicros, c.timedOut + d.timedOut⟩ := rfl

theorem zero_def : (0 : TenantCounts) = ⟨0, 0, 0⟩ := rfl

instance : AddCommMonoid TenantCounts where
  add_assoc a b c := by simp only [add_def, Nat.add_assoc, UInt64.add_assoc]
  zero_add a := by simp only [add_def, zero_def, Nat.zero_add, UInt64.zero_add]
  add_zero a := by simp only [add_def, zero_def, Nat.add_zero, UInt64.add_zero]
  add_comm a b := by
    simp only [add_def, Nat.add_comm, UInt64.add_comm]
  nsmul := nsmulRec

theorem requests_sum (cs : List TenantCounts) : cs.sum.requests = (cs.map (·.requests)).sum := by
  induction cs with
  | nil => rfl
  | cons c cs ih => rw [List.sum_cons, List.map_cons, List.sum_cons, ← ih, add_def]

theorem timedOut_sum (cs : List TenantCounts) : cs.sum.timedOut = (cs.map (·.timedOut)).sum := by
  induction cs with
  | nil => rfl
  | cons c cs ih => rw [List.sum_cons, List.map_cons, List.sum_cons, ← ih, add_def]

/-- Waiting time is added up in 64 bits. -/
theorem throttledMicros_sum (cs : List TenantCounts) :
    cs.sum.throttledMicros.toNat = (cs.map (·.throttledMicros.toNat)).sum % 2 ^ 64 := by
  induction cs with
  | nil => rfl
  | cons c cs ih =>
    rw [List.sum_cons, List.map_cons, List.sum_cons, add_def, UInt64.toNat_add, ih,
      Nat.add_mod_mod]

end TenantCounts

/-! ## Events -/

/-- What happens to counters : something is counted for a tenant, they are handed out, or time
passes from one instant to another while reporters run. -/
inductive CounterEvent
  | request (tenant : String)
  | throttle (tenant : String) (seconds : Float)
  | timeout (tenant : String)
  | drain
  | pass (reporters : List Reporter) (t₁ t₂ : Duration)

namespace CounterEvent

/-- What the event counts for a tenant. -/
def increment (tenant : String) : CounterEvent → TenantCounts
  | request other => if other = tenant then ⟨1, 0, 0⟩ else 0
  | throttle other seconds =>
    if other = tenant ∧ 0.0 < seconds then ⟨0, Counters.micros seconds, 0⟩ else 0
  | timeout other => if other = tenant then ⟨0, 0, 1⟩ else 0
  | drain => 0
  | pass .. => 0

/-- Whether the event hands the counters out. -/
def drains : CounterEvent → Bool
  | drain => true
  | pass reporters t₁ t₂ => reporters.any (·.reportsBetween t₁ t₂)
  | _ => false

end CounterEvent

namespace Counters

/-- The counters after an event. -/
def after (c : Counters) : CounterEvent → Counters
  | .request tenant => c.countRequest tenant
  | .throttle tenant seconds => c.addThrottleTime tenant seconds
  | .timeout tenant => c.countTimeout tenant
  | .drain => c.drain.2
  | .pass reporters t₁ t₂ => Reporter.pass reporters t₁ t₂ c

/-- What an event hands out. While time passes it is the first report that has any counts. -/
def handedOut (c : Counters) (e : CounterEvent) : List Counters :=
  if e.drains then [c.drain.1] else []

/-- The counters after all of some events, one after the other. -/
def afterAll (c : Counters) (events : List CounterEvent) : Counters :=
  events.foldl after c

/-- What several events hand out, one after the other. -/
def handouts (c : Counters) : List CounterEvent → List Counters
  | [] => []
  | e :: es => c.handedOut e ++ (c.after e).handouts es

variable {c : Counters} {tenant other : String}

/-- Counting for one tenant leaves the others as they are. -/
theorem getElem?_update (counters : Counters) (tenant other : String)
    (f : TenantCounts → TenantCounts) : (counters.update tenant f)[other]? =
      if tenant = other then some (f (counters.get tenant)) else counters[other]? := by
  rw [update, Std.TreeMap.getElem?_insert]
  by_cases h : tenant = other <;> simp [h]

/-- A tenant without an entry has counted nothing. -/
theorem get_empty (tenant : String) : (∅ : Counters).get tenant = 0 := by
  rw [get, Std.TreeMap.getElem?_emptyc]
  rfl

/-- Where counts are only added to, they are added to for one tenant. -/
theorem get_update_of_add {f : TenantCounts → TenantCounts} (d : TenantCounts)
    (hf : ∀ t, f t = t + d) (other tenant : String) :
    (c.update other f).get tenant = c.get tenant + if other = tenant then d else 0 := by
  rw [get, getElem?_update]
  by_cases h : other = tenant
  · subst h
    rw [if_pos rfl, if_pos rfl, Option.getD_some, hf]
  · rw [if_neg h, if_neg h, add_zero, get]

/-! ## Conservation -/

/-- An event that hands nothing out adds what it counts. -/
theorem get_after_of_not_drains {e : CounterEvent} (h : e.drains = false) (tenant : String) :
    (c.after e).get tenant = c.get tenant + e.increment tenant := by
  cases e with
  | request other =>
    exact get_update_of_add ⟨1, 0, 0⟩ (fun t => by simp [TenantCounts.add_def]) other tenant
  | timeout other =>
    exact get_update_of_add ⟨0, 0, 1⟩ (fun t => by simp [TenantCounts.add_def]) other tenant
  | throttle other seconds =>
    rw [after, addThrottleTime, CounterEvent.increment]
    by_cases hs : 0.0 < seconds
    · simp only [hs, and_true, if_true]
      exact get_update_of_add ⟨0, micros seconds, 0⟩ (fun t => by simp [TenantCounts.add_def])
        other tenant
    · simp only [hs, and_false, if_false, add_zero]
  | drain => cases h
  | pass reporters t₁ t₂ =>
    have hnone : ¬reporters.any (·.reportsBetween t₁ t₂) = true := Bool.eq_false_iff.1 h
    rw [after, Reporter.pass, if_neg hnone, CounterEvent.increment, add_zero]

/-- An event that hands the counters out leaves none. -/
theorem after_of_drains {e : CounterEvent} (h : e.drains = true) : c.after e = ∅ := by
  cases e with
  | drain => rfl
  | pass reporters t₁ t₂ => exact if_pos h
  | request | throttle | timeout => cases h

/-- No event loses counts. -/
theorem sum_handedOut_add_get (e : CounterEvent) (tenant : String) :
    ((c.handedOut e).map (·.get tenant)).sum + (c.after e).get tenant =
      c.get tenant + e.increment tenant := by
  unfold handedOut
  cases h : e.drains with
  | false =>
    rw [get_after_of_not_drains h]
    exact zero_add _
  | true =>
    have hnothing : e.increment tenant = 0 := by
      cases e with
      | drain | pass => rfl
      | request | throttle | timeout => cases h
    rw [after_of_drains h, get_empty, hnothing]
    simp [drain]

/-- What events hand out and what they leave is what there was and what they count. -/
theorem sum_handouts_add_get (c : Counters) (events : List CounterEvent) (tenant : String) :
    ((c.handouts events).map (·.get tenant)).sum + (c.afterAll events).get tenant =
      c.get tenant + (events.map (·.increment tenant)).sum := by
  induction events generalizing c with
  | nil => exact (zero_add _).trans (add_zero _).symm
  | cons e es ih =>
    calc ((c.handouts (e :: es)).map (·.get tenant)).sum + (c.afterAll (e :: es)).get tenant
        = ((c.handedOut e).map (·.get tenant)).sum +
            ((((c.after e).handouts es).map (·.get tenant)).sum +
              ((c.after e).afterAll es).get tenant) := by
          rw [handouts, List.map_append, List.sum_append, add_assoc]
          rfl
      _ = ((c.handedOut e).map (·.get tenant)).sum + (c.after e).get tenant +
            (es.map (·.increment tenant)).sum := by
          rw [ih, add_assoc]
      _ = c.get tenant + ((e :: es).map (·.increment tenant)).sum := by
          rw [sum_handedOut_add_get, List.map_cons, List.sum_cons, add_assoc]

/-- Whatever happens to new counters, in any order : for each tenant, what has been handed out and
what is left are together what has been counted, the waiting time in whole microseconds and in 64
bits; and after the counters have been handed out no tenant is left. -/
theorem conserved_handouts (events : List CounterEvent) (tenant : String) :
    let drained := ((∅ : Counters).handouts events).map (·.get tenant)
    let left := ((∅ : Counters).afterAll events).get tenant
    let counted := events.map (·.increment tenant)
    (drained.map (·.requests)).sum + left.requests = (counted.map (·.requests)).sum ∧
    (drained.map (·.timedOut)).sum + left.timedOut = (counted.map (·.timedOut)).sum ∧
    ((drained.map (·.throttledMicros.toNat)).sum + left.throttledMicros.toNat) % 2 ^ 64 =
      (counted.map (·.throttledMicros.toNat)).sum % 2 ^ 64 ∧
    ∀ e : CounterEvent, e.drains = true → ∀ other : String,
      other ∉ (∅ : Counters).afterAll (events ++ [e]) := by
  intro drained left counted
  have htotal : drained.sum + left = counted.sum := by
    have h := sum_handouts_add_get ∅ events tenant
    rwa [get_empty, zero_add] at h
  refine ⟨?_, ?_, ?_, fun e he other => ?_⟩
  · have h := congrArg TenantCounts.requests htotal
    rwa [TenantCounts.add_def, TenantCounts.requests_sum, TenantCounts.requests_sum] at h
  · have h := congrArg TenantCounts.timedOut htotal
    rwa [TenantCounts.add_def, TenantCounts.timedOut_sum, TenantCounts.timedOut_sum] at h
  · have h := congrArg (fun c => c.throttledMicros.toNat) htotal
    rwa [TenantCounts.add_def, UInt64.toNat_add, TenantCounts.throttledMicros_sum,
      TenantCounts.throttledMicros_sum, Nat.mod_add_mod] at h
  · rw [afterAll, List.foldl_append]
    change other ∉ Counters.after _ e
    rw [after_of_drains he]
    exact Std.TreeMap.not_mem_emptyc

/-- A request that a reporter has handed out when a second one comes, which is timed out. -/
def acrossReport : List CounterEvent :=
  [.request "acme", .pass [Reporter.launch 0 (Duration.ofMillis 10)] 0 (Duration.ofMillis 11),
    .request "acme", .throttle "acme" 0.5, .timeout "acme"]

/-- Both requests are in what has been handed out and what is left, and the half second is; when the
rest has been handed out too, the tenant is gone. -/
theorem conserved_handouts_acrossReport :
    let drained := ((∅ : Counters).handouts acrossReport).map (·.get "acme")
    let left := ((∅ : Counters).afterAll acrossReport).get "acme"
    (drained.map (·.requests)).sum + left.requests = 2 ∧
    (drained.map (·.timedOut)).sum + left.timedOut = 1 ∧
    ((drained.map (·.throttledMicros.toNat)).sum + left.throttledMicros.toNat) % 2 ^ 64 =
      (micros 0.5).toNat % 2 ^ 64 ∧
    CounterEvent.drain.drains = true ∧
      "acme" ∉ (∅ : Counters).afterAll (acrossReport ++ [.drain]) := by
  obtain ⟨hrequests, htimedOut, hmicros, hgone⟩ := conserved_handouts acrossReport "acme"
  have hpositive : (0.0 : Float) < 0.5 := by decide +kernel
  have hcounted : acrossReport.map (·.increment "acme") =
      [⟨1, 0, 0⟩, 0, ⟨1, 0, 0⟩, ⟨0, micros 0.5, 0⟩, ⟨0, 0, 1⟩] := by
    simp [acrossReport, CounterEvent.increment, hpositive]
  rw [hcounted] at hrequests htimedOut hmicros
  refine ⟨hrequests, htimedOut, hmicros.trans ?_, rfl, hgone .drain rfl "acme"⟩
  simp [TenantCounts.zero_def]

end Counters

end SeriesRender
