import Mathlib.Data.List.Forall2
import SeriesRender.Proofs.Pacing

/-!
# The schedule of a tenant

The `schedule` of requests at instants `t₁ ≤ t₂ ≤ …` gives the first one its slot at once,
`s₁ = t₁`, and each later one the first slot that is an interval after the one before,
`sₖ = max tₖ (sₖ₋₁ + interval)`. `Pacer.slots_reserveAll` says that a pacer gives these slots to a
tenant, although it serves other tenants in between and forgets slots that have passed : what it
forgets does not show in `Pacer.slot`, from which each reservation is made.

The rest is read off the schedule. No slot comes before its request (`le_schedule`), slots are an
interval apart (`pairwise_schedule`), so there are only so many of them in a window of time
(`length_le_of_spaced`).
-/

namespace SeriesRender

/-! ## Schedules -/

/-- The slot of a request at an instant, after the slot of the request before it, if there is
one. -/
def nextSlot (interval : Duration) (last? : Option Duration) (now : Duration) : Duration :=
  match last? with
  | none => now
  | some last => max now (last + interval)

/-- The slots of requests at some instants. -/
def schedule (interval : Duration) (last? : Option Duration) : List Duration → List Duration
  | [] => []
  | now :: later =>
    nextSlot interval last? now :: schedule interval (some (nextSlot interval last? now)) later

section Schedule

variable {interval : Duration}

theorem le_nextSlot (interval : Duration) (last? : Option Duration) (now : Duration) :
    now ≤ nextSlot interval last? now := by
  cases last? with
  | none => exact Nat.le_refl now
  | some last => exact Nat.le_max_left _ _

theorem le_schedule (interval : Duration) (last? : Option Duration) (instants : List Duration) :
    List.Forall₂ (· ≤ ·) instants (schedule interval last? instants) := by
  induction instants generalizing last? with
  | nil => exact .nil
  | cons now later ih => exact .cons (le_nextSlot interval last? now) (ih _)

/-- Every slot is an interval after a slot that was given before all of them. -/
theorem add_le_of_mem_schedule {last slot : Duration} {instants : List Duration}
    (h : slot ∈ schedule interval (some last) instants) : last + interval ≤ slot := by
  induction instants generalizing last with
  | nil => simp [schedule] at h
  | cons now later ih =>
    have hnext : last + interval ≤ nextSlot interval (some last) now := Nat.le_max_right _ _
    rcases List.mem_cons.1 h with rfl | h
    · exact hnext
    · exact Nat.le_trans (Nat.le_trans hnext (Nat.le_add_right _ _)) (ih h)

/-- Slots are an interval apart at least. -/
theorem pairwise_schedule (interval : Duration) (last? : Option Duration)
    (instants : List Duration) :
    (schedule interval last? instants).Pairwise fun a b => a + interval ≤ b := by
  induction instants generalizing last? with
  | nil => exact .nil
  | cons now later ih => exact .cons (fun slot h => add_le_of_mem_schedule h) (ih _)

/-- In a window of time there is room for only so many slots. -/
theorem length_le_of_spaced {slots : List Duration} (hpos : 0 < interval)
    (hspaced : slots.Pairwise fun a b => a + interval ≤ b) (start width : Duration)
    (h : ∀ slot ∈ slots, start ≤ slot ∧ slot ≤ start + width) :
    slots.length ≤ width / interval + 1 := by
  induction slots generalizing start width with
  | nil => exact Nat.zero_le _
  | cons slot slots ih =>
    rw [List.pairwise_cons] at hspaced
    rw [List.forall_mem_cons] at h
    cases slots with
    | nil => simp
    | cons next slots =>
      have hnext : slot + interval ≤ next := hspaced.1 next (List.mem_cons_self ..)
      have hend : next ≤ start + width := (h.2 next (List.mem_cons_self ..)).2
      have hwidth : interval ≤ width := by grind
      -- The slots behind the first one share a window that is shorter by one interval.
      have hlater : ∀ later ∈ next :: slots, start + interval ≤ later ∧
          later ≤ start + interval + (width - interval) := fun later hmem => by
        have hspace := hspaced.1 later hmem
        have hlast := h.2 later hmem
        grind
      rw [List.length_cons, Nat.div_eq_sub_div hpos hwidth]
      exact Nat.succ_le_succ (ih hspaced.2 _ _ hlater)

end Schedule

/-! ## Reservations -/

/-- A reservation as it was made : for whom, when, and with which wait. -/
structure Reservation where
  tenant : String
  instant : Duration
  wait : Duration
  deriving DecidableEq, Repr

/-- The slot that was reserved. -/
def Reservation.slot (r : Reservation) : Duration :=
  r.instant + r.wait

namespace Pacer

variable {p : Pacer} {limits : RateLimits} {tenant : String} {interval : Duration}

/-- Reserve one slot after the other, each at an instant and for a tenant. -/
def reserveAll (p : Pacer) (limits : RateLimits) : List (Duration × String) → List Reservation
  | [] => []
  | (now, tenant) :: calls =>
    match p.reserve limits now tenant with
    | (wait, p) => ⟨tenant, now, wait⟩ :: p.reserveAll limits calls

/-- The instants at which slots are reserved for a tenant. -/
def instantsOf (tenant : String) (calls : List (Duration × String)) : List Duration :=
  (calls.filter (·.2 = tenant)).map (·.1)

/-- Among the calls that have been made, those of a tenant are the ones asked for. -/
theorem instantsOf_reserveAll (p : Pacer) (limits : RateLimits) (tenant : String)
    (calls : List (Duration × String)) :
    ((p.reserveAll limits calls).filter (·.tenant = tenant)).map (·.instant) =
      instantsOf tenant calls := by
  induction calls generalizing p with
  | nil => rfl
  | cons call calls ih =>
    have htail := ih (p.reserve limits call.1 call.2).2
    unfold instantsOf at htail ⊢
    by_cases h : call.2 = tenant <;> simpa [reserveAll, h] using htail

/-- From a pacer that gives a tenant the slots of the schedule from now on, the tenant's
reservations are those of the schedule. -/
theorem slots_reserveAll_of_slot (hi : limits.interval? tenant = some interval)
    {last? : Option Duration} {now : Duration} {calls : List (Duration × String)}
    (hp : ∀ later, now ≤ later → p.slot later tenant = nextSlot interval last? later)
    (hcalls : (now :: calls.map (·.1)).Pairwise (· ≤ ·))
    (hh : ∀ slot ∈ schedule interval last? (instantsOf tenant calls), slot + interval < horizon) :
    ((p.reserveAll limits calls).filter (·.tenant = tenant)).map (·.slot) =
      schedule interval last? (instantsOf tenant calls) := by
  induction calls generalizing p last? now with
  | nil => rfl
  | cons call calls ih =>
    obtain ⟨t, other⟩ := call
    rw [List.map_cons, List.pairwise_cons] at hcalls
    have ht : now ≤ t := hcalls.1 t (List.mem_cons_self ..)
    by_cases h : other = tenant
    · subst h
      have hinstants : instantsOf other ((t, other) :: calls) = t :: instantsOf other calls := by
        simp [instantsOf]
      rw [hinstants] at hh ⊢
      rw [schedule, List.forall_mem_cons] at hh
      have hslot : p.slot t other = nextSlot interval last? t := hp t ht
      have hreserve := reserve_of_interval hi (hslot ▸ hh.1)
      have hwait : t + (nextSlot interval last? t - t) = nextSlot interval last? t :=
        Nat.add_sub_of_le (le_nextSlot interval last? t)
      -- The next slot is an interval after this one.
      have hlater : ∀ later, t ≤ later → (p.reserve limits t other).2.slot later other =
          nextSlot interval (some (nextSlot interval last? t)) later := fun later _ => by
        rw [slot_reserve_self hi (hslot ▸ hh.1), hslot]
        rfl
      have htail := ih hlater hcalls.2 hh.2
      simpa [reserveAll, schedule, Reservation.slot, hreserve, hslot, hwait] using htail
    · have hinstants : instantsOf tenant ((t, other) :: calls) = instantsOf tenant calls := by
        simp [instantsOf, h]
      rw [hinstants] at hh ⊢
      have hlater : ∀ later, t ≤ later →
          (p.reserve limits t other).2.slot later tenant = nextSlot interval last? later :=
        fun later hl => (slot_reserve_of_ne h hl).trans (hp later (Nat.le_trans ht hl))
      have htail := ih hlater hcalls.2 hh
      simpa [reserveAll, h] using htail

/-- The slots of a tenant are those of its schedule, whoever else reserves slots. -/
theorem slots_reserveAll (hi : limits.interval? tenant = some interval)
    {calls : List (Duration × String)} (hcalls : (calls.map (·.1)).Pairwise (· ≤ ·))
    (hh : ∀ slot ∈ schedule interval none (instantsOf tenant calls), slot + interval < horizon) :
    ((empty.reserveAll limits calls).filter (·.tenant = tenant)).map (·.slot) =
      schedule interval none (instantsOf tenant calls) := by
  have hslot : ∀ later, 0 ≤ later → empty.slot later tenant = nextSlot interval none later :=
    fun later _ => by simp [slot, empty, nextSlot]
  exact slots_reserveAll_of_slot hi hslot (.cons (fun t _ => Nat.zero_le t) hcalls) hh

/-- A tenant is limited if limits are switched on, it is not exempt, and it has a positive rate with
an interval that is a duration. -/
theorem interval?_of_rate (henabled : limits.enabled = true) (hexempt : tenant ∉ limits.exempt)
    (hrate : 0.0 < limits.rates[tenant]?.getD limits.defaultRate)
    (hinterval : Duration.ofSeconds? (1.0 / limits.rates[tenant]?.getD limits.defaultRate) =
      some interval) :
    limits.interval? tenant = some interval := by
  simp [RateLimits.interval?, RateLimits.rate?, henabled, hexempt, hrate, hinterval]

/-- A limited tenant waits from each of its requests until the slot of its own schedule. So its
slots are an interval apart, no wait is negative, and in a window of time only so many of its
requests do not have to wait. -/
theorem reserveAll_follows_schedule (henabled : limits.enabled = true)
    (hexempt : tenant ∉ limits.exempt)
    (hrate : 0.0 < limits.rates[tenant]?.getD limits.defaultRate)
    (hinterval : Duration.ofSeconds? (1.0 / limits.rates[tenant]?.getD limits.defaultRate) =
      some interval)
    (calls : List (Duration × String)) (hcalls : (calls.map (·.1)).Pairwise (· ≤ ·))
    (hh : ∀ slot ∈ schedule interval none (instantsOf tenant calls), slot + interval < horizon) :
    let own := (empty.reserveAll limits calls).filter (·.tenant = tenant)
    let instants := instantsOf tenant calls
    let slots := schedule interval none instants
    own.map (·.wait) = List.zipWith (· - ·) slots instants ∧
      List.Forall₂ (· ≤ ·) instants slots ∧
      slots.Pairwise (fun a b => a + interval ≤ b) ∧
      (0 < interval → ∀ start width, own.countP (fun r =>
        r.wait = 0 ∧ start ≤ r.instant ∧ r.instant ≤ start + width) ≤ width / interval + 1) := by
  intro own instants slots
  have hslots : own.map (·.slot) = slots :=
    slots_reserveAll (interval?_of_rate henabled hexempt hrate hinterval) hcalls hh
  have hinstants : own.map (·.instant) = instants := instantsOf_reserveAll empty limits tenant calls
  have hspaced : slots.Pairwise fun a b => a + interval ≤ b := pairwise_schedule interval none _
  refine ⟨?_, le_schedule interval none _, hspaced, fun hpos start width => ?_⟩
  · rw [← hslots, ← hinstants, List.zipWith_map, List.zipWith_self]
    exact List.map_congr_left fun r _ => (Nat.add_sub_cancel_left r.instant r.wait).symm
  · -- A request that does not have to wait has its slot at once.
    rw [List.countP_eq_length_filter, ← List.length_map Reservation.slot]
    refine length_le_of_spaced hpos (hspaced.sublist ?_) start width fun slot hslot => ?_
    · exact hslots ▸ List.filter_sublist.map _
    · obtain ⟨r, hr, rfl⟩ := List.mem_map.1 hslot
      obtain ⟨hwait, hstart, hend⟩ := of_decide_eq_true (List.mem_filter.1 hr).2
      rw [Reservation.slot, hwait, Nat.add_zero]
      exact ⟨hstart, hend⟩

/-- Two requests per second, of two tenants that ask six times in all. -/
theorem reserveAll_follows_schedule_twoTenants :
    let limits : RateLimits := ⟨true, false, 2.0, ∅, []⟩
    let calls := [(0, "acme"), (0, "acme"), (100000000, "globex"), (600000000, "acme"),
      (5000000000, "globex"), (7000000000, "acme")]
    ((empty.reserveAll limits calls).filter (·.tenant = "acme")).map (·.wait) =
      [0, 500000000, 400000000, 0] := by
  intro limits calls
  have hrate : 0.0 < limits.rates["acme"]?.getD limits.defaultRate := by
    decide +kernel
  have hinterval : Duration.ofSeconds? (1.0 / limits.rates["acme"]?.getD limits.defaultRate) =
      some 500000000 := by
    decide +kernel
  exact (reserveAll_follows_schedule rfl List.not_mem_nil hrate hinterval calls (by decide)
    (by decide)).1

end Pacer

end SeriesRender
