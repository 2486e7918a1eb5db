import SeriesRender.Pacing

/-!
# Slots and reservations

What a tenant sees of a pacer is the slot it would be given at a later instant, `Pacer.slot`.
Forgetting slots that have passed does not change it (`slot_prune`), and neither does a
reservation of another tenant (`slot_reserve_of_ne`). A tenant's own reservation moves its slot one
interval on (`slot_reserve_self`), whether or not the wait it answers with is then waited for. It
depends on nothing else of the pacer (`wait_reserve_congr`, `slot_reserve_congr`).
-/

namespace SeriesRender.Pacer

variable {p : Pacer} {limits : RateLimits} {now later interval : Duration}
  {tenant other : String}

/-- Pruning forgets only slots that have passed. -/
theorem slot_prune (p : Pacer) (tenant : String) (h : now ≤ later) :
    (p.prune now).slot later tenant = p.slot later tenant := by
  unfold slot prune
  rw [Std.TreeMap.getElem?_filter']
  cases p.pending[tenant]? with
  | none => rfl
  | some slot =>
    rw [Option.filter_some]
    by_cases hs : now < slot
    · simp [hs]
    · have hslot : slot ≤ later := Nat.le_trans (Nat.le_of_not_lt hs) h
      simp [hs, hslot]

/-- A call at a limited rate takes the slot, and the next one is an interval later. -/
theorem reserve_of_interval (hi : limits.interval? tenant = some interval)
    (hh : p.slot now tenant + interval < horizon) :
    p.reserve limits now tenant = (p.slot now tenant - now,
      ⟨(p.prune now).pending.insert tenant (p.slot now tenant + interval)⟩) := by
  rw [reserve, hi]
  exact if_pos hh

/-- A request has to wait when its slot has not come yet and is within the horizon. -/
theorem reserve_pos_iff : 0 < (p.reserve limits now tenant).1 ↔
    ∃ interval, limits.interval? tenant = some interval ∧ now < p.slot now tenant ∧
      p.slot now tenant + interval < horizon := by
  cases hi : limits.interval? tenant with
  | none => simp [reserve, hi]
  | some interval =>
    by_cases hh : p.slot now tenant + interval < horizon
    · rw [reserve_of_interval hi hh]
      constructor
      · intro h
        exact ⟨interval, rfl, Nat.lt_of_sub_pos h, hh⟩
      · rintro ⟨-, -, h, -⟩
        exact Nat.sub_pos_of_lt h
    · simp [reserve, hi, hh]

theorem slot_reserve_of_ne (h : tenant ≠ other) (hl : now ≤ later) :
    (p.reserve limits now tenant).2.slot later other = p.slot later other := by
  cases hi : limits.interval? tenant with
  | none =>
    rw [reserve, hi]
  | some interval =>
    rw [← slot_prune p other hl]
    by_cases hh : p.slot now tenant + interval < horizon
    · rw [reserve_of_interval hi hh]
      simp [slot, Std.TreeMap.getElem?_insert, h]
    · rw [reserve, hi]
      simp [hh]

/-- The next slot of the same tenant is an interval later, but never in the past. -/
theorem slot_reserve_self (hi : limits.interval? tenant = some interval)
    (hh : p.slot now tenant + interval < horizon) :
    (p.reserve limits now tenant).2.slot later tenant =
      max later (p.slot now tenant + interval) := by
  rw [reserve_of_interval hi hh]
  simp [slot]

variable {q : Pacer}

/-- How long a call waits depends on the slot of its tenant only. -/
theorem wait_reserve_congr (h : p.slot now tenant = q.slot now tenant) :
    (p.reserve limits now tenant).1 = (q.reserve limits now tenant).1 := by
  unfold reserve
  cases limits.interval? tenant with
  | none => rfl
  | some interval =>
    dsimp only
    rw [h]
    split <;> rfl

theorem slot_reserve_congr (h : ∀ later, now ≤ later → p.slot later tenant = q.slot later tenant)
    (hl : now ≤ later) : (p.reserve limits now tenant).2.slot later tenant =
      (q.reserve limits now tenant).2.slot later tenant := by
  have hnow := h now (Nat.le_refl now)
  cases hi : limits.interval? tenant with
  | none => rw [reserve, reserve, hi, h later hl]
  | some interval =>
    by_cases hh : p.slot now tenant + interval < horizon
    · rw [slot_reserve_self hi hh, slot_reserve_self hi (hnow ▸ hh), hnow]
    · rw [reserve, reserve, hi, ← hnow]
      dsimp only
      rw [if_neg hh, if_neg hh, slot_prune p tenant hl, slot_prune q tenant hl, h later hl]

end SeriesRender.Pacer
