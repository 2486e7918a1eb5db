import Mathlib.Data.List.Count
import SeriesRender.Proofs.Service.Concurrency

/-!
# Leases

A `Lease` is the time for which an evaluation holds a permit, from the instant at which it is given
one until its end or its deadline. `Pool.Granted` follows the leases that a pool has given : it is
kept when the next permit is asked for (`Pool.Granted.assign`), and it bounds the number of leases
that hold at one instant by the size of the pool.

The bound is carried by three facts. Leases are given in order, each one as early as the next permit
is free (`Pool.acquire_le_acquire_assign`). From then on the leases that have not ended are the
permits that are in use. And whoever is given a permit finds at least one of them free
(`Pool.length_acquire_lt`).
-/

namespace SeriesRender

/-- The time for which an evaluation holds a permit. -/
structure Lease where
  since : Duration
  /-- The instant at which the permit comes back. -/
  stop : Duration
  deriving DecidableEq, Repr

/-- The permit is held at an instant. -/
def Lease.holdsAt (l : Lease) (t : Duration) : Bool :=
  l.since ≤ t && t < l.stop

/-- A lease holds from its start to just before its end. -/
theorem Lease.holdsAt_iff {l : Lease} {t : Duration} :
    l.holdsAt t = true ↔ l.since ≤ t ∧ t < l.stop := by
  simp [holdsAt]

namespace Pool

variable {p : Pool} {now deadline duration t : Duration}

/-! ## The next permit -/

/-- Either not all permits are in use, and one of them is given at once; or all of them are, and the
one that comes back first is given then. -/
theorem acquire_cases (hsize : 0 < p.size) (now : Duration) :
    ((p.busy.filter (now < ·)).length < p.size ∧
        p.acquire now = (now, p.busy.filter (now < ·))) ∨
      ∃ first ∈ p.busy.filter (now < ·), (∀ b ∈ p.busy.filter (now < ·), first ≤ b) ∧
        p.size ≤ (p.busy.filter (now < ·)).length ∧
        p.acquire now = (first, (p.busy.filter (now < ·)).erase first) := by
  unfold acquire
  dsimp only
  split
  · next hnone =>
    rw [List.min?_eq_none_iff.1 hnone]
    exact .inl ⟨hsize, rfl⟩
  · next first hfirst =>
    obtain ⟨hmem, hle⟩ := List.min?_eq_some_iff.1 hfirst
    split
    · next hfree => exact .inl ⟨hfree, rfl⟩
    · next hfull => exact .inr ⟨first, hmem, hle, Nat.le_of_not_lt hfull, rfl⟩

/-- Whoever is given a permit finds one free. -/
theorem length_acquire_lt (hsize : 0 < p.size)
    (hinUse : (p.busy.filter (now < ·)).length ≤ p.size) :
    (p.acquire now).2.length < p.size := by
  obtain ⟨hfree, h⟩ | ⟨first, hfirst, -, -, h⟩ := acquire_cases hsize now
  · rwa [h]
  · rw [h, List.length_erase_of_mem hfirst]
    have hpos : 0 < (p.busy.filter (now < ·)).length := List.length_pos_of_mem hfirst
    omega

/-- While all permits are in use, none is given before one of them comes back. -/
theorem le_acquire_of_full {first : Duration} (hsize : 0 < p.size)
    (hfull : p.size ≤ (p.busy.filter (now < ·)).length)
    (hle : ∀ b ∈ p.busy.filter (now < ·), first ≤ b) : first ≤ (p.acquire now).1 := by
  obtain ⟨hfree, -⟩ | ⟨second, hsecond, -, -, h⟩ := acquire_cases hsize now
  · exact absurd hfull (Nat.not_le_of_lt hfree)
  · rw [h]
    exact hle second hsecond

/-- After the next permit is free, those of others are in use that were in use before. -/
theorem countP_acquire (hsize : 0 < p.size) (h : (p.acquire now).1 ≤ t) :
    (p.acquire now).2.countP (t < ·) = p.busy.countP (t < ·) := by
  have hfilter : now ≤ t → (p.busy.filter (now < ·)).countP (t < ·) = p.busy.countP (t < ·) := by
    intro hnow
    rw [List.countP_filter]
    refine List.countP_congr fun b _ => ?_
    simp only [Bool.and_eq_true, decide_eq_true_eq]
    exact and_iff_left_of_imp (Nat.lt_of_le_of_lt hnow)
  have hnow : now ≤ t := Nat.le_trans le_acquire h
  obtain ⟨-, hacquire⟩ | ⟨first, -, -, -, hacquire⟩ := acquire_cases hsize now
  · rw [hacquire, hfilter hnow]
  · rw [hacquire] at h ⊢
    rw [List.countP_erase, hfilter hnow, if_neg, Nat.sub_zero]
    rintro ⟨-, hlt⟩
    exact Nat.not_lt_of_le h (of_decide_eq_true hlt)

/-- A permit is not given before the one that was asked for before. -/
theorem acquire_le_acquire_assign (hsize : 0 < p.size) :
    (p.acquire now).1 ≤ ((p.assign now deadline duration).2.acquire now).1 := by
  rcases Nat.lt_or_ge (p.acquire now).1 deadline with hstart | hlate
  · rw [assign_of_lt hstart]
    obtain ⟨-, h⟩ | ⟨first, hfirst, hle, hfull, h⟩ := acquire_cases hsize now
    · rw [h]
      exact le_acquire
    · -- All permits are still in use : the one that has come back is given again.
      have hnow : now < first := of_decide_eq_true (List.mem_filter.1 hfirst).2
      rw [h] at hstart ⊢
      have hstop : first ≤ min (first + duration) deadline :=
        Nat.le_min.2 ⟨Nat.le_add_right _ _, Nat.le_of_lt hstart⟩
      have hbusy : ∀ b ∈ min (first + duration) deadline :: (p.busy.filter (now < ·)).erase first,
          first ≤ b :=
        List.forall_mem_cons.2 ⟨hstop, fun b hb => hle b (List.mem_of_mem_erase hb)⟩
      refine le_acquire_of_full hsize ?_ fun b hb => hbusy b (List.mem_filter.1 hb).1
      rw [List.filter_eq_self.2 fun b hb => decide_eq_true (Nat.lt_of_lt_of_le hnow (hbusy b hb)),
        List.length_cons, List.length_erase_of_mem hfirst,
        Nat.sub_add_cancel (List.length_pos_of_mem hfirst)]
      exact hfull
  · exact Nat.le_of_eq (by rw [assign_of_le hlate])

/-- Acquiring a permit makes none busy that was not. -/
theorem mem_busy_of_mem_acquire {b : Duration} (h : b ∈ (p.acquire now).2) : b ∈ p.busy := by
  unfold acquire at h
  dsimp only at h
  split at h
  · cases h
  · split at h
    · exact (List.mem_filter.1 h).1
    · exact (List.mem_filter.1 (List.mem_of_mem_erase h)).1

/-! ## Leases of a pool -/

/-- The lease of an evaluation that asks for a permit, unless it is given none before its
deadline. -/
def lease? (p : Pool) (now deadline duration : Duration) : Option Lease :=
  (p.assign now deadline duration).1.map fun start => ⟨start, min (start + duration) deadline⟩

/-- A permit that is there in time is leased for the duration, up to the deadline. -/
theorem lease?_of_lt (h : (p.acquire now).1 < deadline) : p.lease? now deadline duration =
    some ⟨(p.acquire now).1, min ((p.acquire now).1 + duration) deadline⟩ := by
  rw [lease?, assign_of_lt h]
  rfl

/-- A permit that comes too late is not leased. -/
theorem lease?_of_le (h : deadline ≤ (p.acquire now).1) :
    p.lease? now deadline duration = none := by
  rw [lease?, assign_of_le h]
  rfl

/-- The lease of a task, whenever it has one. -/
theorem lease?_eq_some_iff {l : Lease} : p.lease? now deadline duration = some l ↔
    (p.acquire now).1 < deadline ∧
      l = ⟨(p.acquire now).1, min ((p.acquire now).1 + duration) deadline⟩ := by
  rcases Nat.lt_or_ge (p.acquire now).1 deadline with h | h
  · rw [lease?_of_lt h, Option.some.injEq, eq_comm]
    exact (and_iff_right h).symm
  · rw [lease?_of_le h]
    exact iff_of_false (fun h => by cases h) fun hl => Nat.not_lt_of_le h hl.1

/-- The pool has given these leases, and is asked for the next one from an instant on. -/
structure Granted (p : Pool) (now : Duration) (leases : List Lease) : Prop where
  size_pos : 0 < p.size
  inUse_le : (p.busy.filter (now < ·)).length ≤ p.size
  since_le : ∀ l ∈ leases, l.since ≤ (p.acquire now).1
  countP_stop : ∀ t, (p.acquire now).1 ≤ t → leases.countP (t < ·.stop) = p.busy.countP (t < ·)
  countP_holdsAt_le : ∀ t, leases.countP (·.holdsAt t) ≤ p.size

/-- A pool with all its permits free may have given no lease. -/
theorem granted_of_idle (hsize : 0 < p.size) (hidle : ∀ b ∈ p.busy, b ≤ now) :
    p.Granted now [] where
  size_pos := hsize
  inUse_le := by
    have hbusy : p.busy.filter (now < ·) = [] :=
      List.filter_eq_nil_iff.2 fun b hb => by simpa using hidle b hb
    rw [hbusy]
    exact Nat.zero_le _
  since_le := List.forall_mem_nil _
  countP_stop t ht := by
    refine (List.countP_eq_zero.2 fun b hb => ?_).symm
    simpa using Nat.le_trans (hidle b hb) (Nat.le_trans le_acquire ht)
  countP_holdsAt_le t := Nat.zero_le _

namespace Granted

variable {leases : List Lease}

/-- From the instant at which the next permit is free, leases that hold are permits of others. -/
theorem countP_holdsAt_le_length (h : p.Granted now leases) (ht : (p.acquire now).1 ≤ t) :
    leases.countP (·.holdsAt t) ≤ (p.acquire now).2.length := by
  have hstop : leases.countP (·.holdsAt t) ≤ leases.countP (t < ·.stop) :=
    List.countP_mono_left fun l _ hl => decide_eq_true (Lease.holdsAt_iff.1 hl).2
  rw [h.countP_stop t ht, ← countP_acquire h.size_pos ht] at hstop
  exact Nat.le_trans hstop List.countP_le_length

/-- A pool that is granted for some leases is granted for one more. -/
theorem assign (h : p.Granted now leases) : (p.assign now deadline duration).2.Granted now
    (leases ++ (p.lease? now deadline duration).toList) := by
  rcases Nat.lt_or_ge (p.acquire now).1 deadline with hstart | hlate
  · have hnext : (p.acquire now).1 ≤ ((p.assign now deadline duration).2.acquire now).1 :=
      acquire_le_acquire_assign h.size_pos
    have hothers := length_acquire_lt h.size_pos h.inUse_le
    rw [lease?_of_lt hstart, Option.toList_some]
    rw [assign_of_lt hstart] at hnext ⊢
    refine ⟨h.size_pos, ?_, ?_, fun t ht => ?_, fun t => ?_⟩
    · exact Nat.le_trans (List.length_filter_le _ _) hothers
    · rw [List.forall_mem_append, List.forall_mem_singleton]
      exact ⟨fun l hl => Nat.le_trans (h.since_le l hl) hnext, hnext⟩
    · have hle : (p.acquire now).1 ≤ t := Nat.le_trans hnext ht
      rw [List.countP_append, h.countP_stop t hle, ← countP_acquire h.size_pos hle]
      simp [List.countP_cons]
    · rw [List.countP_append, List.countP_singleton]
      dsimp only
      split
      · next hnew =>
        have hold := h.countP_holdsAt_le_length (Lease.holdsAt_iff.1 hnew).1
        exact Nat.lt_of_le_of_lt hold hothers
      · exact h.countP_holdsAt_le t
  · rw [lease?_of_le hlate, assign_of_le hlate]
    simpa using h

end Granted

end Pool

end SeriesRender
