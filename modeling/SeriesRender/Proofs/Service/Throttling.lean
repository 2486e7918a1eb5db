import SeriesRender.Proofs.Pacing
import SeriesRender.Proofs.Service.History
import SeriesRender.Proofs.Target.RoundTrip

/-!
# Requests that come early

A request that is refused because it comes early is told how long to wait, but it has taken its
slot all the same. So the tenant is refused again if it comes back after exactly that wait : as
`throttled_again_iff` says, its next request is refused until one interval after the slot that the
refused request was told to wait for.
-/

namespace SeriesRender

/-- No render request of the tenant that passes the check. -/
def Action.Quiet (settings : RenderSettings) (tenant : String) (a : Action) : Prop :=
  ∀ p, a.rendering? = some p → p.tenant = tenant → ¬settings.Admits p

namespace Service

variable (s : Service)

/-- An evaluation is never refused. -/
theorem work_ne_throttled (p : Parameters) (evaluation : Trace Response) (retryAfter : Duration) :
    (s.work p evaluation).1.outcome ≠ .throttled retryAfter := by
  unfold work
  dsimp only
  rcases s.pool.assign s.now (s.now + s.settings.render.requestTimeout) evaluation.duration with
    ⟨started, pool⟩
  dsimp only
  split
  · cases evaluation.result <;> simp
  · simp

/-- A request is refused when it passes the check but has to wait, with the wait as an answer. -/
theorem throttled_iff {p : Parameters} {retryAfter : Duration} :
    (s.render p).1.outcome = .throttled retryAfter ↔
      s.settings.render.Admits p ∧ s.settings.limits.refuses = true ∧
        ∃ wait, (s.pacer.reserve s.settings.limits s.now p.tenant).1 = wait ∧ 0 < wait ∧
          retryAfter = (Duration.ofSeconds? wait.seconds).getD wait := by
  cases hc : s.settings.render.check p with
  | error e => simp [render, RenderSettings.Admits, hc]
  | ok targets =>
    have hadmits : s.settings.render.Admits p := ⟨targets, hc⟩
    have hdelay : (s.pacer.reserve s.settings.limits s.now p.tenant).1 = (s.accept p.tenant).1 :=
      rfl
    rw [s.render_of_check hc, hdelay]
    by_cases hw : 0 < (s.accept p.tenant).1 ∧ s.settings.limits.refuses = true
    · rw [if_pos hw]
      simp [hadmits, hw, eq_comm]
    · rw [if_neg hw]
      refine iff_of_false (work_ne_throttled _ p _ retryAfter) ?_
      rintro ⟨-, hr, _, rfl, hd, -⟩
      exact hw ⟨hd, hr⟩

/-- A quiet action leaves the tenant's slot where it is. -/
theorem slot_after {a : Action} {tenant : String} {later : Duration}
    (h : a.Quiet s.settings.render tenant) (hl : s.now ≤ later) :
    (s.after a).pacer.slot later tenant = s.pacer.slot later tenant := by
  rcases s.pacer_after a with ⟨p, ha, hp, hs⟩ | ⟨-, hs⟩
  · have hne : p.tenant ≠ tenant := fun ht => h p ha ht hp
    rw [hs, Pacer.slot_reserve_of_ne hne hl]
  · rw [hs]

/-- So does a quiet history. -/
theorem slot_afterAll {as : List Action} {tenant : String} {later : Duration}
    (h : ∀ a ∈ as, a.Quiet s.settings.render tenant) (hl : (s.afterAll as).now ≤ later) :
    (s.afterAll as).pacer.slot later tenant = s.pacer.slot later tenant := by
  induction as generalizing s with
  | nil => rfl
  | cons a as ih =>
    rw [List.forall_mem_cons] at h
    rw [afterAll_cons] at hl ⊢
    have hnow : s.now ≤ later :=
      Nat.le_trans (Nat.le_trans (s.now_le_after a) ((s.after a).now_le_afterAll as)) hl
    rw [ih (s.after a) (by simpa using h.2) hl, s.slot_after h.1 hnow]

/-- After a request that passes the check, the next one of its tenant is refused exactly if it
comes before the slot that follows the first one's slot, whatever became of the first one. -/
theorem next_throttled_iff {p q : Parameters} {interval : Duration} {as : List Action}
    (hp : s.settings.render.Admits p) (hr : s.settings.limits.refuses = true)
    (hi : s.settings.limits.interval? p.tenant = some interval)
    (hh : s.pacer.slot s.now p.tenant + interval < Pacer.horizon)
    (has : ∀ a ∈ as, a.Quiet s.settings.render p.tenant) (ht : q.tenant = p.tenant)
    (hq : s.settings.render.Admits q) :
    (∃ retryAfter, (((s.render p).2.afterAll as).render q).1.outcome = .throttled retryAfter) ↔
      ((s.render p).2.afterAll as).now < s.pacer.slot s.now p.tenant + interval ∧
        s.pacer.slot s.now p.tenant + 2 * interval < Pacer.horizon := by
  obtain ⟨pool, counters, hs⟩ := s.exists_render_eq hp
  -- The request has moved the slot one interval on, and the history leaves it there.
  have hnext : ((s.render p).2.afterAll as).pacer.slot ((s.render p).2.afterAll as).now q.tenant =
      max ((s.render p).2.afterAll as).now (s.pacer.slot s.now p.tenant + interval) := by
    rw [ht, slot_afterAll _ (by simpa using has) (Nat.le_refl _), hs,
      Pacer.slot_reserve_self hi hh]
  have hwait : (∃ retryAfter,
        (((s.render p).2.afterAll as).render q).1.outcome = .throttled retryAfter) ↔
      0 < (((s.render p).2.afterAll as).pacer.reserve s.settings.limits
        ((s.render p).2.afterAll as).now q.tenant).1 := by
    simp [throttled_iff, hq, hr]
  rw [hwait, Pacer.reserve_pos_iff, hnext, ht]
  constructor
  · rintro ⟨interval', hi', hlt, hlt'⟩
    obtain rfl := Option.some.inj (hi.symm.trans hi')
    grind
  · rintro ⟨hlt, hlt'⟩
    exact ⟨interval, hi, by grind⟩

/-! ## Coming back after the wait -/

/-- The service after a request, and after the wait that the pacer answers it with. -/
def retried (s : Service) (p : Parameters) : Service :=
  (s.render p).2.wait (s.accept p.tenant).1

/-- Whoever comes early and comes back after each wait is early each time. -/
theorem slot_retried {p : Parameters} {interval : Duration} (hp : s.settings.render.Admits p)
    (hi : s.settings.limits.interval? p.tenant = some interval)
    (hslot : s.now < s.pacer.slot s.now p.tenant)
    (hh : s.pacer.slot s.now p.tenant + interval < Pacer.horizon) :
    (s.retried p).now = s.pacer.slot s.now p.tenant ∧
      (s.retried p).pacer.slot (s.retried p).now p.tenant =
        s.pacer.slot s.now p.tenant + interval := by
  obtain ⟨pool, counters, hs⟩ := s.exists_render_eq hp
  have haccept : (s.accept p.tenant).1 = s.pacer.slot s.now p.tenant - s.now :=
    congrArg Prod.fst (Pacer.reserve_of_interval hi hh)
  have hnow : (s.retried p).now = s.pacer.slot s.now p.tenant := by
    rw [retried, wait, hs, haccept]
    exact Nat.add_sub_of_le (Nat.le_of_lt hslot)
  refine ⟨hnow, ?_⟩
  rw [hnow, retried, wait, hs, Pacer.slot_reserve_self hi hh]
  exact Nat.max_eq_right (Nat.le_add_right _ _)

/-- The service after a number of such requests. -/
def retries (s : Service) (p : Parameters) : Nat → Service
  | 0 => s
  | n + 1 => (s.retries p n).retried p

/-- By induction, each retry at the advertised time moves the slot on by an interval. -/
theorem slot_retries {p : Parameters} {interval : Duration} (hp : s.settings.render.Admits p)
    (hi : s.settings.limits.interval? p.tenant = some interval) (hpos : 0 < interval)
    (hslot : s.now < s.pacer.slot s.now p.tenant) : ∀ n : Nat,
    s.pacer.slot s.now p.tenant + n * interval < Pacer.horizon →
    (s.retries p n).settings = s.settings ∧
      (s.retries p n).now < (s.retries p n).pacer.slot (s.retries p n).now p.tenant ∧
      (s.retries p n).pacer.slot (s.retries p n).now p.tenant =
        s.pacer.slot s.now p.tenant + n * interval
  | 0, _ => ⟨rfl, hslot, by simp [retries]⟩
  | n + 1, hh => by
    rw [Nat.succ_mul, ← Nat.add_assoc] at hh ⊢
    obtain ⟨hs, hlate, heq⟩ := slot_retries hp hi hpos hslot n (Nat.lt_of_le_of_lt
      (Nat.le_add_right _ _) hh)
    obtain ⟨hnow, hnext⟩ := (s.retries p n).slot_retried (hs ▸ hp) (hs ▸ hi) hlate (heq ▸ hh)
    rw [retries, hnext, hnow, heq]
    refine ⟨?_, Nat.lt_add_of_pos_right hpos, rfl⟩
    rw [retried, wait, settings_render, hs]

/-- Such a client is refused every time, as long as there are slots. -/
theorem throttled_retrying {p : Parameters} {interval : Duration}
    (hp : s.settings.render.Admits p) (hr : s.settings.limits.refuses = true)
    (hi : s.settings.limits.interval? p.tenant = some interval) (hpos : 0 < interval)
    (hslot : s.now < s.pacer.slot s.now p.tenant) (n : Nat)
    (hh : s.pacer.slot s.now p.tenant + (n + 1) * interval < Pacer.horizon) :
    ∃ retryAfter, ((s.retries p n).render p).1.outcome = .throttled retryAfter := by
  rw [Nat.succ_mul, ← Nat.add_assoc] at hh
  obtain ⟨hs, hlate, heq⟩ := s.slot_retries hp hi hpos hslot n
    (Nat.lt_of_le_of_lt (Nat.le_add_right _ _) hh)
  have hwait := Pacer.reserve_pos_iff.2 ⟨interval, hs ▸ hi, hlate, heq ▸ hh⟩
  exact ⟨_, (throttled_iff _).2 ⟨hs ▸ hp, hs ▸ hr, _, rfl, hwait, rfl⟩⟩

/-! ## One request in two seconds -/

/-- A service that refuses all but one request in two seconds. -/
def halfPerSecond : Service :=
  inMemory { Settings.standard with limits := ⟨true, true, 0.5, ∅, []⟩ }

/-- A request for one path. -/
def probe : Parameters := ⟨"acme", ["a"], 0, 3, .json⟩

theorem wellFormed_probe : (Target.Expr.selector "a").WellFormed :=
  ⟨Target.isWord_of_isIdentifier rfl,
    Target.classifyWord_of_none (by decide) (by decide) (by decide)⟩

theorem check_probe : halfPerSecond.settings.render.check probe = .ok [.selector "a"] := by
  have hparse : Target.parse 128 "a" = .ok (.selector "a") :=
    Target.parse_text_of_wellFormed (e := .selector "a") wellFormed_probe (Nat.zero_le _)
  refine RenderSettings.check_eq_ok_iff.2 ⟨rfl, ?_, rfl⟩
  change List.mapM (Target.parse 128) ["a"] = _
  rw [List.mapM_cons, hparse]
  rfl

theorem admits_probe : halfPerSecond.settings.render.Admits probe := ⟨_, check_probe⟩

/-- Two seconds are the interval, and are advertised as they are. -/
theorem interval_probe :
    halfPerSecond.settings.limits.interval? probe.tenant = some 2000000000 ∧
      Duration.ofSeconds? (Duration.seconds 2000000000) = some 2000000000 := by
  decide +kernel

/-- At half a request each second, the next slot is two seconds later. -/
theorem slot_probe :
    (halfPerSecond.render probe).2.pacer.slot 0 probe.tenant = 2000000000 := by
  obtain ⟨pool, counters, hs⟩ := halfPerSecond.exists_render_eq admits_probe
  rw [hs, Pacer.slot_reserve_self interval_probe.1 (by decide)]
  decide

theorem reserve_probe :
    ((halfPerSecond.render probe).2.pacer.reserve halfPerSecond.settings.limits 0 probe.tenant).1 =
      2000000000 := by
  have hh : (halfPerSecond.render probe).2.pacer.slot 0 probe.tenant + 2000000000 <
      Pacer.horizon := by
    rw [slot_probe]
    decide
  rw [Pacer.reserve_of_interval interval_probe.1 hh, slot_probe]

/-- The second of two such requests is told to wait for two seconds. -/
theorem throttled_probe :
    ((halfPerSecond.render probe).2.render probe).1.outcome = .throttled 2000000000 := by
  refine (throttled_iff _).2 ⟨?_, ?_, 2000000000, ?_, by decide, ?_⟩
  · rw [settings_render]
    exact admits_probe
  · rw [settings_render]
    rfl
  · rw [settings_render, now_render]
    exact reserve_probe
  · rw [interval_probe.2]
    rfl

/-! ## The next request -/

/-- After a request was refused, the next one of its tenant that passes the check is refused again
exactly if it comes before one interval after the instant that the first one was told to wait for
(unless slots end there). So the advertised wait is one interval too short. -/
theorem throttled_again_iff {p : Parameters} {retryAfter : Duration}
    (h : (s.render p).1.outcome = .throttled retryAfter) :
    ∃ wait interval, 0 < wait ∧ (s.pacer.reserve s.settings.limits s.now p.tenant).1 = wait ∧
      retryAfter = (Duration.ofSeconds? wait.seconds).getD wait ∧
      s.settings.limits.interval? p.tenant = some interval ∧
      ∀ (as : List Action) (q : Parameters),
        (∀ a ∈ as, a.Quiet s.settings.render p.tenant) → q.tenant = p.tenant →
        s.settings.render.Admits q →
        ((∃ again, (((s.render p).2.afterAll as).render q).1.outcome = .throttled again) ↔
          ((s.render p).2.afterAll as).now < s.now + wait + interval ∧
            s.now + wait + 2 * interval < Pacer.horizon) := by
  obtain ⟨hp, hr, wait, hreserve, hwait, hretry⟩ := s.throttled_iff.1 h
  obtain ⟨interval, hi, hslot, hh⟩ := Pacer.reserve_pos_iff.1 (hreserve ▸ hwait)
  refine ⟨wait, interval, hwait, hreserve, hretry, hi, fun as q has ht hq => ?_⟩
  have hinstant : s.pacer.slot s.now p.tenant = s.now + wait := by
    rw [Pacer.reserve_of_interval hi hh] at hreserve
    dsimp only at hreserve
    grind
  rw [next_throttled_iff s hp hr hi hh has ht hq, hinstant]

/-- With one request in two seconds, the second request is told to wait for two seconds, and a
third one after these two seconds is refused. -/
theorem throttled_again_halfPerSecond :
    ((halfPerSecond.render probe).2.render probe).1.outcome = .throttled 2000000000 ∧
      ∃ again, ((((halfPerSecond.render probe).2.render probe).2.wait 2000000000).render
        probe).1.outcome = .throttled again := by
  refine ⟨throttled_probe, ?_⟩
  obtain ⟨wait, interval, -, hreserve, -, hi, hnext⟩ := throttled_again_iff _ throttled_probe
  rw [settings_render, now_render] at hreserve
  obtain rfl := hreserve.symm.trans reserve_probe
  rw [settings_render] at hi hnext
  obtain rfl := Option.some.inj (hi.symm.trans interval_probe.1)
  refine (hnext [.wait 2000000000] probe ?_ rfl admits_probe).2 ?_
  · simp [Action.Quiet, Action.rendering?]
  · rw [afterAll_cons, afterAll_nil, after, wait, now_render, now_render]
    decide

/-- So it is not the case that whoever waits as long as it was told is let in. -/
theorem not_admitted_after_wait :
    ¬∀ (settings : Settings) (backend : Backend) (before as : List Action) (p q : Parameters)
        (retryAfter : Duration),
      (((launch settings backend).afterAll before).render p).1.outcome = .throttled retryAfter →
      (∀ a ∈ as, a.Quiet settings.render p.tenant) → q.tenant = p.tenant →
      settings.render.Admits q →
      ((launch settings backend).afterAll before).now + retryAfter ≤
        ((((launch settings backend).afterAll before).render p).2.afterAll as).now →
      ∀ again, (((((launch settings backend).afterAll before).render p).2.afterAll as).render
        q).1.outcome ≠ .throttled again := by
  intro h
  have hquiet : ∀ a ∈ [Action.wait 2000000000],
      a.Quiet halfPerSecond.settings.render probe.tenant := by
    simp [Action.Quiet, Action.rendering?]
  have hs := settings_render halfPerSecond probe
  have hslot : (halfPerSecond.render probe).2.pacer.slot (halfPerSecond.render probe).2.now
      probe.tenant = 2000000000 := by
    rw [now_render]
    exact slot_probe
  have hagain := next_throttled_iff (halfPerSecond.render probe).2 (hs ▸ admits_probe) (hs ▸ rfl)
    (hs ▸ interval_probe.1) (by rw [hslot]; decide) (hs ▸ hquiet) rfl (hs ▸ admits_probe)
  obtain ⟨again, hagain⟩ := hagain.2 (by
    rw [hslot, afterAll_cons, afterAll_nil, after, wait, now_render, now_render]
    decide)
  refine h _ _ [.start probe] _ probe probe 2000000000 throttled_probe hquiet rfl admits_probe ?_
    again hagain
  rw [afterAll_cons, afterAll_nil, after, afterAll_cons, afterAll_nil, after, wait]
  exact Nat.add_le_add_right (Nat.le_of_eq (now_render _ probe).symm) _

end Service

end SeriesRender
