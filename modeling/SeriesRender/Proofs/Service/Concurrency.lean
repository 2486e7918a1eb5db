import Mathlib.Data.List.Forall2
import SeriesRender.Proofs.Service.Throttling

/-!
# Requests side by side

Requests that start together share the permits of the pool. An evaluation waits for a permit only
while all of them are in use (`Pool.acquire_of_available`), each request takes at most one of them
(`Pool.available_le_assign`), and to wait only brings an evaluation nearer to its deadline
(`Outcome.startedAt_of_le`). What it finds does not change : it depends on the settings and on the
store alone.

So in a service that refuses nothing, a request of a batch ends as it does alone in a new service,
or it is timed out; and if there is a permit for each one, it ends as it does alone
(`Service.outcomes_serve`).
-/

namespace SeriesRender

/-! ## Permits -/

namespace Pool

variable {p : Pool} {now deadline duration : Duration}

/-- No permit is acquired before it is asked for. -/
theorem le_acquire : now ≤ (p.acquire now).1 := by
  unfold acquire
  dsimp only
  split
  · exact Nat.le_refl now
  · next first hfirst =>
    have hmem : first ∈ p.busy.filter (now < ·) := List.min?_mem hfirst
    split
    · exact Nat.le_refl now
    · exact Nat.le_of_lt (of_decide_eq_true (List.mem_filter.1 hmem).2)

/-- An evaluation waits only while all permits are in use. -/
theorem acquire_of_available (h : 0 < p.available now) : (p.acquire now).1 = now := by
  have hfree : (p.busy.filter (now < ·)).length < p.size := Nat.lt_of_sub_pos h
  unfold acquire
  dsimp only
  split
  · rfl
  · rw [if_pos hfree]

/-- No permit is lost : those of others that are in use at the start were in use before. -/
theorem length_acquire_le : (p.acquire now).2.length ≤ (p.busy.filter (now < ·)).length := by
  unfold acquire
  dsimp only
  split
  · exact Nat.zero_le _
  · split
    · exact Nat.le_refl _
    · exact List.length_erase_le

/-- A task that gets its permit in time holds it for its duration, but not beyond the deadline. -/
theorem assign_of_lt (h : (p.acquire now).1 < deadline) : p.assign now deadline duration =
    (some (p.acquire now).1,
      ⟨p.size, min ((p.acquire now).1 + duration) deadline :: (p.acquire now).2⟩) :=
  if_pos h

/-- A task whose permit comes too late leaves the pool as it is. -/
theorem assign_of_le (h : deadline ≤ (p.acquire now).1) :
    p.assign now deadline duration = (none, p) :=
  if_neg (Nat.not_lt_of_le h)

@[simp] theorem size_assign : (p.assign now deadline duration).2.size = p.size := by
  rcases Nat.lt_or_ge (p.acquire now).1 deadline with h | h
  · rw [assign_of_lt h]
  · rw [assign_of_le h]

/-- An evaluation takes at most one permit. -/
theorem available_le_assign :
    p.available now ≤ (p.assign now deadline duration).2.available now + 1 := by
  rcases Nat.lt_or_ge (p.acquire now).1 deadline with h | h
  · have hlength : (p.acquire now).2.length ≤ (p.busy.filter (now < ·)).length :=
      length_acquire_le
    have hfilter := List.length_filter_le (now < ·)
      (min ((p.acquire now).1 + duration) deadline :: (p.acquire now).2)
    rw [List.length_cons] at hfilter
    rw [assign_of_lt h, available, available]
    dsimp only
    omega
  · rw [assign_of_le h]
    exact Nat.le_succ _

/-- If none is in use, all permits are available. -/
theorem available_of_idle (h : ∀ b ∈ p.busy, b ≤ now) : p.available now = p.size := by
  have hbusy : p.busy.filter (now < ·) = [] :=
    List.filter_eq_nil_iff.2 fun b hb => by simpa using h b hb
  rw [available, hbusy]
  rfl

end Pool

/-! ## Outcomes -/

namespace Outcome

variable {deadline start later : Duration} {evaluation : Trace Response}

/-- How an evaluation ends that starts at an instant and has to end before a deadline. -/
def startedAt (deadline start : Duration) (evaluation : Trace Response) : Outcome :=
  if start + evaluation.duration < deadline then
    match evaluation.result with
    | .ok response => .completed response
    | .error e => .failed (.ofEvalError e)
  else .timedOut

/-- To start later changes nothing, or the evaluation is timed out. -/
theorem startedAt_of_le (h : start ≤ later) :
    startedAt deadline later evaluation = startedAt deadline start evaluation ∨
      startedAt deadline later evaluation = .timedOut := by
  by_cases hlater : later + evaluation.duration < deadline
  · have hstart : start + evaluation.duration < deadline :=
      Nat.lt_of_le_of_lt (Nat.add_le_add_right h _) hlater
    exact .inl ((if_pos hlater).trans (if_pos hstart).symm)
  · exact .inr (if_neg hlater)

theorem startedAt_of_deadline_le (h : deadline ≤ start) :
    startedAt deadline start evaluation = .timedOut :=
  if_neg (Nat.not_lt_of_le (Nat.le_trans h (Nat.le_add_right _ _)))

/-- The outcome does not depend on the time of the service. -/
theorem startedAt_shift (now timeout : Duration) :
    startedAt (now + timeout) now evaluation = startedAt timeout 0 evaluation := by
  rw [startedAt, startedAt, Nat.zero_add]
  exact if_congr (Nat.add_lt_add_iff_left) rfl rfl

end Outcome

namespace Service

variable (s : Service) {p : Parameters}

/-- The outcome of a request follows from the instant at which it is given a permit. -/
theorem outcome_work (p : Parameters) (evaluation : Trace Response) :
    (s.work p evaluation).1.outcome =
      .startedAt (s.now + s.settings.render.requestTimeout) (s.pool.acquire s.now).1
        evaluation := by
  rw [work]
  dsimp only
  rcases Nat.lt_or_ge (s.pool.acquire s.now).1 (s.now + s.settings.render.requestTimeout)
    with h | h
  · rw [Pool.assign_of_lt h, Option.filter_some, Outcome.startedAt]
    by_cases hended : (s.pool.acquire s.now).1 + evaluation.duration <
        s.now + s.settings.render.requestTimeout
    · rw [if_pos (decide_eq_true hended)]
      exact (if_pos hended).symm
    · rw [if_neg hended, if_neg fun h => hended (of_decide_eq_true h)]
  · rw [Pool.assign_of_le h, Outcome.startedAt_of_deadline_le h]
    rfl

/-- What is evaluated takes a permit of the pool. -/
theorem pool_work (p : Parameters) (evaluation : Trace Response) :
    (s.work p evaluation).2.pool = (s.pool.assign s.now
      (s.now + s.settings.render.requestTimeout) evaluation.duration).2 := by
  rw [work]
  dsimp only
  split <;> rfl

/-! ## One request -/

/-- How a request ends that is not refused, and is given a permit at an instant. -/
def outcomeFrom (start : Duration) (p : Parameters) : Outcome :=
  match s.settings.render.check p with
  | .error e => .failed e
  | .ok targets =>
    .startedAt (s.now + s.settings.render.requestTimeout) start (s.evaluation p targets)

/-- The outcome of an admitted request depends on its start only. -/
theorem outcomeFrom_of_check {targets : List Target.Expr}
    (hc : s.settings.render.check p = .ok targets) (start : Duration) : s.outcomeFrom start p =
      .startedAt (s.now + s.settings.render.requestTimeout) start (s.evaluation p targets) := by
  rw [outcomeFrom, hc]

/-- A request that is not admitted is refused whenever it starts. -/
theorem outcomeFrom_of_not_admits (h : ¬s.settings.render.Admits p) (start later : Duration) :
    s.outcomeFrom start p = s.outcomeFrom later p := by
  unfold outcomeFrom
  cases hc : s.settings.render.check p with
  | error e => rfl
  | ok targets => exact absurd ⟨targets, hc⟩ h

/-- A later start changes an outcome to nothing but a timeout. -/
theorem outcomeFrom_of_le {start later : Duration} (h : start ≤ later) :
    s.outcomeFrom later p = s.outcomeFrom start p ∨ s.outcomeFrom later p = .timedOut := by
  unfold outcomeFrom
  cases s.settings.render.check p with
  | error e => exact .inl rfl
  | ok targets => exact Outcome.startedAt_of_le h

/-- Without a wait for a permit, the outcome depends on the settings and on the store alone. -/
theorem outcomeFrom_now_congr {s t : Service} (hs : s.settings = t.settings)
    (hb : s.backend = t.backend) : s.outcomeFrom s.now = t.outcomeFrom t.now := by
  funext p
  simp only [outcomeFrom, evaluation, Outcome.startedAt_shift, hs, hb]

@[simp] theorem backend_render (p : Parameters) : (s.render p).2.backend = s.backend := by
  by_cases h : s.settings.render.Admits p
  · obtain ⟨pool, counters, hs⟩ := s.exists_render_eq h
    rw [hs]
  · rw [s.render_of_not_admits h]

/-- A service that refuses nothing lets a worker do the evaluation. -/
theorem render_of_not_refuses (h : s.settings.limits.refuses = false) {targets : List Target.Expr}
    (hc : s.settings.render.check p = .ok targets) :
    s.render p = (s.accept p.tenant).2.work p (s.evaluation p targets) := by
  rw [s.render_of_check hc, if_neg fun hr => Bool.false_ne_true (h.symm.trans hr.2)]

/-- A request takes a permit only if it passes the check. -/
theorem pool_render (p : Parameters) :
    (s.render p).2.pool = s.pool ∨ s.settings.render.Admits p ∧ ∃ duration, (s.render p).2.pool =
      (s.pool.assign s.now (s.now + s.settings.render.requestTimeout) duration).2 := by
  cases hc : s.settings.render.check p with
  | error e =>
    rw [render, hc]
    exact .inl rfl
  | ok targets =>
    rw [s.render_of_check hc]
    split
    · exact .inl rfl
    · exact .inr ⟨⟨targets, hc⟩, _, pool_work _ p _⟩

@[simp] theorem size_render (p : Parameters) : (s.render p).2.pool.size = s.pool.size := by
  obtain h | ⟨-, duration, h⟩ := s.pool_render p
  · rw [h]
  · rw [h, Pool.size_assign]

/-- A request leaves all permits but one, or all if it does not pass the check. -/
theorem available_le_render (p : Parameters) :
    s.pool.available s.now ≤ (s.render p).2.pool.available s.now +
      if s.settings.render.Admits p then 1 else 0 := by
  obtain h | ⟨hp, duration, h⟩ := s.pool_render p
  · rw [h]
    exact Nat.le_add_right _ _
  · rw [h, if_pos hp]
    exact Pool.available_le_assign

/-- The outcome of a request follows from the instant at which there is a permit. -/
theorem outcome_render (h : s.settings.limits.refuses = false) (p : Parameters) :
    (s.render p).1.outcome = s.outcomeFrom (s.pool.acquire s.now).1 p := by
  unfold outcomeFrom
  cases hc : s.settings.render.check p with
  | error e => rw [render, hc]
  | ok targets => exact s.render_of_not_refuses h hc ▸ outcome_work _ p _

/-- A request for which there is a permit does not wait. -/
theorem outcome_render_of_available (h : s.settings.limits.refuses = false)
    (hfree : s.settings.render.Admits p → 0 < s.pool.available s.now) :
    (s.render p).1.outcome = s.outcomeFrom s.now p := by
  rw [s.outcome_render h]
  by_cases hp : s.settings.render.Admits p
  · rw [Pool.acquire_of_available (hfree hp)]
  · exact s.outcomeFrom_of_not_admits hp _ _

/-- A request alone in a new service does not wait. -/
theorem outcome_serveOne_launch {settings : Settings} (h : settings.limits.refuses = false)
    (backend : Backend) (p : Parameters) :
    ((launch settings backend).serveOne p).1 = (launch settings backend).outcomeFrom 0 p := by
  have hidle : (launch settings backend).pool.available 0 = max settings.render.maxConcurrent 1 :=
    Pool.available_of_idle (List.forall_mem_nil _)
  exact outcome_render_of_available _ h fun _ => hidle ▸ Nat.le_max_right _ _

/-! ## Requests that start together -/

/-- Each request of a batch has its own outcome, or has timed out. -/
theorem outcomes_renderAll (h : s.settings.limits.refuses = false) (requests : List Parameters) :
    List.Forall₂ (fun p outcome => outcome = s.outcomeFrom s.now p ∨ outcome = .timedOut) requests
      ((s.renderAll requests).1.map (·.outcome)) := by
  induction requests generalizing s with
  | nil => exact .nil
  | cons p ps ih =>
    have hp := s.outcome_render h p ▸ s.outcomeFrom_of_le (p := p) (Pool.le_acquire (p := s.pool))
    have hps := ih (s.render p).2 (s.settings_render p ▸ h)
    rw [outcomeFrom_now_congr (s.settings_render p) (s.backend_render p)] at hps
    exact .cons hp hps

/-- If there is a permit for each request, none of them waits. -/
theorem outcomes_renderAll_of_available (h : s.settings.limits.refuses = false)
    (requests : List Parameters)
    (hfree : requests.countP (s.settings.render.Admits ·) ≤ s.pool.available s.now) :
    (s.renderAll requests).1.map (·.outcome) = requests.map (s.outcomeFrom s.now) := by
  induction requests generalizing s with
  | nil => rfl
  | cons p ps ih =>
    rw [List.countP_cons] at hfree
    have hp : (s.render p).1.outcome = s.outcomeFrom s.now p := by
      refine s.outcome_render_of_available h fun hp => ?_
      rw [if_pos (decide_eq_true hp)] at hfree
      exact Nat.lt_of_lt_of_le (Nat.succ_pos _) hfree
    have hpermits : ps.countP (s.settings.render.Admits ·) ≤
        (s.render p).2.pool.available s.now := by
      have htaken := s.available_le_render p
      simp only [decide_eq_true_eq] at hfree
      omega
    have hps := ih (s.render p).2 (s.settings_render p ▸ h) (by
      rwa [settings_render, now_render])
    rw [outcomeFrom_now_congr (s.settings_render p) (s.backend_render p)] at hps
    exact congrArg₂ List.cons hp hps

/-- There are as many permits as there were at the start. -/
@[simp] theorem size_after (a : Action) : (s.after a).pool.size = s.pool.size := by
  rcases s.exists_after_eq a with ⟨p, d, -, hs⟩ | ⟨-, backend, counters, d, hs⟩
  · rw [hs, wait, size_render]
  · rw [hs]

@[simp] theorem size_afterAll (as : List Action) : (s.afterAll as).pool.size = s.pool.size := by
  induction as generalizing s with
  | nil => rfl
  | cons a as ih => rw [afterAll_cons, ih, size_after]

/-- If a service refuses nothing, of requests that start together each one ends as it does alone in a
new service with the same store, or it is timed out. If all permits are free, and there are at least
as many as requests that pass the check, each one ends as it does alone. -/
theorem outcomes_serve (settings : Settings) (backend : Backend)
    (h : settings.limits.refuses = false) (history : List Action) (requests : List Parameters) :
    let s := (launch settings backend).afterAll history
    let alone := fun p => ((launch settings s.backend).serveOne p).1
    List.Forall₂ (fun p outcome => outcome = alone p ∨ outcome = .timedOut) requests
        (s.serve requests).1 ∧
      ((∀ b ∈ s.pool.busy, b ≤ s.now) →
        requests.countP (settings.render.Admits ·) ≤ max 1 settings.render.maxConcurrent →
        (s.serve requests).1 = requests.map alone) := by
  intro s alone
  have hs : s.settings = settings := settings_afterAll _ history
  have hrefuses : s.settings.limits.refuses = false := hs ▸ h
  have halone : alone = s.outcomeFrom s.now :=
    (funext (outcome_serveOne_launch h s.backend)).trans (outcomeFrom_now_congr hs.symm rfl)
  rw [halone]
  refine ⟨s.outcomes_renderAll hrefuses requests, fun hidle hadmitted => ?_⟩
  refine s.outcomes_renderAll_of_available hrefuses requests ?_
  have hsize : s.pool.size = max settings.render.maxConcurrent 1 := size_afterAll _ history
  rw [Pool.available_of_idle hidle, hsize, hs, Nat.max_comm]
  exact hadmitted

/-! ## Two requests for one permit -/

/-- Requests have ten milliseconds. -/
def hasty (workers : Nat) : Settings :=
  { Settings.standard with render := { Settings.standard.render with
      requestTimeout := .ofMillis 10, maxConcurrent := workers } }

/-- A store without data that takes six milliseconds for an answer. -/
def slowly : Backend := .readOnly fun _ _ _ _ => ⟨.ofMillis 6, .ok []⟩

/-- Of two requests that start together, the second one is timed out if there is one permit. With two
permits both are completed, as they are alone. -/
theorem outcomes_serve_twoProbes :
    let alone := fun workers p => ((launch (hasty workers) slowly).serveOne p).1
    let together := fun workers => ((launch (hasty workers) slowly).serve [probe, probe]).1
    List.Forall₂ (fun p outcome => outcome = alone 1 p ∨ outcome = .timedOut) [probe, probe]
        (together 1) ∧
      (together 1)[1]? = some .timedOut ∧
      together 2 = [alone 2 probe, alone 2 probe] ∧
      ∃ response, alone 2 probe = .completed response := by
  intro alone together
  have hcheck : ∀ workers, (hasty workers).render.check probe = .ok [.selector "a"] :=
    fun _ => check_probe
  obtain ⟨hone, -⟩ := outcomes_serve (hasty 1) slowly rfl [] [probe, probe]
  obtain ⟨-, htwo⟩ := outcomes_serve (hasty 2) slowly rfl [] [probe, probe]
  refine ⟨hone, ?_, htwo (List.forall_mem_nil _) List.countP_le_length, ?_⟩
  · have hpool : ((launch (hasty 1) slowly).render probe).2.pool = ⟨1, [.ofMillis 6]⟩ := by
      rw [render_of_not_refuses (launch (hasty 1) slowly) rfl (hcheck 1), pool_work]
      rfl
    have hsettings : ((launch (hasty 1) slowly).render probe).2.settings = hasty 1 :=
      settings_render _ probe
    have hsecond := outcome_render ((launch (hasty 1) slowly).render probe).2
      (by rw [hsettings]; rfl) probe
    rw [outcomeFrom_of_check _ (by rw [hsettings]; exact hcheck 1), evaluation, hsettings,
      now_render, hpool, backend_render] at hsecond
    exact congrArg some hsecond
  · have halone : alone 2 probe = (launch (hasty 2) slowly).outcomeFrom 0 probe :=
      outcome_serveOne_launch rfl slowly probe
    rw [outcomeFrom_of_check (launch (hasty 2) slowly) (hcheck 2)] at halone
    exact ⟨_, halone⟩

end Service

end SeriesRender
