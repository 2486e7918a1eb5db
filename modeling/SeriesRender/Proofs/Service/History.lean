import SeriesRender.Proofs.Basic
import SeriesRender.Service.Routes

/-!
# Histories of a service

An `Action` is what can happen to a service : time passes, a render request starts, a request is
answered over HTTP, the counters are handed out. `Service.afterAll` is the service after a history
of actions. Requests that start together are the history of their starts and of the time until the
last of them has ended (`exists_serve_eq`).

An action leaves the settings as they are and never turns back the clock. `pacer_after` says what it
does to the pacer : a slot is taken for the render request that it makes, if that passes the check.
-/

namespace SeriesRender

/-- What can happen to a service. -/
inductive Action
  | wait (d : Duration)
  | start (p : Parameters)
  | answer (r : HttpRequest)
  | drain

/-- What the request asks to be rendered, if it is such a request and can be read. -/
def HttpRequest.rendering? (r : HttpRequest) : Option Parameters :=
  if Route.ofPath? r.path = some .render ∧ r.method ∈ Route.render.methods then
    (Parameters.read r.query r.body r.tenant? r.time).toOption
  else none

/-- The render request that the action is about. -/
def Action.rendering? : Action → Option Parameters
  | start p => some p
  | answer r => r.rendering?
  | _ => none

/-- The request passes every check that is made before a slot is taken. -/
def RenderSettings.Admits (s : RenderSettings) (p : Parameters) : Prop :=
  ∃ targets, s.check p = .ok targets

instance (s : RenderSettings) (p : Parameters) : Decidable (s.Admits p) :=
  match h : s.check p with
  | .ok targets => .isTrue ⟨targets, h⟩
  | .error _ => .isFalse fun ⟨_, hc⟩ => by cases h.symm.trans hc

/-- A request passes its checks with the targets that have been parsed. -/
theorem RenderSettings.check_eq_ok_iff {s : RenderSettings} {p : Parameters}
    {targets : List Target.Expr} :
    s.check p = .ok targets ↔ p.checkRange s.maxRange.wholeSeconds = .ok () ∧
      p.targets.mapM (Target.parse s.maxDepth) = .ok targets ∧
        validateAll .standard targets = .ok () := by
  unfold check
  constructor
  · intro h
    obtain ⟨_, hrange, h⟩ := bind_eq_ok_iff.1 h
    obtain ⟨ts, hts, h⟩ := bind_eq_ok_iff.1 h
    obtain ⟨_, hvalid, h⟩ := bind_eq_ok_iff.1 h
    obtain rfl := Except.ok.inj h
    exact ⟨mapError_eq_ok_iff.1 hrange, mapError_eq_ok_iff.1 hts, mapError_eq_ok_iff.1 hvalid⟩
  · rintro ⟨hrange, hts, hvalid⟩
    refine bind_eq_ok_iff.2 ⟨(), mapError_eq_ok_iff.2 hrange, ?_⟩
    refine bind_eq_ok_iff.2 ⟨targets, mapError_eq_ok_iff.2 hts, ?_⟩
    exact bind_eq_ok_iff.2 ⟨(), mapError_eq_ok_iff.2 hvalid, rfl⟩

namespace Service

/-- The service after an action. -/
def after (s : Service) : Action → Service
  | .wait d => s.wait d
  | .start p => (s.render p).2
  | .answer r => (s.answer r).2.2
  | .drain => s.drainCounters.2

/-- The service after a history. -/
def afterAll (s : Service) (actions : List Action) : Service :=
  actions.foldl after s

@[simp] theorem afterAll_nil (s : Service) : s.afterAll [] = s := rfl

@[simp] theorem afterAll_cons (s : Service) (a : Action) (as : List Action) :
    s.afterAll (a :: as) = (s.after a).afterAll as := rfl

theorem afterAll_append (s : Service) (as bs : List Action) :
    s.afterAll (as ++ bs) = (s.afterAll as).afterAll bs :=
  List.foldl_append

/-! ## What an action does -/

variable (s : Service)

/-- An evaluation only takes a permit and may count a timeout. -/
theorem exists_work_eq (p : Parameters) (evaluation : Trace Response) :
    ∃ pool counters, (s.work p evaluation).2 = { s with pool, counters } := by
  unfold work
  dsimp only
  rcases s.pool.assign s.now (s.now + s.settings.render.requestTimeout) evaluation.duration with
    ⟨started, pool⟩
  dsimp only
  split
  · exact ⟨pool, s.counters, rfl⟩
  · exact ⟨pool, s.counters.countTimeout p.tenant, rfl⟩

/-- A request that is not admitted changes nothing. -/
theorem render_of_not_admits {p : Parameters} (h : ¬s.settings.render.Admits p) :
    (s.render p).2 = s := by
  unfold render
  cases hc : s.settings.render.check p with
  | error e => rfl
  | ok targets => exact absurd ⟨targets, hc⟩ h

/-- A request that passes the check is refused if it has to wait, or is left to a worker. -/
theorem render_of_check {p : Parameters} {targets : List Target.Expr}
    (hc : s.settings.render.check p = .ok targets) : s.render p =
      if 0 < (s.accept p.tenant).1 ∧ s.settings.limits.refuses = true then
        (⟨.throttled ((Duration.ofSeconds? (s.accept p.tenant).1.seconds).getD
          (s.accept p.tenant).1), s.now, []⟩, (s.accept p.tenant).2)
      else (s.accept p.tenant).2.work p (s.evaluation p targets) := by
  rw [render, hc]
  rfl

/-- A request that passes the check takes its tenant's next slot, however it ends. -/
theorem exists_render_eq {p : Parameters} (h : s.settings.render.Admits p) :
    ∃ pool counters, (s.render p).2 = { s with
      pacer := (s.pacer.reserve s.settings.limits s.now p.tenant).2, pool, counters } := by
  obtain ⟨targets, hc⟩ := h
  rw [s.render_of_check hc]
  split
  · exact ⟨_, _, rfl⟩
  · obtain ⟨pool, counters, hw⟩ := exists_work_eq (s.accept p.tenant).2 p (s.evaluation p targets)
    exact ⟨pool, counters, hw⟩

theorem now_render (p : Parameters) : (s.render p).2.now = s.now := by
  by_cases h : s.settings.render.Admits p
  · obtain ⟨pool, counters, hs⟩ := s.exists_render_eq h
    rw [hs]
  · rw [s.render_of_not_admits h]

/-- Until the last run has ended is a wait. -/
theorem exists_latest_eq (now : Duration) (runs : List Run) :
    ∃ d, runs.foldl (fun latest run => max latest run.ended) now = now + d := by
  induction runs generalizing now with
  | nil => exact ⟨0, rfl⟩
  | cons run runs ih =>
    obtain ⟨d, hd⟩ := ih (max now run.ended)
    refine ⟨max now run.ended - now + d, ?_⟩
    rw [List.foldl_cons, hd]
    grind

/-- Taking in a batch is starting its requests in turn. -/
theorem renderAll_eq (requests : List Parameters) :
    (s.renderAll requests).2 = s.afterAll (requests.map .start) := by
  induction requests generalizing s with
  | nil => rfl
  | cons p ps ih => exact ih (s.render p).2

theorem now_renderAll (requests : List Parameters) : (s.renderAll requests).2.now = s.now := by
  induction requests generalizing s with
  | nil => rfl
  | cons p ps ih => exact (ih (s.render p).2).trans (s.now_render p)

/-- Serving a request is taking it in and waiting for it. -/
theorem exists_serveOne_eq (p : Parameters) :
    ∃ d, (s.serveOne p).2.2 = (s.render p).2.wait d := by
  obtain ⟨d, hd⟩ := exists_latest_eq (s.render p).2.now [(s.render p).1]
  refine ⟨d, ?_⟩
  rw [wait, ← hd]
  rfl

/-- Serving a batch is starting its requests in turn, and then waiting. -/
theorem exists_serve_eq (requests : List Parameters) :
    ∃ d, (s.serve requests).2.2 = s.afterAll (requests.map .start ++ [.wait d]) := by
  obtain ⟨d, hd⟩ := exists_latest_eq (s.renderAll requests).2.now (s.renderAll requests).1
  refine ⟨d, ?_⟩
  rw [afterAll_append, ← renderAll_eq, afterAll_cons, afterAll_nil, after, wait, ← hd]
  rfl

/-- On a route with its method, a request is answered by the route. -/
theorem answer_of_route {r : HttpRequest} {route : Route} (hr : Route.ofPath? r.path = some route)
    (hm : r.method ∈ route.methods) : (s.answer r).2 = (s.answerOn r route).2 := by
  rw [answer, hr]
  dsimp only
  rw [if_pos hm]

/-- A request for series is served as one. -/
theorem answer_of_rendering {r : HttpRequest} {p : Parameters} (h : r.rendering? = some p) :
    (s.answer r).2.2 = (s.serveOne p).2.2 := by
  unfold HttpRequest.rendering? at h
  split at h
  · next hr =>
    rw [s.answer_of_route hr.1 hr.2, answerOn, answerRender]
    cases hp : Parameters.read r.query r.body r.tenant? r.time with
    | error fault =>
      rw [hp] at h
      cases h
    | ok q =>
      rw [hp] at h
      cases h
      rfl
  · cases h

theorem exists_answerMetrics_eq (r : HttpRequest) :
    ∃ backend, (s.answerMetrics r).2 = { s with backend } := by
  unfold answerMetrics
  split
  · exact ⟨s.backend, rfl⟩
  · split
    · exact ⟨s.backend, rfl⟩
    · exact ⟨_, rfl⟩

theorem answerOn_metrics (r : HttpRequest) :
    s.answerOn r .metrics = ((s.answerMetrics r).1, [], (s.answerMetrics r).2) := by
  rw [answerOn]

/-- Any other request brings points, or leaves the service as it is. -/
theorem answer_of_not_rendering {r : HttpRequest} (h : r.rendering? = none) :
    (s.answer r).2.2 = s ∨ (s.answer r).2.2 = (s.answerMetrics r).2 := by
  cases hr : Route.ofPath? r.path with
  | none =>
    rw [answer, hr]
    exact Or.inl rfl
  | some route =>
    by_cases hm : r.method ∈ route.methods
    · rw [s.answer_of_route hr hm]
      cases route with
      | render =>
        rw [HttpRequest.rendering?, if_pos ⟨hr, hm⟩] at h
        rw [answerOn, answerRender]
        cases hp : Parameters.read r.query r.body r.tenant? r.time with
        | error fault => exact Or.inl rfl
        | ok p =>
          rw [hp] at h
          cases h
      | metrics =>
        rw [s.answerOn_metrics]
        dsimp only
        exact Or.inr rfl
      | health => exact Or.inl rfl
    · rw [answer, hr]
      dsimp only
      rw [if_neg hm]
      exact Or.inl rfl

/-- It may change what is stored, and nothing else. -/
theorem exists_answer_eq {r : HttpRequest} (h : r.rendering? = none) :
    ∃ backend, (s.answer r).2.2 = { s with backend } := by
  rcases s.answer_of_not_rendering h with hs | hs
  · rw [hs]
    exact ⟨s.backend, rfl⟩
  · rw [hs]
    exact s.exists_answerMetrics_eq r

/-- An action is a render request, followed by some time, or it leaves the settings and the pacer as
they are. -/
theorem exists_after_eq (a : Action) :
    (∃ p d, a.rendering? = some p ∧ s.after a = (s.render p).2.wait d) ∨
    a.rendering? = none ∧ ∃ backend counters d,
      s.after a = { s with backend, counters, now := s.now + d } := by
  cases a with
  | wait d => exact Or.inr ⟨rfl, s.backend, s.counters, d, rfl⟩
  | start p => exact Or.inl ⟨p, 0, rfl, rfl⟩
  | answer r =>
    cases hr : r.rendering? with
    | some p =>
      obtain ⟨d, hd⟩ := s.exists_serveOne_eq p
      exact Or.inl ⟨p, d, hr, (s.answer_of_rendering hr).trans hd⟩
    | none =>
      obtain ⟨backend, hb⟩ := s.exists_answer_eq hr
      exact Or.inr ⟨hr, backend, s.counters, 0, hb⟩
  | drain => exact Or.inr ⟨rfl, s.backend, _, 0, rfl⟩

/-! ## Slots taken in a history -/

@[simp] theorem settings_render (p : Parameters) : (s.render p).2.settings = s.settings := by
  by_cases h : s.settings.render.Admits p
  · obtain ⟨pool, counters, hs⟩ := s.exists_render_eq h
    rw [hs]
  · rw [s.render_of_not_admits h]

@[simp] theorem settings_after (a : Action) : (s.after a).settings = s.settings := by
  rcases s.exists_after_eq a with ⟨p, d, -, hs⟩ | ⟨-, backend, counters, d, hs⟩
  · rw [hs, wait, settings_render]
  · rw [hs]

theorem now_le_after (a : Action) : s.now ≤ (s.after a).now := by
  rcases s.exists_after_eq a with ⟨p, d, -, hs⟩ | ⟨-, backend, counters, d, hs⟩
  · rw [hs, wait, now_render]
    exact Nat.le_add_right _ _
  · rw [hs]
    exact Nat.le_add_right _ _

@[simp] theorem settings_afterAll (as : List Action) : (s.afterAll as).settings = s.settings := by
  induction as generalizing s with
  | nil => rfl
  | cons a as ih => rw [afterAll_cons, ih, settings_after]

theorem settings_renderAll (requests : List Parameters) :
    (s.renderAll requests).2.settings = s.settings := by
  rw [renderAll_eq, settings_afterAll]

theorem now_le_afterAll (as : List Action) : s.now ≤ (s.afterAll as).now := by
  induction as generalizing s with
  | nil => exact Nat.le_refl _
  | cons a as ih => exact Nat.le_trans (s.now_le_after a) (ih (s.after a))

/-- The service takes a slot for the render request that the action makes, if that passes the
check, and none otherwise. -/
theorem pacer_after (a : Action) :
    (∃ p, a.rendering? = some p ∧ s.settings.render.Admits p ∧
      (s.after a).pacer = (s.pacer.reserve s.settings.limits s.now p.tenant).2) ∨
    (∀ p, a.rendering? = some p → ¬s.settings.render.Admits p) ∧ (s.after a).pacer = s.pacer := by
  rcases s.exists_after_eq a with ⟨p, d, ha, hs⟩ | ⟨ha, backend, counters, d, hs⟩
  · by_cases h : s.settings.render.Admits p
    · obtain ⟨pool, counters, hr⟩ := s.exists_render_eq h
      exact Or.inl ⟨p, ha, h, by rw [hs, hr, wait]⟩
    · refine Or.inr ⟨fun q hq => ?_, by rw [hs, s.render_of_not_admits h, wait]⟩
      rwa [← Option.some.inj (ha.symm.trans hq)]
  · exact Or.inr ⟨fun p hp => (by simp [ha] at hp), by rw [hs]⟩

end Service

end SeriesRender
